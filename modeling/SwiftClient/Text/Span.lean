/-!
# Spans of characters

A character class is a sorted list of spans, each running from its first to its last code point
in steps. Looking a character up stops at the first span that begins after it.
-/
namespace SwiftClient.Text

structure Span where
  first : Nat
  last : Nat
  step : Nat
  deriving DecidableEq, Repr

def Span.holds (s : Span) (c : Nat) : Bool :=
  s.first ≤ c && c ≤ s.last && (c - s.first) % s.step == 0

/-- Whether one of the sorted `spans` holds the code point. -/
def Span.coversCode : List Span → Nat → Bool
  | [], _ => false
  | s :: rest, c => if c < s.first then false else s.holds c || Span.coversCode rest c

def Span.covers (spans : List Span) (c : Char) : Bool :=
  Span.coversCode spans c.toNat

end SwiftClient.Text
