import SwiftClient.Json.Basic

/-!
# Lexemes of a JSON text

A text is cut into brackets, separators, words, numerals and strings, up to the first place where
none of them stands. A numeral beyond every double and a string with half of a surrogate pair are
well formed, though they have no value.
-/
namespace SwiftClient.Json
open Decimal

inductive Lexeme where
  | openArray | closeArray | openObject | closeObject | comma | colon
  | null
  | bool (value : Bool)
  | number (value : Option Number)
  | string (value : Option String)
  | fault
  deriving DecidableEq, Repr

namespace Lexeme

def isSpace (c : Char) : Bool := c == ' ' || c == '\n' || c == '\t' || c == '\r'

def digitValue (c : Char) : Nat := c.toNat - '0'.toNat

def hexValue? (c : Char) : Option Nat :=
  if c.isDigit then some (digitValue c)
  else if 'a' ≤ c ∧ c ≤ 'f' then some (c.toNat - 'a'.toNat + 10)
  else if 'A' ≤ c ∧ c ≤ 'F' then some (c.toNat - 'A'.toNat + 10)
  else none

def hexUnit? (a b c d : Char) : Option Nat := do
  let a ← hexValue? a
  let b ← hexValue? b
  let c ← hexValue? c
  let d ← hexValue? d
  return ((a * 16 + b) * 16 + c) * 16 + d

/-- The character that a backslash and one more character stand for. -/
def unescape? : Char → Option Char
  | '"' => some '"'
  | '\\' => some '\\'
  | '/' => some '/'
  | 'b' => some '\x08'
  | 'f' => some '\x0c'
  | 'n' => some '\n'
  | 'r' => some '\r'
  | 't' => some '\t'
  | _ => none

/-- A piece of a string: a character, or a unit of sixteen bits given by number. -/
inductive Piece where
  | char (c : Char)
  | unit (n : Nat)
  deriving DecidableEq, Repr

/-- The pieces up to the closing quote and the number of characters through it. -/
def pieces : List Char → Option (List Piece × Nat)
  | [] => none
  | '"' :: _ => some ([], 1)
  | '\\' :: 'u' :: a :: b :: c :: d :: rest => do
    let n ← hexUnit? a b c d
    let (ps, length) ← pieces rest
    return (.unit n :: ps, length + 6)
  | '\\' :: e :: rest => do
    let c ← unescape? e
    let (ps, length) ← pieces rest
    return (.char c :: ps, length + 2)
  | c :: rest =>
    if c.toNat < 0x20 ∨ c = '\\' then none
    else do
      let (ps, length) ← pieces rest
      return (.char c :: ps, length + 1)

def isHighSurrogate (n : Nat) : Bool := 0xd800 ≤ n && n ≤ 0xdbff

def isLowSurrogate (n : Nat) : Bool := 0xdc00 ≤ n && n ≤ 0xdfff

/-- Joins surrogate pairs; none if a half stands alone. -/
def joined : List Piece → Option (List Char)
  | [] => some []
  | .char c :: rest => (joined rest).map (c :: ·)
  | .unit n :: rest =>
    if isLowSurrogate n then none
    else if isHighSurrogate n then
      match rest with
      | .unit low :: rest =>
        if isLowSurrogate low then
          (joined rest).map (Char.ofNat (0x10000 + (n - 0xd800) * 0x400 + (low - 0xdc00)) :: ·)
        else none
      | _ => none
    else (joined rest).map (Char.ofNat n :: ·)

def digitRun (cs : List Char) : List Nat × List Char :=
  ((cs.takeWhile Char.isDigit).map digitValue, cs.dropWhile Char.isDigit)

/-- The whole part of a numeral: digits that do not begin with a needless zero. -/
def wholePart (cs : List Char) : Option (List Nat × List Char) :=
  match digitRun cs with
  | ([], _) => none
  | (0 :: _ :: _, _) => none
  | run => some run

def fractionPart : List Char → Option (Option (List Nat) × List Char)
  | '.' :: cs =>
    match digitRun cs with
    | ([], _) => none
    | (digits, rest) => some (some digits, rest)
  | cs => some (none, cs)

def exponentDigits (negative : Bool) (cs : List Char) : Option (Option Int × List Char) :=
  match digitRun cs with
  | ([], _) => none
  | (digits, rest) =>
    let n : Nat := digits.foldl (fun n d => n * 10 + d) 0
    some (some (if negative then -n else n), rest)

/-- The letter e, a sign or none, and digits, if the letter comes. -/
def exponentPart : List Char → Option (Option Int × List Char)
  | e :: cs =>
    if e = 'e' ∨ e = 'E' then
      match cs with
      | '+' :: cs => exponentDigits false cs
      | '-' :: cs => exponentDigits true cs
      | cs => exponentDigits false cs
    else some (none, e :: cs)
  | [] => some (none, [])

def unsigned (negative : Bool) (cs : List Char) : Option (Numeral × List Char) := do
  let (whole, cs) ← wholePart cs
  let (fraction, cs) ← fractionPart cs
  let (exponent, cs) ← exponentPart cs
  return (⟨negative, whole, fraction, exponent⟩, cs)

/-- The numeral at the start of `cs` and how many characters it takes. -/
def numeral (cs : List Char) : Option (Numeral × Nat) :=
  let read := match cs with
    | '-' :: rest => unsigned true rest
    | cs => unsigned false cs
  read.map fun (n, rest) => (n, cs.length - rest.length)

/-- The lexeme that begins with `c`, and how many further characters belong to it. -/
def at? (c : Char) (cs : List Char) : Lexeme × Nat :=
  match c with
  | '[' => (.openArray, 0)
  | ']' => (.closeArray, 0)
  | '\x7b' => (.openObject, 0)
  | '\x7d' => (.closeObject, 0)
  | ',' => (.comma, 0)
  | ':' => (.colon, 0)
  | '"' =>
    match pieces cs with
    | some (ps, length) => (.string ((joined ps).map String.ofList), length)
    | none => (.fault, 0)
  | c =>
    if "null".toList.isPrefixOf (c :: cs) then (.null, 3)
    else if "true".toList.isPrefixOf (c :: cs) then (.bool true, 3)
    else if "false".toList.isPrefixOf (c :: cs) then (.bool false, 4)
    else
      match numeral (c :: cs) with
      | some (n, length) => (.number (Number.ofNumeral? n), length - 1)
      | none => (.fault, 0)

/-- The lexemes of a text of which the first `skip` characters are already read. -/
def scan : Nat → List Char → List Lexeme
  | _, [] => []
  | skip + 1, _ :: cs => scan skip cs
  | 0, c :: cs =>
    if isSpace c then scan 0 cs
    else
      match at? c cs with
      | (.fault, _) => [.fault]
      | (lexeme, more) => lexeme :: scan more cs

def ofText (text : String) : List Lexeme := scan 0 text.toList

end Lexeme

end SwiftClient.Json
