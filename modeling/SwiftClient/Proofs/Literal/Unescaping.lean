import Mathlib.Algebra.Ring.Parity
import SwiftClient.Proofs.Literal.Escaping

/-!
# Escapes of texts

Escaping goes over a text once for each character that it replaces, and no pass touches what an
earlier one has put in. So each character is escaped by itself, and every text can be read back from
its escape.
-/
namespace SwiftClient.Literal

open CodeReader (needsEscape)

def escapeOf : Char → List Char
  | '\\' => ['\\', '\\']
  | '"' => ['\\', '"']
  | '\r' => ['\\', 'r']
  | '\n' => ['\\', 'n']
  | c => [c]

/-- The text that escapes are read back to. A backslash has to begin an escape. -/
def unescapeChars? : List Char → Option (List Char)
  | [] => some []
  | '\\' :: [] => none
  | '\\' :: c :: rest => do
    let d ← CodeReader.unescape? c
    let text ← unescapeChars? rest
    return d :: text
  | c :: rest => do
    let text ← unescapeChars? rest
    return c :: text

def unescape? (s : String) : Option String := (unescapeChars? s.toList).map String.ofList

def backslashesAtEnd (cs : List Char) : ℕ := (cs.reverse.takeWhile (· = '\\')).length

variable {c : Char} {cs before after : List Char}

lemma ne_backslash (h : ¬needsEscape c) : c ≠ '\\' := by
  rintro rfl
  exact h rfl

lemma escapeOf_of_not_needsEscape (h : ¬needsEscape c) : escapeOf c = [c] := by
  simp only [needsEscape, Bool.or_eq_true, decide_eq_true_eq, not_or] at h
  obtain ⟨⟨⟨hquote, hbackslash⟩, hfeed⟩, hreturn⟩ := h
  unfold escapeOf
  split
  · exact absurd rfl hbackslash
  · exact absurd rfl hquote
  · exact absurd rfl hreturn
  · exact absurd rfl hfeed
  · rfl

lemma escapeOf_cases (c : Char) : ¬needsEscape c ∧ escapeOf c = [c] ∨
    ∃ d, escapeOf c = ['\\', d] ∧ CodeReader.unescape? d = some c := by
  by_cases h : needsEscape c
  · refine Or.inr ?_
    simp only [needsEscape, Bool.or_eq_true, decide_eq_true_eq] at h
    rcases h with ((rfl | rfl) | rfl) | rfl
    all_goals exact ⟨_, rfl, rfl⟩
  · exact Or.inl ⟨h, escapeOf_of_not_needsEscape h⟩

lemma escapeChars_singleton (c : Char) : escapeChars [c] = escapeOf c := by
  by_cases h : needsEscape c
  · simp only [needsEscape, Bool.or_eq_true, decide_eq_true_eq] at h
    rcases h with ((rfl | rfl) | rfl) | rfl
    all_goals rfl
  · rw [escapeChars_of_not_needsEscape h, escapeOf_of_not_needsEscape h]

/-- The passes over a text come to one pass that escapes each character by itself. -/
theorem escapeChars_eq_flatMap (cs : List Char) : escapeChars cs = cs.flatMap escapeOf := by
  induction cs with
  | nil => rfl
  | cons c cs ih => rw [escapeChars_cons, escapeChars_singleton, ih, List.flatMap_cons]

lemma not_mem_flatMap_escapeOf (h : c = '\r' ∨ c = '\n') (cs : List Char) :
    c ∉ cs.flatMap escapeOf := by
  rw [List.mem_flatMap]
  rintro ⟨a, -, hmem⟩
  obtain ⟨ha, hescape⟩ | ⟨d, hescape, hd⟩ := escapeOf_cases a
  · rw [hescape, List.mem_singleton] at hmem
    subst hmem
    rcases h with rfl | rfl
    all_goals exact ha rfl
  · have hnone : CodeReader.unescape? c = none := by
      rcases h with rfl | rfl
      all_goals rfl
    rw [hescape, List.mem_pair] at hmem
    rcases hmem with rfl | rfl
    · cases hnone
    · rw [hd] at hnone
      cases hnone

theorem unescapeChars?_flatMap_escapeOf (cs : List Char) :
    unescapeChars? (cs.flatMap escapeOf) = some cs := by
  induction cs with
  | nil => rfl
  | cons c cs ih =>
    rw [List.flatMap_cons]
    obtain ⟨hc, hescape⟩ | ⟨d, hescape, hd⟩ := escapeOf_cases c
    · rw [hescape, List.singleton_append, unescapeChars?, ih]
      · rfl
      · exact fun h => absurd h (ne_backslash hc)
      · exact fun _ _ h => absurd h (ne_backslash hc)
    · rw [hescape, List.cons_append, List.singleton_append, unescapeChars?, hd, ih]
      rfl

/-- Backslashes at the end of a text are counted on into what stands before it if it has no other
characters. -/
lemma backslashesAtEnd_append (cs cs' : List Char) :
    ∃ n, (n = 0 ∨ n = backslashesAtEnd cs) ∧
      backslashesAtEnd (cs ++ cs') = n + backslashesAtEnd cs' := by
  simp only [backslashesAtEnd, List.reverse_append, List.takeWhile_append]
  split_ifs with h
  · exact ⟨_, Or.inr rfl, by rw [List.length_append, h, Nat.add_comm]⟩
  · exact ⟨0, Or.inl rfl, (Nat.zero_add _).symm⟩

lemma even_backslashesAtEnd_escapeOf (c : Char) : Even (backslashesAtEnd (escapeOf c)) := by
  obtain ⟨hc, hescape⟩ | ⟨d, hescape, -⟩ := escapeOf_cases c
  · simp [hescape, backslashesAtEnd, ne_backslash hc]
  · rw [hescape]
    by_cases hd : d = '\\'
    · simp [backslashesAtEnd, hd, even_two]
    · simp [backslashesAtEnd, hd]

/-- A quote has an odd number of backslashes before it: its own one, and pairs for backslashes of
the text. -/
theorem odd_backslashesAtEnd (h : cs.flatMap escapeOf = before ++ '"' :: after) :
    Odd (backslashesAtEnd before) := by
  induction cs generalizing before with
  | nil => simp at h
  | cons c cs ih =>
    have hlater {before' : List Char} (hbefore : before = escapeOf c ++ before')
        (hafter : cs.flatMap escapeOf = before' ++ '"' :: after) :
        Odd (backslashesAtEnd before) := by
      obtain ⟨n, hn, hcount⟩ := backslashesAtEnd_append (escapeOf c) before'
      have heven : Even n := by
        rcases hn with rfl | rfl
        · exact Even.zero
        · exact even_backslashesAtEnd_escapeOf c
      rw [hbefore, hcount]
      exact heven.add_odd (ih hafter)
    rw [List.flatMap_cons] at h
    obtain ⟨hc, hescape⟩ | ⟨d, hescape, hd⟩ := escapeOf_cases c
    · rw [hescape] at h hlater
      cases before with
      | nil =>
        obtain ⟨rfl, -⟩ := List.cons.inj h
        exact absurd rfl hc
      | cons a before =>
        obtain ⟨rfl, hafter⟩ := List.cons.inj h
        exact hlater rfl hafter
    · rw [hescape] at h hlater
      match before with
      | [] => cases h
      | [a] =>
        obtain ⟨rfl, -⟩ := List.cons.inj h
        exact odd_one
      | a :: b :: before =>
        obtain ⟨rfl, hrest⟩ := List.cons.inj h
        obtain ⟨rfl, hafter⟩ := List.cons.inj hrest
        exact hlater rfl hafter

theorem unescape?_escape (s : String) : unescape? (escape s) = some s := by
  rw [unescape?, escape, String.toList_ofList, escapeChars_eq_flatMap,
    unescapeChars?_flatMap_escapeOf, Option.map_some, String.ofList_toList]

/-- The escape of a text is that of its characters one after the other. No line ends in it, its
quotes have backslashes before them that do not belong to each other, and it is read back to the
text. So different texts have different escapes. -/
theorem escape_by_characters :
    (∀ s : String, (escape s).toList = s.toList.flatMap escapeOf ∧
      '\r' ∉ (escape s).toList ∧ '\n' ∉ (escape s).toList ∧
      (∀ before after, (escape s).toList = before ++ '"' :: after →
        Odd (backslashesAtEnd before)) ∧
      unescape? (escape s) = some s) ∧ Function.Injective escape := by
  refine ⟨fun s => ?_, fun s s' h => ?_⟩
  · have hchars : (escape s).toList = s.toList.flatMap escapeOf := by
      rw [escape, String.toList_ofList, escapeChars_eq_flatMap]
    refine ⟨hchars, ?_, ?_, fun before after h => ?_, unescape?_escape s⟩
    · rw [hchars]
      exact not_mem_flatMap_escapeOf (Or.inl rfl) _
    · rw [hchars]
      exact not_mem_flatMap_escapeOf (Or.inr rfl) _
    · exact odd_backslashesAtEnd (hchars ▸ h)
  · exact Option.some.inj ((unescape?_escape s).symm.trans ((congrArg unescape? h).trans
      (unescape?_escape s')))

/-- A backslash before a quote, which has three backslashes before it in the escape. -/
theorem escape_by_characters_quote :
    (escape "\\\"\n").toList = ['\\', '\\', '\\'] ++ '"' :: ['\\', 'n'] ∧
      Odd (backslashesAtEnd ['\\', '\\', '\\']) ∧
      unescape? (escape "\\\"\n") = some "\\\"\n" := by
  have hescape : (escape "\\\"\n").toList = ['\\', '\\', '\\'] ++ '"' :: ['\\', 'n'] := by
    decide
  obtain ⟨-, -, -, hodd, hread⟩ := escape_by_characters.1 "\\\"\n"
  exact ⟨hescape, hodd _ _ hescape, hread⟩

end SwiftClient.Literal
