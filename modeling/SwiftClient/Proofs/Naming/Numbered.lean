import Mathlib.Data.Finset.Card
import Mathlib.Order.Interval.Finset.Nat
import SwiftClient.Naming.Unique
import SwiftClient.Proofs.Naming.Words

/-!
# Numbered names

A number written after a name also stands at the end of its identifier. So names with different
numbers have different identifiers, and a finite scope leaves one of them free.
-/
namespace SwiftClient.Naming
open Text

lemma forall_digit {p : Char → Bool} (h : ∀ n < 58, 48 ≤ n → p (Char.ofNat n)) {c : Char}
    (hc : c.isDigit) : p c := by
  obtain ⟨hlow, hhigh⟩ := Char.isDigit_iff_toNat.mp hc
  have hp := h c.toNat (Nat.lt_succ_of_le hhigh) hlow
  rwa [Char.ofNat_toNat] at hp

lemma isAlphanumeric_digit {c : Char} (h : c.isDigit) : isAlphanumeric c :=
  forall_digit (by decide) h

lemma isUppercase_digit {c : Char} (h : c.isDigit) : isUppercase c = false := by
  simpa using forall_digit (p := fun c => !isUppercase c) (by decide) h

lemma isLowercase_digit {c : Char} (h : c.isDigit) : isLowercase c = false := by
  simpa using forall_digit (p := fun c => !isLowercase c) (by decide) h

lemma isCased_digit {c : Char} (h : c.isDigit) : isCased c = false := by
  simpa using forall_digit (p := fun c => !isCased c) (by decide) h

lemma isCaseIgnorable_digit {c : Char} (h : c.isDigit) : isCaseIgnorable c = false := by
  simpa using forall_digit (p := fun c => !isCaseIgnorable c) (by decide) h

lemma upperOf_digit {c : Char} (h : c.isDigit) : upperOf c = [c] := by
  simpa using forall_digit (p := fun c => upperOf c == [c]) (by decide) h

lemma lowerOf_digit {c : Char} (h : c.isDigit) : lowerOf c = [c] := by
  simpa using forall_digit (p := fun c => lowerOf c == [c]) (by decide) h

lemma ne_sigma_of_digit {c : Char} (h : c.isDigit) : c ≠ 'Σ' := by
  rintro rfl
  revert h
  decide

def IsRun (ds : List Char) : Prop := ∀ d ∈ ds, d.isDigit

lemma IsRun.head {d : Char} {ds : List Char} (h : IsRun (d :: ds)) : d.isDigit :=
  h d List.mem_cons_self

lemma IsRun.tail {d : Char} {ds : List Char} (h : IsRun (d :: ds)) : IsRun ds :=
  fun e he => h e (List.mem_cons_of_mem d he)

lemma splitWords_cons_digit {c d : Char} (hc : isAlphanumeric c) (hd : d.isDigit)
    (rest : List Char) :
    splitWords (c :: d :: rest) = extendFirst c (splitWords (d :: rest)) := by
  simp [splitWords_cons_cons hc, isAlphanumeric_digit hd, breaksBetween, isUppercase_digit hd]

lemma splitWords_run {d : Char} {ds : List Char} (h : IsRun (d :: ds)) :
    splitWords (d :: ds) = [d :: ds] := by
  induction ds generalizing d with
  | nil => simp [splitWords, isAlphanumeric_digit h.head]
  | cons e ds ih =>
    rw [splitWords_cons_digit (isAlphanumeric_digit h.head) h.tail.head, ih h.tail, extendFirst]

/-- A run at the end of a name belongs to its last word, or is a word by itself. -/
lemma splitWords_append_run (cs : List Char) {d : Char} {ds : List Char} (h : IsRun (d :: ds)) :
    (∃ ws w, splitWords cs = ws ++ [w] ∧ splitWords (cs ++ d :: ds) = ws ++ [w ++ d :: ds]) ∨
      splitWords (cs ++ d :: ds) = splitWords cs ++ [d :: ds] := by
  induction cs with
  | nil => exact Or.inr (splitWords_run h)
  | cons c rest ih =>
    by_cases hc : isAlphanumeric c
    · cases rest with
      | nil =>
        refine Or.inl ⟨[], [c], by simp [splitWords, hc], ?_⟩
        simp [splitWords_cons_digit hc h.head, splitWords_run h, extendFirst]
      | cons e rest =>
        simp only [List.cons_append] at ih ⊢
        by_cases hb : !isAlphanumeric e || breaksBetween c e
        · rw [splitWords_cons_cons hc, splitWords_cons_cons hc, if_pos hb, if_pos hb]
          rcases ih with ⟨ws, w, hws, hrun⟩ | hrun
          · exact Or.inl ⟨[c] :: ws, w, by simp [hws], by simp [hrun]⟩
          · exact Or.inr (by simp [hrun])
        · rw [splitWords_cons_cons hc, splitWords_cons_cons hc, if_neg hb, if_neg hb]
          rcases ih with ⟨ws, w, hws, hrun⟩ | hrun
          · cases ws with
            | nil =>
              exact Or.inl ⟨[], c :: w, by simp [hws, extendFirst], by simp [hrun, extendFirst]⟩
            | cons v ws =>
              exact Or.inl
                ⟨(c :: v) :: ws, w, by simp [hws, extendFirst], by simp [hrun, extendFirst]⟩
          · cases hw : splitWords (e :: rest) with
            | nil => exact Or.inl ⟨[], [c], by simp [extendFirst], by simp [hrun, hw, extendFirst]⟩
            | cons v ws => exact Or.inr (by simp [hrun, hw, extendFirst])
    · simpa [splitWords, hc] using ih

lemma meetsCased_append_run (cs : List Char) {ds : List Char} (h : IsRun ds) :
    meetsCased (cs ++ ds) = meetsCased cs := by
  induction cs with
  | nil =>
    cases ds with
    | nil => rfl
    | cons d ds => simp [meetsCased, isCaseIgnorable_digit h.head, isCased_digit h.head]
  | cons c cs ih =>
    by_cases hc : isCaseIgnorable c
    · simpa [meetsCased, hc] using ih
    · simp [meetsCased, hc]

lemma lowerAfter_run (before : List Char) {ds : List Char} (h : IsRun ds) :
    lowerAfter before ds = ds := by
  induction ds generalizing before with
  | nil => rfl
  | cons d ds ih =>
    simp [lowerAfter, ne_sigma_of_digit h.head, lowerOf_digit h.head, ih _ h.tail]

lemma lowerAfter_append_run (before cs : List Char) {ds : List Char} (h : IsRun ds) :
    lowerAfter before (cs ++ ds) = lowerAfter before cs ++ ds := by
  induction cs generalizing before with
  | nil => simpa [lowerAfter] using lowerAfter_run before h
  | cons c cs ih => simp [lowerAfter, meetsCased_append_run cs h, ih]

lemma upperFirst_append_run (w : List Char) {ds : List Char} (h : IsRun ds) :
    upperFirst (w ++ ds) = upperFirst w ++ ds := by
  cases w with
  | nil =>
    cases ds with
    | nil => rfl
    | cons d ds => simp [upperFirst, upperOf_digit h.head]
  | cons c w => simp [upperFirst]

lemma lowerFirst_cons {c : Char} {w : List Char} (h : ¬(c :: w).all fun c => !isLowercase c) :
    lowerFirst (c :: w) = lowerOf c ++ w := by
  unfold lowerFirst
  rw [if_neg h]

lemma lowerFirst_append_run (w : List Char) {ds : List Char} (h : IsRun ds) :
    lowerFirst (w ++ ds) = lowerFirst w ++ ds := by
  have hds : ds.all (fun c => !isLowercase c) := by
    simp only [List.all_eq_true, Bool.not_eq_true']
    exact fun d hd => isLowercase_digit (h d hd)
  by_cases hw : w.all (fun c => !isLowercase c)
  · simp only [lowerFirst, List.all_append, hw, hds, Bool.and_true, if_true]
    exact lowerAfter_append_run [] w h
  · cases w with
    | nil => simp at hw
    | cons c w =>
      have hwds : ¬((c :: w) ++ ds).all (fun c => !isLowercase c) := by
        rwa [List.all_append, hds, Bool.and_true]
      rw [lowerFirst_cons hw, List.append_assoc]
      exact lowerFirst_cons hwds

/-- The identifier that words make, before it is escaped. -/
def joinedWords : List (List Char) → List Char
  | [] => []
  | w :: ws => lowerFirst w ++ ws.flatMap upperFirst

lemma identifierChars_eq (cs : List Char) :
    identifierChars cs = escaped (joinedWords (splitWords cs)) := by
  unfold identifierChars
  cases splitWords cs <;> rfl

lemma joinedWords_extend (ws : List (List Char)) (w : List Char) {ds : List Char} (h : IsRun ds) :
    joinedWords (ws ++ [w ++ ds]) = joinedWords (ws ++ [w]) ++ ds := by
  cases ws with
  | nil => simp [joinedWords, lowerFirst_append_run w h]
  | cons v ws => simp [joinedWords, upperFirst_append_run w h]

lemma joinedWords_run (ws : List (List Char)) {ds : List Char} (h : IsRun ds) :
    joinedWords (ws ++ [ds]) = joinedWords ws ++ ds := by
  cases ws with
  | nil => simpa [joinedWords, lowerFirst, lowerAfter] using lowerFirst_append_run [] h
  | cons v ws => simpa [joinedWords, upperFirst] using upperFirst_append_run [] h

theorem identifierChars_append_run (cs : List Char) {ds : List Char} (h : IsRun ds) :
    identifierChars (cs ++ ds) = escaped (joinedWords (splitWords cs) ++ ds) := by
  rw [identifierChars_eq]
  cases ds with
  | nil => simp
  | cons d ds =>
    rcases splitWords_append_run cs h with ⟨ws, w, hws, hrun⟩ | hrun
    · rw [hrun, hws, joinedWords_extend ws w h]
    · rw [hrun, joinedWords_run _ h]

lemma escaped_run {ds : List Char} (h : IsRun ds) : escaped ds = '_' :: ds := by
  cases ds with
  | nil => rfl
  | cons d ds => simp [escaped, startsWithDigit, h.head]

lemma backticked_ne_append_run (x : List Char) {ds es : List Char} (he : IsRun es) :
    '\x60' :: (x ++ ds) ++ ['\x60'] ≠ x ++ es := by
  intro heq
  rcases List.eq_nil_or_concat' es with rfl | ⟨es, e, rfl⟩
  · have hlen := congrArg List.length heq
    simp only [List.length_append, List.length_cons, List.length_nil] at hlen
    omega
  · have hlast := congrArg List.getLast? heq
    rw [← List.append_assoc, List.getLast?_concat, List.getLast?_concat] at hlast
    have hdigit := he e (by simp)
    simp only [Option.some.injEq] at hlast
    rw [← hlast] at hdigit
    revert hdigit
    decide

theorem escaped_append_run_inj (x : List Char) {ds es : List Char} (hd : IsRun ds) (he : IsRun es)
    (h : escaped (x ++ ds) = escaped (x ++ es)) : ds = es := by
  cases x with
  | nil => simpa [escaped_run hd, escaped_run he] using h
  | cons c x =>
    by_cases hc : c.isDigit
    · simpa [escaped, startsWithDigit, hc] using h
    · simp only [escaped, List.cons_append, List.isEmpty_cons, Bool.false_eq_true, if_false,
        startsWithDigit, hc] at h
      split_ifs at h
      · simpa using h
      · exact (backticked_ne_append_run (c :: x) he h).elim
      · exact (backticked_ne_append_run (c :: x) hd h.symm).elim
      · simpa using h

end SwiftClient.Naming
