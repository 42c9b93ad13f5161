import SwiftClient.Naming.Basic
import SwiftClient.Proofs.Naming.Words

/-!
# Where words break

Two letters or digits of a name that stand side by side fall into one word unless the second is a
capital after a small letter or an ASCII digit. So each word is a word by itself, and names made of
words with separators between them fall into these words again.
-/
namespace SwiftClient.Naming

open Text

variable {c d : Char} {cs w : List Char} {ws : List (List Char)}

/-- The characters of words in order, each with the number of its word. The words are counted on
from `n`. -/
def lettersFrom (n : ℕ) : List (List Char) → List (Char × ℕ)
  | [] => []
  | w :: ws => w.map (·, n) ++ lettersFrom (n + 1) ws

def lettersOf (words : List String) : List (Char × ℕ) := lettersFrom 0 (words.map String.toList)

lemma lettersFrom_extendFirst (c : Char) (n : ℕ) (ws : List (List Char)) :
    lettersFrom n (extendFirst c ws) = (c, n) :: lettersFrom n ws := by
  cases ws with
  | nil => rfl
  | cons w ws => rfl

lemma lettersFrom_splitWords (hc : isAlphanumeric c) (d : Char) (rest : List Char) (n : ℕ) :
    lettersFrom n (splitWords (c :: d :: rest)) =
      (c, n) :: lettersFrom (if !isAlphanumeric d || breaksBetween c d then n + 1 else n)
        (splitWords (d :: rest)) := by
  rw [splitWords_cons_cons hc]
  split_ifs
  · rfl
  · exact lettersFrom_extendFirst c n _

lemma exists_lettersFrom (hc : isAlphanumeric c) (rest : List Char) (n : ℕ) :
    ∃ m, lettersFrom n (splitWords (c :: rest)) = (c, n) :: lettersFrom m (splitWords rest) := by
  cases rest with
  | nil => exact ⟨n, by simp [splitWords, hc, lettersFrom]⟩
  | cons d rest => exact ⟨_, lettersFrom_splitWords hc d rest n⟩

/-- Characters side by side have different numbers when a word ends between them. -/
theorem lettersFrom_adjacent (hc : isAlphanumeric c) (hd : isAlphanumeric d)
    (before after : List Char) (n : ℕ) :
    ∃ xs i j ys, lettersFrom n (splitWords (before ++ c :: d :: after)) =
        xs ++ (c, i) :: (d, j) :: ys ∧
      xs.map (·.1) = before.filter isAlphanumeric ∧ (i ≠ j ↔ breaksBetween c d) := by
  induction before generalizing n with
  | nil =>
    let j := if breaksBetween c d then n + 1 else n
    obtain ⟨m, hm⟩ := exists_lettersFrom hd after j
    refine ⟨[], n, j, lettersFrom m (splitWords after), ?_, rfl, ?_⟩
    · rw [List.nil_append, lettersFrom_splitWords hc, hd, Bool.not_true, Bool.false_or, hm]
      rfl
    · by_cases h : breaksBetween c d <;> simp [j, h]
  | cons e before ih =>
    by_cases he : isAlphanumeric e
    · obtain ⟨m, hm⟩ := exists_lettersFrom he (before ++ c :: d :: after) n
      obtain ⟨xs, i, j, ys, hxs, hbefore, hij⟩ := ih m
      refine ⟨(e, n) :: xs, i, j, ys, ?_, ?_, hij⟩
      · rw [List.cons_append, hm, hxs]
        rfl
      · rw [List.map_cons, hbefore, List.filter_cons_of_pos he]
    · obtain ⟨xs, i, j, ys, hxs, hbefore, hij⟩ := ih n
      refine ⟨xs, i, j, ys, ?_, ?_, hij⟩
      · rw [List.cons_append, splitWords_cons_of_not (by simpa using he), hxs]
      · rw [hbefore, List.filter_cons_of_neg he]

/-- A text of letters and digits in which no word ends before its end. -/
structure IsWord (w : List Char) : Prop where
  ne_nil : w ≠ []
  letters : ∀ c ∈ w, isAlphanumeric c
  unbroken : w.IsChain fun c d => breaksBetween c d = false

lemma IsWord.tail (h : IsWord (c :: d :: w)) : breaksBetween c d = false ∧ IsWord (d :: w) := by
  obtain ⟨hbreak, hunbroken⟩ := List.isChain_cons_cons.mp h.unbroken
  exact ⟨hbreak, List.cons_ne_nil d w, fun e he => h.letters e (List.mem_cons_of_mem c he),
    hunbroken⟩

lemma exists_splitWords_cons (hc : isAlphanumeric c) (rest : List Char) :
    ∃ w ws, splitWords (c :: rest) = (c :: w) :: ws := by
  cases rest with
  | nil => exact ⟨[], [], by simp [splitWords, hc]⟩
  | cons d rest =>
    rw [splitWords_cons_cons hc]
    split_ifs
    · exact ⟨[], _, rfl⟩
    · cases splitWords (d :: rest) with
      | nil => exact ⟨[], [], rfl⟩
      | cons w ws => exact ⟨w, ws, rfl⟩

theorem isWord_of_mem_splitWords (h : w ∈ splitWords cs) : IsWord w := by
  refine ⟨fun hw => nil_not_mem_splitWords cs (hw ▸ h),
    fun c hc => (mem_of_mem_splitWords h hc).2, ?_⟩
  induction cs generalizing w with
  | nil => cases h
  | cons c rest ih =>
    by_cases hc : isAlphanumeric c
    · cases rest with
      | nil =>
        obtain rfl : w = [c] := by simpa [splitWords, hc] using h
        exact List.IsChain.singleton c
      | cons d rest =>
        rw [splitWords_cons_cons hc] at h
        split_ifs at h with hbreak
        · rcases List.mem_cons.mp h with rfl | h
          · exact List.IsChain.singleton c
          · exact ih h
        · rw [Bool.or_eq_true, Bool.not_eq_true', not_or, Bool.not_eq_false, Bool.not_eq_true]
            at hbreak
          obtain ⟨v, vs, hsplit⟩ := exists_splitWords_cons hbreak.1 rest
          rw [hsplit] at h ih
          rcases List.mem_cons.mp h with rfl | h
          · exact List.isChain_cons_cons.mpr ⟨hbreak.2, ih List.mem_cons_self⟩
          · exact ih (List.mem_cons_of_mem _ h)
    · rw [splitWords_cons_of_not (by simpa using hc)] at h
      exact ih h

theorem splitWords_of_isWord (h : IsWord w) : splitWords w = [w] := by
  induction w with
  | nil => exact absurd rfl h.ne_nil
  | cons c rest ih =>
    have hc := h.letters c List.mem_cons_self
    cases rest with
    | nil => simp [splitWords, hc]
    | cons d rest =>
      obtain ⟨hbreak, hrest⟩ := h.tail
      rw [splitWords_cons_cons hc, hrest.letters d List.mem_cons_self, hbreak, ih hrest]
      rfl

/-- What is no letter or digit parts the words before it from those after it. -/
theorem splitWords_append_cons {s : Char} (hs : isAlphanumeric s = false) (cs cs' : List Char) :
    splitWords (cs ++ s :: cs') = splitWords cs ++ splitWords cs' := by
  induction cs with
  | nil => exact splitWords_cons_of_not hs cs'
  | cons c rest ih =>
    by_cases hc : isAlphanumeric c
    · cases rest with
      | nil =>
        rw [List.singleton_append, splitWords_cons_cons hc, hs, splitWords_cons_of_not hs]
        simp [splitWords, hc]
      | cons d rest =>
        rw [List.cons_append] at ih ⊢
        rw [List.cons_append, splitWords_cons_cons hc, splitWords_cons_cons hc, ih]
        split_ifs with hbreak
        · rfl
        · rw [Bool.or_eq_true, Bool.not_eq_true', not_or, Bool.not_eq_false] at hbreak
          obtain ⟨w, ws, hsplit⟩ := exists_splitWords_cons hbreak.1 rest
          rw [hsplit]
          rfl
    · have hc : isAlphanumeric c = false := by simpa using hc
      rw [List.cons_append, splitWords_cons_of_not hc, splitWords_cons_of_not hc, ih]

lemma splitWords_separator_append {separator : List Char}
    (h : ∀ c ∈ separator, isAlphanumeric c = false) (cs : List Char) :
    splitWords (separator ++ cs) = splitWords cs := by
  induction separator with
  | nil => rfl
  | cons s separator ih =>
    rw [List.forall_mem_cons] at h
    rw [List.cons_append, splitWords_cons_of_not h.1, ih h.2]

theorem splitWords_intercalate {separator : List Char} (hne : separator ≠ [])
    (hseparator : ∀ c ∈ separator, isAlphanumeric c = false) (h : ∀ w ∈ ws, IsWord w) :
    splitWords (separator.intercalate ws) = ws := by
  obtain ⟨s, separator, rfl⟩ := List.exists_cons_of_ne_nil hne
  rw [List.forall_mem_cons] at hseparator
  induction ws with
  | nil => rfl
  | cons w ws ih =>
    rw [List.forall_mem_cons] at h
    cases ws with
    | nil => rw [List.intercalate_singleton, splitWords_of_isWord h.1]
    | cons v ws =>
      rw [List.intercalate_cons_cons, List.append_assoc, List.cons_append,
        splitWords_append_cons hseparator.1, splitWords_separator_append hseparator.2, ih h.2,
        splitWords_of_isWord h.1]
      rfl

lemma map_toList_wordsOf (name : String) :
    (wordsOf name).map String.toList = splitWords name.toList := by
  simp [wordsOf, Function.comp_def]

/-- The words of a name hold its letters and digits in order, and nothing else. Two that stand side
by side fall into different words when the second is a capital and the first a small letter or an
ASCII digit, and only then. Words with separators between them are split into these words again. -/
theorem wordsOf_partition (name : String) :
    (∀ w ∈ wordsOf name, w ≠ "" ∧ ∀ c ∈ w.toList, isAlphanumeric c) ∧
      String.join (wordsOf name) = String.ofList (name.toList.filter isAlphanumeric) ∧
      (∀ before c d after, name.toList = before ++ c :: d :: after →
        isAlphanumeric c → isAlphanumeric d →
        ∃ xs i j ys, lettersOf (wordsOf name) = xs ++ (c, i) :: (d, j) :: ys ∧
          xs.map (·.1) = before.filter isAlphanumeric ∧
          (i ≠ j ↔ isUppercase d ∧ (isLowercase c ∨ c.isDigit))) ∧
      ∀ separator, separator ≠ "" → (∀ c ∈ separator.toList, isAlphanumeric c = false) →
        wordsOf (separator.intercalate (wordsOf name)) = wordsOf name := by
  refine ⟨fun w hw => ?_, ?_, fun before c d after hname hc hd => ?_, fun separator hne hsep => ?_⟩
  · obtain ⟨cs, hcs, rfl⟩ := List.mem_map.mp hw
    obtain ⟨hne, hletters, -⟩ := isWord_of_mem_splitWords hcs
    rw [String.toList_ofList]
    exact ⟨fun h => hne (by simpa using congrArg String.toList h), hletters⟩
  · apply String.toList_injective
    rw [String.toList_join, String.toList_ofList, ← flatten_splitWords, ← map_toList_wordsOf,
      List.flatMap_def]
  · have hbreak : breaksBetween c d ↔ isUppercase d ∧ (isLowercase c ∨ c.isDigit) := by
      rw [breaksBetween, Bool.and_eq_true, Bool.or_eq_true]
    rw [lettersOf, map_toList_wordsOf, hname, ← hbreak]
    exact lettersFrom_adjacent hc hd before after 0
  · have hsplit : splitWords (separator.toList.intercalate (splitWords name.toList)) =
        splitWords name.toList :=
      splitWords_intercalate (fun h => hne (String.toList_eq_nil_iff.mp h)) hsep
        fun w => isWord_of_mem_splitWords
    rw [wordsOf, String.toList_intercalate, map_toList_wordsOf, hsplit, wordsOf]

/-- A word ends before the capital, and so the letters around that place are of two words. -/
theorem wordsOf_partition_petStore :
    "petStore-v2".toList = ['p', 'e'] ++ 't' :: 'S' :: "tore-v2".toList ∧
      (∃ xs i j ys, lettersOf (wordsOf "petStore-v2") = xs ++ ('t', i) :: ('S', j) :: ys ∧
        xs.map (·.1) = ['p', 'e'] ∧ i ≠ j) ∧
      wordsOf ("--".intercalate (wordsOf "petStore-v2")) = wordsOf "petStore-v2" := by
  obtain ⟨-, -, hadjacent, hagain⟩ := wordsOf_partition "petStore-v2"
  obtain ⟨xs, i, j, ys, hletters, hbefore, hij⟩ :=
    hadjacent ['p', 'e'] 't' 'S' "tore-v2".toList (by decide) (by decide) (by decide)
  have hseparator : ∀ c ∈ "--".toList, isAlphanumeric c = false :=
    List.forall_mem_cons.mpr ⟨rfl, List.forall_mem_singleton.mpr rfl⟩
  refine ⟨by decide, ⟨xs, i, j, ys, hletters, ?_, hij.mpr (by decide)⟩,
    hagain "--" (by decide) hseparator⟩
  rw [hbefore]
  decide

end SwiftClient.Naming
