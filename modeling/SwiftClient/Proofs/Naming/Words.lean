import Mathlib.Data.List.Basic
import SwiftClient.Naming.Words

/-!
# Words of names

The words of a name hold its letters and digits, each once and in order, and nothing else. None of
them is empty.
-/
namespace SwiftClient.Naming
open Text

lemma splitWords_cons_of_not {c : Char} (hc : isAlphanumeric c = false) (rest : List Char) :
    splitWords (c :: rest) = splitWords rest := by
  simp [splitWords, hc]

lemma splitWords_cons_cons {c : Char} (hc : isAlphanumeric c) (d : Char) (rest : List Char) :
    splitWords (c :: d :: rest) =
      if !isAlphanumeric d || breaksBetween c d then [c] :: splitWords (d :: rest)
      else extendFirst c (splitWords (d :: rest)) := by
  rw [splitWords]
  simp [hc]

lemma flatten_extendFirst (c : Char) (ws : List (List Char)) :
    (extendFirst c ws).flatten = c :: ws.flatten := by
  cases ws with
  | nil => rfl
  | cons w ws => rfl

/-- Splitting a name drops what is no letter or digit, and nothing else. -/
theorem flatten_splitWords (cs : List Char) :
    (splitWords cs).flatten = cs.filter isAlphanumeric := by
  induction cs with
  | nil => rfl
  | cons c rest ih =>
    by_cases hc : isAlphanumeric c
    · rw [List.filter_cons_of_pos hc, ← ih]
      cases rest with
      | nil => simp [splitWords, hc]
      | cons d rest =>
        rw [splitWords_cons_cons hc]
        split_ifs
        · rfl
        · exact flatten_extendFirst c _
    · rw [List.filter_cons_of_neg hc, splitWords_cons_of_not (by simpa using hc), ih]

lemma nil_not_mem_extendFirst {c : Char} {ws : List (List Char)} (h : [] ∉ ws) :
    [] ∉ extendFirst c ws := by
  cases ws with
  | nil => simp [extendFirst]
  | cons w ws => simpa [extendFirst] using fun hws => h (List.mem_cons_of_mem w hws)

theorem nil_not_mem_splitWords (cs : List Char) : [] ∉ splitWords cs := by
  induction cs with
  | nil => simp [splitWords]
  | cons c rest ih =>
    by_cases hc : isAlphanumeric c
    · cases rest with
      | nil => simp [splitWords, hc]
      | cons d rest =>
        rw [splitWords_cons_cons hc]
        split_ifs
        · simpa using ih
        · exact nil_not_mem_extendFirst ih
    · rwa [splitWords_cons_of_not (by simpa using hc)]

lemma mem_of_mem_splitWords {cs w : List Char} {d : Char} (hw : w ∈ splitWords cs) (hd : d ∈ w) :
    d ∈ cs ∧ isAlphanumeric d := by
  have hmem : d ∈ (splitWords cs).flatten := List.mem_flatten.mpr ⟨w, hw, hd⟩
  rwa [flatten_splitWords, List.mem_filter] at hmem

/-- A name without letters and digits has no words, and no other has none. -/
lemma splitWords_eq_nil_iff {cs : List Char} :
    splitWords cs = [] ↔ ∀ c ∈ cs, isAlphanumeric c = false := by
  have hflatten : splitWords cs = [] ↔ (splitWords cs).flatten = [] := by
    rw [List.flatten_eq_nil_iff]
    refine ⟨fun h => by simp [h], fun h => List.eq_nil_iff_forall_not_mem.mpr fun w hw => ?_⟩
    exact nil_not_mem_splitWords cs (h w hw ▸ hw)
  rw [hflatten, flatten_splitWords, List.filter_eq_nil_iff]
  simp only [Bool.not_eq_true]

end SwiftClient.Naming
