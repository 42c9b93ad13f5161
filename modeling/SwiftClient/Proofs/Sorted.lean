import Mathlib.Data.List.Perm.Basic
import Mathlib.Data.List.Nodup
import Mathlib.Order.RelClasses
import SwiftClient.Sorted

/-!
# Sorted entries

Sorting entries whose keys differ puts them in another order and does nothing else, so entries that
are in order already come out as they are, however they were shuffled before.
-/
namespace SwiftClient.Sorted

variable {κ α : Type} [LT κ] [DecidableLT κ] [DecidableEq κ]

lemma put_perm {key : κ} {value : α} {entries : List (κ × α)} (h : key ∉ entries.map (·.1)) :
    (put key value entries).Perm ((key, value) :: entries) := by
  induction entries with
  | nil => exact .refl _
  | cons e rest ih =>
    rw [List.map_cons, List.mem_cons, not_or] at h
    rw [put, if_neg h.1]
    split_ifs
    · exact .refl _
    · exact ((ih h.2).cons e).trans (.swap _ _ _)

lemma foldl_put_perm {entries done : List (κ × α)} (h : ((done ++ entries).map (·.1)).Nodup) :
    (entries.foldl (fun sorted e => put e.1 e.2 sorted) done).Perm (done ++ entries) := by
  induction entries generalizing done with
  | nil => simp
  | cons e rest ih =>
    have hmiddle : (done ++ e :: rest).Perm (e :: done ++ rest) := List.perm_middle
    have hfresh : (((e :: done) ++ rest).map (·.1)).Nodup := (hmiddle.map _).nodup_iff.mp h
    have hput : (put e.1 e.2 done).Perm (e :: done) := by
      refine put_perm fun he => ?_
      rw [List.cons_append, List.map_cons, List.nodup_cons, List.map_append] at hfresh
      exact hfresh.1 (List.mem_append_left _ he)
    have hstep : (put e.1 e.2 done ++ rest).Perm (e :: done ++ rest) := hput.append_right rest
    rw [List.foldl_cons]
    exact (ih ((hstep.map _).nodup_iff.mpr hfresh)).trans (hstep.trans hmiddle.symm)

theorem ofList_perm {entries : List (κ × α)} (h : (entries.map (·.1)).Nodup) :
    (ofList entries).Perm entries :=
  foldl_put_perm h

lemma mem_put {key : κ} {value : α} {entries : List (κ × α)} {e : κ × α}
    (h : e ∈ put key value entries) : e = (key, value) ∨ e ∈ entries := by
  induction entries with
  | nil => simpa [put] using h
  | cons f rest ih =>
    rw [put] at h
    split_ifs at h <;> simp only [List.mem_cons] at h ⊢
    · tauto
    · tauto
    · rcases h with h | h
      · exact Or.inr (Or.inl h)
      · exact (ih h).imp id Or.inr

lemma mem_foldl_put {entries done : List (κ × α)} {e : κ × α}
    (h : e ∈ entries.foldl (fun sorted f => put f.1 f.2 sorted) done) : e ∈ done ∨ e ∈ entries := by
  induction entries generalizing done with
  | nil => exact Or.inl h
  | cons f rest ih =>
    rcases ih h with h | h
    · rcases mem_put h with rfl | h
      · exact Or.inr List.mem_cons_self
      · exact Or.inl h
    · exact Or.inr (List.mem_cons_of_mem f h)

lemma mem_ofList {entries : List (κ × α)} {e : κ × α} (h : e ∈ ofList entries) : e ∈ entries :=
  (mem_foldl_put h).resolve_left List.not_mem_nil

omit [LT κ] [DecidableLT κ] in
lemma lookup_cons_eq [BEq κ] [LawfulBEq κ] (key : κ) (value : α) (entries : List (κ × α)) (k : κ) :
    ((key, value) :: entries).lookup k = if k = key then some value else entries.lookup k := by
  rw [List.lookup_cons]
  by_cases hk : k = key
  · rw [if_pos hk, beq_iff_eq.mpr hk]
  · rw [if_neg hk, beq_false_of_ne hk]

lemma lookup_put [BEq κ] [LawfulBEq κ] (key : κ) (value : α) (entries : List (κ × α)) (k : κ) :
    (put key value entries).lookup k = if k = key then some value else entries.lookup k := by
  induction entries with
  | nil => rw [put, lookup_cons_eq]
  | cons e rest ih =>
    obtain ⟨key', value'⟩ := e
    rw [put]
    by_cases hlt : key < key'
    · rw [if_pos hlt, lookup_cons_eq]
    · rw [if_neg hlt]
      by_cases heq : key = key'
      · rw [if_pos heq]
        simp only [lookup_cons_eq, heq]
        split_ifs <;> rfl
      · rw [if_neg heq]
        simp only [lookup_cons_eq, ih]
        -- the keys differ, so at most one of them is the one looked up
        by_cases hk : k = key'
        · have hne : k ≠ key := fun h => heq (h ▸ hk)
          rw [if_pos hk, if_neg hne, if_pos hk]
        · rw [if_neg hk, if_neg hk]

lemma put_put (key : κ) (value value' : α) (entries : List (κ × α)) (hirrefl : ¬key < key) :
    put key value' (put key value entries) = put key value' entries := by
  induction entries with
  | nil => simp [put, hirrefl]
  | cons e rest ih =>
    obtain ⟨k, v⟩ := e
    by_cases hlt : key < k
    · simp [put, hlt, hirrefl]
    · by_cases heq : key = k
      · subst heq
        simp [put, hirrefl]
      · simp [put, hlt, heq, ih]

section Order

variable [IsStrictTotalOrder κ (· < ·)]

/-- Entries with different keys can be put in either order. -/
theorem put_comm {key key' : κ} (h : key ≠ key') (value value' : α) (entries : List (κ × α)) :
    put key value (put key' value' entries) = put key' value' (put key value entries) := by
  wlog hlt : key < key' generalizing key key' value value'
  · rcases trichotomous_of (· < ·) key key' with h' | h' | h'
    · exact absurd h' hlt
    · exact absurd h' h
    · exact (this h.symm value' value h').symm
  have hgt : ¬key' < key := asymm_of (· < ·) hlt
  induction entries with
  | nil => simp [put, hlt, hgt, h.symm]
  | cons e rest ih =>
    obtain ⟨k, v⟩ := e
    rcases trichotomous_of (· < ·) key' k with hk | hk | hk
    · have hkey : key < k := trans_of (· < ·) hlt hk
      simp [put, hk, hkey, hlt, hgt, h.symm]
    · subst hk
      have hirrefl : ¬key' < key' := irrefl_of (· < ·) key'
      simp [put, hlt, hgt, hirrefl, h.symm]
    · have hk' : ¬key' < k := asymm_of (· < ·) hk
      have hne' : key' ≠ k := fun h' => irrefl_of (· < ·) k (h' ▸ hk)
      rcases trichotomous_of (· < ·) key k with hkey | hkey | hkey
      · simp [put, hk', hne', hkey, hgt, h.symm]
      · subst hkey
        simp [put, hk', hne', irrefl_of (· < ·) key]
      · have hkey' : ¬key < k := asymm_of (· < ·) hkey
        have hne : key ≠ k := fun h' => irrefl_of (· < ·) k (h' ▸ hkey)
        simp [put, hk', hne', hkey', hne, ih]

lemma pairwise_put {key : κ} {value : α} {entries : List (κ × α)}
    (h : entries.Pairwise fun e f => e.1 < f.1) :
    (put key value entries).Pairwise fun e f => e.1 < f.1 := by
  induction entries with
  | nil => simp [put]
  | cons e rest ih =>
    obtain ⟨hfirst, hrest⟩ := List.pairwise_cons.mp h
    rw [put]
    split_ifs with hlt heq
    · refine List.pairwise_cons.mpr ⟨fun f hf => ?_, h⟩
      rcases List.mem_cons.mp hf with rfl | hf
      · exact hlt
      · exact trans_of (· < ·) hlt (hfirst f hf)
    · subst heq
      exact List.pairwise_cons.mpr ⟨hfirst, hrest⟩
    · have hgt : e.1 < key := by
        rcases trichotomous_of (· < ·) key e.1 with h | h | h
        · exact absurd h hlt
        · exact absurd h heq
        · exact h
      refine List.pairwise_cons.mpr ⟨fun f hf => ?_, ih hrest⟩
      rcases mem_put hf with rfl | hf
      · exact hgt
      · exact hfirst f hf

lemma pairwise_foldl_put {entries done : List (κ × α)}
    (h : done.Pairwise fun e f => e.1 < f.1) :
    (entries.foldl (fun sorted e => put e.1 e.2 sorted) done).Pairwise fun e f => e.1 < f.1 := by
  induction entries generalizing done with
  | nil => exact h
  | cons e rest ih => exact ih (pairwise_put h)

theorem pairwise_ofList (entries : List (κ × α)) :
    (ofList entries).Pairwise fun e f => e.1 < f.1 :=
  pairwise_foldl_put .nil

/-- Entries in order are what any shuffle of them is sorted to. -/
theorem ofList_eq_of_perm {entries sorted : List (κ × α)}
    (hsorted : (sorted.map (·.1)).Pairwise (· < ·)) (h : entries.Perm sorted) :
    ofList entries = sorted := by
  have hnodup : (sorted.map (·.1)).Nodup := by
    refine List.Pairwise.imp (fun {a b} hlt => ?_) hsorted
    rintro rfl
    exact irrefl_of (· < ·) a hlt
  have hperm : (ofList entries).Perm sorted :=
    (ofList_perm ((h.map _).nodup_iff.mpr hnodup)).trans h
  refine hperm.eq_of_pairwise (fun e f _ _ hef hfe => ?_) (pairwise_ofList entries)
    (List.pairwise_map.mp hsorted)
  exact absurd hfe (asymm_of (· < ·) hef)

/-- Entries with different keys are sorted alike in every order. -/
theorem ofList_congr {entries entries' : List (κ × α)} (hnodup : (entries.map (·.1)).Nodup)
    (h : entries.Perm entries') : ofList entries = ofList entries' := by
  have hnodup' : (entries'.map (·.1)).Nodup := (h.map _).nodup_iff.mp hnodup
  exact ofList_eq_of_perm (List.pairwise_map.mpr (pairwise_ofList entries'))
    (h.trans (ofList_perm hnodup').symm)

end Order

end SwiftClient.Sorted
