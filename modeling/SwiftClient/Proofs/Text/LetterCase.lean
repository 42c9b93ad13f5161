import Mathlib.Data.List.Basic
import Mathlib.Data.Int.Notation
import Mathlib.Order.Nat
import SwiftClient.Text.Letter
import SwiftClient.Text.LetterCase

/-!
# Cases of letters

Every character has an upper and a lower case, of one character or more. The lower case of a letter
begins with a letter, and what begins in ASCII stays there.
-/
namespace SwiftClient.Text

/-- The second character is the first, or belongs to its upper or lower case. A capital sigma has
two lower cases. -/
def Cased (a c : Char) : Prop :=
  c = a ∨ c ∈ upperOf a ∨ c ∈ lowerOf a ∨ a = 'Σ' ∧ c = 'ς'

lemma Cased.refl (a : Char) : Cased a a := Or.inl rfl

lemma Cased.upper {a c : Char} (h : c ∈ upperOf a) : Cased a c := Or.inr (Or.inl h)

lemma Cased.lower {a c : Char} (h : c ∈ lowerOf a) : Cased a c := Or.inr (Or.inr (Or.inl h))

lemma mapCase_ne_nil {spellings : List (ℕ × List ℕ)} (h : ∀ e ∈ spellings, e.2 ≠ [])
    (shifts : List Shift) (c : Char) : mapCase spellings shifts c ≠ [] := by
  unfold mapCase
  split
  case h_1 spelling hlookup =>
    obtain ⟨before, after, hspellings, -⟩ := List.lookup_eq_some_iff.mp hlookup
    have hne := h (c.toNat, spelling) (by simp [hspellings])
    exact fun hmap => hne (List.map_eq_nil_iff.mp hmap)
  case h_2 => exact List.cons_ne_nil _ _

lemma lowerOf_ne_nil (c : Char) : lowerOf c ≠ [] := mapCase_ne_nil (by decide) _ c

lemma toNat_lt_of_isAlphanum {c : Char} (h : c.isAlphanum) : c.toNat < 128 := by
  delta Char.isAlphanum Char.isAlpha Char.isUpper Char.isLower Char.isDigit at h
  simp only [Bool.or_eq_true, Bool.and_eq_true, decide_eq_true_eq, UInt32.le_iff_toNat_le,
    ge_iff_le] at h
  have hcode : c.toNat = c.val.toNat := rfl
  have hupper : 'Z'.val.toNat = 90 := rfl
  have hlower : 'z'.val.toNat = 122 := rfl
  have hdigit : '9'.val.toNat = 57 := rfl
  omega

/-- Letters and digits of ASCII are no others than those of `Char.isAlphanum`. -/
lemma isAlphanum_of_ascii {c : Char} (hc : c.toNat < 128) (h : isAlphanumeric c) :
    c.isAlphanum := by
  have hall : ∀ n < 128, isAlphanumeric (Char.ofNat n) → (Char.ofNat n).isAlphanum := by decide
  have hcode := hall c.toNat hc
  rw [Char.ofNat_toNat] at hcode
  exact hcode h

lemma Cased.isAlphanum {a c : Char} (h : Cased a c) (ha : a.isAlphanum) : c.isAlphanum := by
  have hcode := toNat_lt_of_isAlphanum ha
  have hall : ∀ n < 128, (Char.ofNat n).isAlphanum →
      (upperOf (Char.ofNat n) ++ lowerOf (Char.ofNat n)).all (·.isAlphanum) := by
    decide +kernel
  have hcases := hall a.toNat hcode
  rw [Char.ofNat_toNat, List.all_eq_true] at hcases
  rcases h with rfl | h | h | ⟨rfl, -⟩
  · exact ha
  · exact hcases ha c (List.mem_append_left _ h)
  · exact hcases ha c (List.mem_append_right _ h)
  · exact absurd hcode (by decide)

lemma coversCode_of_mem {spans : List Span} (hsorted : spans.Pairwise (·.first ≤ ·.first))
    {s : Span} (hs : s ∈ spans) {n : ℕ} (hn : s.holds n) : Span.coversCode spans n := by
  induction spans with
  | nil => cases hs
  | cons t rest ih =>
    rw [List.pairwise_cons] at hsorted
    have hle : t.first ≤ s.first := by
      rcases List.mem_cons.mp hs with rfl | hs
      · exact le_rfl
      · exact hsorted.1 s hs
    have hlow : s.first ≤ n := by
      simp only [Span.holds, Bool.and_eq_true, decide_eq_true_eq] at hn
      exact hn.1.1
    rw [Span.coversCode, if_neg (not_lt.mpr (hle.trans hlow)), Bool.or_eq_true]
    rcases List.mem_cons.mp hs with rfl | hs
    · exact Or.inl hn
    · exact Or.inr (ih hsorted.2 hs)

/-- Whether one span without gaps holds all code points between two. -/
def coversRange : List Span → ℕ → ℕ → Bool
  | [], _, _ => false
  | s :: rest, low, high =>
    s.step == 1 && s.first.ble low && high.ble s.last || coversRange rest low high

lemma exists_mem_of_coversRange {spans : List Span} {low high : ℕ}
    (h : coversRange spans low high) :
    ∃ s ∈ spans, s.step = 1 ∧ s.first ≤ low ∧ high ≤ s.last := by
  induction spans with
  | nil => cases h
  | cons s rest ih =>
    rw [coversRange, Bool.or_eq_true] at h
    rcases h with h | h
    · simp only [Bool.and_eq_true, beq_iff_eq, Nat.ble_eq] at h
      exact ⟨s, List.mem_cons_self, h.1.1, h.1.2, h.2⟩
    · obtain ⟨t, ht, hrange⟩ := ih h
      exact ⟨t, List.mem_cons_of_mem s ht, hrange⟩

lemma coversCode_shift {spans : List Span} (hsorted : spans.Pairwise (·.first ≤ ·.first))
    {shifts : List Shift} (h : ∀ s ∈ shifts, coversRange spans (s.span.first + s.distance).toNat
      (s.span.last + s.distance).toNat) {n : ℕ} (hn : Span.coversCode spans n) :
    Span.coversCode spans (Shift.apply shifts n) := by
  induction shifts with
  | nil => exact hn
  | cons s rest ih =>
    rw [List.forall_mem_cons] at h
    rw [Shift.apply]
    split_ifs with hs
    · obtain ⟨t, ht, hstep, hlow, hhigh⟩ := exists_mem_of_coversRange h.1
      simp only [Span.holds, Bool.and_eq_true, decide_eq_true_eq] at hs
      refine coversCode_of_mem hsorted ht ?_
      simp only [Span.holds, hstep, Nat.mod_one, Bool.and_eq_true, decide_eq_true_eq]
      refine ⟨⟨?_, ?_⟩, rfl⟩ <;> omega
    · exact ih h.2

lemma alphanumerics_sorted : alphanumerics.Pairwise (·.first ≤ ·.first) := by
  have hchain : alphanumerics.IsChain (·.first ≤ ·.first) := by decide +kernel
  exact hchain.pairwise

lemma exists_mem_of_coversCode {spans : List Span} {n : ℕ} (h : Span.coversCode spans n) :
    ∃ s ∈ spans, s.holds n := by
  induction spans with
  | nil => cases h
  | cons s rest ih =>
    rw [Span.coversCode] at h
    split_ifs at h
    rw [Bool.or_eq_true] at h
    rcases h with h | h
    · exact ⟨s, List.mem_cons_self, h⟩
    · obtain ⟨t, ht, hn⟩ := ih h
      exact ⟨t, List.mem_cons_of_mem s ht, hn⟩

lemma isValidChar_of_coversCode {n : ℕ} (h : Span.coversCode alphanumerics n) : n.isValidChar := by
  have hvalid : ∀ s ∈ alphanumerics, s.last < 0xd800 ∨ 0xdfff < s.first ∧ s.last < 0x110000 := by
    decide +kernel
  obtain ⟨s, hs, hn⟩ := exists_mem_of_coversCode h
  simp only [Span.holds, Bool.and_eq_true, decide_eq_true_eq] at hn
  obtain ⟨⟨hfirst, hlast⟩, -⟩ := hn
  rcases hvalid s hs with hlow | ⟨hhigh, hbound⟩
  · exact Or.inl (hlast.trans_lt hlow)
  · exact Or.inr ⟨hhigh.trans_le hfirst, hlast.trans_lt hbound⟩

lemma isAlphanumeric_of_lowerOf {a d : Char} {rest : List Char} (ha : isAlphanumeric a)
    (h : lowerOf a = d :: rest) : isAlphanumeric d := by
  have hshifts : ∀ s ∈ lowerShifts, coversRange alphanumerics (s.span.first + s.distance).toNat
      (s.span.last + s.distance).toNat := by
    decide +kernel
  unfold lowerOf mapCase at h
  split at h
  case h_1 spelling hlookup =>
    obtain ⟨before, after, hspellings, -⟩ := List.lookup_eq_some_iff.mp hlookup
    have hmem : (a.toNat, spelling) ∈ lowerSpellings := by simp [hspellings]
    obtain ⟨-, rfl⟩ := Prod.mk.inj (List.mem_singleton.mp hmem)
    obtain ⟨rfl, -⟩ := List.cons.inj h
    decide
  case h_2 =>
    obtain ⟨rfl, -⟩ := List.cons.inj h
    have hcovers := coversCode_shift alphanumerics_sorted hshifts ha
    have hcode : (Char.ofNat (Shift.apply lowerShifts a.toNat)).toNat =
        Shift.apply lowerShifts a.toNat := by
      rw [Char.ofNat, dif_pos (isValidChar_of_coversCode hcovers)]
      rfl
    rw [isAlphanumeric, Span.covers, hcode]
    exact hcovers

lemma shift_apply_ne {shifts : List Shift} {k n : ℕ}
    (h : ∀ s ∈ shifts, (k : ℤ) < s.span.first + s.distance ∨ s.span.last + s.distance < (k : ℤ))
    (hk : k ≠ 0) (hn : n ≠ k) : Shift.apply shifts n ≠ k := by
  induction shifts with
  | nil => exact hn
  | cons s rest ih =>
    rw [List.forall_mem_cons] at h
    rw [Shift.apply]
    split_ifs with hs
    · simp only [Span.holds, Bool.and_eq_true, decide_eq_true_eq] at hs
      obtain ⟨⟨hfirst, hlast⟩, -⟩ := hs
      have := h.1
      omega
    · exact ih h.2

lemma ofNat_ne {x : Char} {n : ℕ} (h : n ≠ x.toNat) (hx : x.toNat ≠ 0) : Char.ofNat n ≠ x := by
  rintro rfl
  by_cases hvalid : n.isValidChar
  · have hcode : (Char.ofNat n).toNat = n := by
      rw [Char.ofNat, dif_pos hvalid]
      rfl
    exact h hcode.symm
  · rw [Char.ofNat, dif_neg hvalid] at hx
    exact hx rfl

/-- A case mapping that leads to a character from nowhere else does not make it of others. -/
lemma not_mem_mapCase {spellings : List (ℕ × List ℕ)} {shifts : List Shift} {c x : Char}
    (hshifts : ∀ s ∈ shifts, (x.toNat : ℤ) < s.span.first + s.distance ∨
      s.span.last + s.distance < (x.toNat : ℤ))
    (hspellings : ∀ e ∈ spellings, x.toNat ∉ e.2) (hzero : x.toNat ≠ 0) (hc : c ≠ x) :
    x ∉ mapCase spellings shifts c := by
  have hcode : c.toNat ≠ x.toNat := fun h => hc (Char.toNat_inj.mp h)
  unfold mapCase
  split
  case h_1 spelling h =>
    rw [List.mem_map]
    rintro ⟨n, hn, heq⟩
    obtain ⟨before, after, rfl, -⟩ := List.lookup_eq_some_iff.mp h
    have hne : n ≠ x.toNat := by
      rintro rfl
      exact hspellings (c.toNat, spelling) (by simp) hn
    exact ofNat_ne hne hzero heq
  case h_2 =>
    rw [List.mem_singleton]
    exact (ofNat_ne (shift_apply_ne hshifts hzero hcode) hzero).symm

lemma Cased.eq_of_le {a c : Char} (h : Cased a c) (hc : c.toNat ≤ 64) (hzero : c.toNat ≠ 0) :
    a = c := by
  have hshifts : ∀ s ∈ upperShifts ++ lowerShifts, (64 : ℤ) < s.span.first + s.distance := by
    decide +kernel
  have hspellings : ∀ e ∈ upperSpellings ++ lowerSpellings, ∀ n ∈ e.2, 64 < n := by
    decide +kernel
  rw [List.forall_mem_append] at hshifts hspellings
  by_contra hne
  rcases h with rfl | h | h | ⟨-, rfl⟩
  · exact hne rfl
  · refine not_mem_mapCase (fun s hs => Or.inl ?_) (fun e he hmem => ?_) hzero hne h
    · have := hshifts.1 s hs
      omega
    · have := hspellings.1 e he _ hmem
      omega
  · refine not_mem_mapCase (fun s hs => Or.inl ?_) (fun e he hmem => ?_) hzero hne h
    · have := hshifts.2 s hs
      omega
    · have := hspellings.2 e he _ hmem
      omega
  · exact absurd hc (by decide)

/-- The underscore and the backtick belong to the cases of no other character. -/
lemma Cased.eq_of_mark {a c : Char} (h : Cased a c) (hc : c = '_' ∨ c = '\x60') : a = c := by
  by_contra hne
  rcases h with rfl | h | h | ⟨-, rfl⟩
  · exact hne rfl
  · rcases hc with rfl | rfl <;>
      exact not_mem_mapCase (by decide +kernel) (by decide +kernel) (by decide) hne h
  · rcases hc with rfl | rfl <;>
      exact not_mem_mapCase (by decide +kernel) (by decide +kernel) (by decide) hne h
  · rcases hc with hc | hc <;> cases hc

end SwiftClient.Text
