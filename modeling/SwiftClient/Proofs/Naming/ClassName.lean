import Mathlib.Data.Int.Notation
import Mathlib.Data.List.Basic
import SwiftClient.Proofs.Naming.Numbered
import SwiftClient.Proofs.Text.LetterCase

/-!
# Class names as file names

Words of a name are made of letters and digits, and no upper case has a mark like a slash in it. So
a class name never leads into another directory.
-/
namespace SwiftClient.Naming

open Text

/-- A code point that is in no upper case of another. -/
def Unmade (k : ℕ) : Prop :=
  (∀ s ∈ upperShifts,
    (k : ℤ) < s.span.first + s.distance ∨ s.span.last + s.distance < (k : ℤ)) ∧
    ∀ e ∈ upperSpellings, k ∉ e.2

instance (k : ℕ) : Decidable (Unmade k) := inferInstanceAs (Decidable (_ ∧ _))

lemma unmade_of_le {k : ℕ} (hk : k ≤ 64) : Unmade k := by
  have hshifts : ∀ s ∈ upperShifts, (64 : ℤ) < s.span.first + s.distance := by
    decide +kernel
  have hspellings : ∀ e ∈ upperSpellings, ∀ n ∈ e.2, 64 < n := by decide +kernel
  refine ⟨fun s hs => Or.inl ?_, fun e he hmem => ?_⟩
  · have := hshifts s hs
    omega
  · have := hspellings e he k hmem
    omega

lemma not_mem_upperOf {c x : Char} (hx : Unmade x.toNat) (hzero : x.toNat ≠ 0) (hc : c ≠ x) :
    x ∉ upperOf c :=
  not_mem_mapCase hx.1 hx.2 hzero hc

theorem not_mem_className_of_unmade {x : Char} (hx : Unmade x.toNat) (hzero : x.toNat ≠ 0)
    (hx' : isAlphanumeric x = false) (hunderscore : x ≠ '_') (name : String) :
    x ∉ (className name).toList := by
  have halphanumeric : ∀ c, isAlphanumeric c → c ≠ x := by
    rintro c hc rfl
    rw [hx'] at hc
    cases hc
  have hwords : x ∉ (splitWords name.toList).flatMap upperFirst := by
    rw [List.mem_flatMap]
    rintro ⟨w, hw, hmem⟩
    have hword : ∀ c ∈ w, c ≠ x := fun c hc =>
      halphanumeric c (mem_of_mem_splitWords hw hc).2
    cases w with
    | nil => simp [upperFirst] at hmem
    | cons c rest =>
      rw [upperFirst, List.mem_append] at hmem
      rcases hmem with hmem | hmem
      · exact not_mem_upperOf hx hzero (hword c List.mem_cons_self) hmem
      · exact hword x (List.mem_cons_of_mem c hmem) rfl
  rw [className, String.toList_ofList, classChars]
  split_ifs
  · rw [List.mem_singleton]
    exact hunderscore
  · rw [List.mem_cons, not_or]
    exact ⟨hunderscore, hwords⟩
  · exact hwords

/-- A class name has no mark below the letters, apart from digits. -/
theorem not_mem_className {x : Char} (hx : x.toNat ≤ 64) (hzero : x.toNat ≠ 0)
    (hx' : isAlphanumeric x = false) (name : String) : x ∉ (className name).toList := by
  refine not_mem_className_of_unmade (unmade_of_le hx) hzero hx' ?_ name
  rintro rfl
  exact absurd hx (by decide)

theorem slash_not_mem_className (name : String) : '/' ∉ (className name).toList :=
  not_mem_className (by decide) (by decide) (by decide) name

lemma slash_not_mem_of_exists_name {names : List String}
    (h : ∀ c ∈ names, ∃ name, c = className name) : ∀ c ∈ names, '/' ∉ c.toList := by
  intro c hc
  obtain ⟨name, rfl⟩ := h c hc
  exact slash_not_mem_className name

theorem className_ne_empty (name : String) : className name ≠ "" := by
  intro h
  have hchars : classChars name.toList = [] := by
    rw [← String.toList_ofList (l := classChars name.toList)]
    exact congrArg String.toList h
  simp only [classChars] at hchars
  split_ifs at hchars with hempty hdigit
  exact hempty (List.isEmpty_iff.mpr hchars)

end SwiftClient.Naming
