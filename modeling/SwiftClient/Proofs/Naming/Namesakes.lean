import SwiftClient.Proofs.Naming.Identifiers

/-!
# Namesakes

Different names may become one Swift name. They do when the same text is made of them, since
escaping does not confuse texts. Only where the characters of a name are preserved may an
underscore of its own be taken for the one that a leading digit gets.
-/
namespace SwiftClient.Naming

open Text

variable {x y : List Char}

lemma escaped_of_digit (h : startsWithDigit x) : escaped x = '_' :: x := by
  rw [escaped, if_neg, if_pos h]
  rw [List.isEmpty_iff]
  rintro rfl
  cases h

lemma escaped_underscore (h : x ≠ []) : escaped ('_' :: x) = '_' :: x := by
  have hfree := underscore_not_mem_reservedWords h
  rw [escaped, if_neg (by simp), if_neg (by simp [startsWithDigit]), if_neg]
  rwa [isReserved, List.contains_iff_mem]

/-- The second text is the first, which begins with a digit, after an underscore. -/
def Underscored (x y : List Char) : Prop := startsWithDigit x ∧ y = '_' :: x

instance (x y : List Char) : Decidable (Underscored x y) := inferInstanceAs (Decidable (_ ∧ _))

lemma Underscored.escaped_eq (h : Underscored x y) : escaped x = escaped y := by
  obtain ⟨hdigit, rfl⟩ := h
  have hne : x ≠ [] := by
    rintro rfl
    cases hdigit
  rw [escaped_of_digit hdigit, escaped_underscore hne]

/-- Where escaping puts no backticks, it changes nothing or puts an underscore before a digit. -/
lemma eq_of_escaped_eq_plain (hx : x ≠ []) (hplain : '\x60' ∉ y) (h : escaped x = y) :
    x = y ∨ Underscored x y := by
  obtain ⟨rfl, -⟩ | ⟨hdigit, hescaped⟩ | ⟨-, ⟨-, hescaped⟩ | ⟨-, hescaped⟩⟩ := escaped_cases x
  · exact absurd rfl hx
  · exact Or.inr ⟨hdigit, by rw [← h, hescaped]⟩
  · refine absurd ?_ hplain
    rw [← h, hescaped]
    exact List.mem_cons_self
  · exact Or.inl (by rw [← h, hescaped])

lemma eq_of_escaped_eq_quoted (hx : '\x60' ∉ x) (h : escaped x = '\x60' :: y ++ ['\x60']) :
    x = y := by
  obtain ⟨-, hescaped⟩ | ⟨-, hescaped⟩ | ⟨-, ⟨-, hescaped⟩ | ⟨-, hescaped⟩⟩ := escaped_cases x
  · rw [hescaped] at h
    cases h
  · rw [hescaped] at h
    cases h
  · rw [hescaped] at h
    simpa using h
  · refine absurd ?_ hx
    rw [← hescaped, h]
    exact List.mem_cons_self

/-- Escaping confuses two texts only if one of them is the other after an underscore. -/
theorem escaped_eq_iff (hx : '\x60' ∉ x) (hy : '\x60' ∉ y) :
    escaped x = escaped y ↔ x = y ∨ Underscored x y ∨ Underscored y x := by
  constructor
  · intro h
    by_cases hynil : y = []
    · subst hynil
      exact Or.inl (escaped_eq_underscore_iff.mp h)
    obtain ⟨rfl, -⟩ | ⟨hdigit, hescaped⟩ | ⟨-, ⟨-, hescaped⟩ | ⟨-, hescaped⟩⟩ := escaped_cases x
    · exact absurd (escaped_eq_underscore_iff.mp h.symm) hynil
    · have hplain : '\x60' ∉ '_' :: x := by simpa using hx
      rw [hescaped] at h
      rcases eq_of_escaped_eq_plain hynil hplain h.symm with rfl | ⟨-, hyx⟩
      · exact Or.inr (Or.inl ⟨hdigit, rfl⟩)
      · exact Or.inl (List.cons.inj hyx).2
    · rw [hescaped] at h
      exact Or.inl (eq_of_escaped_eq_quoted hy h.symm).symm
    · rw [hescaped] at h
      rcases eq_of_escaped_eq_plain hynil hx h.symm with rfl | hunderscored
      · exact Or.inl rfl
      · exact Or.inr (Or.inr hunderscored)
  · rintro (rfl | h | h)
    · rfl
    · exact h.escaped_eq
    · exact h.escaped_eq.symm

lemma Made.not_mark {cs : List Char} {c : Char} (h : Made cs c) : c ≠ '_' ∧ c ≠ '\x60' := by
  obtain ⟨-, -, -, e, he, -, hec⟩ := h
  rw [← not_or]
  intro hmark
  obtain rfl := hec.eq_of_mark hmark
  rcases hmark with rfl | rfl <;> cases he

lemma backtick_not_mem_unescaped (style : EnumStyle) (cs : List Char) :
    '\x60' ∉ unescaped style cs := by
  intro h
  rcases made_of_mem_unescaped h with hmade | ⟨-, hc⟩
  · exact hmade.not_mark.2 rfl
  · cases hc

lemma not_underscored_unescaped {style : EnumStyle} (hstyle : style ≠ .preserve)
    (cs : List Char) : ¬ Underscored x (unescaped style cs) := by
  rintro ⟨-, h⟩
  have hmem : '_' ∈ unescaped style cs := h ▸ List.mem_cons_self
  rcases made_of_mem_unescaped hmem with hmade | ⟨hpreserve, -⟩
  · exact hmade.not_mark.1 rfl
  · exact hstyle hpreserve

/-- Names of which the same text is made, or of which one preserves an underscore before the text of
the other, which begins with a digit. -/
def Namesakes (style : EnumStyle) (a b : String) : Prop :=
  unescaped style a.toList = unescaped style b.toList ∨
    style = .preserve ∧ (Underscored (unescaped style a.toList) (unescaped style b.toList) ∨
      Underscored (unescaped style b.toList) (unescaped style a.toList))

instance (style : EnumStyle) (a b : String) : Decidable (Namesakes style a b) :=
  inferInstanceAs (Decidable (_ ∨ _ ∧ (_ ∨ _)))

/-- Two names become one exactly when they are namesakes. -/
theorem memberName_eq_iff (style : EnumStyle) (a b : String) :
    memberName style a = memberName style b ↔ Namesakes style a b := by
  rw [memberName_eq, memberName_eq, String.ofList_inj, escaped_eq_iff
    (backtick_not_mem_unescaped style _) (backtick_not_mem_unescaped style _), Namesakes]
  refine or_congr_right ?_
  by_cases hstyle : style = .preserve
  · rw [and_iff_right hstyle]
  · refine iff_of_false ?_ fun h => hstyle h.1
    exact not_or.mpr ⟨not_underscored_unescaped hstyle _, not_underscored_unescaped hstyle _⟩

/-- A number and its opposite are namesakes in every style. -/
example : Namesakes .constant "1" "-1" ∧ Namesakes .camelCase "1" "-1" ∧
    Namesakes .preserve "1" "-1" := by
  decide +kernel

end SwiftClient.Naming
