import SwiftClient.Proofs.Naming.Numbered
import SwiftClient.Proofs.Text.LetterCase

/-!
# Identifiers

A name of any characters becomes an identifier that can be written in Swift. Its characters are
letters and digits of the name or stand in their upper or lower case, reserved words are put in
backticks, and an identifier without characters becomes an underscore.
-/
namespace SwiftClient.Naming

open Text

lemma cased_of_mem_upperFirst {w : List Char} {c : Char} (h : c ∈ upperFirst w) :
    ∃ a ∈ w, Cased a c := by
  cases w with
  | nil => cases h
  | cons a rest =>
    rw [upperFirst, List.mem_append] at h
    rcases h with h | h
    · exact ⟨a, List.mem_cons_self, .upper h⟩
    · exact ⟨c, List.mem_cons_of_mem a h, .refl c⟩

lemma lowerAfter_cons (before : List Char) (a : Char) (rest : List Char) :
    ∃ d ds, lowerAfter before (a :: rest) = (d :: ds) ++ lowerAfter (a :: before) rest ∧
      (∀ c ∈ d :: ds, Cased a c) ∧ (isAlphanumeric a → isAlphanumeric d) := by
  rw [lowerAfter]
  by_cases hsigma : a = 'Σ'
  · subst hsigma
    have hlower : lowerOf 'Σ' = ['σ'] := by decide
    rw [if_pos rfl]
    split_ifs
    · refine ⟨'ς', [], rfl, fun c hc => ?_, fun _ => by decide⟩
      exact Or.inr (Or.inr (Or.inr ⟨rfl, List.mem_singleton.mp hc⟩))
    · refine ⟨'σ', [], rfl, fun c hc => .lower ?_, fun _ => by decide⟩
      rwa [hlower]
  · rw [if_neg hsigma]
    obtain ⟨d, ds, hd⟩ := List.exists_cons_of_ne_nil (lowerOf_ne_nil a)
    exact ⟨d, ds, by rw [hd], fun c hc => .lower (hd ▸ hc), fun ha =>
      isAlphanumeric_of_lowerOf ha hd⟩

lemma cased_of_mem_lowerAfter {before w : List Char} {c : Char} (h : c ∈ lowerAfter before w) :
    ∃ a ∈ w, Cased a c := by
  induction w generalizing before with
  | nil => cases h
  | cons a rest ih =>
    obtain ⟨d, ds, hlower, hcased, -⟩ := lowerAfter_cons before a rest
    rw [hlower, List.mem_append] at h
    rcases h with h | h
    · exact ⟨a, List.mem_cons_self, hcased c h⟩
    · obtain ⟨b, hb, hbc⟩ := ih h
      exact ⟨b, List.mem_cons_of_mem a hb, hbc⟩

lemma lowerAfter_ne_nil {w : List Char} (h : w ≠ []) (before : List Char) :
    lowerAfter before w ≠ [] := by
  cases w with
  | nil => exact absurd rfl h
  | cons a rest =>
    obtain ⟨d, ds, hlower, -⟩ := lowerAfter_cons before a rest
    rw [hlower]
    exact List.cons_ne_nil _ _

lemma lowerFirst_of_all {w : List Char} (hw : w.all fun c => !isLowercase c) :
    lowerFirst w = lowerAfter [] w := by
  unfold lowerFirst
  rw [if_pos hw]

lemma cased_of_mem_lowerFirst {w : List Char} {c : Char} (h : c ∈ lowerFirst w) :
    ∃ a ∈ w, Cased a c := by
  by_cases hw : w.all fun c => !isLowercase c
  · rw [lowerFirst_of_all hw] at h
    exact cased_of_mem_lowerAfter h
  · cases w with
    | nil => exact absurd rfl hw
    | cons a rest =>
      rw [lowerFirst_cons hw, List.mem_append] at h
      rcases h with h | h
      · exact ⟨a, List.mem_cons_self, .lower h⟩
      · exact ⟨c, List.mem_cons_of_mem a h, .refl c⟩

lemma lowerFirst_ne_nil {w : List Char} (h : w ≠ []) : lowerFirst w ≠ [] := by
  by_cases hw : w.all fun c => !isLowercase c
  · rw [lowerFirst_of_all hw]
    exact lowerAfter_ne_nil h []
  · cases w with
    | nil => exact absurd rfl h
    | cons a rest =>
      rw [lowerFirst_cons hw]
      exact List.append_ne_nil_of_left_ne_nil (lowerOf_ne_nil a) rest

lemma cased_of_mem_upperFirst_lowerAfter {w : List Char} (hw : ∀ a ∈ w, isAlphanumeric a)
    {c : Char} (h : c ∈ upperFirst (lowerAfter [] w)) :
    ∃ a ∈ w, ∃ e, isAlphanumeric e ∧ Cased a e ∧ Cased e c := by
  cases w with
  | nil => cases h
  | cons a rest =>
    obtain ⟨d, ds, hlower, hcased, hd⟩ := lowerAfter_cons [] a rest
    rw [hlower, List.cons_append, upperFirst, List.mem_append] at h
    rcases h with h | h
    · exact ⟨a, List.mem_cons_self, d, hd (hw a List.mem_cons_self),
        hcased d List.mem_cons_self, .upper h⟩
    · have hmem : c ∈ lowerAfter [] (a :: rest) := by
        rw [hlower]
        exact List.mem_cons_of_mem d h
      obtain ⟨b, hb, hbc⟩ := cased_of_mem_lowerAfter hmem
      exact ⟨b, hb, b, hw b hb, .refl b, hbc⟩

/-- Words in one text, each after the first with a capital. -/
def capitalized : List (List Char) → List Char
  | [] => []
  | w :: ws => w ++ ws.flatMap upperFirst

lemma constantChars_eq (cs : List Char) :
    constantChars cs = escaped (capitalized ((splitWords cs).map (lowerAfter []))) := by
  unfold constantChars
  cases splitWords cs <;> rfl

lemma capitalized_eq_nil_iff {ws : List (List Char)} (h : [] ∉ ws) :
    capitalized ws = [] ↔ ws = [] := by
  cases ws with
  | nil => simp [capitalized]
  | cons w ws =>
    have hw : w ≠ [] := fun hw => h (hw ▸ List.mem_cons_self)
    simp [capitalized, hw]

/-- Characters that stand in the names that are made of a text: its letters and digits, and their
cases. -/
def Made (cs : List Char) (c : Char) : Prop :=
  ∃ a ∈ cs, isAlphanumeric a ∧ ∃ e, isAlphanumeric e ∧ Cased a e ∧ Cased e c

lemma made_of_cased {cs : List Char} {w : List Char} (hw : w ∈ splitWords cs) {c : Char}
    (h : ∃ a ∈ w, Cased a c) : Made cs c := by
  obtain ⟨a, ha, hac⟩ := h
  obtain ⟨hmem, hkept⟩ := mem_of_mem_splitWords hw ha
  exact ⟨a, hmem, hkept, a, hkept, .refl a, hac⟩

lemma made_of_mem_joinedWords {cs : List Char} {c : Char} (h : c ∈ joinedWords (splitWords cs)) :
    Made cs c := by
  cases hws : splitWords cs with
  | nil => simp [hws, joinedWords] at h
  | cons w ws =>
    rw [hws, joinedWords, List.mem_append, List.mem_flatMap] at h
    rcases h with h | ⟨v, hv, h⟩
    · exact made_of_cased (hws ▸ List.mem_cons_self) (cased_of_mem_lowerFirst h)
    · exact made_of_cased (hws ▸ List.mem_cons_of_mem w hv) (cased_of_mem_upperFirst h)

lemma made_of_mem_constant {cs : List Char} {c : Char}
    (h : c ∈ capitalized ((splitWords cs).map (lowerAfter []))) : Made cs c := by
  cases hws : splitWords cs with
  | nil => simp [hws, capitalized] at h
  | cons w ws =>
    rw [hws, List.map_cons, capitalized, List.mem_append, List.mem_flatMap] at h
    rcases h with h | ⟨v, hv, h⟩
    · exact made_of_cased (hws ▸ List.mem_cons_self) (cased_of_mem_lowerAfter h)
    · obtain ⟨u, hu, rfl⟩ := List.mem_map.mp hv
      have hword : u ∈ splitWords cs := hws ▸ List.mem_cons_of_mem w hu
      obtain ⟨a, ha, hmade⟩ := cased_of_mem_upperFirst_lowerAfter
        (fun a ha => (mem_of_mem_splitWords hword ha).2) h
      obtain ⟨hmem, hkept⟩ := mem_of_mem_splitWords hword ha
      exact ⟨a, hmem, hkept, hmade⟩

/-- The underscore, letters and digits, and what belongs to the cases of one of them. -/
def IsNameChar (c : Char) : Prop := c = '_' ∨ ∃ a, isAlphanumeric a ∧ Cased a c

/-- A text that names something in Swift. -/
structure IsSwiftName (text : String) : Prop where
  ne_empty : text ≠ ""
  not_digit : startsWithDigit text.toList = false
  form : text = "_" ∨ (∃ word ∈ reservedWords, text = "\x60" ++ word ++ "\x60") ∨
    text ∉ reservedWords ∧ ∀ c ∈ text.toList, IsNameChar c

/-- A letter of ASCII or an underscore, and then such characters and digits. -/
def IsAsciiName (cs : List Char) : Prop :=
  ∃ c rest, cs = c :: rest ∧ (c.isAlpha ∨ c = '_') ∧ ∀ d ∈ rest, d.isAlphanum ∨ d = '_'

def withoutBackticks (cs : List Char) : List Char := cs.filter (· ≠ '\x60')

lemma escaped_cases (cs : List Char) :
    (cs = [] ∧ escaped cs = ['_']) ∨ (startsWithDigit cs ∧ escaped cs = '_' :: cs) ∨
      (cs ≠ [] ∧ startsWithDigit cs = false) ∧
        (String.ofList cs ∈ reservedWords ∧ escaped cs = '\x60' :: cs ++ ['\x60'] ∨
          String.ofList cs ∉ reservedWords ∧ escaped cs = cs) := by
  rw [escaped]
  split_ifs with hempty hdigit hreserved
  · exact Or.inl ⟨List.isEmpty_iff.mp hempty, rfl⟩
  · exact Or.inr (Or.inl ⟨hdigit, rfl⟩)
  all_goals
    refine Or.inr (Or.inr ⟨⟨?_, by simpa using hdigit⟩, ?_⟩)
    · simpa [List.isEmpty_iff] using hempty
  · exact Or.inl ⟨List.contains_iff_mem.mp hreserved, rfl⟩
  · exact Or.inr ⟨fun hmem => hreserved (List.contains_iff_mem.mpr hmem), rfl⟩

lemma underscore_not_mem_reservedWords {cs : List Char} (h : cs ≠ []) :
    String.ofList ('_' :: cs) ∉ reservedWords := by
  have hall : ∀ word ∈ reservedWords, word.toList.head? = some '_' → word.toList = ['_'] := by
    decide +kernel
  intro hmem
  have hword := hall _ hmem
  rw [String.toList_ofList] at hword
  exact h (List.cons.inj (hword rfl)).2

theorem isSwiftName_escaped {cs : List Char} (h : ∀ c ∈ cs, IsNameChar c) :
    IsSwiftName (String.ofList (escaped cs)) := by
  obtain ⟨-, hcs⟩ | ⟨hdigit, hcs⟩ | ⟨⟨hne, hdigit⟩, ⟨hreserved, hcs⟩ | ⟨hfree, hcs⟩⟩ :=
    escaped_cases cs
  · rw [hcs]
    exact ⟨by decide, rfl, Or.inl rfl⟩
  · have hne : cs ≠ [] := by
      rintro rfl
      cases hdigit
    rw [hcs]
    refine ⟨fun hempty => ?_, by simp [startsWithDigit], Or.inr (Or.inr ⟨?_, ?_⟩)⟩
    · simpa using congrArg String.toList hempty
    · exact underscore_not_mem_reservedWords hne
    · rw [String.toList_ofList, List.forall_mem_cons]
      exact ⟨Or.inl rfl, h⟩
  · rw [hcs]
    refine ⟨fun hempty => ?_, by simp [startsWithDigit], Or.inr (Or.inl ⟨_, hreserved, ?_⟩)⟩
    · simpa using congrArg String.toList hempty
    · apply String.toList_injective
      simp
  · rw [hcs]
    refine ⟨fun hempty => ?_, by rwa [String.toList_ofList], Or.inr (Or.inr ⟨hfree, ?_⟩)⟩
    · exact hne (by simpa using congrArg String.toList hempty)
    · rwa [String.toList_ofList]

lemma escaped_eq_underscore_iff {cs : List Char} : escaped cs = ['_'] ↔ cs = [] := by
  obtain ⟨rfl, -⟩ | ⟨-, hcs⟩ | ⟨⟨hne, -⟩, ⟨-, hcs⟩ | ⟨hfree, hcs⟩⟩ := escaped_cases cs
  · exact iff_of_true rfl rfl
  · rw [hcs, List.cons_inj_right]
  · rw [hcs]
    exact iff_of_false (by simp) hne
  · rw [hcs]
    refine iff_of_false ?_ hne
    rintro rfl
    exact hfree (by decide)

lemma isAsciiName_escaped {cs : List Char} (h : ∀ c ∈ cs, c.isAlphanum ∨ c = '_') :
    IsAsciiName (withoutBackticks (escaped cs)) := by
  have hbacktick : withoutBackticks cs = cs := by
    refine List.filter_eq_self.mpr fun c hc => decide_eq_true ?_
    rintro rfl
    exact absurd (h _ hc) (by decide)
  have hplain (hne : cs ≠ []) (hdigit : startsWithDigit cs = false) : IsAsciiName cs := by
    obtain ⟨c, rest, rfl⟩ := List.exists_cons_of_ne_nil hne
    rw [List.forall_mem_cons] at h
    refine ⟨c, rest, rfl, h.1.imp_left fun hc => ?_, h.2⟩
    rw [Char.isAlphanum, Bool.or_eq_true] at hc
    exact hc.resolve_right (by simpa [startsWithDigit] using hdigit)
  obtain ⟨-, hcs⟩ | ⟨-, hcs⟩ | ⟨⟨hne, hdigit⟩, ⟨-, hcs⟩ | ⟨-, hcs⟩⟩ := escaped_cases cs
  · rw [hcs]
    exact ⟨'_', [], rfl, Or.inr rfl, List.forall_mem_nil _⟩
  · have hunderscore : withoutBackticks ('_' :: cs) = '_' :: withoutBackticks cs :=
      List.filter_cons_of_pos (by decide)
    rw [hcs, hunderscore, hbacktick]
    exact ⟨'_', cs, rfl, Or.inr rfl, h⟩
  · have hquoted : withoutBackticks ('\x60' :: cs ++ ['\x60']) = withoutBackticks cs := by
      simp [withoutBackticks]
    rw [hcs, hquoted, hbacktick]
    exact hplain hne hdigit
  · rw [hcs, hbacktick]
    exact hplain hne hdigit

lemma Made.isNameChar {cs : List Char} {c : Char} (h : Made cs c) : IsNameChar c := by
  obtain ⟨-, -, -, e, he, -, hec⟩ := h
  exact Or.inr ⟨e, he, hec⟩

lemma Made.isAlphanum {cs : List Char} (hcs : ∀ a ∈ cs, a.toNat < 128) {c : Char} (h : Made cs c) :
    c.isAlphanum := by
  obtain ⟨a, ha, hkept, e, -, hae, hec⟩ := h
  exact hec.isAlphanum (hae.isAlphanum (isAlphanum_of_ascii (hcs a ha) hkept))

/-- What the characters of a name become before they are escaped: its words put together in one way
or another, or the characters with underscores for those that are no letters or digits. -/
def unescaped : EnumStyle → List Char → List Char
  | .constant, cs => capitalized ((splitWords cs).map (lowerAfter []))
  | .camelCase, cs => joinedWords (splitWords cs)
  | .preserve, cs => cs.map fun c => if isAlphanumeric c then c else '_'

lemma memberName_eq (style : EnumStyle) (name : String) :
    memberName style name = String.ofList (escaped (unescaped style name.toList)) := by
  cases style with
  | constant => exact congrArg String.ofList (constantChars_eq name.toList)
  | camelCase => exact congrArg String.ofList (identifierChars_eq name.toList)
  | preserve => rfl

lemma made_of_mem_unescaped {style : EnumStyle} {cs : List Char} {c : Char}
    (h : c ∈ unescaped style cs) : Made cs c ∨ style = .preserve ∧ c = '_' := by
  cases style with
  | constant => exact Or.inl (made_of_mem_constant h)
  | camelCase => exact Or.inl (made_of_mem_joinedWords h)
  | preserve =>
    obtain ⟨a, ha, rfl⟩ := List.mem_map.mp h
    by_cases hkept : isAlphanumeric a
    · rw [if_pos hkept]
      exact Or.inl ⟨a, ha, hkept, a, hkept, .refl a, .refl a⟩
    · exact Or.inr ⟨rfl, if_neg hkept⟩

/-- Identifiers and constants are called like enum members of a style. -/
lemma exists_style {name text : String} (h : text = identifier name ∨
    text = constantName name ∨ ∃ style, text = memberName style name) :
    ∃ style, text = memberName style name := by
  rcases h with rfl | rfl | h
  · exact ⟨.camelCase, rfl⟩
  · exact ⟨.constant, rfl⟩
  · exact h

lemma joinedWords_eq_nil_iff {ws : List (List Char)} (h : [] ∉ ws) :
    joinedWords ws = [] ↔ ws = [] := by
  cases ws with
  | nil => simp [joinedWords]
  | cons w ws =>
    have hw : w ≠ [] := fun hw => h (hw ▸ List.mem_cons_self)
    simp [joinedWords, lowerFirst_ne_nil hw]

lemma ofList_escaped_eq_underscore_iff {cs : List Char} :
    String.ofList (escaped cs) = "_" ↔ cs = [] := by
  rw [← escaped_eq_underscore_iff]
  exact String.ofList_inj

/-- Whatever the characters of a name are, it makes identifiers, constants and enum members that can
be written in Swift, and in ASCII if the name is. An identifier or constant is an underscore if the
name has no letters and digits, and only then. -/
theorem names_isSwiftName (name : String) :
    (∀ text, (text = identifier name ∨ text = constantName name ∨
        ∃ style, text = memberName style name) →
      IsSwiftName text ∧ ((∀ c ∈ name.toList, c.toNat < 128) →
        IsAsciiName (withoutBackticks text.toList))) ∧
      (identifier name = "_" ↔ ∀ c ∈ name.toList, isAlphanumeric c = false) ∧
      (constantName name = "_" ↔ ∀ c ∈ name.toList, isAlphanumeric c = false) := by
  have hnil := nil_not_mem_splitWords name.toList
  refine ⟨fun text htext => ?_, ?_, ?_⟩
  · obtain ⟨style, rfl⟩ := exists_style htext
    rw [memberName_eq]
    refine ⟨isSwiftName_escaped fun c hc => ?_, fun hascii => ?_⟩
    · exact (made_of_mem_unescaped hc).elim Made.isNameChar fun h => Or.inl h.2
    · rw [String.toList_ofList]
      exact isAsciiName_escaped fun c hc =>
        (made_of_mem_unescaped hc).imp (Made.isAlphanum hascii) And.right
  · rw [identifier, identifierChars_eq, ofList_escaped_eq_underscore_iff,
      joinedWords_eq_nil_iff hnil, splitWords_eq_nil_iff]
  · have hlowered : [] ∉ (splitWords name.toList).map (lowerAfter []) := by
      rw [List.mem_map]
      rintro ⟨w, hw, hlower⟩
      exact lowerAfter_ne_nil (fun h => hnil (h ▸ hw)) [] hlower
    rw [constantName, constantChars_eq, ofList_escaped_eq_underscore_iff,
      capitalized_eq_nil_iff hlowered, List.map_eq_nil_iff, splitWords_eq_nil_iff]

example : identifier "ΟΔΌΣ_de" = "οδόςDe" ∧ constantName "İD-CARD" = "i̇dCard" ∧
    memberName .preserve "-" = "\x60_\x60" := by
  decide +kernel

end SwiftClient.Naming
