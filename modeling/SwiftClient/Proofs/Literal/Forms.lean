import SwiftClient.Proofs.Literal.Escaping

/-!
# Forms of texts and their types

A text becomes a string, data, a date or a time. Its type goes by the classification, its literal by
the classification or the format, and so there are formats with which the literal has another type
than the one that it is written for.
-/
namespace SwiftClient

namespace Literal.TextForm

/-- The code is a string literal with what belongs to the form around it. -/
def Shapes (form : TextForm) (code : String) : Prop :=
  ∃ body, code = form.before ++ "\"" ++ body ++ "\"" ++ form.after

def swiftType : TextForm → SwiftType
  | date => .named "LocalDate"
  | time => .named "LocalTime"
  | dateTime => .named "OffsetDateTime"
  | data => .named "Data"
  | plain => .named "String"

lemma shapes_write (text : String) (form : TextForm) : form.Shapes (form.write text) :=
  ⟨form.body text, form.write_eq text⟩

variable {form form' : TextForm} {code : String}

lemma Shapes.isPrefix (h : form.Shapes code) : form.before.toList ++ ['"'] <+: code.toList := by
  obtain ⟨body, rfl⟩ := h
  exact ⟨body.toList ++ '"' :: form.after.toList, by simp⟩

lemma Shapes.isSuffix (h : form.Shapes code) : '"' :: form.after.toList <:+ code.toList := by
  obtain ⟨body, rfl⟩ := h
  exact ⟨form.before.toList ++ '"' :: body.toList, by simp⟩

lemma Shapes.unique (h : form.Shapes code) (h' : form'.Shapes code) : form = form' := by
  have hprefix := List.prefix_or_prefix_of_prefix h.isPrefix h'.isPrefix
  have hsuffix := List.suffix_or_suffix_of_suffix h.isSuffix h'.isSuffix
  revert hprefix hsuffix
  cases form <;> cases form' <;> decide

lemma shapes_write_iff (text : String) : form'.Shapes (form.write text) ↔ form' = form := by
  constructor
  · exact fun h => h.unique (shapes_write text form)
  · rintro rfl
    exact shapes_write text form'

lemma not_shapes_nil : ¬form.Shapes "nil" := by
  intro h
  have hprefix := h.isPrefix
  revert hprefix
  cases form <;> decide

lemma swiftType_injective : Function.Injective swiftType := by
  intro form form' h
  cases form <;> cases form' <;> simp_all [swiftType]

end Literal.TextForm

open Literal (TextForm)

namespace Classification

/-- Formats that give a classification a type without literals, or literals of another type. -/
def misfits : Classification → List String
  | string => ["url", "date", "time", "date-time", "binary"]
  | time => ["date"]
  | dateTime => ["date", "time"]
  | binary => ["date", "time", "date-time"]
  | date | integer | number | boolean | file | any | array | map | object | enum | oneOf
  | interface | hierarchy | wrapper => []

def textFormats : List String := ["url", "date", "time", "date-time", "binary"]

variable {c : Classification} {f : String}

lemma isPrimitive_of_isText (h : c.isText) : c.isPrimitive := by
  cases c with
  | string | date | time | dateTime | binary | integer | number | boolean | file | any => rfl
  | array | map | object | enum | oneOf | interface | hierarchy | wrapper => cases h

lemma misfits_subset (c : Classification) : c.misfits ⊆ textFormats := by
  cases c <;> decide

lemma textForm_of_not_mem (h : f ∉ textFormats) : TextForm.of c (some f) = TextForm.of c none := by
  simp only [textFormats, List.mem_cons, List.not_mem_nil, not_or] at h
  obtain ⟨-, hdate, htime, hdateTime, hbinary, -⟩ := h
  simp [TextForm.of, hdate, htime, hdateTime, hbinary]

lemma swiftType_of_not_mem (hc : c.isText) (h : f ∉ textFormats) :
    c.swiftType (some f) = c.swiftType none := by
  cases c with
  | string =>
    have hurl : f ≠ "url" := by
      rintro rfl
      exact h (by decide)
    simp [swiftType, hurl]
  | date | time | dateTime | binary => rfl
  | integer | number | boolean | file | any | array | map | object | enum | oneOf | interface
  | hierarchy | wrapper => cases hc

/-- A text has a type with every format, and literals of that type unless the format is a misfit. -/
lemma exists_textType (hc : c.isText) (format : Option String) :
    ∃ type, c.swiftType format = .ok type ∧
      (type = (TextForm.of c format).swiftType ↔ ∀ f ∈ format, f ∉ c.misfits) := by
  have hnone : ∃ type, c.swiftType none = .ok type ∧
      type = (TextForm.of c none).swiftType := by
    cases c with
    | string | date | time | dateTime | binary => exact ⟨_, rfl, rfl⟩
    | integer | number | boolean | file | any | array | map | object | enum | oneOf | interface
    | hierarchy | wrapper => cases hc
  cases format with
  | none =>
    obtain ⟨type, htype, hform⟩ := hnone
    exact ⟨type, htype, iff_of_true hform nofun⟩
  | some f =>
    by_cases hf : f ∈ textFormats
    · simp only [textFormats, List.mem_cons, List.not_mem_nil, or_false] at hf
      cases c with
      | string | date | time | dateTime | binary =>
        rcases hf with rfl | rfl | rfl | rfl | rfl
        all_goals exact ⟨_, rfl, by decide⟩
      | integer | number | boolean | file | any | array | map | object | enum | oneOf | interface
      | hierarchy | wrapper => cases hc
    · obtain ⟨type, htype, hform⟩ := hnone
      rw [swiftType_of_not_mem hc hf, textForm_of_not_mem hf]
      refine ⟨type, htype, iff_of_true hform fun g hg hmisfit => hf ?_⟩
      obtain rfl := Option.some.inj hg
      exact misfits_subset c hmisfit

end Classification

namespace TypeUsage

variable {t : TypeUsage} {package : Option String} {value : Json}

/-- The literal of a text has the form that belongs to its classification and format, and no other.
That is the form of its type, and no other type has it, exactly if the format is no misfit. A null
has the literal nil, of no form. -/
theorem literal_form_iff (htext : t.classification.isText) (hscalar : ¬value.isContainer)
    (package : Option String) (context : String) (required : Bool) (style : Naming.EnumStyle) :
    ∃ ctx literal, t.literalContext package context required = .ok ctx ∧
      t.swiftType package context = .ok ctx.type ∧
      Literal.ofValue style ctx (some value) = pure (some literal) ∧
      (value = .null → literal = "nil" ∧ ∀ form : TextForm, ¬form.Shapes literal) ∧
      (value ≠ .null →
        (∀ form : TextForm,
          form.Shapes literal ↔ form = TextForm.of t.classification t.format) ∧
        ((∀ form : TextForm, form.Shapes literal ↔ ctx.type = form.swiftType) ↔
          ∀ f ∈ t.format, f ∉ t.classification.misfits)) := by
  obtain ⟨type, htype, hmisfits⟩ := Classification.exists_textType htext t.format
  have htyped : Typed package t type :=
    .primitive (Classification.isPrimitive_of_isText htext) htype
  obtain ⟨ctx, hctx, rfl, -, hall⟩ := htyped.exists_literalContext context required
  have hown := hall.own
  by_cases hnull : value = .null
  · subst hnull
    have hnil : Literal.ofValue style ctx (some .null) = pure (some "nil") := by
      rw [Literal.ofValue, Literal.write_null]
      rfl
    exact ⟨ctx, "nil", hctx, hown.type context, hnil,
      fun _ => ⟨rfl, fun form => TextForm.not_shapes_nil⟩, absurd rfl⟩
  · rw [← hown.classification, ← hown.format] at hmisfits ⊢
    obtain ⟨text, hscalarText⟩ := Literal.exists_scalarText ctx.classification hnull hscalar
    refine ⟨ctx, _, hctx, hown.type context,
      Literal.ofValue_of_isText style (hown.classification ▸ htext) hnull hscalarText,
      fun h => absurd h hnull, fun _ => ⟨fun form => TextForm.shapes_write_iff text, ?_⟩⟩
    rw [← hmisfits]
    simp only [TextForm.shapes_write_iff]
    constructor
    · exact fun h => (h _).mp rfl
    · intro h form
      rw [h, TextForm.swiftType_injective.eq_iff, eq_comm]

/-- The literal of a time with the format of a date is a date, but its type is that of times. -/
theorem literal_form_timeAsDate :
    ∃ ctx, (scalar .time (some "date")).literalContext (some "Api") "Shop" true = .ok ctx ∧
      ctx.type = .named "LocalTime" ∧ Literal.ofValue .constant ctx (some (.string "10:00")) =
        pure (some "DateFormatter.ISO8601DATE.date(from: \"10:00\")") ∧
      ¬TextForm.time.Shapes "DateFormatter.ISO8601DATE.date(from: \"10:00\")" := by
  refine ⟨_, rfl, rfl, rfl, fun h => ?_⟩
  have hdate := h.unique (TextForm.shapes_write "10:00" .date)
  cases hdate

theorem literal_form_iff_emptyFile :
    let file : TypeUsage := .scalar .binary (some "byte")
    ∃ ctx literal, file.literalContext (some "Api") "Shoe" false = .ok ctx ∧
      Literal.ofValue .constant ctx (some (.string "")) = pure (some literal) ∧
      ∀ form : TextForm, form.Shapes literal ↔ ctx.type = form.swiftType := by
  intro file
  have htext : file.classification.isText := rfl
  have hscalar : ¬(Json.string "").isContainer := nofun
  obtain ⟨ctx, literal, hctx, -, hliteral, -, hforms⟩ :=
    literal_form_iff htext hscalar (some "Api") "Shoe" false .constant
  exact ⟨ctx, literal, hctx, hliteral, (hforms nofun).2.mpr (by decide)⟩

end TypeUsage

end SwiftClient
