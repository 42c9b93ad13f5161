import SwiftClient.Proofs.Code.StringLiterals
import SwiftClient.Proofs.Literal.Contexts

/-!
# Texts in literals

The literal of a text has one string literal in it. Where the text is escaped it is decoded to that
text, whatever its characters are. Dates and times are put between quotes as they are, and survive
only if there is nothing in them to escape.
-/
namespace SwiftClient

open CodeReader (stringLiterals needsEscape)

/-- Classifications whose literals are made of a text between quotes. -/
def Classification.isText : Classification → Bool
  | string | date | time | dateTime | binary => true
  | integer | number | boolean | file | any | array | map | object | enum | oneOf | interface
  | hierarchy | wrapper => false

namespace Literal

lemma escapeChars_cons (c : Char) (cs : List Char) :
    escapeChars (c :: cs) = escapeChars [c] ++ escapeChars cs := by
  simp only [escapeChars, replaceChar, List.flatMap_cons, List.flatMap_append, List.flatMap_nil,
    List.append_nil]

lemma escapeChars_of_not_needsEscape {c : Char} (h : ¬needsEscape c) : escapeChars [c] = [c] := by
  simp only [needsEscape, Bool.or_eq_true, decide_eq_true_eq, not_or] at h
  obtain ⟨⟨⟨hquote, hbackslash⟩, hfeed⟩, hreturn⟩ := h
  simp [escapeChars, replaceChar, hquote, hbackslash, hfeed, hreturn]

lemma run_escapeChar (found : List (List Char)) (text : List Char) (c : Char) :
    (escapeChars [c]).foldlM CodeReader.step ⟨found, .inside text⟩ =
      some ⟨found, .inside (text ++ [c])⟩ := by
  by_cases hc : needsEscape c
  · simp only [needsEscape, Bool.or_eq_true, decide_eq_true_eq] at hc
    rcases hc with ((rfl | rfl) | rfl) | rfl
    all_goals rfl
  · rw [escapeChars_of_not_needsEscape hc, List.foldlM_cons, CodeReader.step_of_not_needsEscape hc]
    rfl

theorem run_escapeChars (found : List (List Char)) (text cs : List Char) :
    (escapeChars cs).foldlM CodeReader.step ⟨found, .inside text⟩ =
      some ⟨found, .inside (text ++ cs)⟩ := by
  induction cs generalizing text with
  | nil =>
    rw [List.append_nil]
    rfl
  | cons c cs ih =>
    rw [escapeChars_cons, List.foldlM_append, run_escapeChar]
    refine (ih (text ++ [c])).trans ?_
    rw [List.append_assoc]
    rfl

namespace TextForm

/-- The forms that escape their text. -/
def escapes : TextForm → Bool
  | data | plain => true
  | date | time | dateTime => false

def before : TextForm → String
  | date => "DateFormatter.ISO8601DATE.date(from: "
  | time => "DateFormatter.ISO8601TIME.date(from: "
  | dateTime => "DateFormatter.ISO8601DATETIME.date(from: "
  | data | plain => ""

def after : TextForm → String
  | date | time | dateTime => ")"
  | data => ".data(using: .utf8)!"
  | plain => ""

def body (text : String) (form : TextForm) : String := if form.escapes then escape text else text

lemma write_eq (text : String) (form : TextForm) :
    form.write text = form.before ++ "\"" ++ form.body text ++ "\"" ++ form.after := by
  cases form with
  | date | time | dateTime =>
    have hclose (code : String) : code ++ "\"" ++ ")" = code ++ "\")" := String.append_assoc
    exact (hclose _).symm
  | data | plain =>
    simp only [write, stringLiteral, before, body, escapes, if_true, after, String.empty_append,
      String.append_empty]

lemma isPlain_before (form : TextForm) : ∀ c ∈ form.before.toList, CodeReader.isPlain c := by
  have hall : form.before.toList.all CodeReader.isPlain := by cases form <;> rfl
  exact List.all_eq_true.mp hall

lemma isPlain_after (form : TextForm) : ∀ c ∈ form.after.toList, CodeReader.isPlain c := by
  have hall : form.after.toList.all CodeReader.isPlain := by cases form <;> rfl
  exact List.all_eq_true.mp hall

/-- The string literal of a form is the only one and stands for its text, if the form escapes the
text or there is nothing to escape, and only then. -/
theorem stringLiterals_write_iff (text : String) (form : TextForm) :
    stringLiterals (form.write text) = some [text] ↔
      form.escapes ∨ ∀ c ∈ text.toList, ¬needsEscape c := by
  rw [write_eq, body]
  by_cases hform : form.escapes
  · rw [if_pos hform]
    refine iff_of_true ?_ (Or.inl hform)
    have hrun : (escape text).toList.foldlM CodeReader.step ⟨[], .inside []⟩ =
        some ⟨[], .inside text.toList⟩ := by
      rw [escape, String.toList_ofList]
      exact run_escapeChars [] [] text.toList
    rw [CodeReader.stringLiterals_of_run form.isPlain_before form.isPlain_after hrun,
      String.ofList_toList]
  · rw [if_neg hform, CodeReader.stringLiterals_quoted_iff form.isPlain_before form.isPlain_after]
    exact (or_iff_right hform).symm

end TextForm

variable {ctx : LiteralContext} {value : Json}

lemma exists_scalarText (c : Classification) (hnull : value ≠ .null)
    (hscalar : ¬value.isContainer) : ∃ text, scalarText c value = .ok text := by
  cases value with
  | string | number | bool => exact ⟨_, rfl⟩
  | null => exact absurd rfl hnull
  | array | object => exact absurd rfl hscalar

lemma ofValue_of_isText (style : Naming.EnumStyle) (hctx : ctx.classification.isText)
    (hnull : value ≠ .null) {text : String}
    (htext : scalarText ctx.classification value = .ok text) :
    ofValue style ctx (some value) =
      pure (some ((TextForm.of ctx.classification ctx.format).write text)) := by
  rw [ofValue, write_of_ne_null hnull]
  obtain ⟨c, format, type, required, nullable, component⟩ := ctx
  cases c with
  | string | date | time | dateTime | binary =>
    simp only [writeWith, htext]
    rfl
  | integer | number | boolean | file | any | array | map | object | enum | oneOf | interface
  | hierarchy | wrapper => cases hctx

/-- Where a text is expected, every string, number and boolean has a literal. It has just one string
literal in it, which is decoded to the text of the value, if the form escapes texts or there is
nothing to escape, and only then. -/
theorem stringLiterals_ofValue_iff (style : Naming.EnumStyle)
    (hctx : ctx.classification.isText) (hnull : value ≠ .null) (hscalar : ¬value.isContainer) :
    ∃ text literal, scalarText ctx.classification value = .ok text ∧
      ofValue style ctx (some value) = pure (some literal) ∧
      (stringLiterals literal = some [text] ↔
        (TextForm.of ctx.classification ctx.format).escapes ∨
          ∀ c ∈ text.toList, ¬needsEscape c) := by
  obtain ⟨text, htext⟩ := exists_scalarText ctx.classification hnull hscalar
  exact ⟨text, _, htext, ofValue_of_isText style hctx hnull htext,
    TextForm.stringLiterals_write_iff text _⟩

/-- A date can end its literal early and go on with code of its own. -/
theorem stringLiterals_intrusion :
    ∃ ctx, (TypeUsage.scalar .date none).literalContext (some "Api") "Shoe" true = .ok ctx ∧
      ofValue .constant ctx (some (.string "\") ?? exit(\"")) =
        pure (some "DateFormatter.ISO8601DATE.date(from: \"\") ?? exit(\"\")") ∧
      stringLiterals "DateFormatter.ISO8601DATE.date(from: \"\") ?? exit(\"\")" =
        some ["", ""] :=
  ⟨_, rfl, rfl, rfl⟩

theorem stringLiterals_ofValue_iff_lines :
    let ctx : LiteralContext := { classification := .binary, type := .named "Data" }
    let text := "a \"\\\"\r\nb"
    ∃ literal, ofValue .constant ctx (some (.string text)) = pure (some literal) ∧
      stringLiterals literal = some [text] := by
  intro ctx text
  have hctx : ctx.classification.isText := rfl
  have hnull : Json.string text ≠ .null := nofun
  have hscalar : ¬(Json.string text).isContainer := nofun
  obtain ⟨text', literal, htext, hliteral, hread⟩ :=
    stringLiterals_ofValue_iff .constant hctx hnull hscalar
  obtain rfl : text = text' := Except.ok.inj htext
  exact ⟨literal, hliteral, hread.mpr (Or.inl rfl)⟩

end Literal

end SwiftClient
