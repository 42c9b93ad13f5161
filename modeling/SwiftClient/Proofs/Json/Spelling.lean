import Mathlib.Data.List.Basic
import SwiftClient.Json.Draft

/-!
# Lexemes of drafts

A text that is JSON throughout consists of the lexemes of its draft. The containers that are open
at some point of the text, with the members read so far, tell all lexemes before that point.
-/
namespace SwiftClient.Json.Draft

mutual

/-- The lexemes of a text that has the draft. -/
def lexemes : Draft → List Lexeme
  | .null => [.null]
  | .bool b => [.bool b]
  | .number n => [.number n]
  | .string s => [.string s]
  | .array items _ => .openArray :: lexemesOfItems items ++ [.closeArray]
  | .object fields _ => .openObject :: lexemesOfFields fields ++ [.closeObject]
  | .fault => [.fault]

def lexemesOfItems : List Draft → List Lexeme
  | [] => []
  | [item] => lexemes item
  | item :: next :: rest => lexemes item ++ .comma :: lexemesOfItems (next :: rest)

def lexemesOfFields : List (Option String × Draft) → List Lexeme
  | [] => []
  | [(key, value)] => .string key :: .colon :: lexemes value
  | (key, value) :: next :: rest =>
    .string key :: .colon :: lexemes value ++ .comma :: lexemesOfFields (next :: rest)

end

def doneItems (items : List Draft) : List Lexeme := items.flatMap fun d => d.lexemes ++ [.comma]

def doneFields (fields : List (Option String × Draft)) : List Lexeme :=
  fields.flatMap fun f => .string f.1 :: .colon :: f.2.lexemes ++ [.comma]

lemma lexemesOfItems_concat (items : List Draft) (last : Draft) :
    lexemesOfItems (items ++ [last]) = doneItems items ++ last.lexemes := by
  induction items with
  | nil => rfl
  | cons item rest ih =>
    have hcons : lexemesOfItems (item :: (rest ++ [last])) =
        item.lexemes ++ .comma :: lexemesOfItems (rest ++ [last]) := by
      cases rest <;> rfl
    rw [List.cons_append, hcons, ih]
    simp [doneItems]

lemma lexemesOfFields_concat (fields : List (Option String × Draft)) (key : Option String)
    (last : Draft) : lexemesOfFields (fields ++ [(key, last)]) =
      doneFields fields ++ .string key :: .colon :: last.lexemes := by
  induction fields with
  | nil => rfl
  | cons field rest ih =>
    have hcons : lexemesOfFields (field :: (rest ++ [(key, last)])) =
        .string field.1 :: .colon :: field.2.lexemes ++
          .comma :: lexemesOfFields (rest ++ [(key, last)]) := by
      cases rest <;> rfl
    rw [List.cons_append, hcons, ih]
    simp [doneFields]

lemma areWhole_iff {items : List Draft} : areWhole items ↔ ∀ d ∈ items, d.isWhole := by
  induction items with
  | nil => simp [areWhole]
  | cons item rest ih => simp [areWhole, ih]

lemma fieldsAreWhole_iff {fields : List (Option String × Draft)} :
    fieldsAreWhole fields ↔ ∀ f ∈ fields, f.2.isWhole := by
  induction fields with
  | nil => simp [fieldsAreWhole]
  | cons field rest ih => rw [fieldsAreWhole, Bool.and_eq_true, ih, List.forall_mem_cons]

namespace Frame

def lexemes : Frame → List Lexeme
  | .items done => .openArray :: doneItems done.reverse
  | .fields done key => .openObject :: doneFields done.reverse ++ [.string key, .colon]

def Whole : Frame → Prop
  | .items done => ∀ d ∈ done, d.isWhole
  | .fields done _ => ∀ f ∈ done, f.2.isWhole

/-- What has been read when these containers are open, the inmost one first. -/
structure AreRead (frames : List Frame) (read : List Lexeme) : Prop where
  whole : ∀ f ∈ frames, f.Whole
  lexemes : read = frames.reverse.flatMap Frame.lexemes

end Frame

namespace Progress

/-- What has been read when this is the progress, unless it has come to an end. -/
def Reads (read : List Lexeme) : Progress → Prop
  | .wantValue frames => Frame.AreRead frames read
  | .wantItem frames => ∃ before, Frame.AreRead frames before ∧ read = before ++ [.openArray]
  | .wantField frames => ∃ before, Frame.AreRead frames before ∧ read = before ++ [.openObject]
  | .wantKey done frames => ∃ before, Frame.AreRead frames before ∧ (∀ f ∈ done, f.2.isWhole) ∧
      read = before ++ .openObject :: doneFields done.reverse
  | .wantColon done key frames => ∃ before, Frame.AreRead frames before ∧
      (∀ f ∈ done, f.2.isWhole) ∧
      read = before ++ .openObject :: doneFields done.reverse ++ [.string key]
  | .afterValue value frames => ∃ before, Frame.AreRead frames before ∧ value.isWhole ∧
      read = before ++ value.lexemes
  | .ended _ => True

lemma reads_abandon (read : List Lexeme) (value : Draft) (frames : List Frame) :
    (abandon value frames).Reads read := by
  induction frames generalizing value with
  | nil => trivial
  | cons frame frames ih =>
    cases frame with
    | items done => exact ih _
    | fields done key => exact ih _

variable {read : List Lexeme} {frames : List Frame}

lemma reads_stepValue (h : Frame.AreRead frames read) (lexeme : Lexeme) :
    (stepValue frames lexeme).Reads (read ++ [lexeme]) := by
  cases lexeme with
  | null | bool | number | string => exact ⟨read, h, rfl, rfl⟩
  | openArray | openObject => exact ⟨read, h, rfl⟩
  | closeArray | closeObject | comma | colon | fault => exact reads_abandon _ _ _

lemma reads_stepAfter {value : Draft} (h : (afterValue value frames).Reads read)
    (lexeme : Lexeme) : (stepAfter value frames lexeme).Reads (read ++ [lexeme]) := by
  obtain ⟨before, ⟨whole, rfl⟩, hvalue, rfl⟩ := h
  cases frames with
  | nil => trivial
  | cons frame frames =>
    rw [List.forall_mem_cons] at whole
    cases frame with
    | items done =>
      have hdone : ∀ d ∈ value :: done, d.isWhole := List.forall_mem_cons.mpr ⟨hvalue, whole.1⟩
      cases lexeme with
      | comma =>
        refine ⟨List.forall_mem_cons.mpr ⟨hdone, whole.2⟩, ?_⟩
        simp [Frame.lexemes, doneItems]
      | closeArray =>
        refine ⟨_, ⟨whole.2, rfl⟩, ?_, ?_⟩
        · rw [isWhole, Bool.true_and, areWhole_iff]
          exact fun d hd => hdone d (List.mem_reverse.mp hd)
        · simp [Frame.lexemes, Draft.lexemes, lexemesOfItems_concat]
      | openArray | openObject | closeObject | colon | null | bool | number | string | fault =>
        exact reads_abandon _ _ _
    | fields done key =>
      have hdone : ∀ f ∈ (key, value) :: done, f.2.isWhole :=
        List.forall_mem_cons.mpr ⟨hvalue, whole.1⟩
      cases lexeme with
      | comma =>
        refine ⟨_, ⟨whole.2, rfl⟩, hdone, ?_⟩
        simp [Frame.lexemes, doneFields]
      | closeObject =>
        refine ⟨_, ⟨whole.2, rfl⟩, ?_, ?_⟩
        · rw [isWhole, Bool.true_and, fieldsAreWhole_iff]
          exact fun f hf => hdone f (List.mem_reverse.mp hf)
        · simp [Frame.lexemes, Draft.lexemes, lexemesOfFields_concat]
      | openArray | openObject | closeArray | colon | null | bool | number | string | fault =>
        exact reads_abandon _ _ _

/-- One more lexeme has been read after each step. -/
theorem reads_step {progress : Progress} (h : progress.Reads read) (lexeme : Lexeme) :
    (progress.step lexeme).Reads (read ++ [lexeme]) := by
  cases progress with
  | wantValue frames => exact reads_stepValue h lexeme
  | wantItem frames =>
    obtain ⟨before, ⟨whole, rfl⟩, rfl⟩ := h
    by_cases hend : lexeme = .closeArray
    · subst hend
      exact ⟨_, ⟨whole, rfl⟩, rfl, by simp [Draft.lexemes, lexemesOfItems]⟩
    · have hstep : (wantItem frames).step lexeme = stepValue (.items [] :: frames) lexeme := by
        cases lexeme <;> first | rfl | exact absurd rfl hend
      rw [hstep]
      refine reads_stepValue ⟨List.forall_mem_cons.mpr ⟨by simp [Frame.Whole], whole⟩, ?_⟩ lexeme
      simp [Frame.lexemes, doneItems]
  | wantField frames =>
    obtain ⟨before, hbefore, rfl⟩ := h
    cases lexeme with
    | string key => exact ⟨before, hbefore, by simp, by simp [doneFields]⟩
    | closeObject => exact ⟨before, hbefore, rfl, by simp [Draft.lexemes, lexemesOfFields]⟩
    | openArray | openObject | closeArray | comma | colon | null | bool | number | fault =>
      exact reads_abandon _ _ _
  | wantKey done frames =>
    obtain ⟨before, hbefore, hdone, rfl⟩ := h
    cases lexeme with
    | string key => exact ⟨before, hbefore, hdone, rfl⟩
    | openArray | openObject | closeArray | closeObject | comma | colon | null | bool | number
    | fault => exact reads_abandon _ _ _
  | wantColon done key frames =>
    obtain ⟨before, ⟨whole, rfl⟩, hdone, rfl⟩ := h
    cases lexeme with
    | colon =>
      refine ⟨List.forall_mem_cons.mpr ⟨hdone, whole⟩, ?_⟩
      simp [Frame.lexemes]
    | openArray | openObject | closeArray | closeObject | comma | null | bool | number | string
    | fault => exact reads_abandon _ _ _
  | afterValue value frames => exact reads_stepAfter h lexeme
  | ended value => trivial

lemma reads_foldl {progress : Progress} (h : progress.Reads read) (more : List Lexeme) :
    (more.foldl step progress).Reads (read ++ more) := by
  induction more generalizing progress read with
  | nil => rwa [List.append_nil]
  | cons lexeme rest ih =>
    have hrest := ih (reads_step h lexeme)
    rwa [List.append_assoc] at hrest

lemma finish_eq_clean {progress : Progress} {d : Draft} (h : progress.finish = (d, true)) :
    progress = .afterValue d [] := by
  unfold finish at h
  split at h
  · cases h
    rfl
  · split at h <;> cases h

end Progress

open Progress

lemma lexemes_eq_cons {d : Draft} (h : d.isWhole) :
    ∃ first rest, d.lexemes = first :: rest ∧ first ≠ .closeArray := by
  cases d with
  | fault => cases h
  | null | bool | number | string | array | object => exact ⟨_, _, rfl, nofun⟩

lemma foldl_wantItem (frames : List Frame) {item : Draft} (h : item.isWhole) (rest : List Draft)
    (after : List Lexeme) :
    (lexemesOfItems (item :: rest) ++ after).foldl step (.wantItem frames) =
      (lexemesOfItems (item :: rest) ++ after).foldl step (.wantValue (.items [] :: frames)) := by
  obtain ⟨first, others, hitem, hfirst⟩ := lexemes_eq_cons h
  have hstep : step (.wantItem frames) first = step (.wantValue (.items [] :: frames)) first := by
    cases first <;> first | rfl | exact absurd rfl hfirst
  cases rest <;>
    simp only [lexemesOfItems, hitem, List.cons_append, List.foldl_cons, hstep]

lemma foldl_wantField (frames : List Frame) (field : Option String × Draft)
    (rest : List (Option String × Draft)) (after : List Lexeme) :
    (lexemesOfFields (field :: rest) ++ after).foldl step (.wantField frames) =
      (lexemesOfFields (field :: rest) ++ after).foldl step (.wantKey [] frames) := by
  cases rest <;> rfl

mutual

/-- A value that is wanted is read with its last lexeme. -/
theorem foldl_lexemes : ∀ (d : Draft), d.isWhole → ∀ frames : List Frame,
    d.lexemes.foldl step (.wantValue frames) = .afterValue d frames
  | .null, _, _ => rfl
  | .bool _, _, _ => rfl
  | .number _, _, _ => rfl
  | .string _, _, _ => rfl
  | .array [] true, _, _ => rfl
  | .array (item :: rest) true, h, frames => by
    rw [isWhole, Bool.true_and] at h
    have hitems := foldl_lexemesOfItems (item :: rest) h (by simp) [] frames
    rw [← foldl_wantItem frames (areWhole_iff.mp h item List.mem_cons_self)] at hitems
    rw [lexemes, List.cons_append, List.foldl_cons, step, stepValue, hitems]
    rfl
  | .object [] true, _, _ => rfl
  | .object (field :: rest) true, h, frames => by
    rw [isWhole, Bool.true_and] at h
    have hfields := foldl_lexemesOfFields (field :: rest) h (by simp) [] frames
    rw [← foldl_wantField] at hfields
    rw [lexemes, List.cons_append, List.foldl_cons, step, stepValue, hfields]
    rfl

theorem foldl_lexemesOfItems : ∀ (items : List Draft), areWhole items → items ≠ [] →
    ∀ (done : List Draft) (frames : List Frame),
      (lexemesOfItems items ++ [Lexeme.closeArray]).foldl step
          (.wantValue (.items done :: frames)) =
        .afterValue (.array (done.reverse ++ items) true) frames
  | [], _, h, _, _ => absurd rfl h
  | [item], h, _, done, frames => by
    rw [areWhole, Bool.and_eq_true] at h
    rw [lexemesOfItems, List.foldl_append, foldl_lexemes item h.1]
    simp [step, stepAfter]
  | item :: next :: rest, h, _, done, frames => by
    rw [areWhole, Bool.and_eq_true] at h
    have hrest := foldl_lexemesOfItems (next :: rest) h.2 (by simp) (item :: done) frames
    rw [lexemesOfItems, List.append_assoc, List.foldl_append, foldl_lexemes item h.1,
      List.cons_append, List.foldl_cons, step, stepAfter, hrest]
    simp

theorem foldl_lexemesOfFields : ∀ (fields : List (Option String × Draft)), fieldsAreWhole fields →
    fields ≠ [] → ∀ (done : List (Option String × Draft)) (frames : List Frame),
      (lexemesOfFields fields ++ [Lexeme.closeObject]).foldl step (.wantKey done frames) =
        .afterValue (.object (done.reverse ++ fields) true) frames
  | [], _, h, _, _ => absurd rfl h
  | [(key, value)], h, _, done, frames => by
    rw [fieldsAreWhole, Bool.and_eq_true] at h
    rw [lexemesOfFields, List.cons_append, List.cons_append, List.foldl_cons, List.foldl_cons,
      List.foldl_append, step, step, foldl_lexemes value h.1]
    simp [step, stepAfter]
  | (key, value) :: next :: rest, h, _, done, frames => by
    rw [fieldsAreWhole, Bool.and_eq_true] at h
    have hrest := foldl_lexemesOfFields (next :: rest) h.2 (by simp) ((key, value) :: done) frames
    have hlexemes : lexemesOfFields ((key, value) :: next :: rest) ++ [Lexeme.closeObject] =
        .string key :: .colon :: (value.lexemes ++
          .comma :: (lexemesOfFields (next :: rest) ++ [Lexeme.closeObject])) := by
      simp only [lexemesOfFields, List.cons_append, List.append_assoc]
    rw [hlexemes, List.foldl_cons, List.foldl_cons, List.foldl_append, step, step,
      foldl_lexemes value h.1, List.foldl_cons, step, stepAfter, hrest]
    simp

end

/-- A text is JSON throughout, with nothing after it, when it consists of the lexemes of its
draft. -/
theorem ofText_eq_clean_iff {text : String} {d : Draft} :
    ofText text = (d, true) ↔ d.isWhole ∧ Lexeme.ofText text = d.lexemes := by
  constructor
  · intro h
    have hstart : (wantValue []).Reads [] := ⟨by simp, rfl⟩
    have hend := reads_foldl hstart (Lexeme.ofText text)
    rw [finish_eq_clean h] at hend
    obtain ⟨before, ⟨-, rfl⟩, whole, hread⟩ := hend
    exact ⟨whole, hread⟩
  · rintro ⟨whole, hlexemes⟩
    rw [ofText, hlexemes, foldl_lexemes d whole]
    rfl

end SwiftClient.Json.Draft
