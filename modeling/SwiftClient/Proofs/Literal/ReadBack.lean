import SwiftClient.Proofs.Code.ValueLiterals
import SwiftClient.Proofs.Literal.Escaping

/-!
# Literals that are read back

Strings, integers and booleans are read back from their literals, and so are arrays of them, however
deep and whatever is missing in them. Different values have different literals.
-/
namespace SwiftClient

/-- Arrays in arrays around a leaf, to a given depth. -/
inductive LiteralContext.ArraysOver (leaf : LiteralContext → Prop) : ℕ → LiteralContext → Prop
  | leaf {ctx : LiteralContext} (kind : leaf ctx) : ArraysOver leaf 0 ctx
  | array {n : ℕ} {ctx inner : LiteralContext} (kind : ctx.classification = .array)
    (component : ctx.component = some inner) (inside : ArraysOver leaf n inner) :
    ArraysOver leaf (n + 1) ctx

/-- Lists in lists around leaves, to a given depth, with null at any place. -/
inductive Json.ListsOver (leaf : Json → Prop) : ℕ → Json → Prop
  | null (n : ℕ) : ListsOver leaf n .null
  | leaf {value : Json} (kind : leaf value) : ListsOver leaf 0 value
  | list {n : ℕ} {items : List Json} (inside : ∀ item ∈ items, ListsOver leaf n item) :
    ListsOver leaf (n + 1) (.array items)

inductive LeafKind where
  | text | integer | boolean

namespace LeafKind

/-- The contexts in which values of a kind are written. Formats that make something else of a text
are left out. -/
inductive IsContext : LeafKind → LiteralContext → Prop
  | text {ctx : LiteralContext} (kind : ctx.classification = .string)
    (format : ∀ f ∈ ctx.format, f ∉ ["date", "time", "date-time", "binary"]) : IsContext text ctx
  | integer {ctx : LiteralContext} (kind : ctx.classification = .integer) : IsContext integer ctx
  | boolean {ctx : LiteralContext} (kind : ctx.classification = .boolean) : IsContext boolean ctx

inductive IsValue : LeafKind → Json → Prop
  | text (s : String) : IsValue text (.string s)
  | integer (n : ℤ) : IsValue integer (.number (.whole n))
  | boolean (b : Bool) : IsValue boolean (.bool b)

end LeafKind

namespace Literal

open ValueReader (Reads)

variable {style : Naming.EnumStyle} {ctx inner : LiteralContext} {kind : LeafKind} {value : Json}
  {n : ℕ}

lemma reads_stringLiteral (s : String) : Reads (stringLiteral s) (.string s) := by
  refine ValueReader.reads_string ?_
  rw [escape, String.toList_ofList]
  exact run_escapeChars [] [] s.toList

lemma textForm_eq_plain {format : Option String}
    (h : ∀ f ∈ format, f ∉ ["date", "time", "date-time", "binary"]) :
    TextForm.of .string format = .plain := by
  cases format with
  | none => rfl
  | some f =>
    have hf := h f rfl
    simp only [List.mem_cons, List.not_mem_nil, not_or] at hf
    obtain ⟨hdate, htime, hdateTime, hbinary, -⟩ := hf
    simp [TextForm.of, hdate, htime, hdateTime, hbinary]

lemma exists_write_leaf (hctx : kind.IsContext ctx) (hvalue : kind.IsValue value) :
    ∃ text, write style ctx value = pure text ∧ Reads text value := by
  have hnull : value ≠ .null := by
    rintro rfl
    cases hvalue
  rw [write_of_ne_null hnull]
  cases hctx with
  | text hkind hformat =>
    cases hvalue with
    | text s =>
      refine ⟨stringLiteral s, ?_, reads_stringLiteral s⟩
      simp only [writeWith, hkind, scalarText, textForm_eq_plain hformat]
      rfl
  | integer hkind =>
    cases hvalue with
    | integer n =>
      refine ⟨_, ?_, ValueReader.reads_whole n⟩
      simp only [writeWith, hkind]
      rfl
  | boolean hkind =>
    cases hvalue with
    | boolean b =>
      refine ⟨_, ?_, ValueReader.reads_bool b⟩
      simp only [writeWith, hkind]
      rfl

lemma mapM_eq_pure {element : Json → Traced String} {items : List Json} {texts : List String}
    (h : List.Forall₂ (fun item text => element item = pure text) items texts) :
    items.mapM element = pure texts := by
  induction h with
  | nil => rfl
  | cons hitem _ ih => rw [List.mapM_cons, hitem, pure_bind, ih, pure_bind]

lemma write_array (harray : ctx.classification = .array) (hinner : ctx.component = some inner)
    {items : List Json} {texts : List String}
    (h : List.Forall₂ (fun item text => write style inner item = pure text) items texts) :
    write style ctx (.array items) = pure (arrayLiteral texts) := by
  have hnull : Json.array items ≠ .null := nofun
  rw [write_of_ne_null hnull, hinner]
  simp only [writeWith, harray, Option.map_some, itemsOf, mapM_eq_pure h, pure_bind]

/-- Lists in lists are written as arrays in arrays and read back, to any depth. -/
theorem exists_write_reads (hctx : ctx.ArraysOver kind.IsContext n)
    (hvalue : value.ListsOver kind.IsValue n) :
    ∃ text, write style ctx value = pure text ∧ Reads text value := by
  induction hctx generalizing value with
  | leaf hleaf =>
    cases hvalue with
    | null => exact ⟨"nil", write_null, ValueReader.reads_null⟩
    | leaf hvalue => exact exists_write_leaf hleaf hvalue
  | array harray hinner _ ih =>
    cases hvalue with
    | null => exact ⟨"nil", write_null, ValueReader.reads_null⟩
    | @list _ items hitems =>
      obtain ⟨texts, htexts⟩ := exists_forall₂_iff.mpr fun item hitem => ih (hitems item hitem)
      refine ⟨arrayLiteral texts, ?_, ?_⟩
      · exact write_array harray hinner (htexts.imp fun _ _ h => h.1)
      · exact ValueReader.reads_array (htexts.flip.imp fun _ _ h => h.2)

/-- Strings, integers and booleans and lists of them, to any depth and with null at any place, have
literals that are read back, and so no two of them have one literal. -/
theorem readBack_ofValue (hctx : ctx.ArraysOver kind.IsContext n) (style : Naming.EnumStyle) :
    (∀ value : Json, value.ListsOver kind.IsValue n →
      ∃ text, ofValue style ctx (some value) = pure (some text) ∧
        ValueReader.value? text = some value) ∧
      ∀ value value' : Json, value.ListsOver kind.IsValue n → value'.ListsOver kind.IsValue n →
        ofValue style ctx (some value) = ofValue style ctx (some value') → value = value' := by
  have hread : ∀ value : Json, value.ListsOver kind.IsValue n →
      ∃ text, ofValue style ctx (some value) = pure (some text) ∧
        ValueReader.value? text = some value := by
    intro value hvalue
    obtain ⟨text, hwrite, hreads⟩ :
        ∃ text, write style ctx value = pure text ∧ Reads text value :=
      exists_write_reads hctx hvalue
    refine ⟨text, ?_, hreads.value?⟩
    rw [ofValue, hwrite]
    rfl
  refine ⟨hread, fun value value' hvalue hvalue' heq => ?_⟩
  obtain ⟨text, htext, hvalueRead⟩ := hread value hvalue
  obtain ⟨text', htext', hvalueRead'⟩ := hread value' hvalue'
  have hsame : text = text' := by
    have hpure : (pure (some text) : Traced (Option String)) = pure (some text') := by
      rw [← htext, ← htext', heq]
    exact Option.some.inj (Except.ok.inj (congrArg Traced.result hpure))
  exact Option.some.inj (hvalueRead.symm.trans (hsame ▸ hvalueRead'))

/-- Lists of lists of texts, some of which look like the code around them. -/
theorem readBack_ofValue_tags :
    let tag : LiteralContext :=
      { classification := .string, format := some "email", type := .named "String" }
    let tags : LiteralContext :=
      { classification := .array, type := .array tag.type, component := some tag }
    let ctx : LiteralContext :=
      { classification := .array, type := .array tags.type, component := some tags }
    let value : Json := .array [.array [.string "\", \"", .string "]\n", .null], .null, .array []]
    ∃ text, ofValue .constant ctx (some value) = pure (some text) ∧
      ValueReader.value? text = some value := by
  intro tag tags ctx value
  have hctx : ctx.ArraysOver (LeafKind.IsContext .text) 2 :=
    .array rfl rfl (.array rfl rfl (.leaf (.text rfl (by decide))))
  have hvalue : value.ListsOver (LeafKind.IsValue .text) 2 := by
    refine .list ?_
    simp only [List.forall_mem_cons, List.not_mem_nil, false_imp_iff, implies_true, and_true]
    refine ⟨.list ?_, .null 1, .list (List.forall_mem_nil _)⟩
    simp only [List.forall_mem_cons, List.not_mem_nil, false_imp_iff, implies_true, and_true]
    exact ⟨.leaf (.text _), .leaf (.text _), .null 0⟩
  exact (readBack_ofValue hctx .constant).1 value hvalue

end Literal

end SwiftClient
