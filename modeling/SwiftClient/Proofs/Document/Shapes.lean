import SwiftClient.Document.Reading
import SwiftClient.Proofs.Correspondence
import SwiftClient.Proofs.Json.Spelling

/-!
# Shapes of documents

Which objects of a text are records of a document, and what their fields are called, can be told
from the place where they stand and, for schemas and security schemes, from their tag. Such objects
can be extended by fields that the record does not have.
-/
namespace SwiftClient

open Json (Draft)

/-- The records that documents are made of. -/
inductive RecordType where
  | document | info | server | group | operation | parameter | requestBody | response
  | securityRequirement | securityScheme | oauthFlow | schema | property | typeUsage
  | discriminator | mapping | member
  deriving DecidableEq

/-- What is found in a place: a record, a list of records, or anything else. -/
inductive Shape where
  | plain
  | record (type : RecordType)
  | records (type : RecordType)
  deriving DecidableEq

/-- The fields of a record by name. -/
abbrev Layout := List (String × Shape)

namespace Layout

variable {layout : Layout} {name : String} {shape : Shape}

lemma getElem?_of_lookup (h : layout.lookup name = some shape) :
    layout[(layout.map (·.1)).idxOf name]? = some (name, shape) := by
  induction layout with
  | nil => cases h
  | cons field rest ih =>
    obtain ⟨key, s⟩ := field
    by_cases hkey : key = name
    · subst hkey
      simpa using h
    · have hkey' : (name == key) = false := beq_false_of_ne (Ne.symm hkey)
      rw [List.lookup_cons, hkey'] at h
      rw [List.map_cons, List.idxOf_cons_ne _ hkey, List.getElem?_cons_succ]
      exact ih h

lemma mem_of_lookup (h : layout.lookup name = some shape) : name ∈ layout.map (·.1) :=
  List.mem_map_of_mem (List.mem_of_getElem? (getElem?_of_lookup h))

end Layout

def KindTag.layout : KindTag → Layout
  | object =>
    [("properties", .records .property), ("parent", .plain), ("implements", .plain),
      ("discriminator", .record .discriminator)]
  | enum => [("valueType", .record .typeUsage), ("values", .plain)]
  | interface =>
    [("properties", .records .property), ("parents", .plain), ("implementation", .plain)]
  | hierarchy =>
    [("properties", .records .property), ("discriminator", .record .discriminator),
      ("members", .plain)]
  | wrapper => [("property", .record .property)]
  | oneOf => [("members", .records .member), ("discriminator", .record .discriminator)]

def SecurityTag.layout : SecurityTag → Layout
  | apiKey => [("paramName", .plain), ("in", .plain)]
  | http => [("scheme", .plain), ("bearerFormat", .plain)]
  | oauth2 => [("flows", .records .oauthFlow)]
  | openIdConnect => [("url", .plain)]

def variantIn {α : Type} (tag : String) (variants : List (String × α))
    (fields : List (Option String × Draft)) : Option α :=
  (fields.lookup (some tag)).bind fun d =>
    (Json.Reader.variantOfTag variants .aside d).toOption

namespace RecordType

def layout : RecordType → Layout
  | document =>
    [("info", .record info), ("servers", .records server), ("groups", .records group),
      ("schemas", .records schema), ("securitySchemes", .records securityScheme)]
  | info => [("title", .plain), ("version", .plain), ("description", .plain)]
  | server => [("url", .plain), ("description", .plain)]
  | group =>
    [("name", .plain), ("path", .plain), ("description", .plain),
      ("operations", .records operation)]
  | operation =>
    [("name", .plain), ("method", .plain), ("path", .plain), ("summary", .plain),
      ("description", .plain), ("deprecated", .plain), ("parameters", .records parameter),
      ("requestBody", .record requestBody), ("responses", .records response),
      ("securityRequirements", .records securityRequirement)]
  | parameter =>
    [("name", .plain), ("in", .plain), ("required", .plain), ("description", .plain),
      ("type", .record typeUsage), ("default", .plain)]
  | requestBody => [("required", .plain), ("mediaType", .plain), ("type", .record typeUsage)]
  | response =>
    [("code", .plain), ("description", .plain), ("mediaType", .plain),
      ("type", .record typeUsage)]
  | securityRequirement => [("scheme", .plain), ("scopes", .plain)]
  | securityScheme => [("name", .plain), ("description", .plain)]
  | oauthFlow =>
    [("type", .plain), ("authorizationUrl", .plain), ("tokenUrl", .plain), ("refreshUrl", .plain),
      ("scopes", .plain)]
  | schema =>
    [("name", .plain), ("scopedName", .plain), ("description", .plain), ("purpose", .plain),
      ("nullable", .plain), ("nested", .records schema)]
  | property =>
    [("name", .plain), ("serializedName", .plain), ("description", .plain), ("required", .plain),
      ("type", .record typeUsage), ("default", .plain)]
  | typeUsage =>
    [("schemaType", .plain), ("format", .plain), ("nullable", .plain), ("scopedName", .plain),
      ("component", .record typeUsage), ("key", .record typeUsage), ("purpose", .plain)]
  | discriminator => [("name", .plain), ("serializedName", .plain), ("mappings", .records mapping)]
  | mapping => [("value", .plain), ("scopedName", .plain)]
  | member => [("name", .plain), ("type", .record typeUsage)]

/-- Whether the record has a variant, which is told by a tag among its fields. -/
def isTagged : RecordType → Bool
  | schema | securityScheme => true
  | _ => false

/-- The tag of a record and the fields of the variant that it names. -/
def variantLayout (fields : List (Option String × Draft)) : RecordType → Layout
  | schema => ("kind", .plain) :: (variantIn "kind" KindTag.byName fields).elim [] KindTag.layout
  | securityScheme =>
    ("type", .plain) :: (variantIn "type" SecurityTag.byName fields).elim [] SecurityTag.layout
  | _ => []

end RecordType

namespace Shape

/-- The fields that an object of this shape is read for. -/
def layout (fields : List (Option String × Draft)) : Shape → Layout
  | record type => type.layout ++ type.variantLayout fields
  | _ => []

/-- The shape of what an object has under a key. -/
def under (shape : Shape) (fields : List (Option String × Draft)) : Option String → Shape
  | some key => ((shape.layout fields).lookup key).getD plain
  | none => plain

lemma under_record {type : RecordType} {shape : Shape} {name : String}
    (h : type.layout.lookup name = some shape) (fields : List (Option String × Draft)) :
    (record type).under fields (some name) = shape := by
  rw [under, layout, List.lookup_append, h, Option.some_or, Option.getD_some]

/-- The fields of a variant are its own, and not those of the record or its tag. -/
lemma under_variant {type : RecordType} {own : Layout} {shape : Shape} {name tag : String}
    {fields : List (Option String × Draft)}
    (hlayout : type.variantLayout fields = (tag, .plain) :: own)
    (h : own.lookup name = some shape) (hname : name ∉ type.layout.map (·.1)) (htag : name ≠ tag) :
    (record type).under fields (some name) = shape := by
  have hnone : type.layout.lookup name = none := by
    refine List.lookup_eq_none_iff.mpr fun f hf => bne_iff_ne.mpr ?_
    rintro rfl
    exact hname (List.mem_map_of_mem hf)
  rw [under, layout, List.lookup_append, hnone, hlayout, List.lookup_cons, beq_false_of_ne htag, h]
  rfl

lemma not_mem_layout_of_record {type : RecordType} {name : String}
    {fields : List (Option String × Draft)} (h : name ∉ ((record type).layout fields).map (·.1)) :
    name ∉ type.layout.map (·.1) := by
  rw [layout, List.map_append, List.mem_append, not_or] at h
  exact h.1

@[simp] lemma under_plain (fields : List (Option String × Draft)) (key : Option String) :
    plain.under fields key = plain := by
  cases key <;> rfl

/-- The shape of an item of an array. Records may be written by position. -/
def item (i : Nat) : Shape → Shape
  | plain => plain
  | record type => (type.layout[i]?).elim plain (·.2)
  | records type => record type

def isTagged : Shape → Bool
  | record type => type.isTagged
  | _ => false

end Shape

namespace Json.Draft

def isScalar : Draft → Bool
  | .null | .bool _ | .number _ | .string _ => true
  | _ => false

/-- A field that a record may be given though it has none of that name. Where all fields are
`kept`, it has to have a value. -/
structure Further (kept : Bool) (shape : Shape) (fields : List (Option String × Draft))
    (f : Option String × Draft) : Prop where
  isRecord : ∃ type, shape = .record type
  name : ∃ key, f.1 = some key ∧ key ∉ (shape.layout fields).map (·.1)
  scalar : f.2.isScalar
  value : kept → f.2.found?.isSome

/-- The same draft with the fields of its objects in any order and further fields in its records.
What belongs to a tagged record is `kept` until its variant is known. -/
inductive Extended : Bool → Shape → Draft → Draft → Prop
  | refl (kept : Bool) (shape : Shape) (d : Draft) : Extended kept shape d d
  | array {kept : Bool} {shape : Shape} {items items' : List Draft} {whole : Bool}
    (length : items'.length = items.length)
    (inside : ∀ i d d', items[i]? = some d → items'[i]? = some d' →
      Extended kept (shape.item i) d d') :
    Extended kept shape (.array items whole) (.array items' whole)
  | object {kept : Bool} {shape : Shape} {whole : Bool}
    {fields inOrder further fields' : List (Option String × Draft)}
    (keys : inOrder.map (·.1) = fields.map (·.1))
    (inside : ∀ p ∈ fields.zip inOrder,
      Extended (kept || shape.isTagged) (shape.under fields p.1.1) p.1.2 p.2.2)
    (outside : ∀ f ∈ further, Further (kept || shape.isTagged) shape fields f)
    (order : (inOrder ++ further).Perm fields') :
    Extended kept shape (.object fields whole) (.object fields' whole)

mutual

/-- Whether no object of the draft has a key twice. -/
def keysDiffer : Draft → Bool
  | .array items _ => keysOfItemsDiffer items
  | .object fields _ => (fields.filterMap (·.1)).Nodup && keysOfFieldsDiffer fields
  | _ => true

def keysOfItemsDiffer : List Draft → Bool
  | [] => true
  | item :: rest => keysDiffer item && keysOfItemsDiffer rest

def keysOfFieldsDiffer : List (Option String × Draft) → Bool
  | [] => true
  | (_, value) :: rest => keysDiffer value && keysOfFieldsDiffer rest

end

lemma keysOfItemsDiffer_iff {items : List Draft} :
    keysOfItemsDiffer items ↔ ∀ d ∈ items, d.keysDiffer := by
  induction items with
  | nil => simp [keysOfItemsDiffer]
  | cons item rest ih => simp [keysOfItemsDiffer, ih]

lemma keysOfFieldsDiffer_iff {fields : List (Option String × Draft)} :
    keysOfFieldsDiffer fields ↔ ∀ f ∈ fields, f.2.keysDiffer := by
  induction fields with
  | nil => simp [keysOfFieldsDiffer]
  | cons field rest ih =>
    rw [keysOfFieldsDiffer, Bool.and_eq_true, ih, List.forall_mem_cons]

lemma keysDiffer_array {items : List Draft} {whole : Bool} :
    (array items whole).keysDiffer ↔ ∀ d ∈ items, d.keysDiffer :=
  keysOfItemsDiffer_iff

lemma keysDiffer_object {fields : List (Option String × Draft)} {whole : Bool} :
    (object fields whole).keysDiffer ↔
      (fields.filterMap (·.1)).Nodup ∧ ∀ f ∈ fields, f.2.keysDiffer := by
  rw [keysDiffer, Bool.and_eq_true, decide_eq_true_iff, keysOfFieldsDiffer_iff]

/-- Fields that have the same keys one by one, in some order and followed by further ones. -/
def ExtendedFields (R : Option String → Draft → Draft → Prop)
    (Other : Option String × Draft → Prop) (fields fields' : List (Option String × Draft)) : Prop :=
  ∃ inOrder further, List.Forall₂ (fun f f' => f'.1 = f.1 ∧ R f.1 f.2 f'.2) fields inOrder ∧
    (∀ f ∈ further, Other f) ∧ (inOrder ++ further).Perm fields'

lemma extended_array_iff {kept : Bool} {shape : Shape} {items : List Draft} {whole : Bool}
    {d' : Draft} : Extended kept shape (.array items whole) d' ↔
      ∃ items', d' = .array items' whole ∧ items'.length = items.length ∧
        ∀ i d d', items[i]? = some d → items'[i]? = some d' →
          Extended kept (shape.item i) d d' := by
  constructor
  · intro h
    cases h with
    | refl =>
      refine ⟨items, rfl, rfl, fun i d d' hd hd' => ?_⟩
      obtain rfl : d = d' := Option.some.inj (hd.symm.trans hd')
      exact .refl _ _ _
    | array length inside => exact ⟨_, rfl, length, inside⟩
  · rintro ⟨items', rfl, length, inside⟩
    exact .array length inside

lemma Further.not_plain {kept : Bool} {fields : List (Option String × Draft)}
    {f : Option String × Draft} : ¬Further kept .plain fields f := by
  intro h
  obtain ⟨type, htype⟩ := h.isRecord
  cases htype

lemma forall₂_items {R : ℕ → Draft → Draft → Prop} {items items' : List Draft}
    (length : items'.length = items.length)
    (inside : ∀ i d d', items[i]? = some d → items'[i]? = some d' → R i d d') :
    List.Forall₂ (fun d d' => ∃ i, R i d d') items items' :=
  List.forall₂_iff_get.mpr ⟨length.symm, fun i hi hi' =>
    ⟨i, inside i _ _ (List.getElem?_eq_getElem hi) (List.getElem?_eq_getElem hi')⟩⟩

lemma forall₂_fields {R : Option String → Draft → Draft → Prop}
    {fields inOrder : List (Option String × Draft)} (keys : inOrder.map (·.1) = fields.map (·.1))
    (inside : ∀ p ∈ fields.zip inOrder, R p.1.1 p.1.2 p.2.2) :
    List.Forall₂ (fun f f' => f'.1 = f.1 ∧ R f.1 f.2 f'.2) fields inOrder := by
  rw [← List.forall₂_eq_eq_eq, List.forall₂_map_left_iff, List.forall₂_map_right_iff] at keys
  refine List.forall₂_iff_zip.mpr ⟨keys.length_eq.symm, fun {f f'} hff' => ?_⟩
  exact ⟨List.forall₂_zip keys.flip hff', inside _ hff'⟩

lemma Extended.records {kept : Bool} {type : RecordType} {items items' : List Draft} {whole : Bool}
    (h : List.Forall₂ (Extended kept (.record type)) items items') :
    Extended kept (.records type) (.array items whole) (.array items' whole) := by
  obtain ⟨hlength, hget⟩ := List.forall₂_iff_get.mp h
  refine .array hlength.symm fun i d d' hd hd' => ?_
  obtain ⟨hi, rfl⟩ := List.getElem?_eq_some_iff.mp hd
  obtain ⟨hi', rfl⟩ := List.getElem?_eq_some_iff.mp hd'
  exact hget i hi hi'

lemma extended_object_iff {kept : Bool} {shape : Shape} {whole : Bool}
    {fields : List (Option String × Draft)} {d' : Draft} :
    Extended kept shape (.object fields whole) d' ↔
      ∃ fields', d' = .object fields' whole ∧
        ExtendedFields (fun key => Extended (kept || shape.isTagged) (shape.under fields key))
          (Further (kept || shape.isTagged) shape fields) fields fields' := by
  constructor
  · intro h
    cases h with
    | refl =>
      refine ⟨fields, rfl, fields, [], ?_, by simp, by simp⟩
      exact List.forall₂_same.mpr fun f _ => ⟨rfl, .refl _ _ _⟩
    | @object _ _ _ _ inOrder further _ keys inside outside order =>
      have hinOrder := forall₂_fields
        (R := fun key => Extended (kept || shape.isTagged) (shape.under fields key)) keys inside
      exact ⟨_, rfl, inOrder, further, hinOrder, outside, order⟩
  · rintro ⟨fields', rfl, inOrder, further, hinOrder, outside, order⟩
    refine .object ?_ ?_ outside order
    · exact map_eq_map_of_forall₂ hinOrder fun _ _ h => h.1
    · exact fun p hp => (List.forall₂_zip hinOrder hp).2

lemma Extended.eq_of_isScalar {kept : Bool} {shape : Shape} {d d' : Draft}
    (h : Extended kept shape d d') (hd : d.isScalar) : d' = d := by
  cases h with
  | refl => rfl
  | array => cases hd
  | object => cases hd

end Json.Draft

end SwiftClient
