import SwiftClient.Proofs.Document.ExtendedRecords

/-!
# Reading extended documents

The text of a document may have the fields of its objects in any order, and its records may have
fields that nobody asks for.
-/
namespace SwiftClient

open Json (Draft Medium Record)
open Json.Reader

variable {m : Medium} {room : ℕ} {kept : Bool}

lemma Classification.keeps_read : KeepsAt m room kept .plain Classification.read := by
  refine keeps_of_scalar fun d c h => ?_
  obtain ⟨name, hname, -⟩ := Outcome.bind_eq_ok.mp h
  exact isScalar_of_text hname

lemma Purpose.keeps_read : KeepsAt m room kept .plain Purpose.read := keeps_choice _

lemma keeps_texts : KeepsAt m room kept .plain (list text) :=
  keeps_list fun _ _ _ => keeps_text

lemma ScopedName.keeps_read : KeepsAt m room kept .plain ScopedName.read := keeps_texts

namespace TypeUsage

lemma keeps_readWith {inner : Json.Reader TypeUsage}
    (hinner : ∀ inside, inside + 1 = room → KeepsAt m inside kept (.record .typeUsage) inner) :
    KeepsAt m room kept (.record .typeUsage) (readWith inner) := by
  refine keeps_record "TypeSpec" rfl rfl fun r r' h hmedium hroom => ?_
  subst hmedium
  exact (h.required "schemaType" rfl Classification.keeps_read).map _
    |>.seq (h.optional "format" rfl keeps_text)
    |>.seq (h.withDefault "nullable" _ rfl keeps_flag)
    |>.seq (h.optional "scopedName" rfl ScopedName.keeps_read)
    |>.seq (h.optional "component" rfl (hinner r.room hroom))
    |>.seq (h.optional "key" rfl (hinner r.room hroom))
    |>.seq (h.withDefault "purpose" _ rfl Purpose.keeps_read)

theorem keeps_read : KeepsAt m room kept (.record .typeUsage) TypeUsage.read := by
  induction room with
  | zero => exact keeps_readWith fun _ h => absurd h (Nat.succ_ne_zero _)
  | succ room ih =>
    refine keeps_readWith fun inside h => ?_
    obtain rfl : inside = room := Nat.succ.inj h
    exact ih

end TypeUsage

lemma Property.keeps_read : KeepsAt m room kept (.record .property) Property.read := by
  refine keeps_record "Property" rfl rfl fun r r' h hmedium _ => ?_
  exact (h.required "name" rfl keeps_text).map _
    |>.seq (h.optional "serializedName" rfl keeps_text)
    |>.seq (h.optional "description" rfl keeps_text)
    |>.seq (h.withDefault "required" _ rfl keeps_flag)
    |>.seq (h.required "type" rfl TypeUsage.keeps_read)
    |>.seq (h.present "default" rfl keeps_any)

lemma keeps_list_records {α : Type} {type : RecordType} {item : Json.Reader α}
    (h : ∀ inside, KeepsAt m inside kept (.record type) item) :
    KeepsAt m room kept (.records type) (list item) :=
  keeps_list fun _ inside _ => h inside

lemma Mapping.keeps_read : KeepsAt m room kept (.record .mapping) Mapping.read := by
  refine keeps_record "DiscriminatorMapping" rfl rfl fun r r' h _ _ => ?_
  exact (h.required "value" rfl keeps_text).map _
    |>.seq (h.required "scopedName" rfl ScopedName.keeps_read)

lemma Discriminator.keeps_read :
    KeepsAt m room kept (.record .discriminator) Discriminator.read := by
  refine keeps_record "Discriminator" rfl rfl fun r r' h _ _ => ?_
  exact (h.required "name" rfl keeps_text).map _
    |>.seq (h.optional "serializedName" rfl keeps_text)
    |>.seq (h.withDefault "mappings" _ rfl (keeps_list_records fun _ => Mapping.keeps_read))

lemma Member.keeps_read : KeepsAt m room kept (.record .member) Member.read := by
  refine keeps_record "OneOfMember" rfl rfl fun r r' h _ _ => ?_
  exact (h.optional "name" rfl keeps_text).map _
    |>.seq (h.required "type" rfl TypeUsage.keeps_read)

namespace SchemaKind

variable {r r' : Record}

lemma carries_readProperties {layout : Layout} (h : r.ExtendedTo kept layout r')
    (hname : layout.lookup "properties" = some (.records .property)) :
    (readProperties r).Carries (readProperties r') :=
  h.withDefault "properties" _ hname (keeps_list_records fun _ => Property.keeps_read)

lemma carries_readNames {layout : Layout} (h : r.ExtendedTo kept layout r') (name : String)
    (hname : layout.lookup name = some .plain) :
    (readNames r name).Carries (readNames r' name) :=
  h.withDefault name _ hname (keeps_list fun _ _ _ => ScopedName.keeps_read)

lemma carries_readBody (tag : KindTag) (h : r.ExtendedTo kept tag.layout r') :
    (readBody r tag).Carries (readBody r' tag) := by
  cases tag with
  | object =>
    exact (carries_readProperties h rfl).map _
      |>.seq (h.optional "parent" rfl ScopedName.keeps_read)
      |>.seq (carries_readNames h "implements" rfl)
      |>.seq (h.optional "discriminator" rfl Discriminator.keeps_read)
  | enum =>
    exact (h.required "valueType" rfl TypeUsage.keeps_read).map _
      |>.seq (h.required "values" rfl (keeps_list fun _ _ _ => keeps_any))
  | interface =>
    exact (carries_readProperties h rfl).map _
      |>.seq (carries_readNames h "parents" rfl)
      |>.seq (h.optional "implementation" rfl ScopedName.keeps_read)
  | hierarchy =>
    exact (carries_readProperties h rfl).map _
      |>.seq (h.required "discriminator" rfl Discriminator.keeps_read)
      |>.seq (carries_readNames h "members" rfl)
  | wrapper => exact (h.required "property" rfl Property.keeps_read).map _
  | oneOf =>
    exact (h.required "members" rfl (keeps_list_records fun _ => Member.keeps_read)).map _
      |>.seq (h.optional "discriminator" rfl Discriminator.keeps_read)

lemma carries_read (h : r.ExtendedWith .schema r') :
    (SchemaKind.read r).Carries (SchemaKind.read r') := by
  refine h.variant (fun _ => rfl) (fun tag => ?_) (fun tag => ?_) (fun tag => ?_)
    fun tag q q' hq _ _ => carries_readBody tag hq
  · cases tag <;> rfl
  · cases tag <;> decide
  · cases tag <;> decide

end SchemaKind

namespace Schema

lemma keeps_readWith {inner : Json.Reader Schema}
    (hinner : ∀ inside, inside + 2 = room → KeepsAt m inside true (.record .schema) inner) :
    KeepsAt m room kept (.record .schema) (readWith inner) := by
  refine keeps_openRecord "Schema" rfl rfl fun r r' h hwith hmedium hroom => ?_
  subst hmedium
  exact (h.required "name" rfl keeps_text).map _
    |>.seq (h.required "scopedName" rfl ScopedName.keeps_read)
    |>.seq (h.optional "description" rfl keeps_text)
    |>.seq (h.withDefault "purpose" _ rfl Purpose.keeps_read)
    |>.seq (h.withDefault "nullable" _ rfl keeps_flag)
    |>.seq (h.withDefault "nested" _ rfl
      (keeps_list fun _ inside hinside => hinner inside (by omega)))
    |>.seq (SchemaKind.carries_read hwith)

theorem keeps_read : KeepsAt m room kept (.record .schema) Schema.read := by
  -- a schema that is nested stands two containers further in, and is kept as all in a schema is
  induction room using Nat.twoStepInduction generalizing kept with
  | zero => exact keeps_readWith fun _ h => nomatch h
  | one => exact keeps_readWith fun _ h => nomatch h
  | more room ih _ =>
    refine keeps_readWith fun inside h => ?_
    obtain rfl : inside = room := by omega
    exact ih

end Schema

lemma SecurityRequirement.keeps_read :
    KeepsAt m room kept (.record .securityRequirement) SecurityRequirement.read := by
  refine keeps_record "SecurityRequirement" rfl rfl fun r r' h _ _ => ?_
  exact (h.required "scheme" rfl keeps_text).map _
    |>.seq (h.withDefault "scopes" _ rfl keeps_texts)

lemma OAuthFlow.keeps_read : KeepsAt m room kept (.record .oauthFlow) OAuthFlow.read := by
  refine keeps_record "OAuthFlow" rfl rfl fun r r' h _ _ => ?_
  exact (h.required "type" rfl (keeps_choice _)).map _
    |>.seq (h.optional "authorizationUrl" rfl keeps_text)
    |>.seq (h.optional "tokenUrl" rfl keeps_text)
    |>.seq (h.optional "refreshUrl" rfl keeps_text)
    |>.seq (h.withDefault "scopes" _ rfl keeps_texts)

namespace SecurityKind

variable {r r' : Record}

lemma carries_readBody (tag : SecurityTag) (h : r.ExtendedTo kept tag.layout r') :
    (readBody r tag).Carries (readBody r' tag) := by
  cases tag with
  | apiKey =>
    exact (h.required "paramName" rfl keeps_text).map _
      |>.seq (h.required "in" rfl (keeps_choice _))
  | http =>
    exact (h.required "scheme" rfl keeps_text).map _
      |>.seq (h.optional "bearerFormat" rfl keeps_text)
  | oauth2 =>
    exact (h.required "flows" rfl (keeps_list_records fun _ => OAuthFlow.keeps_read)).map _
  | openIdConnect => exact (h.required "url" rfl keeps_text).map _

lemma carries_read (h : r.ExtendedWith .securityScheme r') :
    (SecurityKind.read r).Carries (SecurityKind.read r') := by
  refine h.variant (fun _ => rfl) (fun tag => ?_) (fun tag => ?_) (fun tag => ?_)
    fun tag q q' hq _ _ => carries_readBody tag hq
  · cases tag <;> rfl
  · cases tag <;> decide
  · cases tag <;> decide

end SecurityKind

lemma SecurityScheme.keeps_read :
    KeepsAt m room kept (.record .securityScheme) SecurityScheme.read := by
  refine keeps_openRecord "SecurityScheme" rfl rfl fun r r' h hwith _ _ => ?_
  exact (h.required "name" rfl keeps_text).map _
    |>.seq (h.optional "description" rfl keeps_text)
    |>.seq (SecurityKind.carries_read hwith)

lemma Parameter.keeps_read : KeepsAt m room kept (.record .parameter) Parameter.read := by
  refine keeps_record "Parameter" rfl rfl fun r r' h _ _ => ?_
  exact (h.required "name" rfl keeps_text).map _
    |>.seq (h.required "in" rfl (keeps_choice _))
    |>.seq (h.withDefault "required" _ rfl keeps_flag)
    |>.seq (h.optional "description" rfl keeps_text)
    |>.seq (h.required "type" rfl TypeUsage.keeps_read)
    |>.seq (h.present "default" rfl keeps_any)

lemma RequestBody.keeps_read : KeepsAt m room kept (.record .requestBody) RequestBody.read := by
  refine keeps_record "RequestBody" rfl rfl fun r r' h _ _ => ?_
  exact (h.withDefault "required" _ rfl keeps_flag).map _
    |>.seq (h.required "mediaType" rfl keeps_text)
    |>.seq (h.required "type" rfl TypeUsage.keeps_read)

lemma Response.keeps_read : KeepsAt m room kept (.record .response) Response.read := by
  refine keeps_record "Response" rfl rfl fun r r' h _ _ => ?_
  exact (h.optional "code" rfl keeps_status).map _
    |>.seq (h.withDefault "description" _ rfl keeps_text)
    |>.seq (h.optional "mediaType" rfl keeps_text)
    |>.seq (h.optional "type" rfl TypeUsage.keeps_read)

lemma Operation.keeps_read : KeepsAt m room kept (.record .operation) Operation.read := by
  refine keeps_record "Operation" rfl rfl fun r r' h _ _ => ?_
  exact (h.required "name" rfl keeps_text).map _
    |>.seq (h.required "method" rfl (keeps_choice _))
    |>.seq (h.required "path" rfl keeps_text)
    |>.seq (h.optional "summary" rfl keeps_text)
    |>.seq (h.optional "description" rfl keeps_text)
    |>.seq (h.withDefault "deprecated" _ rfl keeps_flag)
    |>.seq (h.withDefault "parameters" _ rfl (keeps_list_records fun _ => Parameter.keeps_read))
    |>.seq (h.optional "requestBody" rfl RequestBody.keeps_read)
    |>.seq (h.withDefault "responses" _ rfl (keeps_list_records fun _ => Response.keeps_read))
    |>.seq (h.withDefault "securityRequirements" _ rfl
      (keeps_list_records fun _ => SecurityRequirement.keeps_read))

lemma OperationGroup.keeps_read : KeepsAt m room kept (.record .group) OperationGroup.read := by
  refine keeps_record "OperationGroup" rfl rfl fun r r' h _ _ => ?_
  exact (h.required "name" rfl keeps_text).map _
    |>.seq (h.withDefault "path" _ rfl keeps_text)
    |>.seq (h.optional "description" rfl keeps_text)
    |>.seq (h.withDefault "operations" _ rfl (keeps_list_records fun _ => Operation.keeps_read))

lemma Info.keeps_read : KeepsAt m room kept (.record .info) Info.read := by
  refine keeps_record "Info" rfl rfl fun r r' h _ _ => ?_
  exact (h.required "title" rfl keeps_text).map _
    |>.seq (h.required "version" rfl keeps_text)
    |>.seq (h.optional "description" rfl keeps_text)

lemma Server.keeps_read : KeepsAt m room kept (.record .server) Server.read := by
  refine keeps_record "Server" rfl rfl fun r r' h _ _ => ?_
  exact (h.required "url" rfl keeps_text).map _
    |>.seq (h.optional "description" rfl keeps_text)

namespace Document

theorem keeps_read : KeepsAt m room kept (.record .document) Document.read := by
  refine keeps_record "Document" rfl rfl fun r r' h _ _ => ?_
  exact (h.required "info" rfl Info.keeps_read).map _
    |>.seq (h.withDefault "servers" _ rfl (keeps_list_records fun _ => Server.keeps_read))
    |>.seq (h.withDefault "groups" _ rfl (keeps_list_records fun _ => OperationGroup.keeps_read))
    |>.seq (h.withDefault "schemas" _ rfl (keeps_list_records fun _ => Schema.keeps_read))
    |>.seq (h.withDefault "securitySchemes" _ rfl
      (keeps_list_records fun _ => SecurityScheme.keeps_read))

lemma ofText_eq_ok_iff {text : String} {document : Document} : ofText text = .ok document ↔
    ∃ d, Draft.ofText text = (d, true) ∧ read .text Json.mostOpen d = .ok document ∧
      document.isAnonymous = false := by
  have hread : ∀ x, (read.ofText text).mapError ReadError.json = .ok x ↔
      ∃ d, Draft.ofText text = (d, true) ∧ read .text Json.mostOpen d = .ok x := by
    intro x
    rw [Outcome.mapError_eq_ok, Json.Reader.ofText]
    rcases Draft.ofText text with ⟨d, clean⟩
    cases clean <;> simp [Outcome.bind_eq_ok]
  simp only [ofText, Outcome.bind_eq_ok, hread]
  constructor
  · rintro ⟨x, ⟨d, hd, hx⟩, h⟩
    split_ifs at h with hnamed
    cases h
    exact ⟨d, hd, hx, Bool.eq_false_of_not_eq_true hnamed⟩
  · rintro ⟨d, hd, hx, hnamed⟩
    exact ⟨document, ⟨d, hd, hx⟩, by rw [hnamed, if_neg Bool.false_ne_true]⟩

/-- A text of a document consists of the lexemes of a draft. Where no object in it has a key twice,
all texts with the lexemes of a draft that extends this one are texts of the same document. -/
theorem ofText_of_extended {text : String} {document : Document} (h : ofText text = .ok document) :
    ∃ d : Draft, d.isWhole ∧ Json.Lexeme.ofText text = d.lexemes ∧ (d.keysDiffer →
      ∀ d' text', Draft.Extended false (.record .document) d d' →
        Json.Lexeme.ofText text' = d'.lexemes → ofText text' = .ok document) := by
  obtain ⟨d, hd, hread, hnamed⟩ := ofText_eq_ok_iff.mp h
  obtain ⟨hwhole, hlexemes⟩ := Draft.ofText_eq_clean_iff.mp hd
  refine ⟨d, hwhole, hlexemes, fun hdistinct d' text' hextended hlexemes' => ?_⟩
  have hd' := Draft.ofText_eq_clean_iff.mpr ⟨hextended.isWhole hwhole, hlexemes'⟩
  exact ofText_eq_ok_iff.mpr ⟨d', hd', keeps_read d d' document hdistinct hextended hread, hnamed⟩

/-- The text of a document with one schema, and with more fields of its info and of the schema. -/
def petsText (info schema : String) : String :=
  "\x7b\"info\":\x7b\"title\":\"Pets\",\"version\":\"1\"" ++ info ++
    "\x7d,\"schemas\":[\x7b\"name\":" ++ "\"Pet\",\"scopedName\":[\"Pet\"],\"kind\":\"object\"" ++ schema ++ "\x7d]\x7d"

def petsInfo : List (Option String × Draft) :=
  [(some "title", .string (some "Pets")), (some "version", .string (some "1"))]

def petsSchema : List (Option String × Draft) :=
  [(some "name", .string (some "Pet")), (some "scopedName", .array [.string (some "Pet")] true),
    (some "kind", .string (some "object"))]

def petsFields (info schema : List (Option String × Draft)) : List (Option String × Draft) :=
  [(some "info", .object info true), (some "schemas", .array [.object schema true] true)]

lemma lexemes_petsText : Json.Lexeme.ofText (petsText "" "") =
    (Draft.object (petsFields petsInfo petsSchema) true).lexemes := by
  decide +kernel

lemma ofText_petsText : ∃ document, ofText (petsText "" "") = .ok document := by
  have hd := Draft.ofText_eq_clean_iff.mpr ⟨rfl, lexemes_petsText⟩
  exact ⟨_, ofText_eq_ok_iff.mpr ⟨_, hd, rfl, by decide⟩⟩

lemma extended_reverse {shape : Shape} (fields : List (Option String × Draft))
    {f : Option String × Draft} (hf : Draft.Further (kept || shape.isTagged) shape fields f) :
    Draft.Extended kept shape (.object fields true) (.object (f :: fields.reverse) true) := by
  refine Draft.extended_object_iff.mpr ⟨_, rfl, fields, [f], ?_, by simpa using hf, ?_⟩
  · exact List.forall₂_same.mpr fun _ _ => ⟨rfl, .refl _ _ _⟩
  · exact (List.reverse_perm _).symm.trans (by simp)

lemma extended_pets {info info' schema schema' : List (Option String × Draft)}
    (hinfo : Draft.Extended false (.record .info) (.object info true) (.object info' true))
    (hschema : Draft.Extended false (.record .schema) (.object schema true)
      (.object schema' true)) :
    Draft.Extended false (.record .document) (.object (petsFields info schema) true)
      (.object (petsFields info' schema') true) := by
  refine Draft.extended_object_iff.mpr
    ⟨_, rfl, petsFields info' schema', [], ?_, List.forall_mem_nil _, .of_eq (List.append_nil _)⟩
  exact .cons ⟨rfl, hinfo⟩ (.cons ⟨rfl, .records (.cons hschema .nil)⟩ .nil)

theorem ofText_of_extended_pets :
    let text' := "\x7b\"info\":\x7b\"year\":1e999,\"version\":\"1\",\"title\":\"Pets\"\x7d,\"schemas\":" ++
      "[\x7b\"weight\":4,\"kind\":\"object\",\"scopedName\":[\"Pet\"],\"name\":\"Pet\"\x7d]\x7d"
    ∃ document, ofText (petsText "" "") = .ok document ∧ ofText text' = .ok document := by
  intro text'
  have hinfo : Draft.Extended false (.record .info) (.object petsInfo true)
      (.object ((some "year", .number none) :: petsInfo.reverse) true) :=
    extended_reverse petsInfo ⟨⟨_, rfl⟩, ⟨"year", rfl, by decide⟩, rfl, nofun⟩
  have hschema : Draft.Extended false (.record .schema) (.object petsSchema true)
      (.object ((some "weight", .number (some (.whole 4))) :: petsSchema.reverse) true) :=
    extended_reverse petsSchema ⟨⟨_, rfl⟩, ⟨"weight", rfl, by decide⟩, rfl, fun _ => rfl⟩
  obtain ⟨document, h⟩ := ofText_petsText
  obtain ⟨d, hwhole, hlexemes, hextended⟩ := ofText_of_extended h
  obtain rfl : d = .object (petsFields petsInfo petsSchema) true := by
    have hd := Draft.ofText_eq_clean_iff.mpr ⟨hwhole, hlexemes⟩
    have hd' := Draft.ofText_eq_clean_iff.mpr ⟨rfl, lexemes_petsText⟩
    exact congrArg Prod.fst (hd.symm.trans hd')
  exact ⟨document, h, hextended rfl _ _ (extended_pets hinfo hschema) (by decide +kernel)⟩

/-- A number beyond all doubles is no part of a schema, and half of a surrogate pair no key. -/
theorem ofText_unvalued_pets :
    (∃ document, ofText (petsText "" "") = .ok document) ∧
      ofText (petsText "" ",\"weight\":1e999") = .error (.json .syntaxError) ∧
      ofText (petsText ",\"\\ud800\":4" "") = .error (.json .syntaxError) := by
  refine ⟨ofText_petsText, ?_, ?_⟩
  · have hd : Draft.ofText (petsText "" ",\"weight\":1e999") =
        (.object (petsFields petsInfo
          (petsSchema ++ [(some "weight", .number none)])) true, true) :=
      Draft.ofText_eq_clean_iff.mpr ⟨rfl, by decide +kernel⟩
    rw [ofText, Json.Reader.ofText, hd]
    rfl
  · have hd : Draft.ofText (petsText ",\"\\ud800\":4" "") =
        (.object (petsFields (petsInfo ++ [(none, .number (some (.whole 4)))]) petsSchema) true,
          true) :=
      Draft.ofText_eq_clean_iff.mpr ⟨rfl, by decide +kernel⟩
    rw [ofText, Json.Reader.ofText, hd]
    rfl

end Document

end SwiftClient
