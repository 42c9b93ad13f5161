import SwiftClient.Document.Reading
import SwiftClient.Document.Writing
import SwiftClient.Proofs.Json.Records

/-!
# Reading written documents

Each record of a document is read back from what is written for it. Type usages and schemas hold
others of their kind, and their readers have less room for those inside.
-/
namespace SwiftClient
open Json (Medium Reader ofList_ne_null ofNat_ne_null ofPresent_ne_null)
open Json.Reader

variable {m : Medium} {room : ℕ}

lemma Classification.ofName?_name (c : Classification) : ofName? c.name = some c := by
  cases c <;> decide

lemma Classification.reads (c : Classification) : ReadsAt m room read c.toJson c := by
  intro w hw hv hroom
  rw [read, reads_text c.name w hw hv hroom]
  simp only [Outcome.bind_eq_ok, Except.ok.injEq, exists_eq_left', ofName?_name]

lemma Purpose.reads (p : Purpose) : ReadsAt m room read p.toJson p :=
  reads_choice (by cases p <;> decide)

lemma Method.reads (x : Method) : ReadsAt m room (choice Method.byName) (.string x.name) x :=
  reads_choice (by cases x <;> decide)

lemma ParameterPlace.reads (p : ParameterPlace) :
    ReadsAt m room (choice ParameterPlace.byName) (.string p.name) p :=
  reads_choice (by cases p <;> decide)

lemma KeyPlace.reads (p : KeyPlace) :
    ReadsAt m room (choice KeyPlace.byName) (.string p.name) p :=
  reads_choice (by cases p <;> decide)

lemma FlowKind.reads (f : FlowKind) :
    ReadsAt m room (choice FlowKind.byName) (.string f.name) f :=
  reads_choice (by cases f <;> decide)

lemma KindTag.lookup_name (k : KindTag) : byName.lookup k.name = some k := by
  cases k <;> decide

lemma SecurityTag.lookup_name (t : SecurityTag) : byName.lookup t.name = some t := by
  cases t <;> decide

lemma ScopedName.reads (name : ScopedName) : ReadsAt m room read name.toJson name :=
  reads_texts name

lemma ScopedName.toJson_ne_null (name : ScopedName) : name.toJson ≠ .null :=
  ofList_ne_null _ _

namespace TypeUsage

lemma toJson_eq (t : TypeUsage) :
    t.toJson = t.fields (t.component.map toJson) (t.key.map toJson) := by
  rcases t with ⟨_, _, _, _, _ | _, _ | _, _⟩ <;> rfl

lemma toJson_ne_null (t : TypeUsage) : t.toJson ≠ .null := by
  rw [toJson_eq]
  exact ofPresent_ne_null _

lemma readWith_reads {inner : Reader TypeUsage} (t : TypeUsage)
    (h : ∀ u, t.component = some u ∨ t.key = some u → ∀ inside, inside + 1 = room →
      ReadsAt m inside inner u.toJson u) : ReadsAt m room (readWith inner) t.toJson t := by
  rw [toJson_eq]
  refine reads_record _ rfl (by decide) ?_
  rintro r rfl rfl hr
  rw [hr.required "schemaType" (Classification.reads t.classification) (by simp),
    hr.optional_text "format" t.format (by simp),
    hr.withDefault "nullable" (reads_flag t.nullable) (by simp),
    hr.optional "scopedName" t.scopedName (fun n _ => ScopedName.reads n)
      ScopedName.toJson_ne_null (by simp),
    hr.optional "component" t.component (fun u hu => h u (Or.inl hu) _ rfl) toJson_ne_null
      (by simp),
    hr.optional "key" t.key (fun u hu => h u (Or.inr hu) _ rfl) toJson_ne_null (by simp),
    hr.withDefault "purpose" (Purpose.reads t.purpose) (by simp)]
  cases t
  rfl

theorem reads (t : TypeUsage) : ReadsAt m room read t.toJson t := by
  -- the reader goes down by the room, not by the usage that it is to find
  induction room generalizing t with
  | zero => exact readWith_reads t fun _ _ _ h => absurd h (Nat.succ_ne_zero _)
  | succ room ih =>
    refine readWith_reads t fun u _ inside h => ?_
    obtain rfl : inside = room := Nat.succ.inj h
    exact ih u

end TypeUsage

lemma Property.reads (p : Property) : ReadsAt m room read p.toJson p := by
  refine reads_record _ rfl (by decide) ?_
  rintro r rfl rfl hr
  rw [hr.required "name" (reads_text p.name) (by simp),
    hr.optional_text "serializedName" p.serializedName (by simp),
    hr.optional_text "description" p.description (by simp),
    hr.withDefault "required" (reads_flag p.required) (by simp),
    hr.required "type" (TypeUsage.reads p.type) (by simp),
    hr.present "default" p.default (by simp)]
  rfl

lemma Mapping.reads (x : Mapping) : ReadsAt m room read x.toJson x := by
  refine reads_record _ rfl (by decide) ?_
  rintro r rfl rfl hr
  rw [hr.required "value" (reads_text x.value) (by simp),
    hr.required "scopedName" (ScopedName.reads x.scopedName) (by simp)]
  rfl

lemma Discriminator.reads (d : Discriminator) : ReadsAt m room read d.toJson d := by
  refine reads_record _ rfl (by decide) ?_
  rintro r rfl rfl hr
  rw [hr.required "name" (reads_text d.name) (by simp),
    hr.optional_text "serializedName" d.serializedName (by simp),
    hr.withDefault "mappings" (reads_list d.mappings fun x _ _ _ => Mapping.reads x) (by simp)]
  rfl

lemma Member.reads (x : Member) : ReadsAt m room read x.toJson x := by
  refine reads_record _ rfl (by decide) ?_
  rintro r rfl rfl hr
  rw [hr.optional_text "name" x.name (by simp),
    hr.required "type" (TypeUsage.reads x.type) (by simp)]
  rfl

namespace SchemaKind

variable {r : Json.Record}

lemma reads_properties (properties : List Property) :
    ReadsAt m room (list Property.read) (propertiesJson properties) properties :=
  reads_list properties fun p _ _ _ => Property.reads p

lemma reads_names (names : List ScopedName) :
    ReadsAt m room (list ScopedName.read) (namesJson names) names :=
  reads_list names fun name _ _ _ => ScopedName.reads name

def ownFields (kind : SchemaKind) : List (String × Option Json) := kind.fields.tail

lemma fields_eq (kind : SchemaKind) :
    kind.fields = ("kind", some (.string kind.tag.name)) :: kind.ownFields := rfl

lemma map_fst_ownFields (kind : SchemaKind) : kind.ownFields.map (·.1) = namesOf kind.tag := by
  cases kind <;> rfl

lemma readBody_eq {kind : SchemaKind} (hr : r.Shows kind.ownFields) :
    readBody r kind.tag = .read kind := by
  rw [ownFields, fields.eq_def, List.tail_cons] at hr
  cases kind with
  | object o =>
    rw [tag, readBody, readProperties, readNames,
      hr.withDefault "properties" (reads_properties o.properties) (by simp),
      hr.optional "parent" o.parent (fun n _ => ScopedName.reads n) ScopedName.toJson_ne_null
        (by simp),
      hr.withDefault "implements" (reads_names o.implements) (by simp),
      hr.optional "discriminator" o.discriminator (fun d _ => Discriminator.reads d)
        (fun _ => ofPresent_ne_null _) (by simp)]
    rfl
  | enum e =>
    rw [tag, readBody, hr.required "valueType" (TypeUsage.reads e.valueType) (by simp),
      hr.required "values" (reads_list e.values fun v _ _ _ => reads_any v) (by simp [Json.ofList])]
    rfl
  | interface i =>
    rw [tag, readBody, readProperties, readNames,
      hr.withDefault "properties" (reads_properties i.properties) (by simp),
      hr.withDefault "parents" (reads_names i.parents) (by simp),
      hr.optional "implementation" i.implementation (fun n _ => ScopedName.reads n)
        ScopedName.toJson_ne_null (by simp)]
    rfl
  | hierarchy h =>
    rw [tag, readBody, readProperties, readNames,
      hr.withDefault "properties" (reads_properties h.properties) (by simp),
      hr.required "discriminator" (Discriminator.reads h.discriminator) (by simp),
      hr.withDefault "members" (reads_names h.members) (by simp)]
    rfl
  | wrapper w =>
    rw [tag, readBody, hr.required "property" (Property.reads w.property) (by simp)]
    rfl
  | oneOf o =>
    rw [tag, readBody,
      hr.required "members" (reads_list o.members fun x _ _ _ => Member.reads x) (by simp),
      hr.optional "discriminator" o.discriminator (fun d _ => Discriminator.reads d)
        (fun _ => ofPresent_ne_null _) (by simp)]
    rfl

/-- The kind is read from what is left of the fields when those of the schema are taken. -/
theorem read_eq {kind : SchemaKind} {listed : List (String × Option Json)}
    (hr : r.Shows (listed ++ kind.fields)) (hnames : r.names = listed.map (·.1)) :
    read r = .read kind := by
  rw [fields_eq] at hr
  exact hr.afterwards_variant hnames (KindTag.lookup_name _) (map_fst_ownFields kind)
    fun _ hr' => readBody_eq hr'

lemma nodup_fields (kind : SchemaKind) :
    (["name", "scopedName", "description", "purpose", "nullable", "nested"]
      ++ kind.fields.map (·.1)).Nodup := by
  have hnames : ∀ k : KindTag, (["name", "scopedName", "description", "purpose", "nullable",
      "nested"] ++ "kind" :: namesOf k).Nodup := by
    intro k
    cases k <;> decide
  rw [fields_eq, List.map_cons, map_fst_ownFields]
  exact hnames kind.tag

end SchemaKind

namespace Schema

lemma listJson_eq (schemas : List Schema) : listJson schemas = schemas.map toJson := by
  induction schemas with
  | nil => rfl
  | cons s rest ih => rw [listJson, ih, List.map_cons]

/-- The fields of a schema that do not belong to its kind. -/
def ownFields (s : Schema) : List (String × Option Json) :=
  [("name", some (.string s.name)), ("scopedName", s.scopedName.toJson),
    ("description", s.description.map .string), ("purpose", s.purpose.toJson),
    ("nullable", some (.bool s.nullable)), ("nested", Json.ofList toJson s.nested)]

lemma toJson_eq (s : Schema) : s.toJson = Json.ofPresent (s.ownFields ++ s.kind.fields) := by
  cases s
  rw [toJson, ownFields, Json.ofList, listJson_eq]

lemma readWith_reads {inner : Reader Schema} (s : Schema)
    (h : ∀ t ∈ s.nested, ∀ inside, inside + 2 = room → ReadsAt m inside inner t.toJson t) :
    ReadsAt m room (readWith inner) s.toJson s := by
  rw [toJson_eq]
  refine reads_openRecord _ (SchemaKind.nodup_fields s.kind) ?_
  rintro r rfl rfl hnames hr
  have hkind := SchemaKind.read_eq hr hnames
  have hnested : ReadsAt r.medium r.room (list inner) (Json.ofList toJson s.nested) s.nested :=
    reads_list s.nested fun t ht inside hinside => h t ht inside (by omega)
  rw [hr.required "name" (reads_text s.name) (by simp [ownFields]),
    hr.required "scopedName" (ScopedName.reads s.scopedName) (by simp [ownFields]),
    hr.optional_text "description" s.description (by simp [ownFields]),
    hr.withDefault "purpose" (Purpose.reads s.purpose) (by simp [ownFields]),
    hr.withDefault "nullable" (reads_flag s.nullable) (by simp [ownFields]),
    hr.withDefault "nested" hnested (by simp [ownFields]), hkind]
  cases s
  rfl

theorem reads : ∀ {room : ℕ} (s : Schema), ReadsAt m room read s.toJson s
  | 0, s => readWith_reads s fun _ _ _ h => by omega
  | 1, s => readWith_reads s fun _ _ _ h => by omega
  | room + 2, s => readWith_reads s fun t _ inside h => by
    obtain rfl : inside = room := by omega
    exact reads t

end Schema

lemma Parameter.reads (p : Parameter) : ReadsAt m room read p.toJson p := by
  refine reads_record _ rfl (by decide) ?_
  rintro r rfl rfl hr
  rw [hr.required "name" (reads_text p.name) (by simp),
    hr.required "in" (ParameterPlace.reads p.place) (by simp),
    hr.withDefault "required" (reads_flag p.required) (by simp),
    hr.optional_text "description" p.description (by simp),
    hr.required "type" (TypeUsage.reads p.type) (by simp),
    hr.present "default" p.default (by simp)]
  rfl

lemma RequestBody.reads (b : RequestBody) : ReadsAt m room read b.toJson b := by
  refine reads_record _ rfl (by decide) ?_
  rintro r rfl rfl hr
  rw [hr.withDefault "required" (reads_flag b.required) (by simp),
    hr.required "mediaType" (reads_text b.mediaType) (by simp),
    hr.required "type" (TypeUsage.reads b.type) (by simp)]
  rfl

/-- Codes of responses have 16 bits. -/
lemma Response.reads (x : Response) (hcode : ∀ n ∈ x.code, n < 65536) :
    ReadsAt m room read x.toJson x := by
  refine reads_record _ rfl (by decide) ?_
  rintro r rfl rfl hr
  rw [hr.optional "code" x.code (fun n hn => reads_status (hcode n hn)) ofNat_ne_null (by simp),
    hr.withDefault "description" (reads_text x.description) (by simp),
    hr.optional_text "mediaType" x.mediaType (by simp),
    hr.optional "type" x.type (fun t _ => TypeUsage.reads t) TypeUsage.toJson_ne_null (by simp)]
  rfl

lemma SecurityRequirement.reads (x : SecurityRequirement) : ReadsAt m room read x.toJson x := by
  refine reads_record _ rfl (by decide) ?_
  rintro r rfl rfl hr
  rw [hr.required "scheme" (reads_text x.scheme) (by simp),
    hr.withDefault "scopes" (reads_texts x.scopes) (by simp)]
  rfl

def Operation.statusCodes (o : Operation) : List ℕ := o.responses.filterMap (·.code)

lemma Operation.reads (o : Operation) (hcodes : ∀ n ∈ o.statusCodes, n < 65536) :
    ReadsAt m room read o.toJson o := by
  refine reads_record _ rfl (by decide) ?_
  rintro r rfl rfl hr
  have hparameters : ReadsAt r.medium r.room (list Parameter.read) _ o.parameters :=
    reads_list o.parameters fun p _ _ _ => Parameter.reads p
  have hresponses : ReadsAt r.medium r.room (list Response.read) _ o.responses :=
    reads_list o.responses fun x hx _ _ => Response.reads x fun n hn =>
      hcodes n (List.mem_filterMap.mpr ⟨x, hx, hn⟩)
  have hsecurity : ReadsAt r.medium r.room (list SecurityRequirement.read) _
      o.securityRequirements :=
    reads_list o.securityRequirements fun x _ _ _ => SecurityRequirement.reads x
  rw [hr.required "name" (reads_text o.name) (by simp),
    hr.required "method" (Method.reads o.method) (by simp),
    hr.required "path" (reads_text o.path) (by simp),
    hr.optional_text "summary" o.summary (by simp),
    hr.optional_text "description" o.description (by simp),
    hr.withDefault "deprecated" (reads_flag o.deprecated) (by simp),
    hr.withDefault "parameters" hparameters (by simp),
    hr.optional "requestBody" o.requestBody (fun b _ => RequestBody.reads b)
      (fun _ => ofPresent_ne_null _) (by simp),
    hr.withDefault "responses" hresponses (by simp),
    hr.withDefault "securityRequirements" hsecurity (by simp)]
  rfl

lemma OperationGroup.reads (g : OperationGroup)
    (hcodes : ∀ o ∈ g.operations, ∀ n ∈ o.statusCodes, n < 65536) :
    ReadsAt m room read g.toJson g := by
  refine reads_record _ rfl (by decide) ?_
  rintro r rfl rfl hr
  have hoperations : ReadsAt r.medium r.room (list Operation.read) _ g.operations :=
    reads_list g.operations fun o ho _ _ => Operation.reads o (hcodes o ho)
  rw [hr.required "name" (reads_text g.name) (by simp),
    hr.withDefault "path" (reads_text g.path) (by simp),
    hr.optional_text "description" g.description (by simp),
    hr.withDefault "operations" hoperations (by simp)]
  rfl

lemma OAuthFlow.reads (f : OAuthFlow) : ReadsAt m room read f.toJson f := by
  refine reads_record _ rfl (by decide) ?_
  rintro r rfl rfl hr
  rw [hr.required "type" (FlowKind.reads f.kind) (by simp),
    hr.optional_text "authorizationUrl" f.authorizationUrl (by simp),
    hr.optional_text "tokenUrl" f.tokenUrl (by simp),
    hr.optional_text "refreshUrl" f.refreshUrl (by simp),
    hr.withDefault "scopes" (reads_texts f.scopes) (by simp)]
  rfl

namespace SecurityKind

variable {r : Json.Record}

def ownFields (kind : SecurityKind) : List (String × Option Json) := kind.fields.tail

lemma fields_eq (kind : SecurityKind) :
    kind.fields = ("type", some (.string kind.tag.name)) :: kind.ownFields := rfl

lemma map_fst_ownFields (kind : SecurityKind) :
    kind.ownFields.map (·.1) = namesOf kind.tag := by
  cases kind <;> rfl

lemma readBody_eq {kind : SecurityKind} (hr : r.Shows kind.ownFields) :
    readBody r kind.tag = .read kind := by
  rw [ownFields, fields.eq_def, List.tail_cons] at hr
  cases kind with
  | apiKey paramName place =>
    rw [tag, readBody, hr.required "paramName" (reads_text paramName) (by simp),
      hr.required "in" (KeyPlace.reads place) (by simp)]
    rfl
  | http scheme bearerFormat =>
    rw [tag, readBody, hr.required "scheme" (reads_text scheme) (by simp),
      hr.optional_text "bearerFormat" bearerFormat (by simp)]
    rfl
  | oauth2 flows =>
    rw [tag, readBody,
      hr.required "flows" (reads_list flows fun f _ _ _ => OAuthFlow.reads f) (by simp)]
    rfl
  | openIdConnect url =>
    rw [tag, readBody, hr.required "url" (reads_text url) (by simp)]
    rfl

/-- The kind is read from what is left of the fields when those of the scheme are taken. -/
theorem read_eq {kind : SecurityKind} {listed : List (String × Option Json)}
    (hr : r.Shows (listed ++ kind.fields)) (hnames : r.names = listed.map (·.1)) :
    read r = .read kind := by
  rw [fields_eq] at hr
  exact hr.afterwards_variant hnames (SecurityTag.lookup_name _) (map_fst_ownFields kind)
    fun _ hr' => readBody_eq hr'

lemma nodup_fields (kind : SecurityKind) :
    (["name", "description"] ++ kind.fields.map (·.1)).Nodup := by
  have hnames : ∀ t : SecurityTag, (["name", "description"] ++ "type" :: namesOf t).Nodup := by
    intro t
    cases t <;> decide
  rw [fields_eq, List.map_cons, map_fst_ownFields]
  exact hnames kind.tag

end SecurityKind

lemma SecurityScheme.reads (s : SecurityScheme) : ReadsAt m room read s.toJson s := by
  refine reads_openRecord _ (SecurityKind.nodup_fields s.kind) ?_
  rintro r rfl rfl hnames hr
  have hkind := SecurityKind.read_eq hr hnames
  rw [hr.required "name" (reads_text s.name) (by simp),
    hr.optional_text "description" s.description (by simp), hkind]
  rfl

lemma Info.reads (i : Info) : ReadsAt m room read i.toJson i := by
  refine reads_record _ rfl (by decide) ?_
  rintro r rfl rfl hr
  rw [hr.required "title" (reads_text i.title) (by simp),
    hr.required "version" (reads_text i.version) (by simp),
    hr.optional_text "description" i.description (by simp)]
  rfl

lemma Server.reads (s : Server) : ReadsAt m room read s.toJson s := by
  refine reads_record _ rfl (by decide) ?_
  rintro r rfl rfl hr
  rw [hr.required "url" (reads_text s.url) (by simp),
    hr.optional_text "description" s.description (by simp)]
  rfl

namespace Document

def allOperations (d : Document) : List Operation := d.groups.flatMap (·.operations)

def statusCodes (d : Document) : List ℕ := d.allOperations.flatMap (·.statusCodes)

theorem reads (d : Document) (hcodes : ∀ n ∈ d.statusCodes, n < 65536) :
    ReadsAt m room read d.toJson d := by
  refine reads_record _ rfl (by decide) ?_
  rintro r rfl rfl hr
  have hservers : ReadsAt r.medium r.room (list Server.read) _ d.servers :=
    reads_list d.servers fun s _ _ _ => Server.reads s
  have hgroups : ReadsAt r.medium r.room (list OperationGroup.read) _ d.groups :=
    reads_list d.groups fun g hg _ _ => OperationGroup.reads g fun o ho n hn =>
      hcodes n (List.mem_flatMap.mpr ⟨o, List.mem_flatMap.mpr ⟨g, hg, ho⟩, hn⟩)
  have hschemas : ReadsAt r.medium r.room (list Schema.read) _ d.schemas :=
    reads_list d.schemas fun s _ _ _ => Schema.reads s
  have hsecurity : ReadsAt r.medium r.room (list SecurityScheme.read) _ d.securitySchemes :=
    reads_list d.securitySchemes fun s _ _ _ => SecurityScheme.reads s
  rw [hr.required "info" (Info.reads d.info) (by simp),
    hr.withDefault "servers" hservers (by simp), hr.withDefault "groups" hgroups (by simp),
    hr.withDefault "schemas" hschemas (by simp [Schema.listJson_eq, Json.ofList]),
    hr.withDefault "securitySchemes" hsecurity (by simp)]
  rfl

end Document

end SwiftClient
