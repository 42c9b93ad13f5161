import SwiftClient.Document.Lookup
import SwiftClient.Proofs.Document.Reading

/-!
# Documents from their text

The text of a document gives the document again. Its values are plain when those are that it holds
as JSON, which are the only ones that a document does not make itself.
-/
namespace SwiftClient

namespace Json

/-- A value as it is kept in memory, with every object in order, and without doubles. -/
structure Plain (v : Json) : Prop where
  ordered : v.Ordered
  withoutDoubles : v.WithoutDoubles

@[simp] lemma plain_null : Plain .null := ⟨trivial, trivial⟩

@[simp] lemma plain_string (s : String) : Plain (.string s) := ⟨trivial, trivial⟩

@[simp] lemma plain_bool (b : Bool) : Plain (.bool b) := ⟨trivial, trivial⟩

lemma plain_ofNat {n : ℕ} (hn : n < 65536) : Plain (ofNat n) := by
  refine ⟨trivial, ?_⟩
  simp only [ofNat, WithoutDoubles, Number.least, Number.greatest]
  omega

lemma plain_array {items : List Json} (h : ∀ item ∈ items, item.Plain) : Plain (.array items) :=
  ⟨orderedItems_iff.mpr fun item hi => (h item hi).ordered,
    itemsWithoutDoubles_iff.mpr fun item hi => (h item hi).withoutDoubles⟩

lemma plain_ofList {α : Type} {encode : α → Json} {xs : List α} (h : ∀ x ∈ xs, (encode x).Plain) :
    (ofList encode xs).Plain :=
  plain_array (List.forall_mem_map.mpr h)

@[simp] lemma plain_ofStrings (xs : List String) : (ofStrings xs).Plain :=
  plain_ofList fun x _ => plain_string x

lemma plain_ofPresent {listed : List (String × Option Json)}
    (h : ∀ f ∈ listed, ∀ v ∈ f.2, v.Plain) : (ofPresent listed).Plain := by
  have hsorted : ∀ f ∈ Sorted.ofList (present listed), f.2.Plain := fun f hf =>
    h _ (mem_present.mp (Sorted.mem_ofList hf)) _ rfl
  rw [ofPresent_eq]
  refine ⟨⟨List.pairwise_map.mpr (Sorted.pairwise_ofList _), ?_⟩, ?_⟩
  · exact orderedFields_iff.mpr fun f hf => (hsorted f hf).ordered
  · exact fieldsWithoutDoubles_iff.mpr fun f hf => (hsorted f hf).withoutDoubles

end Json

open Json

@[simp] lemma Classification.plain_toJson (c : Classification) : c.toJson.Plain := plain_string _

@[simp] lemma Purpose.plain_toJson (p : Purpose) : p.toJson.Plain := plain_string _

@[simp] lemma ScopedName.plain_toJson (name : ScopedName) : name.toJson.Plain := plain_ofStrings _

namespace TypeUsage

lemma plain_fields (t : TypeUsage) {component key : Option Json} (hc : ∀ v ∈ component, v.Plain)
    (hk : ∀ v ∈ key, v.Plain) : (t.fields component key).Plain := by
  refine plain_ofPresent ?_
  simpa using And.intro hc hk

@[simp] theorem plain_toJson : ∀ t : TypeUsage, t.toJson.Plain
  | ⟨_, _, _, _, none, none, _⟩ => by
    rw [toJson]
    exact plain_fields _ (by simp) (by simp)
  | ⟨_, _, _, _, some c, none, _⟩ => by
    rw [toJson]
    exact plain_fields _ (by simpa using plain_toJson c) (by simp)
  | ⟨_, _, _, _, none, some k, _⟩ => by
    rw [toJson]
    exact plain_fields _ (by simp) (by simpa using plain_toJson k)
  | ⟨_, _, _, _, some c, some k, _⟩ => by
    rw [toJson]
    exact plain_fields _ (by simpa using plain_toJson c) (by simpa using plain_toJson k)

end TypeUsage

lemma Property.plain_toJson {p : Property} (h : ∀ v ∈ p.default, v.Plain) : p.toJson.Plain := by
  refine plain_ofPresent ?_
  simpa using h

@[simp] lemma Mapping.plain_toJson (x : Mapping) : x.toJson.Plain := by
  refine plain_ofPresent ?_
  simp

@[simp] lemma Discriminator.plain_toJson (d : Discriminator) : d.toJson.Plain := by
  refine plain_ofPresent ?_
  have hmappings : (Json.ofList Mapping.toJson d.mappings).Plain := plain_ofList (by simp)
  simpa using hmappings

@[simp] lemma Member.plain_toJson (x : Member) : x.toJson.Plain := by
  refine plain_ofPresent ?_
  simp

namespace SchemaKind

def enumValues : SchemaKind → List Json
  | enum e => e.values
  | _ => []

/-- The values that a kind holds as JSON: the defaults of its properties and the values of an
enum. -/
def embedded (kind : SchemaKind) : List Json :=
  kind.properties.filterMap (·.default) ++ kind.enumValues

lemma plain_propertiesJson {properties : List Property}
    (h : ∀ v ∈ properties.filterMap (·.default), v.Plain) : (propertiesJson properties).Plain :=
  plain_ofList fun p hp => Property.plain_toJson fun v hv =>
    h v (List.mem_filterMap.mpr ⟨p, hp, hv⟩)

@[simp] lemma plain_namesJson (names : List ScopedName) : (namesJson names).Plain :=
  plain_ofList fun name _ => name.plain_toJson

lemma plain_fields {kind : SchemaKind} (h : ∀ v ∈ kind.embedded, v.Plain) :
    ∀ f ∈ kind.fields, ∀ v ∈ f.2, v.Plain := by
  rw [embedded, List.forall_mem_append] at h
  obtain ⟨hdefaults, hvalues⟩ := h
  have hproperties := plain_propertiesJson hdefaults
  cases kind with
  | object o => simpa [fields, properties] using hproperties
  | enum e => simpa [fields, enumValues] using plain_array hvalues
  | interface i => simpa [fields, properties] using hproperties
  | hierarchy hs => simpa [fields, properties] using hproperties
  | wrapper w =>
    have hproperty : w.property.toJson.Plain :=
      Property.plain_toJson fun v hv =>
        hdefaults v (List.mem_filterMap.mpr ⟨w.property, List.mem_singleton_self _, hv⟩)
    simpa [fields] using hproperty
  | oneOf o =>
    have hmembers : (Json.ofList Member.toJson o.members).Plain := plain_ofList (by simp)
    simpa [fields] using hmembers

end SchemaKind

namespace Schema

mutual

theorem plain_toJson : ∀ s : Schema, (∀ t ∈ s.flatten, ∀ v ∈ t.kind.embedded, v.Plain) →
    s.toJson.Plain
  | ⟨name, scopedName, description, purpose, nullable, kind, nested⟩, h => by
    rw [flatten, List.forall_mem_cons] at h
    have hnested : (Json.ofList toJson nested).Plain := plain_ofList (plain_forest nested h.2)
    rw [toJson_eq]
    refine plain_ofPresent (List.forall_mem_append.mpr ⟨?_, SchemaKind.plain_fields h.1⟩)
    simpa [ownFields] using hnested

theorem plain_forest : ∀ forest : List Schema,
    (∀ t ∈ flattenAll forest, ∀ v ∈ t.kind.embedded, v.Plain) → ∀ s ∈ forest, s.toJson.Plain
  | [], _ => List.forall_mem_nil _
  | s :: rest, h => by
    rw [flattenAll, List.forall_mem_append] at h
    exact List.forall_mem_cons.mpr ⟨plain_toJson s h.1, plain_forest rest h.2⟩

end

end Schema

lemma Parameter.plain_toJson {p : Parameter} (h : ∀ v ∈ p.default, v.Plain) : p.toJson.Plain := by
  refine plain_ofPresent ?_
  simpa using h

@[simp] lemma RequestBody.plain_toJson (b : RequestBody) : b.toJson.Plain := by
  refine plain_ofPresent ?_
  simp

lemma Response.plain_toJson {x : Response} (h : ∀ n ∈ x.code, n < 65536) : x.toJson.Plain := by
  have hcode : ∀ n ∈ x.code, (Json.ofNat n).Plain := fun n hn => plain_ofNat (h n hn)
  refine plain_ofPresent ?_
  simpa using hcode

@[simp] lemma SecurityRequirement.plain_toJson (x : SecurityRequirement) : x.toJson.Plain := by
  refine plain_ofPresent ?_
  simp

namespace Operation

def embedded (o : Operation) : List Json := o.parameters.filterMap (·.default)

lemma plain_toJson {o : Operation} (h : ∀ v ∈ o.embedded, v.Plain)
    (hcodes : ∀ n ∈ o.statusCodes, n < 65536) : o.toJson.Plain := by
  have hparameters : (Json.ofList Parameter.toJson o.parameters).Plain :=
    plain_ofList fun p hp => Parameter.plain_toJson fun v hv =>
      h v (List.mem_filterMap.mpr ⟨p, hp, hv⟩)
  have hresponses : (Json.ofList Response.toJson o.responses).Plain :=
    plain_ofList fun x hx => Response.plain_toJson fun n hn =>
      hcodes n (List.mem_filterMap.mpr ⟨x, hx, hn⟩)
  have hsecurity : (Json.ofList SecurityRequirement.toJson o.securityRequirements).Plain :=
    plain_ofList (by simp)
  refine plain_ofPresent ?_
  simpa using And.intro hparameters (And.intro hresponses hsecurity)

end Operation

lemma OperationGroup.plain_toJson {g : OperationGroup}
    (h : ∀ o ∈ g.operations, ∀ v ∈ o.embedded, v.Plain)
    (hcodes : ∀ o ∈ g.operations, ∀ n ∈ o.statusCodes, n < 65536) : g.toJson.Plain := by
  have hoperations : (Json.ofList Operation.toJson g.operations).Plain :=
    plain_ofList fun o ho => Operation.plain_toJson (h o ho) (hcodes o ho)
  refine plain_ofPresent ?_
  simpa using hoperations

@[simp] lemma OAuthFlow.plain_toJson (f : OAuthFlow) : f.toJson.Plain := by
  refine plain_ofPresent ?_
  simp

lemma SecurityKind.plain_fields (kind : SecurityKind) : ∀ f ∈ kind.fields, ∀ v ∈ f.2, v.Plain := by
  cases kind with
  | apiKey _ _ => simp [fields]
  | http _ _ => simp [fields]
  | oauth2 flows =>
    have hflows : (Json.ofList OAuthFlow.toJson flows).Plain := plain_ofList (by simp)
    simpa [fields] using hflows
  | openIdConnect _ => simp [fields]

@[simp] lemma SecurityScheme.plain_toJson (s : SecurityScheme) : s.toJson.Plain := by
  refine plain_ofPresent (List.forall_mem_append.mpr ⟨?_, SecurityKind.plain_fields s.kind⟩)
  simp

@[simp] lemma Info.plain_toJson (i : Info) : i.toJson.Plain := by
  refine plain_ofPresent ?_
  simp

@[simp] lemma Server.plain_toJson (s : Server) : s.toJson.Plain := by
  refine plain_ofPresent ?_
  simp

namespace Document

/-- The values that a document holds as JSON: defaults and the values of enums. -/
def embedded (d : Document) : List Json :=
  d.allSchemas.flatMap (·.kind.embedded) ++ d.allOperations.flatMap (·.embedded)

theorem plain_toJson {d : Document} (h : ∀ v ∈ d.embedded, v.Plain)
    (hcodes : ∀ n ∈ d.statusCodes, n < 65536) : d.toJson.Plain := by
  rw [embedded, List.forall_mem_append] at h
  have hservers : (Json.ofList Server.toJson d.servers).Plain := plain_ofList (by simp)
  have hgroups : (Json.ofList OperationGroup.toJson d.groups).Plain := by
    refine plain_ofList fun g hg => OperationGroup.plain_toJson ?_ ?_
    · exact fun o ho v hv =>
        h.2 v (List.mem_flatMap.mpr ⟨o, List.mem_flatMap.mpr ⟨g, hg, ho⟩, hv⟩)
    · exact fun o ho n hn =>
        hcodes n (List.mem_flatMap.mpr ⟨o, List.mem_flatMap.mpr ⟨g, hg, ho⟩, hn⟩)
  have hschemas : (Json.ofList Schema.toJson d.schemas).Plain :=
    plain_ofList (Schema.plain_forest d.schemas fun s hs v hv =>
      h.1 v (List.mem_flatMap.mpr ⟨s, hs, hv⟩))
  have hsecurity : (Json.ofList SecurityScheme.toJson d.securitySchemes).Plain :=
    plain_ofList (by simp)
  rw [Json.ofList, ← Schema.listJson_eq] at hschemas
  refine plain_ofPresent ?_
  simpa using And.intro hservers (And.intro hgroups (And.intro hschemas hsecurity))

/-- A document is what its text says, in whatever order the fields of its records are written. -/
theorem ofText_of_rearranged {d : Document}
    (hinfo : Text.allBlank d.info.title = false ∨ Text.allBlank d.info.version = false)
    (hdepth : d.toJson.depth ≤ mostOpen) (hvalues : ∀ v ∈ d.embedded, v.Plain)
    (hcodes : ∀ n ∈ d.statusCodes, n < 65536) {w : Json} (hw : d.toJson.Rearranged w) :
    ofText w.text = .ok d := by
  have hplain := plain_toJson hvalues hcodes
  have hdraft := Draft.ofText_text (hw.withoutDoubles hplain.withoutDoubles)
  have hread : read .text mostOpen (.ofJson w) = .ok d :=
    Document.reads d hcodes w hw hplain.ordered hdepth
  have hnamed : d.isAnonymous = false := by
    rw [isAnonymous, Bool.and_eq_false_iff]
    exact hinfo
  have htext : read.ofText w.text = .ok d := by
    rw [Reader.ofText, hdraft]
    simp only [hread]
    rfl
  rw [ofText, htext]
  simp only [Except.mapError, Outcome.bind_eq_ok, Except.ok.injEq, exists_eq_left', hnamed,
    Bool.false_eq_true, if_false]

/-- Pets, each of a size. The sound that they make is null where it is not given, while nothing is
said of a name that is not given. -/
def petsOfSizes : Document :=
  ⟨⟨"Pets", "", none⟩, [⟨"https://pets.example.com", none⟩],
    [⟨"pets", "/pets", none,
      [{ name := "listPets", method := .get, path := "",
         parameters :=
           [{ name := "limit", place := .query, type := .scalar .integer none,
              default := some (ofNat 20) }],
         responses := [{ code := some 200, type := some (.arrayOf (.named .object ["Pet"])) }] }]⟩],
    [.top "Pet" (.object
      { properties :=
          [{ name := "name", type := .scalar .string none },
            { name := "sound", type := .scalar .string none, default := some .null },
            { name := "size", type := .named .enum ["Size"] }] }),
      .top "Size" (.enum ⟨.scalar .string none, [.string "small", .string "large"]⟩)],
    [⟨"key", none, .apiKey "X-Key" .header⟩]⟩

theorem ofText_of_rearranged_petsOfSizes :
    (Text.allBlank petsOfSizes.info.title = false ∨
        Text.allBlank petsOfSizes.info.version = false) ∧
      petsOfSizes.toJson.depth ≤ mostOpen ∧ (∀ v ∈ petsOfSizes.embedded, v.Plain) ∧
      (∀ n ∈ petsOfSizes.statusCodes, n < 65536) ∧
      ofText petsOfSizes.toJson.text = .ok petsOfSizes := by
  have hinfo : Text.allBlank petsOfSizes.info.title = false ∨
      Text.allBlank petsOfSizes.info.version = false := by decide
  have hdepth : petsOfSizes.toJson.depth ≤ mostOpen := by decide +kernel
  have hvalues : petsOfSizes.embedded =
      [.null, .string "small", .string "large", ofNat 20] := rfl
  have hplain : ∀ v ∈ petsOfSizes.embedded, v.Plain := by
    rw [hvalues]
    simp [plain_ofNat]
  have hcodes : ∀ n ∈ petsOfSizes.statusCodes, n < 65536 := by decide
  exact ⟨hinfo, hdepth, hplain, hcodes, ofText_of_rearranged hinfo hdepth hplain hcodes (.refl _)⟩

end Document

end SwiftClient
