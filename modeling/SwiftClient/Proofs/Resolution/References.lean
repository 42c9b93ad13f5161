import SwiftClient.Proofs.Options
import SwiftClient.Proofs.Resolution.Independent
import SwiftClient.Proofs.Resolution.Kept

/-!
# References to declarations

All types in a resolved document name schemas in the way in which they are declared: the package,
then the classes from the top of the document down to the schema that is meant.
-/
namespace SwiftClient

open Naming (className)

/-- Schemas that lie in one another, the first of them in the forest. -/
def Resolved.Schema.IsWay : List Schema → List Schema → Prop
  | _, [] => True
  | forest, t :: rest => t ∈ forest ∧ IsWay t.nested rest

/-- A type spells out the declaration of the schema that is found under a name. -/
def ResolvedDocument.Spells (d : ResolvedDocument) (name : ScopedName) (type : SwiftType) : Prop :=
  ∃ package way t, d.options.package = some package ∧ Resolved.Schema.IsWay d.schemas way ∧
    way.map (·.name) = name ∧ way.getLast? = some t ∧ d.find? name = some t ∧
      type = .named (String.intercalate "." (package :: way.map (·.className)))

/-- What a usage is resolved to, part by part. The parts that are of a schema spell out its
declaration. -/
inductive TypeUsage.SpelledAs (d : ResolvedDocument) : TypeUsage → SwiftType → Prop
  | array {u c : TypeUsage} {type : SwiftType} (kind : u.classification = .array)
      (component : u.component = some c) (inside : SpelledAs d c type) : SpelledAs d u (.array type)
  | map {u k c : TypeUsage} {keyType valueType : SwiftType} (kind : u.classification = .map)
      (component : u.component = some c) (key : u.key = some k) (keyInside : SpelledAs d k keyType)
      (inside : SpelledAs d c valueType) : SpelledAs d u (.dictionary keyType valueType)
  | named {u : TypeUsage} {name : ScopedName} {type : SwiftType} (kind : u.classification.isNamed)
      (scopedName : u.scopedName = some name) (spells : d.Spells name type) : SpelledAs d u type
  | primitive {u : TypeUsage} {type : SwiftType} (kind : u.classification.isPrimitive)
      (scalar : u.classification.swiftType u.format = .ok type) : SpelledAs d u type

def SchemaKind.usages : SchemaKind → List TypeUsage
  | .enum e => [e.valueType]
  | .oneOf o => o.members.map (·.type)
  | other => other.properties.map (·.type)

def SchemaKind.references : SchemaKind → List ScopedName
  | .object o => o.parent.toList ++ o.implements
  | .interface i => i.parents
  | .hierarchy h => h.members ++ h.discriminator.mappings.map (·.scopedName)
  | _ => []

namespace Resolved

def SchemaKind.types : SchemaKind → List SwiftType
  | .enum valueType _ => [valueType]
  | .oneOf members _ => members.map (·.type)
  | other => other.properties.map (·.type)

def SchemaKind.references : SchemaKind → List SwiftType
  | .object _ parent implements _ => parent.toList ++ implements
  | .interface _ parents _ => parents
  | .hierarchy _ discriminator members => members ++ discriminator.mappings.map (·.type)
  | _ => []

def Operation.types (o : Operation) : List SwiftType :=
  o.parameters.map (·.type) ++ o.requestBody.toList.map (·.type) ++ o.responses.filterMap (·.type)

end Resolved

/-- The types of a schema spell out what its usages and its references are of. -/
structure Schema.SpelledAs (d : ResolvedDocument) (s : Schema) (t : Resolved.Schema) : Prop where
  usages : List.Forall₂ (TypeUsage.SpelledAs d) s.kind.usages t.kind.types
  references : List.Forall₂ d.Spells s.kind.references t.kind.references

def OperationGroup.SpelledAs (d : ResolvedDocument) (g : OperationGroup) (t : Resolved.Group) :
    Prop :=
  List.Forall₂ (fun o u => List.Forall₂ (TypeUsage.SpelledAs d) o.usages u.types) g.operations
    t.operations

namespace Resolution

variable {r : Resolution}

lemma Makes.className {s : Schema} {t : Resolved.Schema} (h : r.Makes s t) :
    t.className = className t.name := by
  obtain ⟨-, -, -, -, -, -, rfl⟩ := h.parts
  rfl

lemma exists_way {forest : List Schema} {resolved : List Resolved.Schema} {path : ScopedName}
    {t : Resolved.Schema} (h : List.Forall₂ r.Makes forest resolved)
    (ht : Resolved.Schema.find? resolved path = some t) :
    ∃ way, Resolved.Schema.IsWay resolved way ∧ way.map (·.name) = path ∧ way.getLast? = some t ∧
      way.map (·.className) = path.map className := by
  induction path generalizing forest resolved with
  | nil => simp [Resolved.Schema.find?] at ht
  | cons name path ih =>
    have hstep : ∀ u, resolved.find? (·.name == name) = some u →
        u ∈ resolved ∧ u.name = name ∧ u.className = className name ∧
          ∃ below, List.Forall₂ r.Makes below u.nested := by
      intro u hu
      have hmem := List.mem_of_find?_eq_some hu
      have hname : u.name = name := by simpa using List.find?_some hu
      obtain ⟨s, -, hs : r.Makes s u⟩ := exists_mem_of_forall₂ h.flip hmem
      exact ⟨hmem, hname, hname ▸ hs.className, s.nested, hs.nested⟩
    rw [Resolved.Schema.find?_cons] at ht
    split_ifs at ht with hpath
    · obtain ⟨hmem, hname, hclass, -⟩ := hstep t ht
      subst hpath
      exact ⟨[t], ⟨hmem, trivial⟩, by simp [hname], rfl, by simp [hclass]⟩
    · obtain ⟨u, hu, hbelow⟩ := Option.bind_eq_some_iff.mp ht
      obtain ⟨hmem, hname, hclass, below, hmakes⟩ := hstep u hu
      obtain ⟨way, hway, hnames, hlast, hclasses⟩ := ih hmakes hbelow
      refine ⟨u :: way, ⟨hmem, hway⟩, by simp [hname, hnames], ?_, by simp [hclass, hclasses]⟩
      rw [List.getLast?_cons, hlast]
      rfl

end Resolution

namespace TypeUsage

variable {d : Document} {resolved : ResolvedDocument} {u : TypeUsage} {package : Option String}
  {context : String} {type : SwiftType}

lemma swiftType_of_literalContext {required : Bool} {ctx : LiteralContext}
    (h : u.literalContext package context required = .ok ctx) :
    u.swiftType package context = .ok ctx.type := by
  unfold literalContext at h
  split at h <;> simp only [Outcome.bind_eq_ok, Outcome.pure_eq_ok] at h
  · obtain ⟨type, htype, inner, -, rfl⟩ := h
    exact htype
  · obtain ⟨type, htype, inner, -, rfl⟩ := h
    exact htype
  · obtain ⟨type, htype, rfl⟩ := h
    exact htype

/-- A well-formed usage spells out the schemas in it as soon as they are spelled out by name. -/
theorem WellFormed.spelledAs
    (hspells : ∀ name, d.has name → resolved.Spells name (name.swiftType package))
    (h : u.WellFormed d) (htype : u.swiftType package context = .ok type) :
    u.SpelledAs resolved type := by
  induction h generalizing type with
  | array kind component _ ih =>
    rw [swiftType_array kind component] at htype
    simp only [Outcome.bind_eq_ok, Outcome.pure_eq_ok] at htype
    obtain ⟨inner, hinner, rfl⟩ := htype
    exact .array kind component (ih hinner)
  | map kind component key _ _ ihk ihc =>
    rw [swiftType_map kind component key] at htype
    split_ifs at htype with hkey
    simp only [Outcome.bind_eq_ok] at htype
    obtain ⟨keyType, hkeyType, valueType, hvalueType, hdictionary⟩ := htype
    rw [SwiftType.dictionaryOf, component?_swiftType hkey hkeyType] at hdictionary
    obtain rfl := Except.ok.inj hdictionary
    exact .map kind component key (ihk hkeyType) (ihc hvalueType)
  | @named u name kind scopedName found =>
    rw [swiftType_named kind scopedName] at htype
    obtain rfl := Except.ok.inj htype
    exact .named kind scopedName (hspells name found)
  | primitive kind =>
    rw [swiftType_primitive kind] at htype
    exact .primitive kind htype

end TypeUsage

namespace Resolution

variable {r : Resolution} {context : String}

def Types (r : Resolution) (u : TypeUsage) (type : SwiftType) : Prop :=
  ∃ context, u.swiftType r.package context = .ok type

lemma types_of_property {p : Property} {q : Resolved.Property}
    (h : (r.property context p).result = .ok q) : r.Types p.type q.type := by
  simp only [property, Traced.result_bind, Traced.result_lift, Traced.result_pure,
    Outcome.bind_eq_ok, Except.ok.injEq] at h
  obtain ⟨ctx, hctx, values, -, rfl⟩ := h
  exact ⟨_, TypeUsage.swiftType_of_literalContext hctx⟩

lemma types_of_parameter {p : Parameter} {q : Resolved.Parameter}
    (h : (r.parameter context p).result = .ok q) : r.Types p.type q.type := by
  simp only [parameter, Traced.result_bind, Traced.result_lift, Traced.result_pure,
    Outcome.bind_eq_ok, Except.ok.injEq] at h
  obtain ⟨ctx, hctx, values, -, rfl⟩ := h
  exact ⟨_, TypeUsage.swiftType_of_literalContext hctx⟩

lemma types_of_member {m : Member} {q : Resolved.Member} (h : r.member context m = .ok q) :
    r.Types m.type q.type := by
  simp only [member, Outcome.bind_eq_ok, Outcome.pure_eq_ok] at h
  obtain ⟨type, htype, rfl⟩ := h
  exact ⟨_, htype⟩

lemma forall₂_map_types {α β : Type} {R : α → β → Prop} {usage : α → TypeUsage}
    {type : β → SwiftType} {xs : List α} {ys : List β} (h : List.Forall₂ R xs ys)
    (hR : ∀ x y, R x y → r.Types (usage x) (type y)) :
    List.Forall₂ r.Types (xs.map usage) (ys.map type) := by
  rw [List.forall₂_map_left_iff, List.forall₂_map_right_iff]
  exact h.imp hR

theorem types_of_kind {s : Schema} {k : Resolved.SchemaKind} (h : (r.kind s).result = .ok k) :
    List.Forall₂ r.Types s.kind.usages k.types ∧
      k.references = s.kind.references.map (·.swiftType r.package) := by
  have hmakes := makesKind_of_kind h
  generalize s.kind = kind at hmakes
  cases hmakes with
  | object properties =>
    refine ⟨forall₂_map_types properties fun _ _ => types_of_property, ?_⟩
    simp [SchemaKind.references, Resolved.SchemaKind.references, Option.toList_map]
  | enum value => exact ⟨.cons ⟨_, TypeUsage.swiftType_of_literalContext value⟩ .nil, rfl⟩
  | interface properties => exact ⟨forall₂_map_types properties fun _ _ => types_of_property, rfl⟩
  | hierarchy properties =>
    refine ⟨forall₂_map_types properties fun _ _ => types_of_property, ?_⟩
    simp [SchemaKind.references, Resolved.SchemaKind.references, discriminator, mapping]
  | wrapper property => exact ⟨.cons (types_of_property property) .nil, rfl⟩
  | oneOf members => exact ⟨forall₂_map_types members fun _ _ => types_of_member, rfl⟩

theorem types_of_operation {g : OperationGroup} {o : Operation} {u : Resolved.Operation}
    (h : (r.operation g o).result = .ok u) : List.Forall₂ r.Types o.usages u.types := by
  simp only [operation, Traced.result_bind, Traced.result_lift, Traced.result_ofExcept,
    Traced.result_mapM, Traced.result_pure, Outcome.bind_eq_ok, Outcome.mapM_eq_ok,
    ifPresent_eq_ok, Except.ok.injEq] at h
  obtain ⟨parameters, hparameters, body, hbody, responses, hresponses, rfl⟩ := h
  refine List.rel_append (List.rel_append ?_ ?_) ?_
  · exact forall₂_map_types hparameters fun _ _ => types_of_parameter
  · generalize o.requestBody = b at hbody ⊢
    cases hbody with
    | none => exact .nil
    | some hb =>
      simp only [requestBody, Outcome.bind_eq_ok, Outcome.pure_eq_ok] at hb
      obtain ⟨type, htype, rfl⟩ := hb
      exact .cons ⟨_, htype⟩ .nil
  · refine List.rel_filterMap ?_ hresponses
    intro p q hq
    simp only [response, Outcome.bind_eq_ok, Outcome.pure_eq_ok, ifPresent_eq_ok] at hq
    obtain ⟨type, htype, rfl⟩ := hq
    change Option.Rel r.Types p.type type
    generalize p.type = usage at htype
    cases htype with
    | none => exact .none
    | some ht => exact .some ⟨_, ht⟩

end Resolution

namespace SchemaKind.MembersNamed

variable {nested : List Schema} {kind named : SchemaKind}

lemma usages (h : kind.MembersNamed nested named) : named.usages = kind.usages := by
  cases h with
  | oneOf members _ => exact map_eq_map_of_forall₂ members fun _ _ hm => hm.type
  | other => rfl

lemma references (h : kind.MembersNamed nested named) : named.references = kind.references := by
  cases h <;> rfl

end SchemaKind.MembersNamed

lemma Resolution.Makes.types {r : Resolution} {s : Schema} {t : Resolved.Schema}
    (h : r.Makes s t) :
    List.Forall₂ r.Types s.kind.usages t.kind.types ∧
      t.kind.references = s.kind.references.map (·.swiftType r.package) := by
  obtain ⟨named, kind, nested, hnamed, hkind, -, rfl⟩ := h.parts
  have hmembers := (Schema.membersNamed_of_nameMembers hnamed).kinds
  have htypes := types_of_kind hkind
  rw [hmembers.usages, hmembers.references] at htypes
  exact htypes

lemma SchemaKind.WellFormed.has_references {d : Document} {kind : SchemaKind}
    (h : kind.WellFormed d) : ∀ name ∈ kind.references, d.has name := by
  cases kind with
  | object | interface | hierarchy => exact h
  | enum | wrapper | oneOf => simp [references]

lemma Schema.WellFormed.usages {d : Document} {s : Schema} (h : s.WellFormed d) :
    ∀ u ∈ s.kind.usages, u.WellFormed d := by
  obtain ⟨-, htypes, hkind⟩ := h
  unfold properties at htypes
  generalize s.kind = kind at htypes hkind
  cases kind with
  | enum e => exact List.forall_mem_singleton.mpr hkind.2
  | oneOf o => exact List.forall_mem_map.mpr hkind.2
  | object | interface | hierarchy | wrapper => exact List.forall_mem_map.mpr htypes

namespace Document

variable {c : Configuration} {d : Document} {options : Options} {resolved : ResolvedDocument}

/-- A name under which a schema is found is resolved to a type that spells out its declaration. -/
theorem spells_of_has {package : String} (h : (d.resolve options).result = .ok resolved)
    (hpackage : resolved.options.package = some package) (hne : package ≠ "") {name : ScopedName}
    (hname : d.has name) : resolved.Spells name (name.swiftType (some package)) := by
  obtain ⟨named, -, hmakes⟩ := makes_of_resolve h
  obtain ⟨s, hs⟩ := Option.isSome_iff_exists.mp hname
  have hfind := Resolution.makes_find? hmakes name
  rw [show Schema.find? d.schemas name = some s from hs] at hfind
  obtain ⟨t, ht, -⟩ := exists_of_rel_some hfind
  obtain ⟨way, hway, hnames, hlast, hclasses⟩ := Resolution.exists_way hmakes ht
  have hqualified : ((some package).filter (· ≠ "")).toList = [package] := by
    simp [Option.filter, hne]
  refine ⟨package, way, t, hpackage, hway, hnames, hlast, ht, ?_⟩
  rw [hclasses, ScopedName.swiftType, hqualified]
  rfl

/-- With options from a configuration, each type of a resolved document spells out the schemas that
it is of, down through arrays and maps: for every property, value, member, parameter, body and
response, and for what schemas inherit from or consist of. -/
theorem resolve_spells_references (hoptions : Options.ofConfiguration c = .ok options)
    (h : (d.resolve options).result = .ok resolved) :
    List.Forall₂ (Schema.SpelledAs resolved) d.allSchemas resolved.allSchemas ∧
      List.Forall₂ (OperationGroup.SpelledAs resolved) d.groups resolved.groups := by
  obtain ⟨-, hschemas, hoperations⟩ := validate_eq_ok_iff_wellFormed.mp (resolve_eq_ok.mp h).1
  obtain ⟨package, hne, hpackage⟩ := Options.exists_package_complete hoptions d.info
  have hcompleted : resolved.options.package = some package := by
    rw [options_of_resolve h, hpackage]
  have hspells : ∀ name, d.has name → resolved.Spells name (name.swiftType (some package)) :=
    fun name => spells_of_has h hcompleted hne
  have husages : ∀ {r : Resolution}, r.package = some package → ∀ {us : List TypeUsage}
      {types : List SwiftType}, (∀ u ∈ us, u.WellFormed d) → List.Forall₂ r.Types us types →
        List.Forall₂ (TypeUsage.SpelledAs resolved) us types := by
    intro r hr us types hwell htypes
    refine forall₂_imp_of_mem htypes ?_
    rintro u hu type ⟨context, htype⟩
    exact (hwell u hu).spelledAs hspells (hr ▸ htype)
  constructor
  · obtain ⟨named', -, hmakes⟩ := makes_of_resolve h
    refine forall₂_imp_of_mem (Resolution.makes_flattenAll hmakes) fun s hs t hst => ?_
    obtain ⟨htypes, hreferences⟩ := hst.types
    refine ⟨husages hcompleted (hschemas s hs).usages htypes, ?_⟩
    rw [hreferences, List.forall₂_map_right_iff, List.forall₂_same]
    intro name hname
    change resolved.Spells name (name.swiftType resolved.options.package)
    rw [hcompleted]
    exact hspells name ((hschemas s hs).kind.has_references name hname)
  · obtain ⟨named', hnamed, schemas, groups, -, hgroups, rfl⟩ := (resolve_eq_ok.mp h).2
    simp only [nameMembers, Outcome.bind_eq_ok, Outcome.pure_eq_ok] at hnamed
    obtain ⟨forest, -, rfl⟩ := hnamed
    rw [Resolution.allGroups, Traced.result_mapM, Outcome.mapM_eq_ok] at hgroups
    refine forall₂_imp_of_mem hgroups fun g hg t ht => ?_
    refine forall₂_imp_of_mem (Resolution.of_group_eq_ok ht).2 fun o ho u hu => ?_
    exact husages hpackage ((hoperations g hg).types o ho) (Resolution.types_of_operation hu)

theorem resolve_spells_references_petShop :
    ∃ options resolved,
      Options.ofConfiguration ⟨[("package", .object [("name", .string "Shop")])], none⟩ =
          .ok options ∧
        (petShop.resolve options).result = .ok resolved ∧
        List.Forall₂ (Schema.SpelledAs resolved) petShop.allSchemas resolved.allSchemas ∧
        List.Forall₂ (OperationGroup.SpelledAs resolved) petShop.groups resolved.groups ∧
        resolved.allSchemas.map (·.kind.types) =
          [[.named "Shop.Pet.Size"], [.named "Int", .named "String"]] := by
  obtain ⟨options, hoptions, resolved, h, htypes⟩ : ∃ options, Options.ofConfiguration
      ⟨[("package", .object [("name", .string "Shop")])], none⟩ = .ok options ∧
        ∃ resolved, (petShop.resolve options).result = .ok resolved ∧
          resolved.allSchemas.map (·.kind.types) =
            [[.named "Shop.Pet.Size"], [.named "Int", .named "String"]] := by
    decide +kernel
  obtain ⟨hschemas, hgroups⟩ := resolve_spells_references hoptions h
  exact ⟨options, resolved, hoptions, h, hschemas, hgroups, htypes⟩

end Document

end SwiftClient
