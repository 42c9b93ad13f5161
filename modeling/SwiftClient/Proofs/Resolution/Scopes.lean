import SwiftClient.Proofs.Naming.Namesakes
import SwiftClient.Proofs.Resolution.Kept

/-!
# Names in one scope

Resolving puts names into scopes of Swift: the properties of a type, the members of an enum, the
cases that values of a discriminator decode to, the parameters of a method and the methods of a
class. Each comes from one name of the document, and the names of a scope differ exactly when no two
names that they come from are namesakes.
-/
namespace SwiftClient

open Naming (EnumStyle Namesakes memberName identifier)

/-- Names of a document that become Swift names of one style. -/
structure NameList where
  style : EnumStyle
  names : List String

namespace NameList

def swiftNames (l : NameList) : List String := l.names.map (memberName l.style)

def Apart (l : NameList) : Prop := l.names.Pairwise fun a b => ¬ Namesakes l.style a b

instance (l : NameList) : Decidable l.Apart := inferInstanceAs (Decidable (List.Pairwise _ _))

theorem nodup_swiftNames_iff (l : NameList) : l.swiftNames.Nodup ↔ l.Apart := by
  rw [swiftNames, List.Nodup, List.pairwise_map, Apart]
  simp only [ne_eq, Naming.memberName_eq_iff]

def ofNames (names : List String) : NameList := ⟨.camelCase, names⟩

lemma map_eq_swiftNames {α β : Type} {R : α → β → Prop} {xs : List α} {ys : List β}
    {name : α → String} {swiftName : β → String} {style : EnumStyle} (h : List.Forall₂ R xs ys)
    (hR : ∀ x y, R x y → swiftName y = memberName style (name x)) :
    ys.map swiftName = swiftNames ⟨style, xs.map name⟩ := by
  rw [swiftNames, List.map_map]
  exact map_eq_map_of_forall₂ h hR

end NameList

/-- The name of a mapping is the last part of the name of its schema. -/
def SchemaKind.nameLists (style : EnumStyle) : SchemaKind → List NameList
  | .object o => [.ofNames (o.properties.map (·.name))]
  | .enum e => [⟨style, e.values.map Resolution.valueText⟩]
  | .interface i => [.ofNames (i.properties.map (·.name))]
  | .hierarchy h =>
    [.ofNames (h.properties.map (·.name)),
      .ofNames (h.discriminator.mappings.map fun m => m.scopedName.getLast?.getD m.value)]
  | .wrapper _ => []
  | .oneOf _ => []

def OperationGroup.nameLists (g : OperationGroup) : List NameList :=
  .ofNames (g.operations.map (·.name)) ::
    g.operations.map fun o => .ofNames (o.parameters.map (·.name))

/-- The names of a document, scope by scope, where members of enums are named in the style. -/
def Document.nameLists (d : Document) (style : EnumStyle) : List NameList :=
  d.allSchemas.flatMap (·.kind.nameLists style) ++ d.groups.flatMap (·.nameLists)

namespace Resolved

/-- The names that a type declares. A wrapper has one only, and cases of a choice are not all named
after names of the document. -/
def SchemaKind.scopes : SchemaKind → List (List String)
  | .object properties _ _ _ => [properties.map (·.identifier)]
  | .enum _ members => [members.map (·.name)]
  | .interface properties _ _ => [properties.map (·.identifier)]
  | .hierarchy properties discriminator _ =>
    [properties.map (·.identifier), discriminator.mappings.map (·.memberName)]
  | .wrapper _ => []
  | .oneOf _ _ => []

def Group.scopes (g : Group) : List (List String) :=
  g.operations.map (·.methodName) ::
    g.operations.map fun o => o.parameters.map (·.identifier)

end Resolved

def ResolvedDocument.scopes (d : ResolvedDocument) : List (List String) :=
  d.allSchemas.flatMap (·.kind.scopes) ++ d.groups.flatMap (·.scopes)

namespace Resolution

variable {r : Resolution} {context : String}

lemma identifier_of_property {p : Property} {q : Resolved.Property}
    (h : (r.property context p).result = .ok q) : q.identifier = identifier p.name := by
  simp only [property, Traced.result_bind, Traced.result_lift, Traced.result_pure,
    Outcome.bind_eq_ok, Except.ok.injEq] at h
  obtain ⟨ctx, -, values, -, rfl⟩ := h
  rfl

lemma identifiers_of_properties {ps : List Property} {qs : List Resolved.Property}
    (h : List.Forall₂ (fun p q => (r.property context p).result = .ok q) ps qs) :
    qs.map (·.identifier) = (NameList.ofNames (ps.map (·.name))).swiftNames :=
  NameList.map_eq_swiftNames h fun _ _ => identifier_of_property

lemma identifier_of_parameter {p : Parameter} {q : Resolved.Parameter}
    (h : (r.parameter context p).result = .ok q) : q.identifier = identifier p.name := by
  simp only [parameter, Traced.result_bind, Traced.result_lift, Traced.result_pure,
    Outcome.bind_eq_ok, Except.ok.injEq] at h
  obtain ⟨ctx, -, values, -, rfl⟩ := h
  rfl

lemma names_of_enumMembers {ctx : LiteralContext} {values : List Json}
    {members : List Resolved.EnumMember}
    (h : List.Forall₂ (fun v m => (r.enumMember ctx v).result = .ok m) values members) :
    members.map (·.name) = NameList.swiftNames ⟨r.enumStyle, values.map valueText⟩ := by
  refine NameList.map_eq_swiftNames h fun v m hm => ?_
  rw [name_of_enumMember hm, value_of_enumMember hm]

/-- Cases of a mapping are called by schemas, for a hierarchy has no named members. -/
lemma memberNames_of_discriminator (x : Discriminator) :
    (r.discriminator [] x).mappings.map (·.memberName) =
      (NameList.ofNames
        (x.mappings.map fun m => m.scopedName.getLast?.getD m.value)).swiftNames := by
  rw [NameList.swiftNames, NameList.ofNames, discriminator, List.map_map, List.map_map]
  rfl

lemma scopes_of_kind {s : Schema} {k : Resolved.SchemaKind} (h : (r.kind s).result = .ok k) :
    k.scopes = (s.kind.nameLists r.enumStyle).map (·.swiftNames) := by
  have hmakes := makesKind_of_kind h
  generalize s.kind = kind at hmakes
  cases hmakes with
  | object properties | interface properties =>
    exact congrArg (· :: []) (identifiers_of_properties properties)
  | enum _ values => exact congrArg (· :: []) (names_of_enumMembers values)
  | hierarchy properties =>
    exact congrArg₂ (· :: · :: []) (identifiers_of_properties properties)
      (memberNames_of_discriminator _)
  | wrapper | oneOf => rfl

/-- Names that members of a choice get in resolving stand in no scope of these. -/
lemma Makes.scopes {s : Schema} {t : Resolved.Schema} (h : r.Makes s t) :
    t.kind.scopes = (s.kind.nameLists r.enumStyle).map (·.swiftNames) := by
  obtain ⟨named, kind, nested, hnamed, hkind, -, rfl⟩ := h.parts
  have hmembers := (Schema.membersNamed_of_nameMembers hnamed).kinds
  have hlists : named.kind.nameLists r.enumStyle = s.kind.nameLists r.enumStyle := by
    generalize named.kind = kind' at hmembers
    generalize s.kind = kind'' at hmembers
    cases hmembers <;> rfl
  rw [← hlists]
  exact scopes_of_kind hkind

lemma names_of_operation {g : OperationGroup} {o : Operation} {u : Resolved.Operation}
    (h : (r.operation g o).result = .ok u) :
    u.methodName = identifier o.name ∧ u.parameters.map (·.identifier) =
      (NameList.ofNames (o.parameters.map (·.name))).swiftNames := by
  simp only [operation, Traced.result_bind, Traced.result_lift, Traced.result_ofExcept,
    Traced.result_mapM, Traced.result_pure, Outcome.bind_eq_ok, Outcome.mapM_eq_ok,
    Except.ok.injEq] at h
  obtain ⟨parameters, hparameters, body, -, responses, -, rfl⟩ := h
  exact ⟨rfl, NameList.map_eq_swiftNames hparameters fun _ _ => identifier_of_parameter⟩

lemma scopes_of_group {g : OperationGroup} {t : Resolved.Group} (h : (r.group g).result = .ok t) :
    t.scopes = g.nameLists.map (·.swiftNames) := by
  obtain ⟨operations, hoperations, rfl⟩ := group_eq_ok.mp h
  have hnames := hoperations.imp fun _ _ => names_of_operation
  rw [Resolved.Group.scopes, OperationGroup.nameLists, List.map_cons, List.map_map]
  exact congrArg₂ (· :: ·) (NameList.map_eq_swiftNames hnames fun _ _ h => h.1)
    (map_eq_map_of_forall₂ hnames fun _ _ h => h.2)

end Resolution

namespace Document

variable {d : Document} {options : Options} {resolved : ResolvedDocument}

lemma groups_of_resolve (h : (d.resolve options).result = .ok resolved) :
    ∃ r : Resolution, List.Forall₂ (fun g t => (r.group g).result = .ok t) d.groups
      resolved.groups := by
  obtain ⟨-, named, hnamed, schemas, groups, -, hgroups, rfl⟩ := resolve_eq_ok.mp h
  simp only [nameMembers, Outcome.bind_eq_ok, Outcome.pure_eq_ok] at hnamed
  obtain ⟨forest, -, rfl⟩ := hnamed
  rw [Resolution.allGroups, Traced.result_mapM, Outcome.mapM_eq_ok] at hgroups
  exact ⟨_, hgroups⟩

lemma scopes_of_resolve (h : (d.resolve options).result = .ok resolved) :
    resolved.scopes = (d.nameLists resolved.options.enumStyle).map (·.swiftNames) := by
  obtain ⟨named, -, hmakes⟩ := makes_of_resolve h
  obtain ⟨r, hgroups⟩ := groups_of_resolve h
  rw [ResolvedDocument.scopes, nameLists, List.map_append, List.map_flatMap, List.map_flatMap]
  exact congrArg₂ (· ++ ·)
    (flatMap_eq_flatMap_of_forall₂ (Resolution.makes_flattenAll hmakes)
      fun _ _ => Resolution.Makes.scopes)
    (flatMap_eq_flatMap_of_forall₂ hgroups fun _ _ => Resolution.scopes_of_group)

/-- The Swift names of a scope differ exactly when no two of the names that the document has there
are namesakes. -/
theorem nodup_scopes_iff (h : (d.resolve options).result = .ok resolved) :
    List.Forall₂ (fun l names => names = l.swiftNames ∧ (names.Nodup ↔ l.Apart))
        (d.nameLists resolved.options.enumStyle) resolved.scopes ∧
      ((∀ names ∈ resolved.scopes, names.Nodup) ↔
        ∀ l ∈ d.nameLists resolved.options.enumStyle, l.Apart) := by
  rw [scopes_of_resolve h]
  constructor
  · rw [List.forall₂_map_right_iff, List.forall₂_same]
    exact fun l _ => ⟨rfl, l.nodup_swiftNames_iff⟩
  · simp only [List.forall_mem_map, NameList.nodup_swiftNames_iff]

/-- Types of each kind, and a class, that have all these names in each of their scopes. -/
def sharing (names : List String) : Document :=
  let properties : List Property := names.map fun n => { name := n, type := .scalar .string none }
  { Document.titled "Names" "1" with
    groups := [{
      name := "cats"
      operations := names.map fun n => {
        name := n
        method := .get
        path := "/cats"
        parameters := names.map fun p => {
          name := p, place := .query, type := .scalar .string none } } }]
    schemas := [
      .top "Cat" (.object { properties }),
      .top "Likeness" (.interface { properties }),
      .top "Color" (.enum ⟨.scalar .string none, names.map .string⟩),
      .top "Family" (.hierarchy {
        properties, discriminator := { name := "kind", mappings := names.map fun n => ⟨n, [n]⟩ } })]
      ++ names.map fun n => .top n (.object {}) }

/-- Two names that differ in a hyphen are accepted everywhere, and become one in every scope. -/
theorem scopes_redCats :
    ∃ resolved, ((sharing ["red-cat", "redCat"]).resolve .default).result = .ok resolved ∧
      resolved.scopes = List.replicate 5 ["redCat", "redCat"] ++ [[], []] ++
        List.replicate 3 ["redCat", "redCat"] := by
  decide +kernel

theorem nodup_scopes_iff_redcats :
    ∃ resolved, ((sharing ["red-cat", "redcat"]).resolve .default).result = .ok resolved ∧
      ∀ names ∈ resolved.scopes, names.Nodup := by
  obtain ⟨resolved, h, hapart⟩ : ∃ resolved,
      ((sharing ["red-cat", "redcat"]).resolve .default).result = .ok resolved ∧
        ∀ l ∈ (sharing ["red-cat", "redcat"]).nameLists resolved.options.enumStyle, l.Apart := by
    decide +kernel
  exact ⟨resolved, h, (nodup_scopes_iff h).2.mpr hapart⟩

end Document

end SwiftClient
