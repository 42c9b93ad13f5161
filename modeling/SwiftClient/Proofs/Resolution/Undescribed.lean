import SwiftClient.Proofs.Document.Undescribed
import SwiftClient.Proofs.Resolution.Inheritance

/-!
# Resolving without descriptions

Descriptions have no bearing on how a document is resolved: without them it is resolved to the same,
without them.
-/
namespace SwiftClient

namespace Resolved

def Property.undescribed (p : Property) : Property := { p with description := none }

def SchemaKind.undescribed : SchemaKind → SchemaKind
  | object properties parent implements discriminator =>
    object (properties.map (·.undescribed)) parent implements discriminator
  | enum valueType members => enum valueType members
  | interface properties parents implementation =>
    interface (properties.map (·.undescribed)) parents implementation
  | hierarchy properties discriminator members =>
    hierarchy (properties.map (·.undescribed)) discriminator members
  | wrapper property => wrapper property.undescribed
  | oneOf members discriminator => oneOf members discriminator

namespace Schema

mutual

def undescribed : Schema → Schema
  | ⟨name, className, scopedName, _, purpose, nullable, classification, type, kind, nested⟩ =>
    ⟨name, className, scopedName, none, purpose, nullable, classification, type, kind.undescribed,
      undescribedAll nested⟩

def undescribedAll : List Schema → List Schema
  | [] => []
  | s :: rest => undescribed s :: undescribedAll rest

end

lemma undescribedAll_eq_map (forest : List Schema) :
    undescribedAll forest = forest.map undescribed := by
  induction forest with
  | nil => rfl
  | cons s rest ih => rw [undescribedAll, ih, List.map_cons]

lemma undescribed_eq (s : Schema) :
    s.undescribed =
      { s with
        description := none, kind := s.kind.undescribed, nested := s.nested.map undescribed } := by
  cases s
  rw [undescribed, undescribedAll_eq_map]

@[simp] lemma className_undescribed (s : Schema) : s.undescribed.className = s.className := by
  rw [undescribed_eq]

@[simp] lemma description_undescribed (s : Schema) : s.undescribed.description = none := by
  rw [undescribed_eq]

end Schema

def Parameter.undescribed (p : Parameter) : Parameter := { p with description := none }

def Operation.undescribed (o : Operation) : Operation :=
  { o with summary := none, description := none, parameters := o.parameters.map (·.undescribed) }

def Group.undescribed (g : Group) : Group :=
  { g with description := none, operations := g.operations.map (·.undescribed) }

end Resolved

def ResolvedDocument.undescribed (d : ResolvedDocument) : ResolvedDocument :=
  { d with groups := d.groups.map (·.undescribed), schemas := d.schemas.map (·.undescribed) }

lemma SchemaKind.nameMembers_undescribed {package : Option String} {context : String}
    {nested : List Schema} {kind kind' : SchemaKind}
    (h : kind.nameMembers package context nested = .ok kind') :
    kind.undescribed.nameMembers package context (nested.map Schema.undescribed) =
      .ok kind'.undescribed := by
  have htaken : ∀ members,
      takenNames (nested.map Schema.undescribed) members = takenNames nested members := by
    intro members
    unfold takenNames
    rw [List.map_map]
    simp only [Function.comp_def, Schema.name_undescribed]
  cases kind with
  | oneOf o =>
    simp only [nameMembers, Outcome.bind_eq_ok, Outcome.pure_eq_ok, undescribed, htaken] at h ⊢
    obtain ⟨members, hmembers, rfl⟩ := h
    exact ⟨members, hmembers, rfl⟩
  | object | enum | interface | hierarchy | wrapper =>
    obtain rfl := Except.ok.inj h
    rfl

namespace Schema

mutual

lemma nameMembers_undescribed {package : Option String} : ∀ {s s' : Schema},
    s.nameMembers package = .ok s' → s.undescribed.nameMembers package = .ok s'.undescribed
  | ⟨_, _, _, _, _, _, nested⟩, s', h => by
    obtain ⟨nested', kind', hnested, hkind, rfl⟩ := nameMembers_eq_ok.mp h
    rw [nameMembers_eq_ok]
    refine ⟨nested'.map undescribed, kind'.undescribed, ?_, ?_, ?_⟩
    · rw [nested_undescribed]
      exact nameAllMembers_undescribed hnested
    · exact SchemaKind.nameMembers_undescribed hkind
    · rw [undescribed_eq, undescribed_eq]

lemma nameAllMembers_undescribed {package : Option String} : ∀ {forest forest' : List Schema},
    nameAllMembers package forest = .ok forest' →
      nameAllMembers package (forest.map undescribed) = .ok (forest'.map undescribed)
  | [], _, h => by
    obtain rfl := Except.ok.inj h
    rfl
  | s :: rest, forest', h => by
    simp only [nameAllMembers, List.map_cons, Outcome.bind_eq_ok, Outcome.pure_eq_ok] at h ⊢
    obtain ⟨s', hs, rest', hrest, rfl⟩ := h
    exact ⟨_, nameMembers_undescribed hs, _, nameAllMembers_undescribed hrest, rfl⟩

end

end Schema

/-- Naming members and leaving out descriptions can be done in either order. -/
theorem Document.nameMembers_undescribed {d named : Document} {package : Option String}
    (h : d.nameMembers package = .ok named) :
    d.undescribed.nameMembers package = .ok named.undescribed := by
  simp only [nameMembers, Outcome.bind_eq_ok, Outcome.pure_eq_ok] at h ⊢
  obtain ⟨forest, hforest, rfl⟩ := h
  exact ⟨_, Schema.nameAllMembers_undescribed hforest, rfl⟩

namespace Resolution

variable {r : Resolution} {context : String}

def undescribed (r : Resolution) : Resolution := { r with document := r.document.undescribed }

lemma property_undescribed {p : Property} {q : Resolved.Property}
    (h : (r.property context p).result = .ok q) :
    (r.undescribed.property context p.undescribed).result = .ok q.undescribed := by
  simp only [property, Traced.result_bind, Traced.result_lift, Traced.result_pure,
    Outcome.bind_eq_ok, Except.ok.injEq] at h ⊢
  obtain ⟨ctx, hctx, values, hvalues, rfl⟩ := h
  exact ⟨ctx, hctx, values, hvalues, rfl⟩

lemma properties_undescribed {ps : List Property} {qs : List Resolved.Property}
    (h : List.Forall₂ (fun p q => (r.property context p).result = .ok q) ps qs) :
    List.Forall₂ (fun p q => (r.undescribed.property context p).result = .ok q)
      (ps.map (·.undescribed)) (qs.map (·.undescribed)) := by
  rw [List.forall₂_map_left_iff, List.forall₂_map_right_iff]
  exact h.imp fun _ _ => property_undescribed

/-- Overrides are judged without looking at descriptions. The schema that overrides matters to
failures alone, so any other one may stand for it. -/
lemma checkOverrides_undescribed {child child' : Schema} {properties : List Resolved.Property}
    {parent : ScopedName} (h : (r.checkOverrides child properties parent).result = .ok ()) :
    (r.undescribed.checkOverrides child' (properties.map (·.undescribed)) parent).result =
      .ok () := by
  obtain ⟨p, hp, hchecked⟩ := checkOverrides_eq_ok.mp h
  rw [checkOverrides_eq_ok]
  refine ⟨p.undescribed, ?_, ?_⟩
  · change Schema.find? (r.document.schemas.map Schema.undescribed) parent = _
    rw [Schema.find?_undescribed]
    exact congrArg (Option.map Schema.undescribed) hp
  · rw [Schema.properties_undescribed, List.forall_mem_map]
    intro inherited hinherited
    rw [checkOverride_eq_ok, List.find?_map]
    intro own hown
    obtain ⟨q, hq, rfl⟩ := Option.map_eq_some_iff.mp hown
    obtain ⟨t, ht, hcompatible⟩ := checkOverride_eq_ok.mp (hchecked inherited hinherited) q hq
    refine ⟨t.undescribed, ?_, hcompatible⟩
    rw [Schema.undescribed_eq]
    exact property_undescribed ht

lemma kind_undescribed {s : Schema} {k : Resolved.SchemaKind} (h : (r.kind s).result = .ok k) :
    (r.undescribed.kind s.undescribed).result = .ok k.undescribed := by
  obtain ⟨name, scopedName, description, purpose, nullable, kind, nested⟩ := s
  rw [Schema.undescribed]
  cases kind with
  | object o =>
    simp only [Resolution.kind, SchemaKind.undescribed, Traced.result_bind, Traced.result_pure,
      Traced.result_mapM, Traced.result_forM, Outcome.bind_eq_ok, Outcome.mapM_eq_ok,
      Except.ok.injEq] at h ⊢
    obtain ⟨properties, hproperties, ⟨⟩, hoverrides, rfl⟩ := h
    refine ⟨_, properties_undescribed hproperties, (), ?_, rfl⟩
    rw [Outcome.forM_eq_ok] at hoverrides ⊢
    exact fun parent hparent => checkOverrides_undescribed (hoverrides parent hparent)
  | enum e =>
    simp only [Resolution.kind, SchemaKind.undescribed, Traced.result_bind, Traced.result_lift,
      Traced.result_pure, Outcome.bind_eq_ok, Except.ok.injEq] at h ⊢
    obtain ⟨ctx, hctx, members, hmembers, rfl⟩ := h
    exact ⟨ctx, hctx, members, hmembers, rfl⟩
  | interface i =>
    simp only [Resolution.kind, SchemaKind.undescribed, Traced.result_bind, Traced.result_pure,
      Traced.result_mapM, Traced.result_forM, Outcome.bind_eq_ok, Outcome.mapM_eq_ok,
      Except.ok.injEq] at h ⊢
    obtain ⟨properties, hproperties, ⟨⟩, hoverrides, rfl⟩ := h
    refine ⟨_, properties_undescribed hproperties, (), ?_, rfl⟩
    rw [Outcome.forM_eq_ok] at hoverrides ⊢
    exact fun parent hparent => checkOverrides_undescribed (hoverrides parent hparent)
  | hierarchy x =>
    simp only [Resolution.kind, SchemaKind.undescribed, Traced.result_bind, Traced.result_pure,
      Traced.result_mapM, Outcome.bind_eq_ok, Outcome.mapM_eq_ok, Except.ok.injEq] at h ⊢
    obtain ⟨properties, hproperties, rfl⟩ := h
    exact ⟨_, properties_undescribed hproperties, rfl⟩
  | wrapper w =>
    simp only [Resolution.kind, SchemaKind.undescribed, Traced.result_bind, Traced.result_pure,
      Outcome.bind_eq_ok, Except.ok.injEq] at h ⊢
    obtain ⟨property, hproperty, rfl⟩ := h
    exact ⟨_, property_undescribed hproperty, rfl⟩
  | oneOf o =>
    simp only [Resolution.kind, SchemaKind.undescribed, Traced.result_bind, Traced.result_ofExcept,
      Traced.result_pure, Outcome.bind_eq_ok, Except.ok.injEq] at h ⊢
    obtain ⟨members, hmembers, rfl⟩ := h
    exact ⟨members, hmembers, rfl⟩

mutual

lemma schema_undescribed : ∀ {inside : Bool} {s : Schema} {t : Resolved.Schema},
    (r.schema inside s).result = .ok t →
      (r.undescribed.schema inside s.undescribed).result = .ok t.undescribed
  | inside, ⟨_, _, _, _, _, kind, nested⟩, t, h => by
    obtain ⟨hinterface, kind', nested', hkind, hnested, rfl⟩ := schema_eq_ok.mp h
    rw [schema_eq_ok]
    refine ⟨?_, kind'.undescribed, nested'.map (·.undescribed), kind_undescribed hkind, ?_, ?_⟩
    · cases kind <;> exact hinterface
    · rw [Schema.nested_undescribed]
      exact schemas_undescribed hnested
    · rw [Schema.undescribed_eq, Resolved.Schema.undescribed, Resolved.Schema.undescribedAll_eq_map]
      cases kind <;> rfl

lemma schemas_undescribed : ∀ {inside : Bool} {forest : List Schema}
    {resolved : List Resolved.Schema}, (r.schemas inside forest).result = .ok resolved →
      (r.undescribed.schemas inside (forest.map (·.undescribed))).result =
        .ok (resolved.map (·.undescribed))
  | _, [], _, h => by
    obtain rfl := Except.ok.inj h
    rfl
  | inside, s :: rest, resolved, h => by
    simp only [schemas, List.map_cons, Traced.result_bind, Traced.result_pure, Outcome.bind_eq_ok,
      Except.ok.injEq] at h ⊢
    obtain ⟨t, ht, rest', hrest, rfl⟩ := h
    exact ⟨_, schema_undescribed ht, _, schemas_undescribed hrest, rfl⟩

end

lemma parameter_undescribed {p : Parameter} {q : Resolved.Parameter}
    (h : (r.parameter context p).result = .ok q) :
    (r.undescribed.parameter context p.undescribed).result = .ok q.undescribed := by
  simp only [parameter, Traced.result_bind, Traced.result_lift, Traced.result_pure,
    Outcome.bind_eq_ok, Except.ok.injEq] at h ⊢
  obtain ⟨ctx, hctx, values, hvalues, rfl⟩ := h
  exact ⟨ctx, hctx, values, hvalues, rfl⟩

lemma operation_undescribed {g : OperationGroup} {o : Operation} {u : Resolved.Operation}
    (h : (r.operation g o).result = .ok u) :
    (r.undescribed.operation g.undescribed o.undescribed).result = .ok u.undescribed := by
  simp only [operation, Operation.undescribed, Traced.result_bind, Traced.result_lift,
    Traced.result_ofExcept, Traced.result_mapM, Traced.result_pure, Outcome.bind_eq_ok,
    Outcome.mapM_eq_ok, Except.ok.injEq] at h ⊢
  obtain ⟨parameters, hparameters, body, hbody, responses, hresponses, rfl⟩ := h
  refine ⟨parameters.map (·.undescribed), ?_, body, hbody, responses, hresponses, rfl⟩
  rw [List.forall₂_map_left_iff, List.forall₂_map_right_iff]
  exact hparameters.imp fun _ _ => parameter_undescribed

lemma group_undescribed {g : OperationGroup} {t : Resolved.Group}
    (h : (r.group g).result = .ok t) :
    (r.undescribed.group g.undescribed).result = .ok t.undescribed := by
  obtain ⟨operations, hoperations, rfl⟩ := group_eq_ok.mp h
  rw [group_eq_ok]
  refine ⟨operations.map (·.undescribed), ?_, rfl⟩
  change List.Forall₂ _ (g.operations.map (·.undescribed)) _
  rw [List.forall₂_map_left_iff, List.forall₂_map_right_iff]
  exact hoperations.imp fun _ _ => operation_undescribed

lemma allSchemas_undescribed {resolved : List Resolved.Schema}
    (h : r.allSchemas.result = .ok resolved) :
    r.undescribed.allSchemas.result = .ok (resolved.map (·.undescribed)) :=
  schemas_undescribed h

lemma allGroups_undescribed {resolved : List Resolved.Group}
    (h : r.allGroups.result = .ok resolved) :
    r.undescribed.allGroups.result = .ok (resolved.map (·.undescribed)) := by
  rw [allGroups, Traced.result_mapM, Outcome.mapM_eq_ok] at h ⊢
  change List.Forall₂ _ (r.document.groups.map (·.undescribed)) _
  rw [List.forall₂_map_left_iff, List.forall₂_map_right_iff]
  exact h.imp fun _ _ => group_undescribed

end Resolution

/-- A document that can be resolved can be without descriptions, and they are all that is missing
then. -/
theorem Document.resolve_undescribed {d : Document} {options : Options}
    {resolved : ResolvedDocument} (h : (d.resolve options).result = .ok resolved) :
    (d.undescribed.resolve options).result = .ok resolved.undescribed := by
  obtain ⟨hd, named, hnamed, schemas, groups, hschemas, hgroups, rfl⟩ := resolve_eq_ok.mp h
  have hschemas' := Resolution.allSchemas_undescribed hschemas
  have hgroups' := Resolution.allGroups_undescribed hgroups
  rw [resolve_eq_ok]
  exact ⟨validate_undescribed hd, named.undescribed, nameMembers_undescribed hnamed, _, _,
    hschemas', hgroups', rfl⟩

end SwiftClient
