import SwiftClient.Proofs.Document.Lookup
import SwiftClient.Proofs.Document.Validity

/-!
# Documents without descriptions

What schemas, properties, parameters, operations and groups say about themselves can be left out.
Schemas are found where they were, and a valid document stays valid.
-/
namespace SwiftClient

def Property.undescribed (p : Property) : Property := { p with description := none }

namespace SchemaKind

def undescribed : SchemaKind → SchemaKind
  | object o => object { o with properties := o.properties.map (·.undescribed) }
  | enum e => enum e
  | interface i => interface { i with properties := i.properties.map (·.undescribed) }
  | hierarchy h => hierarchy { h with properties := h.properties.map (·.undescribed) }
  | wrapper w => wrapper ⟨w.property.undescribed⟩
  | oneOf o => oneOf o

lemma properties_undescribed (kind : SchemaKind) :
    kind.undescribed.properties = kind.properties.map (·.undescribed) := by
  cases kind <;> rfl

end SchemaKind

namespace Schema

mutual

/-- The schema, and those nested in it, without descriptions. -/
def undescribed : Schema → Schema
  | ⟨name, scopedName, _, purpose, nullable, kind, nested⟩ =>
    ⟨name, scopedName, none, purpose, nullable, kind.undescribed, undescribedAll nested⟩

def undescribedAll : List Schema → List Schema
  | [] => []
  | s :: rest => undescribed s :: undescribedAll rest

end

lemma undescribedAll_eq_map (forest : List Schema) :
    undescribedAll forest = forest.map undescribed := by
  induction forest with
  | nil => rfl
  | cons s rest ih => rw [undescribedAll, ih, List.map_cons]

lemma undescribed_eq (s : Schema) :
    s.undescribed =
      { s with
        description := none, kind := s.kind.undescribed, nested := s.nested.map undescribed } := by
  cases s
  rw [undescribed, undescribedAll_eq_map]

@[simp] lemma name_undescribed (s : Schema) : s.undescribed.name = s.name := by
  rw [undescribed_eq]

@[simp] lemma nested_undescribed (s : Schema) :
    s.undescribed.nested = s.nested.map undescribed := by
  rw [undescribed_eq]

@[simp] lemma properties_undescribed (s : Schema) :
    s.undescribed.properties = s.properties.map (·.undescribed) := by
  rw [undescribed_eq]
  exact s.kind.properties_undescribed

end Schema

def Parameter.undescribed (p : Parameter) : Parameter := { p with description := none }

def Operation.undescribed (o : Operation) : Operation :=
  { o with summary := none, description := none, parameters := o.parameters.map (·.undescribed) }

def OperationGroup.undescribed (g : OperationGroup) : OperationGroup :=
  { g with description := none, operations := g.operations.map (·.undescribed) }

/-- The document without what its schemas and groups say about themselves. -/
def Document.undescribed (d : Document) : Document :=
  { d with groups := d.groups.map (·.undescribed), schemas := d.schemas.map (·.undescribed) }

namespace Schema

lemma find?_undescribed (forest : List Schema) (path : ScopedName) :
    find? (forest.map undescribed) path = (find? forest path).map undescribed := by
  induction path generalizing forest with
  | nil => rfl
  | cons name path ih =>
    have hfirst : (forest.map undescribed).find? (·.name == name) =
        (forest.find? (·.name == name)).map undescribed := by
      rw [List.find?_map]
      congr 2
      funext s
      rw [Function.comp_apply, name_undescribed]
    rw [find?_cons, find?_cons, hfirst]
    split_ifs
    · rfl
    · cases forest.find? (·.name == name) with
      | none => rfl
      | some s => simpa using ih s.nested

mutual

lemma flatten_undescribed : ∀ s : Schema, s.undescribed.flatten = s.flatten.map undescribed
  | s@⟨_, _, _, _, _, _, nested⟩ => by
    rw [flatten_eq, flatten_eq, nested_undescribed, flattenAll_undescribed, List.map_cons]

lemma flattenAll_undescribed : ∀ forest : List Schema,
    flattenAll (forest.map undescribed) = (flattenAll forest).map undescribed
  | [] => rfl
  | s :: rest => by
    rw [List.map_cons, flattenAll, flattenAll, flatten_undescribed, flattenAll_undescribed,
      List.map_append]

end

end Schema

namespace Document

variable {d : Document}

lemma has_undescribed (d : Document) (name : ScopedName) : d.undescribed.has name = d.has name := by
  unfold has find? undescribed
  rw [Schema.find?_undescribed, Option.isSome_map]

mutual

lemma nameDefects_undescribed : ∀ (repeated : Bool) (s : Schema),
    nameDefects repeated s.undescribed = nameDefects repeated s
  | repeated, ⟨_, _, _, _, _, _, nested⟩ => by
    rw [Schema.undescribed, Schema.undescribedAll_eq_map, nameDefects, nameDefects,
      siblingDefects_undescribed]

lemma siblingDefects_undescribed : ∀ (seen : List String) (forest : List Schema),
    siblingDefects seen (forest.map Schema.undescribed) = siblingDefects seen forest
  | _, [] => rfl
  | seen, s :: rest => by
    rw [List.map_cons, siblingDefects, siblingDefects, Schema.name_undescribed,
      nameDefects_undescribed, siblingDefects_undescribed]

end

end Document

lemma SchemaKind.WellFormed.undescribed {d : Document} {kind : SchemaKind}
    (h : kind.WellFormed d) : kind.undescribed.WellFormed d := by
  cases kind <;> exact h

lemma Schema.WellFormed.undescribed {d : Document} {s : Schema} (h : s.WellFormed d) :
    s.undescribed.WellFormed d := by
  constructor
  · rw [properties_undescribed, List.map_map]
    exact h.names
  · rw [properties_undescribed, List.forall_mem_map]
    exact h.types
  · rw [undescribed_eq]
    exact h.kind.undescribed

lemma Operation.usages_undescribed (o : Operation) : o.undescribed.usages = o.usages := by
  unfold usages undescribed
  rw [List.map_map]
  rfl

lemma OperationGroup.WellFormed.undescribed {d : Document} {g : OperationGroup}
    (h : g.WellFormed d) : g.undescribed.WellFormed d := by
  constructor
  · change ((g.operations.map (·.undescribed)).map (·.name)).Nodup
    rw [List.map_map]
    exact h.names
  · change ∀ o ∈ g.operations.map (·.undescribed), ∀ t ∈ o.usages, t.WellFormed d
    rw [List.forall_mem_map]
    intro o ho
    rw [Operation.usages_undescribed]
    exact h.types o ho

/-- A valid document stays valid without descriptions. -/
theorem Document.validate_undescribed {d : Document} (h : d.validate = .ok ()) :
    d.undescribed.validate = .ok () := by
  have hhas : ∀ name, d.has name → d.undescribed.has name := fun name hname =>
    (has_undescribed d name).trans hname
  rw [validate_eq_ok_iff_wellFormed] at h ⊢
  obtain ⟨hsiblings, hschemas, hgroups⟩ := h
  refine ⟨(siblingDefects_undescribed [] d.schemas).trans hsiblings, ?_, ?_⟩
  · unfold allSchemas
    change ∀ s ∈ Schema.flattenAll (d.schemas.map Schema.undescribed), _
    rw [Schema.flattenAll_undescribed, List.forall_mem_map]
    exact fun s hs => (hschemas s hs).undescribed.mono hhas
  · change ∀ g ∈ d.groups.map OperationGroup.undescribed, _
    rw [List.forall_mem_map]
    exact fun g hg => (hgroups g hg).undescribed.mono hhas

end SwiftClient
