import SwiftClient.Proofs.Document.Location

/-!
# Valid documents in any order

What validation asks for is a property of the document that does not depend on order: sibling
schemas, groups, operations and properties may change places. Schemas are found in any order because
their names differ, which is itself among the things that are asked for.
-/
namespace SwiftClient

/-- Names are consistent, and all schemas and groups are well formed. -/
structure Document.Valid (d : Document) : Prop where
  siblings : (d.schemas.map (·.name)).Nodup
  names : ∀ s ∈ d.allSchemas, s.WellNamed
  schemas : ∀ s ∈ d.allSchemas, s.WellFormed d
  groups : ∀ g ∈ d.groups, g.WellFormed d

/-- The same kind with its properties in any order. -/
inductive SchemaKind.Reordered : SchemaKind → SchemaKind → Prop
  | object {o : ObjectSchema} {properties : List Property} (order : o.properties.Perm properties) :
    Reordered (.object o) (.object { o with properties })
  | interface {i : InterfaceSchema} {properties : List Property}
    (order : i.properties.Perm properties) :
    Reordered (.interface i) (.interface { i with properties })
  | hierarchy {h : HierarchySchema} {properties : List Property}
    (order : h.properties.Perm properties) :
    Reordered (.hierarchy h) (.hierarchy { h with properties })
  | same (kind : SchemaKind) : Reordered kind kind

/-- The same schema with its properties and the schemas nested in it in any order, and so for the
nested schemas. -/
inductive Schema.Reordered : Schema → Schema → Prop
  | intro {name : String} {scopedName : ScopedName} {description : Option String}
      {purpose : Purpose} {nullable : Bool} {kind kind' : SchemaKind}
      {nested between nested' : List Schema} (kinds : kind.Reordered kind')
      (below : List.Forall₂ Reordered nested between) (order : between.Perm nested') :
      Reordered ⟨name, scopedName, description, purpose, nullable, kind, nested⟩
        ⟨name, scopedName, description, purpose, nullable, kind', nested'⟩

inductive OperationGroup.Reordered : OperationGroup → OperationGroup → Prop
  | intro {g : OperationGroup} {operations : List Operation}
    (order : g.operations.Perm operations) : Reordered g { g with operations }

structure Document.Reordered (d d' : Document) : Prop where
  info : d'.info = d.info
  servers : d'.servers = d.servers
  groups : AnyOrder OperationGroup.Reordered d.groups d'.groups
  schemas : AnyOrder Schema.Reordered d.schemas d'.schemas
  securitySchemes : d'.securitySchemes = d.securitySchemes

namespace SchemaKind.Reordered

variable {kind kind' : SchemaKind}

lemma properties (h : kind.Reordered kind') : kind.properties.Perm kind'.properties := by
  cases h with
  | object order | interface order | hierarchy order => exact order
  | same => exact .refl _

lemma wellFormed_iff {d : Document} (h : kind.Reordered kind') :
    kind.WellFormed d ↔ kind'.WellFormed d := by
  cases h <;> rfl

end SchemaKind.Reordered

namespace Schema

namespace Reordered

variable {s s' : Schema}

lemma name (h : s.Reordered s') : s'.name = s.name := by
  cases h
  rfl

lemma scopedName (h : s.Reordered s') : s'.scopedName = s.scopedName := by
  cases h
  rfl

lemma kinds (h : s.Reordered s') : s.kind.Reordered s'.kind := by
  cases h with
  | intro kinds => exact kinds

lemma nested (h : s.Reordered s') : AnyOrder Reordered s.nested s'.nested := by
  cases h with
  | intro _ below order => exact ⟨_, below, order⟩

mutual

protected lemma refl : ∀ s : Schema, s.Reordered s
  | ⟨_, _, _, _, _, kind, nested⟩ => .intro (.same kind) (forall₂_refl nested) (.refl nested)

lemma forall₂_refl : ∀ forest : List Schema, List.Forall₂ Reordered forest forest
  | [] => .nil
  | s :: rest => .cons (Reordered.refl s) (forall₂_refl rest)

end

lemma wellNamed_iff (h : s.Reordered s') : s.WellNamed ↔ s'.WellNamed := by
  have hnested : (s'.nested.map (·.name)).Perm (s.nested.map (·.name)) :=
    h.nested.map_perm fun _ _ => name
  constructor
  · rintro ⟨last, nested⟩
    exact ⟨by rw [h.scopedName, h.name, last], hnested.nodup_iff.mpr nested⟩
  · rintro ⟨last, nested⟩
    exact ⟨by rw [← h.scopedName, ← h.name, last], hnested.nodup_iff.mp nested⟩

lemma wellFormed_iff {d : Document} (h : s.Reordered s') : s.WellFormed d ↔ s'.WellFormed d := by
  have hproperties : s.properties.Perm s'.properties := h.kinds.properties
  have htypes : (∀ p ∈ s.properties, p.type.WellFormed d) ↔
      ∀ p ∈ s'.properties, p.type.WellFormed d := by simp only [hproperties.mem_iff]
  constructor
  · rintro ⟨names, types, kind⟩
    exact ⟨(hproperties.map _).nodup_iff.mp names, htypes.mp types, h.kinds.wellFormed_iff.mp kind⟩
  · rintro ⟨names, types, kind⟩
    exact ⟨(hproperties.map _).nodup_iff.mpr names, htypes.mpr types,
      h.kinds.wellFormed_iff.mpr kind⟩

section Everywhere

variable {p q : Schema → Prop}

mutual

/-- What holds of reordered schemas alike holds of all schemas of a forest or of none. -/
lemma forall_flatten_iff (hpq : ∀ s s', Reordered s s' → (p s ↔ q s')) :
    ∀ {s s' : Schema}, s.Reordered s' → ((∀ t ∈ s.flatten, p t) ↔ ∀ t ∈ s'.flatten, q t)
  | ⟨_, _, _, _, _, _, nested⟩, s', h => by
    obtain ⟨between, below, order⟩ := h.nested
    have horder : (∀ t ∈ flattenAll between, q t) ↔ ∀ t ∈ flattenAll s'.nested, q t := by
      simp only [mem_flattenAll, order.mem_iff]
    rw [flatten_eq, flatten_eq s', List.forall_mem_cons, List.forall_mem_cons, hpq _ _ h,
      forall_flattenAll_iff hpq below, horder]

lemma forall_flattenAll_iff (hpq : ∀ s s', Reordered s s' → (p s ↔ q s')) :
    ∀ {forest between : List Schema}, List.Forall₂ Reordered forest between →
      ((∀ t ∈ flattenAll forest, p t) ↔ ∀ t ∈ flattenAll between, q t)
  | [], _, .nil => by simp [flattenAll]
  | _ :: _, _, .cons first others => by
    rw [flattenAll, flattenAll, List.forall_mem_append, List.forall_mem_append,
      forall_flatten_iff hpq first, forall_flattenAll_iff hpq others]

end

lemma forall_forest_iff (hpq : ∀ s s', Reordered s s' → (p s ↔ q s')) {forest forest' : List Schema}
    (h : AnyOrder Reordered forest forest') :
    (∀ t ∈ flattenAll forest, p t) ↔ ∀ t ∈ flattenAll forest', q t := by
  obtain ⟨between, below, order⟩ := h
  rw [forall_flattenAll_iff hpq below]
  simp only [mem_flattenAll, order.mem_iff]

end Everywhere

lemma find?_name {forest forest' : List Schema} (hnames : (forest.map (·.name)).Nodup)
    (h : AnyOrder Reordered forest forest') (n : String) :
    Option.Rel Reordered (forest.find? (·.name == n)) (forest'.find? (·.name == n)) := by
  obtain ⟨between, below, order⟩ := h
  have hbetween : (between.map (·.name)).Nodup := by
    rwa [map_eq_map_of_forall₂ below fun _ _ => name]
  rw [← find?_name_eq_of_perm hbetween order]
  exact rel_find? below fun _ _ hs => by rw [name hs]

/-- Where names differ at every level, the same schema is found at a path in any order. -/
theorem find? {forest forest' : List Schema} (hnames : DistinctNames forest)
    (h : AnyOrder Reordered forest forest') (path : ScopedName) :
    Option.Rel Reordered (Schema.find? forest path) (Schema.find? forest' path) := by
  induction path generalizing forest forest' with
  | nil => simp [Schema.find?]
  | cons n path ih =>
    have hfirst := find?_name hnames.siblings h n
    rw [find?_cons, find?_cons]
    split_ifs
    · exact hfirst
    · exact rel_bind hfirst fun s hs s' hss' =>
        ih (hnames.of_mem (List.mem_of_find?_eq_some hs)) hss'.nested

end Reordered

end Schema

namespace OperationGroup.Reordered

variable {g g' : OperationGroup}

protected lemma refl (g : OperationGroup) : g.Reordered g := .intro (.refl _)

lemma wellFormed_iff {d : Document} (h : g.Reordered g') : g.WellFormed d ↔ g'.WellFormed d := by
  cases h with
  | @intro operations order =>
    have htypes : (∀ o ∈ g.operations, ∀ t ∈ o.usages, t.WellFormed d) ↔
        ∀ o ∈ operations, ∀ t ∈ o.usages, t.WellFormed d := by simp only [order.mem_iff]
    constructor
    · rintro ⟨names, types⟩
      exact ⟨(order.map _).nodup_iff.mp names, htypes.mp types⟩
    · rintro ⟨names, types⟩
      exact ⟨(order.map _).nodup_iff.mpr names, htypes.mpr types⟩

end OperationGroup.Reordered

namespace Document

variable {d d' : Document}

/-- Validation accepts exactly the valid documents. -/
theorem validate_eq_ok_iff_valid : d.validate = .ok () ↔ d.Valid := by
  rw [validate_eq_ok_iff_wellFormed, siblingDefects_eq_nil_iff]
  constructor
  · rintro ⟨⟨⟨siblings, -⟩, names⟩, schemas, groups⟩
    exact ⟨siblings, names, schemas, groups⟩
  · rintro ⟨siblings, names, schemas, groups⟩
    exact ⟨⟨⟨siblings, by simp⟩, names⟩, schemas, groups⟩

namespace Reordered

lemma names_iff (h : d.Reordered d') :
    ((d.schemas.map (·.name)).Nodup ∧ ∀ s ∈ d.allSchemas, s.WellNamed) ↔
      (d'.schemas.map (·.name)).Nodup ∧ ∀ s ∈ d'.allSchemas, s.WellNamed := by
  have hsiblings := h.schemas.map_perm fun _ _ => Schema.Reordered.name
  exact and_congr hsiblings.nodup_iff.symm
    (Schema.Reordered.forall_forest_iff (fun _ _ => Schema.Reordered.wellNamed_iff) h.schemas)

lemma has_eq (h : d.Reordered d') (hnames : Schema.DistinctNames d.schemas) (path : ScopedName) :
    d.has path = d'.has path :=
  (isSome_eq_of_rel (Schema.Reordered.find? hnames h.schemas path)).symm

lemma wellFormed_iff (h : d.Reordered d') (hnames : Schema.DistinctNames d.schemas) :
    ((∀ s ∈ d.allSchemas, s.WellFormed d) ∧ ∀ g ∈ d.groups, g.WellFormed d) ↔
      (∀ s ∈ d'.allSchemas, s.WellFormed d') ∧ ∀ g ∈ d'.groups, g.WellFormed d' := by
  have hhas := h.has_eq hnames
  have hthere : ∀ path, d.has path → d'.has path := fun path => (hhas path ▸ ·)
  have hback : ∀ path, d'.has path → d.has path := fun path => (hhas path ▸ ·)
  apply and_congr
  · refine Schema.Reordered.forall_forest_iff (fun s s' hs => hs.wellFormed_iff.trans ?_) h.schemas
    exact ⟨Schema.WellFormed.mono hthere, Schema.WellFormed.mono hback⟩
  · refine h.groups.forall_mem_iff fun g g' hg => hg.wellFormed_iff.trans ?_
    exact ⟨OperationGroup.WellFormed.mono hthere, OperationGroup.WellFormed.mono hback⟩

/-- Names come first: where they are consistent, the order has no bearing on what is found. -/
theorem valid_iff (h : d.Reordered d') : d.Valid ↔ d'.Valid := by
  constructor
  · rintro ⟨siblings, names, schemas, groups⟩
    obtain ⟨siblings', names'⟩ := h.names_iff.mp ⟨siblings, names⟩
    have hnames : Schema.DistinctNames d.schemas := ⟨siblings, fun s hs => (names s hs).nested⟩
    obtain ⟨schemas', groups'⟩ := (h.wellFormed_iff hnames).mp ⟨schemas, groups⟩
    exact ⟨siblings', names', schemas', groups'⟩
  · rintro ⟨siblings', names', schemas', groups'⟩
    obtain ⟨siblings, names⟩ := h.names_iff.mpr ⟨siblings', names'⟩
    have hnames : Schema.DistinctNames d.schemas := ⟨siblings, fun s hs => (names s hs).nested⟩
    obtain ⟨schemas, groups⟩ := (h.wellFormed_iff hnames).mpr ⟨schemas', groups'⟩
    exact ⟨siblings, names, schemas, groups⟩

end Reordered

/-- Validation accepts exactly the valid documents, and with a document all those that have its
schemas, groups, operations and properties in another order. -/
theorem validate_iff_in_any_order (d : Document) :
    (d.validate = .ok () ↔ d.Valid) ∧
      ∀ d', d.Reordered d' → (d'.validate = .ok () ↔ d.validate = .ok ()) := by
  refine ⟨validate_eq_ok_iff_valid, fun d' h => ?_⟩
  rw [validate_eq_ok_iff_valid, validate_eq_ok_iff_valid]
  exact h.valid_iff.symm

/-- A market of one stall, which has something nested in it and is asked for by operations. -/
def market (properties : List Property) (nested : List Schema) (operations : List Operation) :
    Document :=
  { Document.titled "Market" "1" with
    groups := [{ name := "sales", operations }]
    schemas := [
      .top "Owner" (.interface {}),
      { Schema.top "Stall" (.object { properties, implements := [["Owner"]] }) with nested }] }

lemma market_reordered {properties properties' : List Property} {nested nested' : List Schema}
    {operations operations' : List Operation} (hproperties : properties.Perm properties')
    (hnested : nested.Perm nested') (hoperations : operations.Perm operations') :
    (market properties nested operations).Reordered
      { market properties' nested' operations' with
        schemas := (market properties' nested' operations').schemas.reverse } where
  info := rfl
  servers := rfl
  groups := ⟨_, .cons (.intro hoperations) .nil, .refl _⟩
  schemas :=
    ⟨_, .cons (Schema.Reordered.refl _)
      (.cons (.intro (.object hproperties) (Schema.Reordered.forall₂_refl nested) hnested) .nil),
      (List.reverse_perm _).symm⟩
  securitySchemes := rfl

theorem validate_iff_in_any_order_market :
    let properties : List Property := [
      { name := "fruit", type := .named .enum ["Stall", "Fruit"] },
      { name := "prices", type := .mapOf (.scalar .string none) (.scalar .number none) }]
    let nested : List Schema := [
      { name := "Fruit", scopedName := ["Stall", "Fruit"],
        kind := .enum ⟨.scalar .string none, [.string "pear"]⟩ },
      { name := "Crate", scopedName := ["Stall", "Crate"], kind := .object {} }]
    let operations : List Operation := [
      { name := "buy", method := .post, path := "/buy",
        responses := [{ type := some (.arrayOf (.named .object ["Stall"])) }] },
      { name := "look", method := .get, path := "/look" }]
    let d := market properties nested operations
    let d' := market properties.reverse nested.reverse operations.reverse
    d.Valid ∧ d.Reordered { d' with schemas := d'.schemas.reverse } ∧
      { d' with schemas := d'.schemas.reverse }.validate = .ok () := by
  intro properties nested operations d d'
  have hreordered := market_reordered (List.reverse_perm properties).symm
    (List.reverse_perm nested).symm (List.reverse_perm operations).symm
  have hd : d.validate = .ok () := by decide +kernel +zetaReduce
  obtain ⟨hvalid, horder⟩ := validate_iff_in_any_order d
  exact ⟨hvalid.mp hd, hreordered, (horder _ hreordered).mpr hd⟩

end Document

end SwiftClient
