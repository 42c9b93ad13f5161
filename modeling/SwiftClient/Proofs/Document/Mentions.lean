import SwiftClient.Proofs.Document.Validity

/-!
# Schemas that a document mentions

A document mentions schemas by name: in the usages of types, in what its schemas inherit from, and
in discriminators. In a valid document a mentioned schema is found wherever validation looks for it,
and that is everywhere but at the implementation of an interface and in the mappings of objects and
oneOfs.
-/
namespace SwiftClient

/-- Where the name of a schema is mentioned. -/
inductive Mention.Place where
  /-- By a usage of the schema, or in such a part of a collection. -/
  | usage
  /-- By a usage that is of no schema, or in a part that the usage does not have by its kind. -/
  | idle
  | parent
  | implemented
  /-- As an interface that another one refines. -/
  | refined
  | implementation
  /-- As a member of a hierarchy. -/
  | member
  /-- In a mapping of the discriminator of such a schema. -/
  | mapping (owner : Classification)
  deriving DecidableEq

structure Mention where
  place : Mention.Place
  name : ScopedName
  deriving DecidableEq

/-- The places at which validation looks for the schema. -/
def Mention.Place.isChecked : Place → Bool
  | usage | parent | implemented | refined | member => true
  | idle | implementation => false
  | mapping owner => owner == .hierarchy

namespace TypeUsage

mutual

/-- The schemas that a usage mentions. An idle one has no bearing on the type. -/
def mentions (idle : Bool) : TypeUsage → List Mention
  | ⟨c, _, _, scopedName, component, key, _⟩ =>
    scopedName.toList.map (Mention.mk (if idle || !c.isNamed then .idle else .usage))
      ++ partMentions (idle || !c.isCollection) component
      ++ partMentions (idle || c != .map) key

def partMentions (idle : Bool) : Option TypeUsage → List Mention
  | none => []
  | some t => mentions idle t

end

end TypeUsage

def Discriminator.mentions (owner : Classification) (d : Discriminator) : List Mention :=
  d.mappings.map fun m => ⟨.mapping owner, m.scopedName⟩

def SchemaKind.mentions : SchemaKind → List Mention
  | .object o =>
    o.parent.toList.map (.mk .parent) ++ o.implements.map (.mk .implemented)
      ++ o.discriminator.toList.flatMap (·.mentions .object)
  | .enum e => e.valueType.mentions false
  | .interface i =>
    i.parents.map (.mk .refined) ++ i.implementation.toList.map (.mk .implementation)
  | .hierarchy h => h.members.map (.mk .member) ++ h.discriminator.mentions .hierarchy
  | .wrapper _ => []
  | .oneOf o =>
    o.members.flatMap (·.type.mentions false) ++ o.discriminator.toList.flatMap (·.mentions .oneOf)

def Schema.mentions (s : Schema) : List Mention :=
  s.properties.flatMap (·.type.mentions false) ++ s.kind.mentions

def OperationGroup.mentions (g : OperationGroup) : List Mention :=
  g.operations.flatMap fun o => o.usages.flatMap (·.mentions false)

def Document.mentions (d : Document) : List Mention :=
  d.allSchemas.flatMap Schema.mentions ++ d.groups.flatMap OperationGroup.mentions

/-- The schema is found, provided that validation looks for it. -/
def Mention.FoundIfChecked (d : Document) (m : Mention) : Prop := m.place.isChecked → d.has m.name

namespace TypeUsage

lemma mem_mentions_iff {idle : Bool} {t : TypeUsage} {m : Mention} :
    m ∈ t.mentions idle ↔
      (∃ name, t.scopedName = some name ∧
        m = ⟨if idle || !t.classification.isNamed then .idle else .usage, name⟩) ∨
      (∃ c, t.component = some c ∧ m ∈ c.mentions (idle || !t.classification.isCollection)) ∨
      ∃ k, t.key = some k ∧ m ∈ k.mentions (idle || t.classification != .map) := by
  obtain ⟨c, format, nullable, scopedName, component, key, purpose⟩ := t
  have hpart : ∀ {idle : Bool} {part : Option TypeUsage},
      m ∈ partMentions idle part ↔ ∃ t, part = some t ∧ m ∈ t.mentions idle := by
    intro idle part
    cases part <;> simp [partMentions]
  simp only [mentions, List.mem_append, List.mem_map, Option.mem_toList, hpart, or_assoc,
    eq_comm (a := m)]

mutual

/-- Nothing that an idle usage mentions is looked for. -/
lemma place_of_mem_idle : ∀ {t : TypeUsage} {m : Mention}, m ∈ t.mentions true → m.place = .idle
  | ⟨_, _, _, _, component, key, _⟩, m, h => by
    simp only [mentions, Bool.true_or, if_true, List.mem_append, List.mem_map] at h
    rcases h with (⟨name, -, rfl⟩ | h) | h
    · rfl
    · exact place_of_mem_idlePart h
    · exact place_of_mem_idlePart h

lemma place_of_mem_idlePart : ∀ {part : Option TypeUsage} {m : Mention},
    m ∈ partMentions true part → m.place = .idle
  | none, _, h => absurd h List.not_mem_nil
  | some _, _, h => place_of_mem_idle h

end

lemma foundIfChecked_of_idle {d : Document} {t : TypeUsage} {m : Mention}
    (h : m ∈ t.mentions true) : m.FoundIfChecked d := by
  intro hchecked
  rw [place_of_mem_idle h] at hchecked
  cases hchecked

lemma foundIfChecked_of_single {d : Document} {t : TypeUsage}
    (hsingle : t.classification.isCollection = false)
    (hfound : ∀ name, t.scopedName = some name → t.classification.isNamed → d.has name) :
    ∀ m ∈ t.mentions false, m.FoundIfChecked d := by
  intro m hm
  have hmap : (t.classification != .map) = true := by
    cases hc : t.classification <;> simp_all [Classification.isCollection]
  rw [mem_mentions_iff, hsingle, hmap] at hm
  rcases hm with ⟨name, hname, rfl⟩ | ⟨c, -, hm⟩ | ⟨k, -, hm⟩
  · cases hnamed : t.classification.isNamed with
    | true => exact fun _ => hfound name hname hnamed
    | false => exact nofun
  · exact foundIfChecked_of_idle hm
  · exact foundIfChecked_of_idle hm

/-- What a well-formed usage mentions, through the parts of collections. -/
lemma WellFormed.foundIfChecked {d : Document} {t : TypeUsage} (h : t.WellFormed d) :
    ∀ m ∈ t.mentions false, m.FoundIfChecked d := by
  induction h with
  | array kind component inside ih =>
    intro m hm
    rw [mem_mentions_iff, kind] at hm
    rcases hm with ⟨name, -, rfl⟩ | ⟨c, hc, hm⟩ | ⟨k, -, hm⟩
    · exact nofun
    · obtain rfl := Option.some.inj (component.symm.trans hc)
      exact ih m hm
    · exact foundIfChecked_of_idle hm
  | map kind component key _ _ ihk ihc =>
    intro m hm
    rw [mem_mentions_iff, kind] at hm
    rcases hm with ⟨name, -, rfl⟩ | ⟨c, hc, hm⟩ | ⟨k, hk, hm⟩
    · exact nofun
    · obtain rfl := Option.some.inj (component.symm.trans hc)
      exact ihc m hm
    · obtain rfl := Option.some.inj (key.symm.trans hk)
      exact ihk m hm
  | named kind scopedName found =>
    apply foundIfChecked_of_single (Classification.isCollection_eq_false (Or.inl kind))
    intro name hname _
    obtain rfl := Option.some.inj (scopedName.symm.trans hname)
    exact found
  | @primitive t kind =>
    apply foundIfChecked_of_single (Classification.isCollection_eq_false (Or.inr kind))
    intro name _ hnamed
    cases hc : t.classification <;> rw [hc] at kind hnamed <;> cases kind <;> cases hnamed

end TypeUsage

section Schemas

variable {d : Document}

lemma Discriminator.foundIfChecked {owner : Classification} {x : Discriminator}
    (h : owner = .hierarchy → ∀ name ∈ x.mappings.map (·.scopedName), d.has name) :
    ∀ m ∈ x.mentions owner, m.FoundIfChecked d := by
  intro m hm hchecked
  obtain ⟨mapping, hmapping, rfl⟩ := List.mem_map.mp hm
  have howner : owner = .hierarchy := by simpa [Mention.Place.isChecked] using hchecked
  exact h howner _ (List.mem_map_of_mem hmapping)

lemma foundIfChecked_of_names {place : Mention.Place} {names : List ScopedName}
    (h : ∀ name ∈ names, d.has name) : ∀ m ∈ names.map (Mention.mk place), m.FoundIfChecked d := by
  intro m hm _
  obtain ⟨name, hname, rfl⟩ := List.mem_map.mp hm
  exact h name hname

lemma SchemaKind.WellFormed.foundIfChecked {kind : SchemaKind} (h : kind.WellFormed d) :
    ∀ m ∈ kind.mentions, m.FoundIfChecked d := by
  cases kind with
  | object o =>
    obtain ⟨hparent, himplements⟩ := List.forall_mem_append.mp h
    simp only [mentions, List.forall_mem_append, List.forall_mem_flatMap]
    refine ⟨⟨foundIfChecked_of_names hparent, foundIfChecked_of_names himplements⟩, ?_⟩
    exact fun x _ => Discriminator.foundIfChecked (by simp)
  | enum e => exact h.2.foundIfChecked
  | interface i =>
    simp only [mentions, List.forall_mem_append]
    refine ⟨foundIfChecked_of_names h, fun m hm => ?_⟩
    obtain ⟨name, -, rfl⟩ := List.mem_map.mp hm
    exact nofun
  | hierarchy x =>
    obtain ⟨hmembers, hmappings⟩ := List.forall_mem_append.mp h
    simp only [mentions, List.forall_mem_append]
    exact ⟨foundIfChecked_of_names hmembers, Discriminator.foundIfChecked fun _ => hmappings⟩
  | wrapper w => simp [mentions]
  | oneOf o =>
    simp only [mentions, List.forall_mem_append, List.forall_mem_flatMap]
    refine ⟨fun member hmember => (h.2 member hmember).foundIfChecked, ?_⟩
    exact fun x _ => Discriminator.foundIfChecked (by simp)

lemma Schema.WellFormed.foundIfChecked {s : Schema} (h : s.WellFormed d) :
    ∀ m ∈ s.mentions, m.FoundIfChecked d := by
  simp only [mentions, List.forall_mem_append, List.forall_mem_flatMap]
  exact ⟨fun p hp => (h.types p hp).foundIfChecked, h.kind.foundIfChecked⟩

lemma OperationGroup.WellFormed.foundIfChecked {g : OperationGroup} (h : g.WellFormed d) :
    ∀ m ∈ g.mentions, m.FoundIfChecked d := by
  simp only [mentions, List.forall_mem_flatMap]
  exact fun o ho t ht => (h.types o ho t ht).foundIfChecked

end Schemas

namespace Document

variable {d : Document}

/-- In a valid document a mentioned schema is found wherever validation looks for it. So all are
found as soon as those are that it does not look for. -/
theorem mentions_found (h : d.validate = .ok ()) :
    (∀ m ∈ d.mentions, m.place.isChecked → d.has m.name) ∧
      ((∀ m ∈ d.mentions, d.has m.name) ↔
        ∀ m ∈ d.mentions, m.place.isChecked = false → d.has m.name) := by
  obtain ⟨-, hschemas, hgroups⟩ := validate_eq_ok_iff_wellFormed.mp h
  have hchecked : ∀ m ∈ d.mentions, m.FoundIfChecked d := by
    simp only [mentions, List.forall_mem_append, List.forall_mem_flatMap]
    exact ⟨fun s hs => (hschemas s hs).foundIfChecked, fun g hg => (hgroups g hg).foundIfChecked⟩
  refine ⟨hchecked, fun hall m hm _ => hall m hm, fun hunchecked m hm => ?_⟩
  cases hplace : m.place.isChecked with
  | true => exact hchecked m hm hplace
  | false => exact hunchecked m hm hplace

/-- An interface, an object and a oneOf that mention a schema which is not there. -/
def ghosts : Document :=
  let mappings : Discriminator := { name := "kind", mappings := [⟨"ghost", ["Ghost"]⟩] }
  { Document.titled "Ghosts" "1" with
    schemas := [
      .top "Named" (.interface { implementation := some ["Ghost"] }),
      .top "Pet" (.object { discriminator := some mappings }),
      .top "Choice" (.oneOf ⟨[⟨none, .named .object ["Pet"]⟩], some mappings⟩)] }

/-- Validation accepts mentions of a schema that is not there, where it does not look. -/
theorem validate_ghosts :
    ghosts.validate = .ok () ∧
      ∀ place ∈ [Mention.Place.implementation, .mapping .object, .mapping .oneOf],
        ∃ m ∈ ghosts.mentions, m.place = place ∧ ghosts.has m.name = false := by
  refine ⟨rfl, ?_⟩
  decide

/-- A usage deep inside collections, of a schema that is nested in another. -/
def sizesByName : Document :=
  { Document.titled "Sizes" "1" with
    schemas := [{ Schema.top "Pet" (.object {
      properties := [{
        name := "sizes"
        type := .mapOf (.scalar .string none) (.arrayOf (.named .enum ["Pet", "Size"])) }] }) with
      nested := [{
        name := "Size"
        scopedName := ["Pet", "Size"]
        kind := .enum ⟨.scalar .string none, [.string "small"]⟩ }] }] }

theorem mentions_found_sizesByName :
    sizesByName.validate = .ok () ∧ ⟨.usage, ["Pet", "Size"]⟩ ∈ sizesByName.mentions ∧
      ∀ m ∈ sizesByName.mentions, sizesByName.has m.name := by
  have hvalid : sizesByName.validate = .ok () := rfl
  refine ⟨hvalid, by decide, (mentions_found hvalid).2.mpr ?_⟩
  decide

end Document

end SwiftClient
