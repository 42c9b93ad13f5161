import SwiftClient.Code.Model
import SwiftClient.Proofs.Resolution.CaseIdentifiers
import SwiftClient.Proofs.Resolution.Failures

/-!
# Mappings of a discriminator

The value of a discriminator decides which case of an enum a message is decoded to. The mapping of
a value names a schema; it leads to the case of the first member that is of this schema, with the
type that this case carries, however the member got its name.
-/
namespace SwiftClient

open Naming (identifier)

def Member.carries (m : Member) (name : ScopedName) : Bool := m.type.scopedName == some name

/-- The first member that carries a name, with what the members are resolved to. -/
def firstCarrying (name : ScopedName) (members : List Member) (cases : List Resolved.Member) :
    Option (Member × Resolved.Member) :=
  (members.zip cases).find? fun m => m.1.carries name

/-- A mapping leads to a case of an enum: it has the name and the type of the case, and so what it
decodes to is declared. -/
structure Resolved.Mapping.LeadsTo (q : Mapping) (v : Member) (members : List Member) : Prop where
  memberName : q.memberName = v.identifier
  type : q.type = v.type
  declared : Code.valueCase q.memberName q.type ∈ Code.memberCases members

/-- If some members carry the schema of a mapping, and all of these are of the schema itself, then
the mapping leads to the case of the first of them. -/
def OneOfSchema.Maps (o : OneOfSchema) (members : List Resolved.Member) (m : Mapping)
    (q : Resolved.Mapping) : Prop :=
  (∃ u ∈ o.members, u.carries m.scopedName) →
    (∀ u ∈ o.members, u.carries m.scopedName → u.type.classification.isNamed) →
      ∃ u v, firstCarrying m.scopedName o.members members = some (u, v) ∧ q.LeadsTo v members

def Schema.MapsToCases (s : Schema) (t : Resolved.Schema) : Prop :=
  ∀ o x, s.kind = .oneOf o → o.discriminator = some x →
    ∃ members y, t.kind = .oneOf members (some y) ∧
      List.Forall₂ (o.Maps members) x.mappings y.mappings

lemma Member.Named.carries {before after : Member} (h : before.Named after) (name : ScopedName) :
    after.carries name = before.carries name := by
  unfold Member.carries
  rw [h.type]

namespace Resolution

variable {r : Resolution} {context : String}

lemma type_of_member {m : Member} {v : Resolved.Member} {name : ScopedName}
    (hkind : m.type.classification.isNamed) (hcarries : m.carries name)
    (h : r.member context m = .ok v) : v.type = name.swiftType r.package := by
  have hname : m.type.scopedName = some name := by simpa [Member.carries] using hcarries
  simp only [member, Outcome.bind_eq_ok, Outcome.pure_eq_ok] at h
  obtain ⟨type, htype, rfl⟩ := h
  rw [TypeUsage.swiftType_named hkind hname] at htype
  exact (Except.ok.inj htype).symm

/-- Searches before naming, after naming and after resolving stop at the same member. -/
lemma exists_firstCarrying {name : ScopedName} {before after : List Member}
    {members : List Resolved.Member} (hnamed : List.Forall₂ Member.Named before after)
    (hmembers : List.Forall₂ (fun m v => r.member context m = .ok v) after members)
    (hex : ∃ u ∈ before, u.carries name) :
    ∃ u w v, firstCarrying name before members = some (u, v) ∧
      after.find? (·.carries name) = some w ∧ u.Named w ∧ r.member context w = .ok v := by
  induction hnamed generalizing members with
  | nil => simp at hex
  | @cons u w before after huw _ ih =>
    obtain ⟨v, vs, hv, hvs, rfl⟩ := List.forall₂_cons_left_iff.mp hmembers
    unfold firstCarrying
    rw [List.zip_cons_cons]
    by_cases hu : u.carries name
    · have hw : w.carries name := (huw.carries name).trans hu
      exact ⟨u, w, v, List.find?_cons_of_pos hu, List.find?_cons_of_pos hw, huw, hv⟩
    · have hw : ¬w.carries name := by rwa [huw.carries name]
      rw [List.exists_mem_cons_iff] at hex
      obtain ⟨u', w', v', hfirst, hfind, hnamed', hv'⟩ := ih hvs (hex.resolve_left hu)
      refine ⟨u', w', v', ?_, ?_, hnamed', hv'⟩
      · refine Eq.trans (List.find?_cons_of_neg ?_) hfirst
        exact hu
      · refine Eq.trans (List.find?_cons_of_neg ?_) hfind
        exact hw

lemma memberName_of_mapping {members : List Member} {m : Mapping} {w : Member} {n : String}
    (hfind : members.find? (·.carries m.scopedName) = some w) (hn : w.name = some n) :
    (r.mapping members m).memberName = identifier n := by
  have hnamed : mappedName members m = n := by
    unfold mappedName
    rw [show (members.find? fun u => u.type.scopedName == some m.scopedName) = some w from hfind,
      Option.bind_some, hn]
    rfl
  exact congrArg identifier hnamed

theorem maps_of_members {o : OneOfSchema} {after : List Member} {members : List Resolved.Member}
    (hnamed : List.Forall₂ Member.Named o.members after)
    (hmembers : List.Forall₂ (fun m v => r.member context m = .ok v) after members) (m : Mapping) :
    o.Maps members m (r.mapping after m) := by
  intro hex hkinds
  obtain ⟨u, w, v, hfirst, hfind, huw, hv⟩ := exists_firstCarrying hnamed hmembers hex
  have hu : (u, v) ∈ o.members.zip members := List.mem_of_find?_eq_some hfirst
  have hcarries : u.carries m.scopedName := by
    have hfound := List.find?_some hfirst
    exact hfound
  obtain ⟨n, hn⟩ := Option.ne_none_iff_exists'.mp huw.named
  have hname : (r.mapping after m).memberName = v.identifier := by
    rw [memberName_of_mapping hfind hn, identifier_of_member hn hv]
  have htype : (r.mapping after m).type = v.type := by
    have hkind : w.type.classification.isNamed := by
      rw [huw.type]
      exact hkinds u (List.of_mem_zip hu).1 hcarries
    exact (type_of_member hkind ((huw.carries _).trans hcarries) hv).symm
  refine ⟨u, v, hfirst, hname, htype, ?_⟩
  rw [hname, htype]
  exact List.mem_map_of_mem (List.of_mem_zip hu).2

lemma Makes.mapsToCases {s : Schema} {t : Resolved.Schema} (h : r.Makes s t) :
    s.MapsToCases t := by
  obtain ⟨named, kind, nested, hnamed, hkind, -, rfl⟩ := h.parts
  have hkinds := (Schema.membersNamed_of_nameMembers hnamed).kinds
  have hmakes := makesKind_of_kind hkind
  intro o x ho hx
  rw [ho] at hkinds
  generalize named.kind = kind' at hkinds hmakes
  cases hkinds with
  | oneOf hmembers _ =>
    cases hmakes with
    | oneOf hcases =>
      dsimp only at hx
      subst hx
      refine ⟨_, _, rfl, ?_⟩
      rw [discriminator, List.forall₂_map_right_iff, List.forall₂_same]
      exact fun m _ => maps_of_members hmembers hcases m
  | other hother => exact absurd rfl (hother o)

end Resolution

namespace Document

variable {d : Document} {options : Options} {resolved : ResolvedDocument}

/-- In each choice of a resolved document, at any depth, a mapping leads to the case of the first
member that carries its schema, if all members that carry it are of the schema itself. -/
theorem resolve_maps_to_cases (h : (d.resolve options).result = .ok resolved) :
    List.Forall₂ Schema.MapsToCases d.allSchemas resolved.allSchemas := by
  obtain ⟨named, -, hmakes⟩ := makes_of_resolve h
  exact (Resolution.makes_flattenAll hmakes).imp fun _ _ => Resolution.Makes.mapsToCases

instance (members : List Resolved.Member) (discriminator : Option Resolved.Discriminator) :
    (kind : Resolved.SchemaKind) → Decidable (kind = .oneOf members discriminator)
  | .oneOf members' discriminator' =>
    decidable_of_iff (members' = members ∧ discriminator' = discriminator) (by simp)
  | .object _ _ _ _ | .enum _ _ | .interface _ _ _ | .hierarchy _ _ _ | .wrapper _ => isFalse nofun

/-- A hotel for pets, where a guest is a dog, or a cat in either of two ways. -/
def petHotel : Document :=
  let guest : OneOfSchema := {
    members := [⟨none, .named .object ["Dog"]⟩, ⟨some "tom-cat", .named .object ["Cat"]⟩,
      ⟨none, .scalar .string none⟩, ⟨none, .named .object ["Cat"]⟩]
    discriminator := some {
      name := "kind"
      mappings := [⟨"c", ["Cat"]⟩, ⟨"d", ["Dog"]⟩] } }
  { Document.titled "Pet hotel" "1" with
    schemas := [
      { Schema.top "Hotel" (.object {}) with
        nested := [{ Schema.top "Guest" (.oneOf guest) with scopedName := ["Hotel", "Guest"] }] },
      .top "Dog" (.object {}), .top "Cat" (.object {})] }

theorem resolve_maps_to_cases_petHotel :
    ∃ resolved, (petHotel.resolve .default).result = .ok resolved ∧
      List.Forall₂ Schema.MapsToCases petHotel.allSchemas resolved.allSchemas ∧
      (resolved.find? ["Hotel", "Guest"]).map (·.kind) =
        some (.oneOf
          [⟨"ApiDog", "apiDog", .object, .named "Api.Dog"⟩,
            ⟨"tom-cat", "tomCat", .object, .named "Api.Cat"⟩,
            ⟨"String", "string", .string, .named "String"⟩,
            ⟨"ApiCat", "apiCat", .object, .named "Api.Cat"⟩]
          (some ⟨"kind", "kind", "kind",
            [⟨"c", .named "Api.Cat", "tomCat"⟩, ⟨"d", .named "Api.Dog", "apiDog"⟩]⟩)) := by
  obtain ⟨resolved, h, guest, hfind, hkind⟩ : ∃ resolved,
      (petHotel.resolve .default).result = .ok resolved ∧
        ∃ guest ∈ resolved.find? ["Hotel", "Guest"], guest.kind = .oneOf
          [⟨"ApiDog", "apiDog", .object, .named "Api.Dog"⟩,
            ⟨"tom-cat", "tomCat", .object, .named "Api.Cat"⟩,
            ⟨"String", "string", .string, .named "String"⟩,
            ⟨"ApiCat", "apiCat", .object, .named "Api.Cat"⟩]
          (some ⟨"kind", "kind", "kind",
            [⟨"c", .named "Api.Cat", "tomCat"⟩, ⟨"d", .named "Api.Dog", "apiDog"⟩]⟩) := by
    decide +kernel
  refine ⟨resolved, h, resolve_maps_to_cases h, ?_⟩
  rw [Option.mem_def.mp hfind, ← hkind]
  rfl

end Document

end SwiftClient
