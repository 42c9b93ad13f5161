import SwiftClient.Proofs.Resolution.Kept

/-!
# Identifiers of enum cases

The members of a oneOf become the cases of an enum. Names that are given to members make identifiers
of their own, so the identifiers of all cases differ exactly when those of the names that the
document itself gives do.
-/
namespace SwiftClient

open Naming (identifier forms)

def SchemaKind.namedIdentifiers : SchemaKind → List String
  | .oneOf o => (o.members.filterMap (·.name)).map identifier
  | _ => []

def Resolved.SchemaKind.caseIdentifiers : SchemaKind → List String
  | .oneOf members _ => members.map (·.identifier)
  | _ => []

lemma Member.Named.sublist {before after : List Member}
    (h : List.Forall₂ Member.Named before after) :
    (before.filterMap (·.name)).Sublist (after.filterMap (·.name)) := by
  induction h with
  | nil => exact .slnil
  | @cons b a _ _ hba _ ih =>
    cases hb : b.name with
    | none =>
      rw [List.filterMap_cons_none hb]
      obtain ⟨n, hn⟩ := Option.ne_none_iff_exists'.mp hba.named
      rw [List.filterMap_cons_some hn]
      exact ih.cons n
    | some n =>
      rw [List.filterMap_cons_some hb, List.filterMap_cons_some (hba.kept n hb)]
      exact ih.cons_cons n

/-- Naming members neither makes identifiers coincide nor keeps them from it. -/
lemma SchemaKind.MembersNamed.nodup_iff {nested : List Schema} {kind named : SchemaKind}
    (h : kind.MembersNamed nested named) :
    named.namedIdentifiers.Nodup ↔ kind.namedIdentifiers.Nodup := by
  cases h with
  | oneOf members new =>
    constructor
    · exact List.Nodup.sublist ((Member.Named.sublist members).map identifier)
    · exact new.nodup_map (fun n => by simp [forms]) members
  | other => rfl

namespace Resolution

variable {r : Resolution}

lemma identifier_of_member {context : String} {m : Member} {q : Resolved.Member} {n : String}
    (hn : m.name = some n) (h : r.member context m = .ok q) : q.identifier = identifier n := by
  simp only [member, Outcome.bind_eq_ok, Outcome.pure_eq_ok] at h
  obtain ⟨type, -, rfl⟩ := h
  rw [hn, Option.getD_some]

lemma identifiers_of_members {context : String} {ms : List Member} {qs : List Resolved.Member}
    (hnamed : ∀ m ∈ ms, m.name ≠ none)
    (h : List.Forall₂ (fun m q => r.member context m = .ok q) ms qs) :
    qs.map (·.identifier) = (ms.filterMap (·.name)).map identifier := by
  induction h with
  | nil => rfl
  | cons hq _ ih =>
    rw [List.forall_mem_cons] at hnamed
    obtain ⟨n, hn⟩ := Option.ne_none_iff_exists'.mp hnamed.1
    rw [List.map_cons, List.filterMap_cons_some hn, List.map_cons, identifier_of_member hn hq,
      ih hnamed.2]

lemma caseIdentifiers_of_kind {s : Schema} {k : Resolved.SchemaKind} (hnamed : s.kind.AllNamed)
    (h : (r.kind s).result = .ok k) : k.caseIdentifiers = s.kind.namedIdentifiers := by
  have hmakes := makesKind_of_kind h
  generalize s.kind = kind at hmakes hnamed
  cases hmakes with
  | oneOf members => exact identifiers_of_members hnamed members
  | object | enum | interface | hierarchy | wrapper => rfl

/-- The cases made of a schema have different identifiers exactly when its own names do. -/
theorem Makes.nodup_cases_iff {s : Schema} {t : Resolved.Schema} (h : r.Makes s t) :
    t.kind.caseIdentifiers.Nodup ↔ s.kind.namedIdentifiers.Nodup := by
  obtain ⟨named, kind, nested, hnamed, hkind, -, rfl⟩ := h.parts
  have hmembers := (Schema.membersNamed_of_nameMembers hnamed).kinds
  rw [caseIdentifiers_of_kind hmembers.allNamed hkind]
  exact hmembers.nodup_iff

end Resolution

namespace Document

variable {d : Document} {options : Options} {resolved : ResolvedDocument}

/-- The cases of an enum have different identifiers exactly when the names that the document gives
to its members make different ones. Names that are given in resolving never coincide with others. -/
theorem nodup_caseIdentifiers_iff (h : (d.resolve options).result = .ok resolved) :
    List.Forall₂
        (fun s t => t.kind.caseIdentifiers.Nodup ↔ s.kind.namedIdentifiers.Nodup)
        d.allSchemas resolved.allSchemas ∧
      ((∀ t ∈ resolved.allSchemas, t.kind.caseIdentifiers.Nodup) ↔
        ∀ s ∈ d.allSchemas, s.kind.namedIdentifiers.Nodup) := by
  obtain ⟨named, -, hmakes⟩ := makes_of_resolve h
  have hall := (Resolution.makes_flattenAll hmakes).imp fun _ _ =>
    Resolution.Makes.nodup_cases_iff
  refine ⟨hall, fun hcases s hs => ?_, fun hnames => ?_⟩
  · obtain ⟨t, ht, hst⟩ := exists_mem_of_forall₂ hall hs
    exact hst.mp (hcases t ht)
  · exact forall_mem_of_forall₂ hall fun s hs t hst => hst.mpr (hnames s hs)

/-- A choice between texts whose members have these names. -/
def textsNamed (names : List (Option String)) : Document :=
  { Document.titled "Texts" "1" with
    schemas := [.top "Choice" (.oneOf ⟨names.map fun n => ⟨n, .scalar .string none⟩, none⟩)] }

/-- Two names that differ in the case of a letter are accepted, and make one identifier. -/
theorem caseIdentifiers_catAndCat :
    ∃ resolved, ((textsNamed [some "cat", some "Cat"]).resolve .default).result = .ok resolved ∧
      resolved.allSchemas.map (·.kind.caseIdentifiers) = [["cat", "cat"]] := by
  decide +kernel

theorem nodup_caseIdentifiers_iff_catAndTexts :
    ∃ resolved, ((textsNamed [some "cat", none, none]).resolve .default).result = .ok resolved ∧
      ∀ t ∈ resolved.allSchemas, t.kind.caseIdentifiers.Nodup := by
  obtain ⟨resolved, h⟩ : ∃ resolved,
      ((textsNamed [some "cat", none, none]).resolve .default).result = .ok resolved := by
    decide +kernel
  refine ⟨resolved, h, (nodup_caseIdentifiers_iff h).2.mpr ?_⟩
  decide

end Document

end SwiftClient
