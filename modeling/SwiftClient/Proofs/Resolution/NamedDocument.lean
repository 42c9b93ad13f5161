import SwiftClient.Proofs.Document.Validity
import SwiftClient.Proofs.Resolution.MemberNames

/-!
# Naming members keeps documents valid

Schemas are found where they were before, and the names of members differ because given names are
new. So a valid document is valid after its members are named.
-/
namespace SwiftClient

namespace Schema

lemma has_of_allMembersNamed {d d' : Document} (h : AllMembersNamed d.schemas d'.schemas)
    (name : ScopedName) : d'.has name = d.has name :=
  isSome_eq_of_rel (matching_membersNamed.find? (allMembersNamed_iff.mp h) name)

mutual

lemma MembersNamed.nameDefects : ∀ {s s' : Schema}, MembersNamed s s' → ∀ repeated,
    Document.nameDefects repeated s' = Document.nameDefects repeated s
  | ⟨_, _, _, _, _, _, _⟩, _, .intro _ below, repeated => by
    rw [Document.nameDefects, Document.nameDefects, AllMembersNamed.siblingDefects below]

lemma AllMembersNamed.siblingDefects : ∀ {forest forest' : List Schema},
    AllMembersNamed forest forest' → ∀ seen,
      Document.siblingDefects seen forest' = Document.siblingDefects seen forest
  | [], _, .nil, _ => rfl
  | _ :: _, _, .cons first others, seen => by
    rw [Document.siblingDefects, Document.siblingDefects, matching_membersNamed.name first,
      MembersNamed.nameDefects first, AllMembersNamed.siblingDefects others]

end

end Schema

/-- Names that differ before naming differ after it, and so do texts that are made from them. -/
lemma NewNames.nodup_map {nested : List Schema} {before after : List Member} {f : String → String}
    (hf : ∀ n, f n ∈ Naming.forms n) (hnamed : List.Forall₂ Member.Named before after)
    (hnew : NewNames nested before after) (h : ((before.filterMap (·.name)).map f).Nodup) :
    ((after.filterMap (·.name)).map f).Nodup := by
  unfold List.Nodup at h ⊢
  rw [List.pairwise_map, List.pairwise_filterMap, List.pairwise_iff_getElem] at h ⊢
  have hlength := hnamed.length_eq
  -- a name is either given or was there before
  have horigin : ∀ i (hi : i < before.length) n, (after[i]).name = some n →
      GivenName before after i n ∨ before[i].name = some n := by
    intro i hi n hn
    cases hb : before[i].name with
    | none => exact Or.inl (by simp [GivenName, hi, hlength ▸ hi, hb, hn])
    | some b =>
      have := (hnamed.get hi (hlength ▸ hi)).kept b hb
      simp_all
  intro i j hi hj hij n hn m hm hnm
  have hni : after[i]?.map (·.name) = some (some n) := by simp [hi, hn]
  have hmj : after[j]?.map (·.name) = some (some m) := by simp [hj, hm]
  have hform : f n ∈ Naming.forms m := hnm ▸ hf m
  rcases horigin i (by omega) n hn with hgiven | hbi
  · exact hnew.members i j n m hgiven (by omega) hmj (hf n) hform
  rcases horigin j (by omega) m hm with hgiven | hbj
  · exact hnew.members j i m n hgiven (by omega) hni hform (hf n)
  exact h i j (by omega) (by omega) hij n hbi m hbj hnm

lemma NewNames.nodup {nested : List Schema} {before after : List Member}
    (hnamed : List.Forall₂ Member.Named before after) (hnew : NewNames nested before after)
    (h : (before.filterMap (·.name)).Nodup) : (after.filterMap (·.name)).Nodup := by
  have hself : ∀ n, id n ∈ Naming.forms n := fun n => by simp [Naming.forms]
  simpa using hnew.nodup_map hself hnamed (by simpa using h)

namespace SchemaKind.MembersNamed

variable {nested : List Schema} {kind kind' : SchemaKind}

lemma properties (h : kind.MembersNamed nested kind') : kind'.properties = kind.properties := by
  cases h <;> rfl

lemma wellFormed {d : Document} (h : kind.MembersNamed nested kind') (hk : kind.WellFormed d) :
    kind'.WellFormed d := by
  cases h with
  | oneOf named new =>
    refine ⟨new.nodup named hk.1, ?_⟩
    exact forall_mem_of_forall₂ named fun b hb m hbm => hbm.type ▸ hk.2 b hb
  | other => exact hk

end SchemaKind.MembersNamed

lemma Schema.MembersNamed.wellFormed {d : Document} {s s' : Schema} (h : MembersNamed s s')
    (hs : s.WellFormed d) : s'.WellFormed d := by
  have hproperties : s'.properties = s.properties := h.kinds.properties
  constructor
  · rw [hproperties]
    exact hs.names
  · rw [hproperties]
    exact hs.types
  · exact h.kinds.wellFormed hs.kind

/-- What is found in a named document is what naming makes of the schema that is found before. -/
lemma Document.nameMembers_find? {d named : Document} {package : Option String}
    (h : d.nameMembers package = .ok named) (path : ScopedName) :
    Option.Rel (fun s s' => s.nameMembers package = .ok s') (d.find? path) (named.find? path) := by
  simp only [nameMembers, Outcome.bind_eq_ok, Outcome.pure_eq_ok] at h
  obtain ⟨forest, hforest, rfl⟩ := h
  exact (Schema.matching_nameMembers package).find? (Schema.nameAllMembers_eq_ok.mp hforest) path

/-- A valid document stays valid when its members are named. -/
theorem Document.validate_nameMembers {d named : Document} {package : Option String}
    (h : d.nameMembers package = .ok named) (hd : d.validate = .ok ()) :
    named.validate = .ok () := by
  simp only [nameMembers, Outcome.bind_eq_ok, Outcome.pure_eq_ok] at h
  obtain ⟨forest, hforest, rfl⟩ := h
  have hnamed := Schema.allMembersNamed_of_nameAllMembers hforest
  have hhas : ∀ name, d.has name → ({ d with schemas := forest } : Document).has name :=
    fun name hname => (Schema.has_of_allMembersNamed hnamed name).trans hname
  rw [validate_eq_ok_iff_wellFormed] at hd ⊢
  obtain ⟨hsiblings, hschemas, hgroups⟩ := hd
  refine ⟨hnamed.siblingDefects [] ▸ hsiblings, ?_, ?_⟩
  · have hall := Schema.matching_membersNamed.flattenAll (Schema.allMembersNamed_iff.mp hnamed)
    exact forall_mem_of_forall₂ hall fun s hs s' hss' =>
      (hss'.wellFormed (hschemas s hs)).mono hhas
  · exact fun g hg => (hgroups g hg).mono hhas

end SwiftClient
