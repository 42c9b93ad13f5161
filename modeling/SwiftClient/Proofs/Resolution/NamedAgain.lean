import SwiftClient.Proofs.Options
import SwiftClient.Proofs.Resolution.Kept

/-!
# Naming what is named

Naming leaves members alone that have names, so it changes nothing the second time. A document
whose schemas have been named beforehand is therefore resolved like the document itself.
-/
namespace SwiftClient

variable {package : Option String}

lemma nameMembers_eq_self {context : String} {scope : Naming.Scope} {members : List Member}
    (h : ∀ m ∈ members, m.name ≠ none) :
    nameMembers package context scope members = .ok members := by
  induction members with
  | nil => rfl
  | cons member rest ih =>
    rw [List.forall_mem_cons] at h
    obtain ⟨name, type⟩ := member
    cases name with
    | none => exact absurd rfl h.1
    | some name =>
      rw [nameMembers, ih h.2]
      rfl

lemma SchemaKind.nameMembers_eq_self {context : String} {nested : List Schema} {kind : SchemaKind}
    (h : kind.AllNamed) : kind.nameMembers package context nested = .ok kind := by
  cases kind with
  | oneOf o =>
    rw [nameMembers, SwiftClient.nameMembers_eq_self h]
    rfl
  | object | enum | interface | hierarchy | wrapper => rfl

namespace Schema

mutual

theorem nameMembers_eq_self : ∀ {s : Schema}, (∀ t ∈ s.flatten, t.kind.AllNamed) →
    s.nameMembers package = .ok s
  | ⟨name, scopedName, description, purpose, nullable, kind, nested⟩, h => by
    rw [flatten_eq, List.forall_mem_cons] at h
    exact nameMembers_eq_ok.mpr
      ⟨nested, kind, nameAllMembers_eq_self h.2, SchemaKind.nameMembers_eq_self h.1, rfl⟩

theorem nameAllMembers_eq_self : ∀ {forest : List Schema},
    (∀ t ∈ flattenAll forest, t.kind.AllNamed) → nameAllMembers package forest = .ok forest
  | [], _ => rfl
  | s :: rest, h => by
    rw [flattenAll, List.forall_mem_append] at h
    rw [nameAllMembers, nameMembers_eq_self h.1, nameAllMembers_eq_self h.2]
    rfl

end

/-- Naming is idempotent, and the package has no bearing on members that are named. -/
theorem nameMembers_idempotent {s named : Schema} (h : s.nameMembers package = .ok named)
    (package' : Option String) : named.nameMembers package' = .ok named := by
  have hall := matching_membersNamed.flatten (membersNamed_of_nameMembers h)
  exact nameMembers_eq_self (forall_mem_of_forall₂ hall fun _ _ _ ht => ht.kinds.allNamed)

end Schema

lemma Options.completeNoting_of_isSome {o : Options} (h : o.package.isSome) (info : Info) :
    o.completeNoting info = pure o := by
  have hnamed : ¬o.package.isNone := by simpa [Option.isSome_iff_ne_none] using h
  rw [completeNoting, complete_of_isSome h, if_neg hnamed]

namespace Document

variable {d named : Document} {options : Options} {resolved : ResolvedDocument}

lemma nameMembers_idempotent (h : d.nameMembers package = .ok named) :
    named.nameMembers package = .ok named := by
  simp only [nameMembers, Outcome.bind_eq_ok, Outcome.pure_eq_ok] at h ⊢
  obtain ⟨forest, hforest, rfl⟩ := h
  refine ⟨forest, ?_, rfl⟩
  have hnamed := Schema.nameAllMembers_eq_ok.mp hforest
  rw [Schema.nameAllMembers_eq_ok, List.forall₂_same]
  exact forall_mem_of_forall₂ hnamed fun _ _ _ hs => Schema.nameMembers_idempotent hs package

/-- A valid document with its members named beforehand is resolved in the same way. -/
theorem resolve_eq_of_nameMembers (hpackage : options.package.isSome) (hd : d.validate = .ok ())
    (h : d.nameMembers options.package = .ok named) :
    named.resolve options = d.resolve options := by
  have hinfo : named.info = d.info := by
    simp only [nameMembers, Outcome.bind_eq_ok, Outcome.pure_eq_ok] at h
    obtain ⟨forest, -, rfl⟩ := h
    rfl
  unfold resolve
  rw [hd, validate_nameMembers h hd, hinfo, Options.completeNoting_of_isSome hpackage, pure_bind,
    pure_bind, h, nameMembers_idempotent h]

/-- With a package that has a name, each schema of a document that can be resolved is named, and
naming it again changes nothing. The document of the named schemas is resolved to the same, with the
same notices. -/
theorem resolve_named_schemas (hpackage : options.package.isSome)
    (h : (d.resolve options).result = .ok resolved) :
    ∃ forest, List.Forall₂ (fun s s' => s.nameMembers options.package = .ok s' ∧
        s'.nameMembers options.package = .ok s') d.schemas forest ∧
      let named := { d with schemas := forest }
      (named.resolve options).result = .ok resolved ∧
        (named.resolve options).notices = (d.resolve options).notices := by
  obtain ⟨hd, named, hnamed, -⟩ := resolve_eq_ok.mp h
  rw [Options.complete_of_isSome hpackage] at hnamed
  have hresolve := resolve_eq_of_nameMembers hpackage hd hnamed
  simp only [nameMembers, Outcome.bind_eq_ok, Outcome.pure_eq_ok] at hnamed
  obtain ⟨forest, hforest, rfl⟩ := hnamed
  refine ⟨forest, ?_, hresolve ▸ h, congrArg Traced.notices hresolve⟩
  exact (Schema.nameAllMembers_eq_ok.mp hforest).imp fun s s' hs =>
    ⟨hs, Schema.nameMembers_idempotent hs _⟩

theorem resolve_named_schemas_petShop :
    ∃ resolved, (petShop.resolve .default).result = .ok resolved ∧
      ∃ forest, List.Forall₂ (fun s s' => s.nameMembers (some "Api") = .ok s' ∧
          s'.nameMembers (some "Api") = .ok s') petShop.schemas forest ∧
        ({ petShop with schemas := forest }.resolve .default).result = .ok resolved := by
  obtain ⟨resolved, h⟩ := exists_resolve_petShop
  obtain ⟨forest, hforest, hresolve, -⟩ := resolve_named_schemas rfl h
  exact ⟨resolved, h, forest, hforest, hresolve⟩

end Document

end SwiftClient
