import SwiftClient.Proofs.Document.Lookup
import SwiftClient.Proofs.Naming.Unique
import SwiftClient.Proofs.Outcome
import SwiftClient.Resolution.MemberNames

/-!
# Naming members keeps names apart

Naming the members of a schema leaves all else as it is, at every depth. A name that is given is
new: neither it nor its identifier is a name or identifier of another member, be it explicit or
given earlier or later, or the class name of a nested schema.
-/
namespace SwiftClient

open Naming (forms className Scope)

/-- All that naming does to a member is to give it a name if it has none. -/
structure Member.Named (before after : Member) : Prop where
  type : after.type = before.type
  named : after.name ≠ none
  kept : ∀ n, before.name = some n → after.name = some n

def GivenName (before after : List Member) (i : ℕ) (n : String) : Prop :=
  before[i]?.map (·.name) = some none ∧ after[i]?.map (·.name) = some (some n)

/-- The names given to members are apart from all names beside them. -/
structure NewNames (nested : List Schema) (before after : List Member) : Prop where
  nested : ∀ i n, GivenName before after i n →
    (forms n).Disjoint (nested.map fun s => className s.name)
  members : ∀ i j n m, GivenName before after i n → i ≠ j →
    after[j]?.map (·.name) = some (some m) → (forms n).Disjoint (forms m)

namespace SchemaKind

/-- Of the kinds of schemas only a oneOf changes, and of it only the members. -/
inductive MembersNamed (nested : List Schema) : SchemaKind → SchemaKind → Prop
  | oneOf {before after : List Member} {d : Option Discriminator}
      (named : List.Forall₂ Member.Named before after) (new : NewNames nested before after) :
      MembersNamed nested (.oneOf ⟨before, d⟩) (.oneOf ⟨after, d⟩)
  | other {kind : SchemaKind} (h : ∀ o, kind ≠ .oneOf o) : MembersNamed nested kind kind

def AllNamed : SchemaKind → Prop
  | oneOf o => ∀ m ∈ o.members, m.name ≠ none
  | _ => True

lemma MembersNamed.allNamed {nested : List Schema} {kind named : SchemaKind}
    (h : kind.MembersNamed nested named) : named.AllNamed := by
  cases h with
  | oneOf members _ => exact forall_mem_of_forall₂ members fun _ _ _ hm => hm.named
  | other hother =>
    cases kind with
    | oneOf o => exact absurd rfl (hother o)
    | object | enum | interface | hierarchy | wrapper => trivial

end SchemaKind

namespace Schema

mutual

/-- The second schema is the first with its members named at every depth. -/
inductive MembersNamed : Schema → Schema → Prop
  | intro {name : String} {scopedName : ScopedName} {description : Option String}
      {purpose : Purpose} {nullable : Bool} {kind kind' : SchemaKind} {nested nested' : List Schema}
      (kinds : kind.MembersNamed nested kind') (below : AllMembersNamed nested nested') :
      MembersNamed ⟨name, scopedName, description, purpose, nullable, kind, nested⟩
        ⟨name, scopedName, description, purpose, nullable, kind', nested'⟩

inductive AllMembersNamed : List Schema → List Schema → Prop
  | nil : AllMembersNamed [] []
  | cons {s s' : Schema} {rest rest' : List Schema} (first : MembersNamed s s')
      (others : AllMembersNamed rest rest') : AllMembersNamed (s :: rest) (s' :: rest')

end

lemma allMembersNamed_iff {forest forest' : List Schema} :
    AllMembersNamed forest forest' ↔ List.Forall₂ MembersNamed forest forest' := by
  constructor
  · intro h
    induction forest generalizing forest' with
    | nil => cases h; exact .nil
    | cons s rest ih =>
      cases h with
      | cons first others => exact .cons first (ih others)
  · intro h
    induction h with
    | nil => exact .nil
    | cons first _ ih => exact .cons first ih

lemma matching_membersNamed : Matching MembersNamed where
  name h := by cases h; rfl
  nested h := by cases h with | intro _ below => exact allMembersNamed_iff.mp below

lemma AllMembersNamed.map_name {α : Type} (f : String → α) {forest forest' : List Schema}
    (h : AllMembersNamed forest forest') :
    (forest'.map fun s => f s.name) = forest.map fun s => f s.name := by
  induction forest generalizing forest' with
  | nil => cases h; rfl
  | cons s rest ih =>
    cases h with
    | cons first others => simp [matching_membersNamed.name first, ih others]

end Schema

lemma Member.named_of_name {n : String} {t : TypeUsage} : Member.Named ⟨some n, t⟩ ⟨some n, t⟩ :=
  ⟨rfl, by simp, fun _ h => h⟩

/-- Members are named in a scope that grows: a given name is apart from the scope before it, and so
from the names given before it. -/
theorem nameMembers_spec {package : Option String} {context : String} {scope : Scope}
    {before after : List Member} (h : nameMembers package context scope before = .ok after) :
    List.Forall₂ Member.Named before after ∧
      (∀ i n, GivenName before after i n → (forms n).Disjoint scope) ∧
      ∀ i j n m, GivenName before after i n → GivenName before after j m → i < j →
        (forms n).Disjoint (forms m) := by
  induction before generalizing scope after with
  | nil =>
    simp only [nameMembers, Except.ok.injEq] at h
    subst h
    refine ⟨.nil, ?_, ?_⟩ <;> simp [GivenName]
  | cons member rest ih =>
    obtain ⟨name, type⟩ := member
    cases name with
    | some name =>
      simp only [nameMembers, Outcome.bind_eq_ok, Outcome.pure_eq_ok] at h
      obtain ⟨after, hrest, rfl⟩ := h
      obtain ⟨hnamed, hscope, hapart⟩ := ih hrest
      refine ⟨.cons Member.named_of_name hnamed, ?_, ?_⟩
      · rintro (_ | i) n hi
        · simp [GivenName] at hi
        · exact hscope i n hi
      · rintro (_ | i) (_ | j) n m hi hj hij
        · omega
        · simp [GivenName] at hi
        · omega
        · exact hapart i j n m hi hj (by omega)
    | none =>
      simp only [nameMembers, Outcome.bind_eq_ok, Outcome.pure_eq_ok] at h
      obtain ⟨swiftType, -, after, hrest, rfl⟩ := h
      obtain ⟨hnamed, hscope, hapart⟩ := ih hrest
      have hnew := Naming.forms_uniqueName_disjoint swiftType.suggestedName type.classification
        type.purpose scope
      rw [Naming.uniqueName_scope] at hscope
      generalize (Naming.uniqueName swiftType.suggestedName type.classification type.purpose
        scope).1 = given at hscope hnew ⊢
      have htaken : ∀ i n, GivenName rest after i n →
          (forms n).Disjoint (forms given) ∧ (forms n).Disjoint scope := by
        intro i n hi
        have hdisjoint := hscope i n hi
        refine ⟨fun x hx hg => hdisjoint hx ?_, fun x hx hs => hdisjoint hx ?_⟩
        · exact Naming.mem_take_forms.mpr (Or.inl hg)
        · exact Naming.mem_take_forms.mpr (Or.inr hs)
      refine ⟨.cons ⟨rfl, by simp, by simp⟩ hnamed, ?_, ?_⟩
      · rintro (_ | i) n hi
        · obtain rfl : given = n := by simpa [GivenName] using hi
          exact hnew
        · exact (htaken i n hi).2
      · rintro (_ | i) (_ | j) n m hi hj hij
        · omega
        · obtain rfl : given = n := by simpa [GivenName] using hi
          exact (htaken j m hj).1.symm
        · omega
        · exact hapart i j n m hi hj (by omega)

lemma mem_takenNames {nested : List Schema} {members : List Member} {x : String} :
    x ∈ takenNames nested members ↔
      x ∈ nested.map (fun s => className s.name) ∨
        ∃ n, (∃ m ∈ members, m.name = some n) ∧ x ∈ forms n := by
  simp only [takenNames, Naming.Scope.mem_ofList, List.mem_append, List.mem_flatMap,
    List.mem_filterMap, forms, List.mem_cons, List.not_mem_nil, or_false]
  constructor <;> rintro (h | ⟨n, hn, hx⟩)
  · exact Or.inl h
  · exact Or.inr ⟨n, hn, hx.symm⟩
  · exact Or.inl h
  · exact Or.inr ⟨n, hn, hx.symm⟩

lemma Member.named_explicit {before after : List Member}
    (h : List.Forall₂ Member.Named before after) {j : ℕ} {m : String}
    (hm : after[j]?.map (·.name) = some (some m)) :
    GivenName before after j m ∨ ∃ b ∈ before, b.name = some m := by
  induction h generalizing j with
  | nil => simp at hm
  | @cons b a before after hba _ ih =>
    cases j with
    | zero =>
      obtain ham : a.name = some m := by simpa using hm
      cases hb : b.name with
      | none => exact Or.inl (by simp [GivenName, hb, ham])
      | some n =>
        have hn := hba.kept n hb
        rw [ham, Option.some.injEq] at hn
        exact Or.inr ⟨b, by simp, by rw [hb, hn]⟩
    | succ j =>
      rcases ih (by simpa using hm) with hgiven | ⟨c, hc, hcm⟩
      · exact Or.inl hgiven
      · exact Or.inr ⟨c, List.mem_cons_of_mem b hc, hcm⟩

theorem newNames_of_nameMembers {package : Option String} {context : String}
    {nested : List Schema} {before after : List Member}
    (h : nameMembers package context (takenNames nested before) before = .ok after) :
    List.Forall₂ Member.Named before after ∧ NewNames nested before after := by
  obtain ⟨hnamed, hscope, hapart⟩ := nameMembers_spec h
  refine ⟨hnamed, ?_, ?_⟩
  · intro i n hi x hx hclass
    exact hscope i n hi hx (mem_takenNames.mpr (Or.inl hclass))
  · intro i j n m hi hij hm
    rcases Member.named_explicit hnamed hm with hj | hexplicit
    · rcases Nat.lt_or_gt_of_ne hij with hlt | hlt
      · exact hapart i j n m hi hj hlt
      · exact (hapart j i m n hj hi hlt).symm
    · intro x hx hxm
      exact hscope i n hi hx (mem_takenNames.mpr (Or.inr ⟨m, hexplicit, hxm⟩))

lemma SchemaKind.nameMembers_spec {package : Option String} {context : String}
    {nested nested' : List Schema} {kind kind' : SchemaKind}
    (hnames : (nested'.map fun s => className s.name) = nested.map fun s => className s.name)
    (h : kind.nameMembers package context nested' = .ok kind') :
    kind.MembersNamed nested kind' := by
  cases kind with
  | oneOf o =>
    simp only [nameMembers, Outcome.bind_eq_ok, Outcome.pure_eq_ok] at h
    obtain ⟨after, hafter, rfl⟩ := h
    obtain ⟨hnamed, hnew⟩ := newNames_of_nameMembers hafter
    exact .oneOf hnamed ⟨fun i n hi => hnames ▸ hnew.nested i n hi, hnew.members⟩
  | _ =>
    simp only [nameMembers, Except.ok.injEq] at h
    subst h
    exact .other (by simp)

namespace Schema

lemma nameAllMembers_eq_ok {package : Option String} {forest forest' : List Schema} :
    nameAllMembers package forest = .ok forest' ↔
      List.Forall₂ (fun s s' => s.nameMembers package = .ok s') forest forest' := by
  induction forest generalizing forest' with
  | nil =>
    rw [nameAllMembers, Except.ok.injEq, List.forall₂_nil_left_iff]
    exact eq_comm
  | cons s rest ih =>
    simp only [nameAllMembers, Outcome.bind_eq_ok, Outcome.pure_eq_ok, List.forall₂_cons_left_iff,
      ih]
    constructor
    · rintro ⟨s', hs, rest', hrest, rfl⟩
      exact ⟨s', rest', hs, hrest, rfl⟩
    · rintro ⟨s', rest', hs, hrest, rfl⟩
      exact ⟨s', hs, rest', hrest, rfl⟩

lemma nameMembers_eq_ok {package : Option String} {s s' : Schema} :
    s.nameMembers package = .ok s' ↔
      ∃ nested kind, nameAllMembers package s.nested = .ok nested ∧
        s.kind.nameMembers package s.scopedName.dotted nested = .ok kind ∧
          s' = { s with kind, nested } := by
  obtain ⟨name, scopedName, description, purpose, nullable, kind, nested⟩ := s
  simp only [nameMembers, Outcome.bind_eq_ok, Outcome.pure_eq_ok]
  constructor
  · rintro ⟨nested', hnested, kind', hkind, rfl⟩
    exact ⟨nested', kind', hnested, hkind, rfl⟩
  · rintro ⟨nested', kind', hnested, hkind, rfl⟩
    exact ⟨nested', hnested, kind', hkind, rfl⟩

/-- Named schemas stand where the schemas stand that they are made of. -/
lemma matching_nameMembers (package : Option String) :
    Matching fun s s' => s.nameMembers package = .ok s' where
  name h := by
    obtain ⟨nested, kind, -, -, rfl⟩ := nameMembers_eq_ok.mp h
    rfl
  nested h := by
    obtain ⟨nested, kind, hnested, -, rfl⟩ := nameMembers_eq_ok.mp h
    exact nameAllMembers_eq_ok.mp hnested

mutual

theorem membersNamed_of_nameMembers {package : Option String} :
    ∀ {s s' : Schema}, s.nameMembers package = .ok s' → MembersNamed s s'
  | ⟨name, scopedName, description, purpose, nullable, kind, nested⟩, s', h => by
    simp only [nameMembers, Outcome.bind_eq_ok, Outcome.pure_eq_ok] at h
    obtain ⟨nested', hnested, kind', hkind, rfl⟩ := h
    have hbelow := allMembersNamed_of_nameAllMembers hnested
    exact .intro (SchemaKind.nameMembers_spec (hbelow.map_name className) hkind) hbelow

theorem allMembersNamed_of_nameAllMembers {package : Option String} :
    ∀ {forest forest' : List Schema},
      nameAllMembers package forest = .ok forest' → AllMembersNamed forest forest'
  | [], _, h => by
    simp only [nameAllMembers, Except.ok.injEq] at h
    subst h
    exact .nil
  | s :: rest, _, h => by
    simp only [nameAllMembers, Outcome.bind_eq_ok, Outcome.pure_eq_ok] at h
    obtain ⟨s', hs, rest', hrest, rfl⟩ := h
    exact .cons (membersNamed_of_nameMembers hs) (allMembersNamed_of_nameAllMembers hrest)

end

lemma MembersNamed.kinds {s s' : Schema} (h : MembersNamed s s') :
    s.kind.MembersNamed s.nested s'.kind := by
  cases h with
  | intro kinds _ => exact kinds

/-- Naming the members of a schema changes nothing but the members without a name, and the names
that these get are new at every depth. -/
theorem nameMembers_new_names {package : Option String} {s s' : Schema}
    (h : s.nameMembers package = .ok s') :
    s.MembersNamed s' ∧
      List.Forall₂ (fun t t' => t.kind.MembersNamed t.nested t'.kind) s.flatten s'.flatten := by
  have hs := membersNamed_of_nameMembers h
  exact ⟨hs, (matching_membersNamed.flatten hs).imp fun _ _ ht => ht.kinds⟩

/-- A choice of texts, beside a nested choice of the name String. One member has a name. -/
def textChoice (first third inner : Option String) : Schema where
  name := "Choice"
  scopedName := ["Choice"]
  kind := .oneOf ⟨[⟨first, .scalar .string none⟩, ⟨some "string1", .scalar .string "email"⟩,
    ⟨third, .arrayOf (.scalar .string none)⟩], none⟩
  nested := [{
    name := "String"
    scopedName := ["Choice", "String"]
    kind := .oneOf ⟨[⟨inner, .scalar .integer none⟩], none⟩ }]

set_option maxRecDepth 4000 in
theorem nameMembers_new_names_textChoice :
    let s := textChoice none none none
    let s' := textChoice "String2" "StringArray" "Int"
    s.nameMembers (some "Api") = .ok s' ∧ s.MembersNamed s' ∧
      List.Forall₂ (fun t t' => t.kind.MembersNamed t.nested t'.kind) s.flatten s'.flatten := by
  intro s s'
  have h : s.nameMembers (some "Api") = .ok s' := rfl
  exact ⟨h, nameMembers_new_names h⟩

end Schema

end SwiftClient
