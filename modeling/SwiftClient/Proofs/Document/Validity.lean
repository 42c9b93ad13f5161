import Mathlib.Data.List.Nodup
import SwiftClient.Document.Validation

/-!
# What valid documents have

A document without defects has all parts of its type usages, at every depth, and its schemas refer
to schemas that can be found. Each list of defects is empty exactly when what it looks for is
there.
-/
namespace SwiftClient

lemma Classification.isCollection_eq_false {c : Classification} (h : c.isNamed ∨ c.isPrimitive) :
    c.isCollection = false := by
  revert h
  cases c <;> decide

/-- Collections have their parts, and named usages are of schemas that can be found. -/
inductive TypeUsage.WellFormed (d : Document) : TypeUsage → Prop
  | array {t c : TypeUsage} (kind : t.classification = .array) (component : t.component = some c)
      (inside : WellFormed d c) : WellFormed d t
  | map {t k c : TypeUsage} (kind : t.classification = .map) (component : t.component = some c)
      (key : t.key = some k) (keyInside : WellFormed d k) (inside : WellFormed d c) :
      WellFormed d t
  | named {t : TypeUsage} {name : ScopedName} (kind : t.classification.isNamed)
      (scopedName : t.scopedName = some name) (found : d.has name) : WellFormed d t
  | primitive {t : TypeUsage} (kind : t.classification.isPrimitive) : WellFormed d t

namespace TypeUsage

variable {d : Document} {t : TypeUsage}

lemma wellFormed_array_iff (h : t.classification = .array) :
    t.WellFormed d ↔ ∃ c, t.component = some c ∧ c.WellFormed d := by
  constructor
  · intro ht
    cases ht with
    | array _ component inside => exact ⟨_, component, inside⟩
    | map kind | named kind | primitive kind => rw [h] at kind; cases kind
  · rintro ⟨c, component, inside⟩
    exact .array h component inside

lemma wellFormed_map_iff (h : t.classification = .map) :
    t.WellFormed d ↔ (∃ k, t.key = some k ∧ k.WellFormed d) ∧
      ∃ c, t.component = some c ∧ c.WellFormed d := by
  constructor
  · intro ht
    cases ht with
    | map _ component key keyInside inside => exact ⟨⟨_, key, keyInside⟩, _, component, inside⟩
    | array kind | named kind | primitive kind => rw [h] at kind; cases kind
  · rintro ⟨⟨k, key, keyInside⟩, c, component, inside⟩
    exact .map h component key keyInside inside

lemma wellFormed_named_iff (h : t.classification.isNamed) :
    t.WellFormed d ↔ ∃ name, t.scopedName = some name ∧ d.has name := by
  constructor
  · intro ht
    cases ht with
    | named _ scopedName found => exact ⟨_, scopedName, found⟩
    | array kind | map kind => rw [kind] at h; cases h
    | primitive kind => cases hc : t.classification <;> rw [hc] at h kind <;> cases h <;> cases kind
  · rintro ⟨name, scopedName, found⟩
    exact .named h scopedName found

end TypeUsage

/-- The schemas that a kind refers to can be found, enums have values, and the names of members
differ. -/
def SchemaKind.WellFormed (d : Document) : SchemaKind → Prop
  | .object o => ∀ name ∈ o.parent.toList ++ o.implements, d.has name
  | .enum e => e.values ≠ [] ∧ e.valueType.WellFormed d
  | .interface i => ∀ name ∈ i.parents, d.has name
  | .hierarchy h => ∀ name ∈ h.members ++ h.discriminator.mappings.map (·.scopedName), d.has name
  | .wrapper _ => True
  | .oneOf o => (o.members.filterMap (·.name)).Nodup ∧ ∀ m ∈ o.members, m.type.WellFormed d

structure Schema.WellFormed (d : Document) (s : Schema) : Prop where
  names : (s.properties.map (·.name)).Nodup
  types : ∀ p ∈ s.properties, p.type.WellFormed d
  kind : s.kind.WellFormed d

def Operation.usages (o : Operation) : List TypeUsage :=
  o.parameters.map (·.type) ++ o.requestBody.toList.map (·.type) ++ o.responses.filterMap (·.type)

structure OperationGroup.WellFormed (d : Document) (g : OperationGroup) : Prop where
  names : (g.operations.map (·.name)).Nodup
  types : ∀ o ∈ g.operations, ∀ t ∈ o.usages, t.WellFormed d

section Found

variable {d d' : Document}

lemma TypeUsage.WellFormed.mono (h : ∀ name, d.has name → d'.has name) {t : TypeUsage}
    (ht : t.WellFormed d) : t.WellFormed d' := by
  induction ht with
  | array kind component _ ih => exact .array kind component ih
  | map kind component key _ _ ihk ihc => exact .map kind component key ihk ihc
  | named kind scopedName found => exact .named kind scopedName (h _ found)
  | primitive kind => exact .primitive kind

lemma SchemaKind.WellFormed.mono (h : ∀ name, d.has name → d'.has name) {kind : SchemaKind}
    (hk : kind.WellFormed d) : kind.WellFormed d' := by
  cases kind with
  | object | interface | hierarchy => exact fun name hname => h name (hk name hname)
  | enum => exact ⟨hk.1, hk.2.mono h⟩
  | wrapper => trivial
  | oneOf => exact ⟨hk.1, fun m hm => (hk.2 m hm).mono h⟩

lemma Schema.WellFormed.mono (h : ∀ name, d.has name → d'.has name) {s : Schema}
    (hs : s.WellFormed d) : s.WellFormed d' :=
  ⟨hs.names, fun p hp => (hs.types p hp).mono h, hs.kind.mono h⟩

lemma OperationGroup.WellFormed.mono (h : ∀ name, d.has name → d'.has name) {g : OperationGroup}
    (hg : g.WellFormed d) : g.WellFormed d' :=
  ⟨hg.names, fun o ho t ht => (hg.types o ho t ht).mono h⟩

end Found

namespace Document

variable {d : Document}

lemma referenceDefects_eq_nil_iff {context : String} {name : ScopedName} :
    d.referenceDefects context name = [] ↔ d.has name := by
  unfold referenceDefects
  split_ifs with h <;> simp [h]

lemma flatMap_repeats_eq_nil_iff {α : Type} {name : α → Option String} {seen : List String}
    {items : List α} (twice : α → Defect) (own : α → List Defect) :
    ((repeats name seen items).flatMap fun (x, repeated) =>
        (if repeated then [twice x] else []) ++ own x) = [] ↔
      ((items.filterMap name).Nodup ∧ ∀ n ∈ items.filterMap name, n ∉ seen) ∧
        ∀ x ∈ items, own x = [] := by
  induction items generalizing seen with
  | nil => simp [repeats]
  | cons x rest ih =>
    cases hx : name x with
    | none =>
      simp only [repeats, hx, List.flatMap_cons, List.append_eq_nil_iff, ih,
        List.filterMap_cons_none hx, List.forall_mem_cons]
      simp only [Bool.false_eq_true, if_false, true_and]
      tauto
    | some n =>
      simp only [repeats, hx, List.flatMap_cons, List.append_eq_nil_iff, ih,
        List.filterMap_cons_some hx, List.nodup_cons, List.mem_cons, forall_eq_or_imp, not_or,
        decide_eq_true_eq, ite_eq_right_iff, reduceCtorEq, imp_false]
      constructor
      · rintro ⟨⟨hn, hown⟩, ⟨hnodup, hseen⟩, hrest⟩
        exact ⟨⟨⟨fun hmem => (hseen n hmem).1 rfl, hnodup⟩, hn, fun m hm => (hseen m hm).2⟩,
          hown, hrest⟩
      · rintro ⟨⟨⟨hfresh, hnodup⟩, hn, hseen⟩, hown, hrest⟩
        refine ⟨⟨hn, hown⟩, ⟨hnodup, fun m hm => ⟨?_, hseen m hm⟩⟩, hrest⟩
        rintro rfl
        exact hfresh hm

theorem usageDefects_eq_nil_iff {context : String} {t : TypeUsage} :
    d.usageDefects context t = [] ↔ t.WellFormed d := by
  fun_induction usageDefects d context t with
  | case1 _ _ _ _ _ _ ih => simp [ih, TypeUsage.wellFormed_array_iff]
  | case2 => simp [TypeUsage.wellFormed_array_iff]
  | case3 _ _ _ _ _ _ ihk ihc => simp [ihk, ihc, TypeUsage.wellFormed_map_iff]
  | case4 => simp [TypeUsage.wellFormed_map_iff]
  | case5 => simp [TypeUsage.wellFormed_map_iff]
  | case6 =>
    rw [TypeUsage.wellFormed_named_iff]
    · simp [referenceDefects_eq_nil_iff]
    · assumption
  | case7 =>
    rw [TypeUsage.wellFormed_named_iff]
    · simp
    · assumption
  | case8 c _ _ _ component key _ hsome hnone hboth hnoComponent hnoKey hnamed =>
    have harray : c ≠ .array := by
      rintro rfl
      cases component with
      | none => exact hnone rfl rfl
      | some component => exact hsome component rfl rfl
    have hmap : c ≠ .map := by
      rintro rfl
      cases component with
      | none => exact hnoComponent rfl rfl
      | some component =>
        cases key with
        | none => exact hnoKey component rfl rfl rfl
        | some key => exact hboth component key rfl rfl rfl
    refine iff_of_true rfl (.primitive ?_)
    cases c <;> simp_all [Classification.isNamed, Classification.isPrimitive]

theorem propertyDefects_eq_nil_iff {context : String} {properties : List Property} :
    d.propertyDefects context properties = [] ↔
      (properties.map (·.name)).Nodup ∧ ∀ p ∈ properties, p.type.WellFormed d := by
  refine (flatMap_repeats_eq_nil_iff
    (fun p : Property => .duplicate .property (context ++ "." ++ p.name))
    fun p => d.usageDefects (context ++ "." ++ p.name) p.type).trans ?_
  simp [usageDefects_eq_nil_iff]

theorem memberDefects_eq_nil_iff {context : String} {members : List Member} :
    d.memberDefects context members = [] ↔
      (members.filterMap (·.name)).Nodup ∧ ∀ m ∈ members, m.type.WellFormed d := by
  refine (flatMap_repeats_eq_nil_iff
    (fun m : Member => .duplicate .oneOfMember (context ++ "." ++ m.name.getD ""))
    fun m => d.usageDefects context m.type).trans ?_
  simp [usageDefects_eq_nil_iff]

theorem kindDefects_eq_nil_iff {name context : String} {kind : SchemaKind} :
    d.kindDefects name context kind = [] ↔ kind.WellFormed d := by
  cases kind with
  | object | interface | hierarchy =>
    simp [kindDefects, SchemaKind.WellFormed, referenceDefects_eq_nil_iff, or_imp, forall_and]
  | enum e =>
    simp [kindDefects, SchemaKind.WellFormed, usageDefects_eq_nil_iff]
  | wrapper => simp [kindDefects, SchemaKind.WellFormed]
  | oneOf o => exact memberDefects_eq_nil_iff

theorem schemaDefects_eq_nil_iff {s : Schema} : d.schemaDefects s = [] ↔ s.WellFormed d := by
  rw [schemaDefects, List.append_eq_nil_iff, propertyDefects_eq_nil_iff, kindDefects_eq_nil_iff]
  exact ⟨fun ⟨⟨names, types⟩, kind⟩ => ⟨names, types, kind⟩,
    fun ⟨names, types, kind⟩ => ⟨⟨names, types⟩, kind⟩⟩

theorem operationDefects_eq_nil_iff {g : OperationGroup} :
    d.operationDefects g = [] ↔ g.WellFormed d := by
  refine (flatMap_repeats_eq_nil_iff
    (fun o : Operation => .duplicate .operation (g.name ++ "." ++ o.name))
    fun o => o.usages.flatMap (d.usageDefects (g.name ++ "." ++ o.name))).trans ?_
  simp only [List.flatMap_eq_nil_iff, usageDefects_eq_nil_iff]
  constructor
  · rintro ⟨⟨names, -⟩, types⟩
    exact ⟨by simpa using names, types⟩
  · rintro ⟨names, types⟩
    exact ⟨⟨by simpa using names, by simp⟩, types⟩

lemma validate_eq_ok_iff : d.validate = .ok () ↔ d.defects = [] := by
  unfold validate
  cases d.defects <;> simp

/-- Validation accepts a document when the names of its schemas are consistent and all of its
schemas and operations are well formed. -/
theorem validate_eq_ok_iff_wellFormed :
    d.validate = .ok () ↔ siblingDefects [] d.schemas = [] ∧
      (∀ s ∈ d.allSchemas, s.WellFormed d) ∧ ∀ g ∈ d.groups, g.WellFormed d := by
  simp [validate_eq_ok_iff, defects, schemaDefects_eq_nil_iff, operationDefects_eq_nil_iff]

end Document

end SwiftClient
