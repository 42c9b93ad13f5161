import SwiftClient.Proofs.Naming.ClassName
import SwiftClient.Proofs.Resolution.Inheritance
import SwiftClient.Proofs.Resolution.References
import SwiftClient.Proofs.Resolution.Typing

/-!
# Types told apart by their expressions

The expression of a type is composed of names and marks. Where no name has a mark in it, each
expression is that of one type only, however deep its arrays and dictionaries go, and that of a type
where it is used tells whether it is nullable and required. So properties are compatible when they
are declared with one expression.
-/
namespace SwiftClient

namespace SwiftType

/-- The characters that expressions are composed with. -/
def marks : List Char := ['[', ']', ':', ' ', '<', '>', '?']

def Unmarked (name : String) : Prop := ∀ c ∈ marks, c ∉ name.toList

instance (name : String) : Decidable (Unmarked name) :=
  List.decidableBAll (fun c => c ∉ name.toList) marks

/-- Types made of names without marks. -/
inductive Composed : SwiftType → Prop
  | named {name : String} (h : Unmarked name) : Composed (.named name)
  | array {c : SwiftType} (hc : Composed c) : Composed (.array c)
  | dictionary {k v : SwiftType} (hk : Composed k) (hv : Composed v) : Composed (.dictionary k v)

/-- What can come after an expression that stands within another. -/
def Ends (rest : List Char) : Prop := ∀ c ∈ rest.head?, c = ']' ∨ c = ' ' ∨ c = '>' ∨ c = '?'

lemma ends_nil : Ends [] := nofun

lemma ends_cons {c : Char} (h : c = ']' ∨ c = ' ' ∨ c = '>' ∨ c = '?') (rest : List Char) :
    Ends (c :: rest) := by
  rintro d hd
  obtain rfl : c = d := by simpa using hd
  exact h

lemma Ends.head_mem_marks {c : Char} {rest : List Char} (h : Ends (c :: rest)) : c ∈ marks := by
  rcases h c rfl with rfl | rfl | rfl | rfl <;> decide

lemma toList_array (c : SwiftType) :
    (array c).expression.toList = '[' :: c.expression.toList ++ [']'] := by
  simp [expression]

lemma toList_dictionary (k v : SwiftType) :
    (dictionary k v).expression.toList =
      '[' :: k.expression.toList ++ ' ' :: ':' :: ' ' :: v.expression.toList ++ [']'] := by
  simp [expression]

/-- Texts without marks end where a mark comes. -/
lemma append_inj_of_unmarked {e f r s : List Char} (he : ∀ c ∈ marks, c ∉ e)
    (hf : ∀ c ∈ marks, c ∉ f) (hr : Ends r) (hs : Ends s) (h : e ++ r = f ++ s) :
    e = f ∧ r = s := by
  induction e generalizing f with
  | nil =>
    cases f with
    | nil => exact ⟨rfl, h⟩
    | cons d f =>
      rw [List.nil_append] at h
      subst h
      exact absurd List.mem_cons_self (hf d hr.head_mem_marks)
  | cons c e ih =>
    cases f with
    | nil =>
      rw [List.nil_append] at h
      subst h
      exact absurd List.mem_cons_self (he c hs.head_mem_marks)
    | cons d f =>
      obtain ⟨rfl, htail⟩ := List.cons.inj h
      obtain ⟨rfl, rfl⟩ := ih (fun m hm hmem => he m hm (List.mem_cons_of_mem c hmem))
        (fun m hm hmem => hf m hm (List.mem_cons_of_mem c hmem)) htail
      exact ⟨rfl, rfl⟩

lemma unmarked_append_ne_bracket {name : String} (h : Unmarked name) {r : List Char} (hr : Ends r)
    (cs : List Char) : name.toList ++ r ≠ '[' :: cs := by
  intro heq
  rcases hname : name.toList with _ | ⟨c, rest⟩
  · rw [hname, List.nil_append] at heq
    subst heq
    rcases hr '[' rfl with h | h | h | h <;> cases h
  · rw [hname, List.cons_append] at heq
    have hc := h '[' (by decide)
    rw [hname, ← (List.cons.inj heq).1] at hc
    exact hc List.mem_cons_self

/-- An expression shows the type and where it ends. -/
theorem expression_append_inj {t u : SwiftType} (ht : t.Composed) (hu : u.Composed)
    {r s : List Char} (hr : Ends r) (hs : Ends s)
    (h : t.expression.toList ++ r = u.expression.toList ++ s) : t = u ∧ r = s := by
  induction ht generalizing u r s with
  | named ht =>
    cases hu with
    | named hu =>
      obtain ⟨hname, rfl⟩ := append_inj_of_unmarked ht hu hr hs h
      exact ⟨congrArg named (String.toList_injective hname), rfl⟩
    | array =>
      exact absurd (h.trans (by rw [toList_array]; rfl)) (unmarked_append_ne_bracket ht hr _)
    | dictionary =>
      exact absurd (h.trans (by rw [toList_dictionary]; rfl)) (unmarked_append_ne_bracket ht hr _)
  | @array c hc ih =>
    rw [toList_array, List.append_assoc, List.cons_append] at h
    cases hu with
    | named hu => exact absurd h.symm (unmarked_append_ne_bracket hu hs _)
    | array hd =>
      rw [toList_array, List.append_assoc, List.cons_append] at h
      obtain ⟨rfl, hrest⟩ := ih hd (ends_cons (by simp) r) (ends_cons (by simp) s)
        (List.cons.inj h).2
      exact ⟨rfl, (List.cons.inj hrest).2⟩
    | dictionary hk _ =>
      simp only [toList_dictionary, List.append_assoc, List.cons_append] at h
      obtain ⟨-, hrest⟩ := ih hk (ends_cons (by simp) r) (ends_cons (by simp) _)
        (List.cons.inj h).2
      cases (List.cons.inj hrest).1
  | @dictionary k v hk hv ihk ihv =>
    simp only [toList_dictionary, List.append_assoc, List.cons_append] at h
    cases hu with
    | named hu => exact absurd h.symm (unmarked_append_ne_bracket hu hs _)
    | array hd =>
      rw [toList_array, List.append_assoc, List.cons_append] at h
      obtain ⟨-, hrest⟩ := ihk hd (ends_cons (by simp) _) (ends_cons (by simp) s)
        (List.cons.inj h).2
      cases (List.cons.inj hrest).1
    | dictionary hk' hv' =>
      simp only [toList_dictionary, List.append_assoc, List.cons_append] at h
      obtain ⟨rfl, hvalue⟩ := ihk hk' (ends_cons (by simp) _) (ends_cons (by simp) _)
        (List.cons.inj h).2
      simp only [List.cons.injEq, true_and] at hvalue
      obtain ⟨rfl, hrest⟩ := ihv hv' (ends_cons (by simp) r) (ends_cons (by simp) s) hvalue
      exact ⟨rfl, (List.cons.inj hrest).2⟩

lemma angle_not_mem_expression {t : SwiftType} (h : t.Composed) : '<' ∉ t.expression.toList := by
  induction h with
  | named h => exact h '<' (by decide)
  | array _ ih => simpa [toList_array] using ih
  | dictionary _ _ ihk ihv => simpa [toList_dictionary] using ⟨ihk, ihv⟩

end SwiftType

open SwiftType

namespace SwiftUsage

def optionalMark (required : Bool) : List Char := if required then [] else ['?']

lemma ends_optionalMark (required : Bool) : Ends (optionalMark required) := by
  cases required with
  | false => exact ends_cons (by simp) []
  | true => exact ends_nil

lemma optionalMark_injective : Function.Injective optionalMark := by
  rintro (_ | _) (_ | _) h <;> first | rfl | cases h

lemma toList_nullable (t : SwiftType) (required : Bool) :
    (SwiftUsage.mk t true required).expression.toList =
      "Nullable<".toList ++ (t.expression.toList ++ '>' :: optionalMark required) := by
  cases required <;> simp [expression, wrapNullable, wrapOptional, optionalMark]

lemma toList_present (t : SwiftType) (required : Bool) :
    (SwiftUsage.mk t false required).expression.toList =
      t.expression.toList ++ optionalMark required := by
  cases required <;> simp [expression, wrapNullable, wrapOptional, optionalMark]

lemma nullable_ne_present {t u : SwiftType} (hu : u.Composed) (required required' : Bool) :
    (SwiftUsage.mk t true required).expression ≠ (SwiftUsage.mk u false required').expression := by
  intro h
  have hlist := congrArg String.toList h
  rw [toList_nullable, toList_present] at hlist
  have hmem : '<' ∈ u.expression.toList ++ optionalMark required' := by
    rw [← hlist]
    simp
  rcases List.mem_append.mp hmem with hmem | hmem
  · exact angle_not_mem_expression hu hmem
  · cases required' <;> simp [optionalMark] at hmem

theorem expression_inj {u v : SwiftUsage} (hu : u.type.Composed) (hv : v.type.Composed)
    (h : u.expression = v.expression) : u = v := by
  obtain ⟨t, nullable, required⟩ := u
  obtain ⟨t', nullable', required'⟩ := v
  have hlist := congrArg String.toList h
  rcases nullable with _ | _ <;> rcases nullable' with _ | _
  · rw [toList_present, toList_present] at hlist
    obtain ⟨rfl, hmark⟩ := expression_append_inj hu hv (ends_optionalMark _) (ends_optionalMark _)
      hlist
    rw [optionalMark_injective hmark]
  · exact absurd h.symm (nullable_ne_present hu _ _)
  · exact absurd h (nullable_ne_present hv _ _)
  · rw [toList_nullable, toList_nullable] at hlist
    obtain ⟨rfl, hmark⟩ := expression_append_inj hu hv (ends_cons (by simp) _)
      (ends_cons (by simp) _) (List.append_cancel_left hlist)
    rw [optionalMark_injective (List.cons.inj hmark).2]

end SwiftUsage

lemma Classification.composed_swiftType {c : Classification} {format : Option String}
    {type : SwiftType} (h : c.swiftType format = .ok type) : type.Composed := by
  unfold swiftType at h
  split at h <;> cases h <;> exact .named (by decide)

lemma Naming.unmarked_className (name : String) : Unmarked (className name) := by
  have hmarks : marks.all fun c => decide
      (Unmade c.toNat ∧ c.toNat ≠ 0 ∧ Text.isAlphanumeric c = false ∧ c ≠ '_') := by
    decide +kernel
  intro c hc
  obtain ⟨hunmade, hzero, hletter, hunderscore⟩ :=
    of_decide_eq_true (List.all_eq_true.mp hmarks c hc)
  exact not_mem_className_of_unmade hunmade hzero hletter hunderscore name

lemma unmarked_intercalate {names : List String} (h : ∀ name ∈ names, Unmarked name) :
    Unmarked (String.intercalate "." names) := by
  induction names with
  | nil => decide
  | cons name rest ih =>
    rw [List.forall_mem_cons] at h
    rcases rest with _ | ⟨next, rest⟩
    · simpa using h.1
    · intro c hc
      have hpoint : c ≠ '.' := by
        rintro rfl
        exact absurd hc (by decide)
      rw [String.intercalate_cons_cons, String.toList_append, String.toList_append,
        List.mem_append, List.mem_append, not_or, not_or]
      exact ⟨⟨h.1 c hc, by simpa using hpoint⟩, ih h.2 c hc⟩

lemma ScopedName.composed_swiftType {package : Option String}
    (hpackage : ∀ name ∈ package, Unmarked name) (name : ScopedName) :
    (name.swiftType package).Composed := by
  refine .named (unmarked_intercalate fun part hpart => ?_)
  rcases List.mem_append.mp hpart with hpart | hpart
  · rw [Option.mem_toList, Option.filter_eq_some_iff] at hpart
    exact hpackage part hpart.1
  · obtain ⟨segment, -, rfl⟩ := List.mem_map.mp hpart
    exact Naming.unmarked_className segment

theorem TypeUsage.Typed.composed {package : Option String}
    (hpackage : ∀ name ∈ package, Unmarked name) {t : TypeUsage} {type : SwiftType}
    (h : t.Typed package type) : type.Composed := by
  induction h with
  | array _ _ _ ih => exact .array ih
  | map _ _ _ _ _ _ ihk ihc => exact .dictionary ihk ihc
  | @named _ name _ _ => exact name.composed_swiftType hpackage
  | primitive _ scalar => exact Classification.composed_swiftType scalar

/-- In a package without marks in its name, types of usages are told apart by their expressions,
and properties by those that they are declared with. -/
theorem TypeUsage.told_apart_by_expressions {package : Option String}
    (hpackage : ∀ name ∈ package, Unmarked name) :
    (∀ (t u : TypeUsage) (context context' : String) (type type' : SwiftType),
      t.swiftType package context = .ok type → u.swiftType package context' = .ok type' →
        (type.expression = type'.expression → type = type') ∧
          ∀ nullable required nullable' required',
            (SwiftUsage.mk type nullable required).expression =
                (SwiftUsage.mk type' nullable' required').expression →
              type = type' ∧ nullable = nullable' ∧ required = required') ∧
      ∀ (r : Resolution), r.package = package → ∀ (context context' : String) (p p' : Property)
        (q q' : Resolved.Property), (r.property context p).result = .ok q →
          (r.property context' p').result = .ok q' →
            (q.compatible q' ↔ q.usage.expression = q'.usage.expression) := by
  have hcomposed : ∀ {t : TypeUsage} {context type}, t.swiftType package context = .ok type →
      type.Composed := fun h => (typed_of_swiftType h).composed hpackage
  refine ⟨fun t u context context' type type' ht hu => ⟨fun h => ?_, ?_⟩, ?_⟩
  · have hlist := congrArg (fun e => e.toList ++ []) h
    exact (expression_append_inj (hcomposed ht) (hcomposed hu) ends_nil ends_nil hlist).1
  · intro nullable required nullable' required' h
    simpa using SwiftUsage.expression_inj (hcomposed ht) (hcomposed hu) h
  · rintro r rfl context context' p p' q q' hq hq'
    obtain ⟨_, htype⟩ := Resolution.types_of_property hq
    obtain ⟨_, htype'⟩ := Resolution.types_of_property hq'
    rw [Resolved.Property.compatible_iff]
    constructor
    · rintro ⟨htypes, hnullable, hrequired⟩
      simp only [Resolved.Property.usage, SwiftUsage.expression, htypes, hnullable, hrequired]
    · intro h
      have husage : q.usage = q'.usage :=
        SwiftUsage.expression_inj (hcomposed htype) (hcomposed htype') h
      simp only [Resolved.Property.usage, SwiftUsage.mk.injEq] at husage
      obtain ⟨htypes, hnullable, hrequired⟩ := husage
      exact ⟨congrArg SwiftType.expression htypes, hnullable, hrequired⟩

/-- Shops by name. -/
def petShops : TypeUsage := .mapOf (.scalar .string none) (.arrayOf (.named .object ["pet shop"]))

/-- The same type from another usage. -/
def petShopsByMail : TypeUsage :=
  .mapOf (.scalar .string (some "email")) (.arrayOf (.named .interface ["PetShop"]))

/-- A resolution in which nothing has to be found. -/
def inApi : Resolution := ⟨.titled "Pets" "1", some "Api", .constant⟩

theorem TypeUsage.told_apart_by_expressions_petShops :
    (∀ name ∈ inApi.package, Unmarked name) ∧
      (∃ type type', petShops.swiftType inApi.package "Town.shops" = .ok type ∧
        petShopsByMail.swiftType inApi.package "Mail.shops" = .ok type' ∧
          (type.expression = type'.expression → type = type')) ∧
      ∃ q q', (inApi.property "Town" { name := "shops", type := petShops }).result = .ok q ∧
        (inApi.property "Mail" { name := "shops", type := petShopsByMail }).result = .ok q' ∧
          (q.compatible q' ↔ q.usage.expression = q'.usage.expression) := by
  have hpackage : ∀ name ∈ inApi.package, Unmarked name := by
    rintro _ ⟨⟩
    decide
  obtain ⟨htypes, hproperties⟩ := told_apart_by_expressions hpackage
  obtain ⟨type, hshops⟩ : ∃ type, petShops.swiftType inApi.package "Town.shops" = .ok type := by
    decide +kernel
  obtain ⟨type', hmail⟩ :
      ∃ type', petShopsByMail.swiftType inApi.package "Mail.shops" = .ok type' := by
    decide +kernel
  obtain ⟨q, hq⟩ :
      ∃ q, (inApi.property "Town" { name := "shops", type := petShops }).result = .ok q := by
    decide +kernel
  obtain ⟨q', hq'⟩ :
      ∃ q', (inApi.property "Mail" { name := "shops", type := petShopsByMail }).result =
        .ok q' := by
    decide +kernel
  exact ⟨hpackage, ⟨type, type', hshops, hmail, (htypes _ _ _ _ _ _ hshops hmail).1⟩,
    q, q', hq, hq', hproperties inApi rfl _ _ _ _ _ _ hq hq'⟩

end SwiftClient
