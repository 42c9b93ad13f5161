import Mathlib.Logic.Relation
import Mathlib.Order.Bounds.Defs
import SwiftClient.Proofs.Naming.Unique

/-!
# The search for a unique name

A name that is asked for is tried as it is, and then with the numbers from one on, until it is free.
The search ends before its counter, a number of 32 bits, is at its end, and names that are found one
after the other in one scope are all different, and so are their identifiers.
-/
namespace SwiftClient.Naming

structure Request where
  suggested : String
  classification : Classification
  purpose : Purpose

namespace Request

def base (q : Request) : String :=
  className (suggestedSchemaName q.suggested q.classification q.purpose)

def answer (q : Request) (scope : Scope) : String × Scope :=
  uniqueName q.suggested q.classification q.purpose scope

end Request

/-- Where a search stands: the name that is tried, and the number that the next one would get. -/
structure Attempt where
  name : String
  counter : ℕ

/-- The greatest number that a counter holds. -/
def greatestCounter : ℕ := 2 ^ 31 - 1

namespace Scope

/-- A search goes on from a name that is not free, as long as the counter holds the next number. -/
inductive Tries (scope : Scope) (base : String) : Attempt → Attempt → Prop
  | next {name : String} {n : ℕ} (taken : scope.isFree name = false) (fits : n < greatestCounter) :
    Tries scope base ⟨name, n⟩ ⟨base ++ toString n, n + 1⟩

/-- What a name that is asked for has to be, and the scope after it. -/
structure Answers (scope : Scope) (q : Request) (name : String) (after : Scope) : Prop where
  search : ∃ counter, Relation.ReflTransGen (scope.Tries q.base) ⟨q.base, 1⟩ ⟨name, counter⟩
  ended : scope.isFree name = true
  unnumbered : q.base ∉ scope → identifier q.base ∉ scope → name = q.base
  numbered : q.base ∈ scope ∨ identifier q.base ∈ scope → ∃ k, name = q.base ++ toString k ∧
    IsLeast {k : ℕ | 1 ≤ k ∧ q.base ++ toString k ∉ scope ∧
      identifier (q.base ++ toString k) ∉ scope} k
  mem_after : ∀ x, x ∈ after ↔ x ∈ scope ∨ x = name ∨ x = identifier name

/-- Numbers that are taken are tried one after the other. -/
lemma tries_numbered {scope : Scope} {base : String} {k : ℕ}
    (htaken : ∀ n < k, scope.isFree (numbered base n) = false) (hk : k < greatestCounter) :
    Relation.ReflTransGen (scope.Tries base) ⟨base, 1⟩ ⟨numbered base k, k + 1⟩ := by
  induction k with
  | zero => exact .refl
  | succ k ih =>
    have hbefore := ih (fun n hn => htaken n (hn.trans k.lt_succ_self)) (by omega)
    exact hbefore.tail (.next (htaken k k.lt_succ_self) hk)

/-- The search finds the name with the smallest number that is free, or none if it can do
without. -/
theorem answers_of_card_lt {scope : Scope} (hscope : scope.toFinset.card < 2 ^ 29) (q : Request) :
    scope.Answers q (q.answer scope).1 (q.answer scope).2 := by
  obtain ⟨hfree, htaken⟩ := freeNumber_spec scope q.base
  have hbound := le_of_forall_taken htaken
  have hname : (q.answer scope).1 = Scope.numbered q.base (scope.freeNumber q.base) := rfl
  generalize scope.freeNumber q.base = k at hfree htaken hbound hname
  refine ⟨⟨k + 1, ?_⟩, by rwa [hname], fun hbase hidentifier => ?_, fun hbase => ?_, fun x => ?_⟩
  · rw [hname]
    exact tries_numbered htaken (by rw [greatestCounter]; omega)
  · obtain rfl : k = 0 := by
      by_contra hk
      have hzero := htaken 0 (Nat.pos_of_ne_zero hk)
      exact Bool.false_ne_true (hzero.symm.trans (isFree_iff.mpr ⟨hbase, hidentifier⟩))
    exact hname
  · cases k with
    | zero => exact absurd hbase (not_or.mpr (isFree_iff.mp hfree))
    | succ k =>
      refine ⟨k + 1, hname, ⟨k.succ_pos, isFree_iff.mp hfree⟩, fun n hn => ?_⟩
      obtain ⟨hpos, hnfree⟩ := hn
      by_contra hlt
      have hntaken := htaken n (not_le.mp hlt)
      obtain ⟨n, rfl⟩ := Nat.exists_eq_succ_of_ne_zero (Nat.one_le_iff_ne_zero.mp hpos)
      exact Bool.false_ne_true (hntaken.symm.trans (isFree_iff.mpr hnfree))
  · rw [Request.answer, uniqueName_scope, mem_take]
    tauto

end Scope

def uniqueNames : Scope → List Request → List String × Scope
  | scope, [] => ([], scope)
  | scope, q :: rest =>
    let (name, after) := q.answer scope
    let (names, last) := uniqueNames after rest
    (name :: names, last)

/-- Neither name is the other, or the identifier of the other, and the identifiers differ. -/
def Apart (a b : String) : Prop := List.Disjoint (forms a) (forms b)

lemma forms_uniqueNames_disjoint (requests : List Request) (scope : Scope) :
    ∀ name ∈ (uniqueNames scope requests).1, List.Disjoint (forms name) scope := by
  induction requests generalizing scope with
  | nil => simp [uniqueNames]
  | cons q rest ih =>
    rw [uniqueNames, List.forall_mem_cons]
    refine ⟨forms_uniqueName_disjoint _ _ _ scope, fun name hname x hx hscope => ?_⟩
    have hafter : x ∈ (q.answer scope).2 := mem_take_forms.mpr (Or.inr hscope)
    exact ih _ name hname hx hafter

lemma pairwise_apart_uniqueNames (requests : List Request) (scope : Scope) :
    (uniqueNames scope requests).1.Pairwise Apart := by
  induction requests generalizing scope with
  | nil => exact .nil
  | cons q rest ih =>
    rw [uniqueNames, List.pairwise_cons]
    refine ⟨fun name hname x hx hx' => ?_, ih _⟩
    have hafter : x ∈ (q.answer scope).2 := mem_take_forms.mpr (Or.inl hx)
    exact forms_uniqueNames_disjoint rest _ name hname hx' hafter

/-- A search ends with the first free name and takes it, and so names found in one scope are all
apart from each other. -/
theorem search_answers_apart {scope : Scope} (hscope : scope.toFinset.card < 2 ^ 29) :
    (∀ q : Request, scope.Answers q (q.answer scope).1 (q.answer scope).2) ∧
      ∀ requests : List Request, (uniqueNames scope requests).1.Pairwise Apart :=
  ⟨fun q => Scope.answers_of_card_lt hscope q, fun requests =>
    pairwise_apart_uniqueNames requests scope⟩

/-- The name with the number one is free, but its identifier is not. -/
def catsInScope : Scope := ["Cat", "cat1"]

theorem search_answers_apart_cats :
    catsInScope.toFinset.card < 2 ^ 29 ∧
      (∀ q : Request, catsInScope.Answers q (q.answer catsInScope).1 (q.answer catsInScope).2) ∧
      (uniqueNames catsInScope [⟨"cat", .object, .model⟩, ⟨"cat", .object, .implementation⟩,
        ⟨"CAT", .enum, .interface⟩, ⟨"", .oneOf, .unknown⟩]).1.Pairwise Apart := by
  have hscope : catsInScope.toFinset.card < 2 ^ 29 := by decide
  exact ⟨hscope, (search_answers_apart hscope).1, (search_answers_apart hscope).2 _⟩

example : (uniqueNames catsInScope [⟨"cat", .object, .model⟩, ⟨"cat", .object, .implementation⟩,
    ⟨"CAT", .enum, .interface⟩, ⟨"", .oneOf, .unknown⟩]).1 = ["Cat2", "CatImpl", "CAT", "_"] := by
  decide +kernel

end SwiftClient.Naming
