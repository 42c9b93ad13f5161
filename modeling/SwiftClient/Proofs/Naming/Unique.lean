import SwiftClient.Proofs.Naming.Numbered

/-!
# Free names

Among the names with the numbers up to twice the size of a scope one is always free, so a unique
name differs from every name in its scope, and so does its identifier.
-/
namespace SwiftClient.Naming

def numberRun : ℕ → List Char
  | 0 => []
  | n + 1 => Nat.toDigits 10 (n + 1)

lemma isRun_numberRun (n : ℕ) : IsRun (numberRun n) := by
  intro c hc
  cases n with
  | zero => simp [numberRun] at hc
  | succ n => exact Nat.isDigit_of_mem_toDigits (by decide) (by decide) hc

lemma numberRun_injective : Function.Injective numberRun := by
  intro m n h
  have hvalue : ∀ k, Nat.ofDigitChars 10 (numberRun k) 0 = k := by
    rintro (_ | k)
    · rfl
    · exact Nat.ofDigitChars_toDigits (by decide) (by decide)
  rw [← hvalue m, ← hvalue n, h]

namespace Scope

lemma toList_numbered (base : String) (n : ℕ) :
    (numbered base n).toList = base.toList ++ numberRun n := by
  cases n with
  | zero => simp [numbered, numberRun]
  | succ n => simp [numbered, numberRun]

theorem numbered_injective (base : String) : Function.Injective (numbered base) := by
  intro m n h
  have hlist := congrArg String.toList h
  simp only [toList_numbered] at hlist
  exact numberRun_injective (List.append_cancel_left hlist)

theorem identifier_numbered_injective (base : String) :
    Function.Injective fun n => identifier (numbered base n) := by
  intro m n h
  have hlist := congrArg String.toList h
  simp only [identifier, String.toList_ofList, toList_numbered,
    identifierChars_append_run _ (isRun_numberRun _)] at hlist
  exact numberRun_injective
    (escaped_append_run_inj _ (isRun_numberRun m) (isRun_numberRun n) hlist)

lemma isFree_iff {scope : Scope} {name : String} :
    scope.isFree name = true ↔ name ∉ scope ∧ identifier name ∉ scope := by
  simp [isFree]

@[simp] lemma mem_take {scope : Scope} {name x : String} :
    x ∈ scope.take name ↔ x = name ∨ x = identifier name ∨ x ∈ scope := by
  simp [take]

@[simp] lemma mem_ofList {names : List String} {x : String} : x ∈ ofList names ↔ x ∈ names := by
  have hfold : ∀ (scope : Scope),
      x ∈ names.foldl (fun scope n => scope.insert n) scope ↔ x ∈ names ∨ x ∈ scope := by
    induction names with
    | nil => simp
    | cons n names ih => intro scope; simp [ih, or_assoc, or_left_comm]
  simpa [ofList] using hfold []

/-- A scope can take at most as many numbers as it has names. -/
lemma card_filter_mem_le (scope : Scope) {f : ℕ → String} (hf : Function.Injective f)
    (numbers : Finset ℕ) :
    (numbers.filter fun n => f n ∈ scope).card ≤ scope.toFinset.card := by
  apply Finset.card_le_card_of_injOn f
  · intro n hn
    simpa using (Finset.mem_filter.mp hn).2
  · exact hf.injOn

/-- Numbers that are all taken are at most two for each name of the scope. -/
theorem le_of_forall_taken {scope : Scope} {base : String} {k : ℕ}
    (h : ∀ n < k, scope.isFree (numbered base n) = false) : k ≤ 2 * scope.toFinset.card := by
  let numbers := Finset.range k
  have hcover : numbers ⊆ (numbers.filter fun n => numbered base n ∈ scope) ∪
      (numbers.filter fun n => identifier (numbered base n) ∈ scope) := by
    intro n hn
    have htaken := h n (Finset.mem_range.mp hn)
    rw [← Bool.not_eq_true, isFree_iff, not_and_or, not_not, not_not] at htaken
    simpa [hn] using htaken
  have hcard := Finset.card_le_card hcover
  have hunion := Finset.card_union_le (numbers.filter fun n => numbered base n ∈ scope)
    (numbers.filter fun n => identifier (numbered base n) ∈ scope)
  have hname := card_filter_mem_le scope (numbered_injective base) numbers
  have hident := card_filter_mem_le scope (identifier_numbered_injective base) numbers
  simp only [numbers, Finset.card_range] at hcard hunion hname hident
  omega

theorem exists_free (scope : Scope) (base : String) :
    ∃ n < 2 * scope.length + 1, scope.isFree (numbered base n) = true := by
  by_contra hnone
  push Not at hnone
  have hle := le_of_forall_taken fun n hn => eq_false_of_ne_true (hnone n hn)
  have hcard := List.toFinset_card_le scope
  omega

/-- The free number is the smallest one that makes the name free. -/
theorem freeNumber_spec (scope : Scope) (base : String) :
    scope.isFree (numbered base (scope.freeNumber base)) = true ∧
      ∀ n < scope.freeNumber base, scope.isFree (numbered base n) = false := by
  obtain ⟨n, hn, hfree⟩ := exists_free scope base
  have hsome : ((List.range (2 * scope.length + 1)).find?
      fun n => scope.isFree (numbered base n)).isSome := by
    rw [List.find?_isSome]
    exact ⟨n, List.mem_range.mpr hn, hfree⟩
  obtain ⟨k, hk⟩ := Option.isSome_iff_exists.mp hsome
  rw [freeNumber, hk, Option.getD_some]
  obtain ⟨hkfree, -, hbefore⟩ := List.find?_range_eq_some.mp hk
  exact ⟨hkfree, fun j hj => by simpa using hbefore j hj⟩

end Scope

/-- The texts that a name takes in a scope. -/
def forms (name : String) : List String := [name, identifier name]

lemma uniqueName_scope (suggested : String) (c : Classification) (p : Purpose) (scope : Scope) :
    (uniqueName suggested c p scope).2 = scope.take (uniqueName suggested c p scope).1 := rfl

/-- A unique name and its identifier are new to the scope. -/
theorem forms_uniqueName_disjoint (suggested : String) (c : Classification) (p : Purpose)
    (scope : Scope) : List.Disjoint (forms (uniqueName suggested c p scope).1) scope := by
  have hfree := (Scope.freeNumber_spec scope (className (suggestedSchemaName suggested c p))).1
  obtain ⟨hname, hidentifier⟩ := Scope.isFree_iff.mp hfree
  simpa [forms, uniqueName] using ⟨hname, hidentifier⟩

lemma mem_take_forms {scope : Scope} {name x : String} :
    x ∈ scope.take name ↔ x ∈ forms name ∨ x ∈ scope := by
  simp [forms, or_assoc]

end SwiftClient.Naming
