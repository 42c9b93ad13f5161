import Mathlib.Data.List.Find
import Mathlib.Data.List.Forall2
import Mathlib.Data.List.Nodup

/-!
# Lists that correspond

Two lists correspond when their items do one by one. What is known of one list is then known of the
other.
-/
namespace SwiftClient

variable {α β γ : Type} {R : α → β → Prop} {xs : List α} {ys : List β}

lemma forall₂_imp_of_mem {S : α → β → Prop} (h : List.Forall₂ R xs ys)
    (hS : ∀ x ∈ xs, ∀ y, R x y → S x y) : List.Forall₂ S xs ys := by
  induction h with
  | nil => exact .nil
  | cons hxy _ ih =>
    rw [List.forall_mem_cons] at hS
    exact .cons (hS.1 _ hxy) (ih hS.2)

lemma forall_mem_of_forall₂ {q : β → Prop} (h : List.Forall₂ R xs ys)
    (hq : ∀ x ∈ xs, ∀ y, R x y → q y) : ∀ y ∈ ys, q y := by
  induction h with
  | nil => simp
  | cons hxy _ ih =>
    rw [List.forall_mem_cons] at hq ⊢
    exact ⟨hq.1 _ hxy, ih hq.2⟩

lemma exists_mem_of_forall₂ (h : List.Forall₂ R xs ys) {x : α} (hx : x ∈ xs) :
    ∃ y ∈ ys, R x y := by
  induction h with
  | nil => exact absurd hx List.not_mem_nil
  | @cons x' y' _ _ hxy _ ih =>
    rcases List.mem_cons.mp hx with rfl | hx
    · exact ⟨y', List.mem_cons_self, hxy⟩
    · obtain ⟨y, hy, hR⟩ := ih hx
      exact ⟨y, List.mem_cons_of_mem y' hy, hR⟩

lemma exists_forall₂_iff : (∃ ys, List.Forall₂ R xs ys) ↔ ∀ x ∈ xs, ∃ y, R x y := by
  induction xs with
  | nil => simp
  | cons x rest ih =>
    rw [List.forall_mem_cons, ← ih]
    simp only [List.forall₂_cons_left_iff]
    constructor
    · rintro ⟨_, y, ys, hxy, hys, rfl⟩
      exact ⟨⟨y, hxy⟩, ys, hys⟩
    · rintro ⟨⟨y, hxy⟩, ys, hys⟩
      exact ⟨_, y, ys, hxy, hys, rfl⟩

lemma map_eq_map_of_forall₂ {f : α → γ} {g : β → γ} (h : List.Forall₂ R xs ys)
    (hR : ∀ x y, R x y → g y = f x) : ys.map g = xs.map f := by
  induction h with
  | nil => rfl
  | cons hxy _ ih => rw [List.map_cons, List.map_cons, hR _ _ hxy, ih]

lemma flatMap_eq_flatMap_of_forall₂ {f : α → List γ} {g : β → List γ} (h : List.Forall₂ R xs ys)
    (hR : ∀ x y, R x y → g y = f x) : ys.flatMap g = xs.flatMap f := by
  rw [List.flatMap_def, List.flatMap_def, map_eq_map_of_forall₂ h hR]

lemma isEmpty_eq_of_forall₂ (h : List.Forall₂ R xs ys) : ys.isEmpty = xs.isEmpty := by
  cases h <;> rfl

lemma forall₂_comp {S : β → γ → Prop} {zs : List γ} (h : List.Forall₂ R xs ys)
    (h' : List.Forall₂ S ys zs) : List.Forall₂ (fun x z => ∃ y, R x y ∧ S y z) xs zs := by
  induction h generalizing zs with
  | nil =>
    cases h'
    exact .nil
  | cons hxy _ ih =>
    cases h' with
    | cons hyz hrest => exact .cons ⟨_, hxy, hyz⟩ (ih hrest)

lemma rel_find? {p : α → Bool} {q : β → Bool} (h : List.Forall₂ R xs ys)
    (hpq : ∀ x y, R x y → q y = p x) : Option.Rel R (xs.find? p) (ys.find? q) := by
  induction h with
  | nil => exact .none
  | @cons x y _ _ hxy _ ih =>
    rw [List.find?_cons, List.find?_cons, hpq x y hxy]
    cases p x with
    | true => exact .some hxy
    | false => exact ih

lemma exists_of_rel_some {x : α} {o : Option β} (h : Option.Rel R (some x) o) :
    ∃ y, o = some y ∧ R x y := by
  cases h with
  | some hxy => exact ⟨_, rfl, hxy⟩

lemma exists_of_rel_some_right {y : β} {o : Option α} (h : Option.Rel R o (some y)) :
    ∃ x, o = some x ∧ R x y := by
  cases h with
  | some hxy => exact ⟨_, rfl, hxy⟩

lemma isSome_eq_of_rel {o : Option α} {o' : Option β} (h : Option.Rel R o o') :
    o'.isSome = o.isSome := by
  cases h <;> rfl

lemma rel_bind {δ : Type} {S : γ → δ → Prop} {o : Option α} {o' : Option β} {f : α → Option γ}
    {g : β → Option δ} (h : Option.Rel R o o')
    (hfg : ∀ x ∈ o, ∀ y, R x y → Option.Rel S (f x) (g y)) :
    Option.Rel S (o.bind f) (o'.bind g) := by
  cases h with
  | none => exact .none
  | some hxy => exact hfg _ rfl _ hxy

/-- What corresponds to at most one thing each is the image under a function. -/
lemma exists_map_of_rightUnique [Nonempty β] (hR : Relator.RightUnique R) :
    ∃ f : α → β, ∀ {xs ys}, List.Forall₂ R xs ys → ys = xs.map f := by
  refine ⟨fun x => Classical.epsilon (R x), fun h => ?_⟩
  induction h with
  | nil => rfl
  | cons hxy _ ih => rw [List.map_cons, ← ih, hR hxy (Classical.epsilon_spec ⟨_, hxy⟩)]

/-- The items of two lists correspond one by one when those of the second are put in order. -/
def AnyOrder (R : α → β → Prop) (xs : List α) (ys : List β) : Prop :=
  ∃ zs, List.Forall₂ R xs zs ∧ zs.Perm ys

namespace AnyOrder

lemma of_perm {xs ys : List α} {R : α → α → Prop} (hR : ∀ x, R x x) (h : xs.Perm ys) :
    AnyOrder R xs ys :=
  ⟨xs, List.forall₂_same.mpr fun x _ => hR x, h⟩

lemma map_perm {f : α → γ} {g : β → γ} (h : AnyOrder R xs ys) (hR : ∀ x y, R x y → g y = f x) :
    (ys.map g).Perm (xs.map f) := by
  obtain ⟨zs, hxz, hzy⟩ := h
  rw [← map_eq_map_of_forall₂ hxz hR]
  exact (hzy.map g).symm

lemma forall_mem_iff {p : α → Prop} {q : β → Prop} (h : AnyOrder R xs ys)
    (hpq : ∀ x y, R x y → (p x ↔ q y)) : (∀ x ∈ xs, p x) ↔ ∀ y ∈ ys, q y := by
  obtain ⟨zs, hxz, hzy⟩ := h
  have hzq : (∀ z ∈ zs, q z) ↔ ∀ y ∈ ys, q y := by simp only [hzy.mem_iff]
  rw [← hzq]
  constructor
  · exact fun hp => forall_mem_of_forall₂ hxz fun x hx z hR => (hpq x z hR).mp (hp x hx)
  · exact fun hq => forall_mem_of_forall₂ hxz.flip fun z hz x hR => (hpq x z hR).mpr (hq z hz)

end AnyOrder

section Names

variable {name : α → String}

/-- Where names differ, a search by name finds every item. -/
lemma find?_eq_some_of_nodup (h : (xs.map name).Nodup) {x : α} (hx : x ∈ xs) :
    xs.find? (fun y => name y == name x) = some x := by
  have hsome : (xs.find? fun y => name y == name x).isSome :=
    List.find?_isSome.mpr ⟨x, hx, beq_self_eq_true _⟩
  obtain ⟨y, hy⟩ := Option.isSome_iff_exists.mp hsome
  have hname : name y = name x := by simpa using List.find?_some hy
  rw [hy, List.inj_on_of_nodup_map h (List.mem_of_find?_eq_some hy) hx hname]

/-- Where names differ, a search by name finds the same in any order. -/
lemma find?_name_eq_of_perm {xs' : List α} (h : (xs.map name).Nodup) (hperm : xs.Perm xs')
    (n : String) : xs.find? (fun x => name x == n) = xs'.find? (fun x => name x == n) := by
  refine List.find?_eq_find?_of_perm hperm ?_
  rintro x ⟨hx, hxn⟩ y ⟨hy, hyn⟩
  rw [beq_iff_eq] at hxn hyn
  exact List.inj_on_of_nodup_map h hx hy (hxn.trans hyn.symm)

end Names

end SwiftClient
