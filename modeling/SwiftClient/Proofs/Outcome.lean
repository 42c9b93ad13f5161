import Mathlib.Data.List.Forall2
import SwiftClient.Traced

/-!
# Outcomes of computations

What it takes for a computation in several steps to succeed, and for a list of them; and in which
ways it can fail. Notices have no bearing on either.
-/
namespace SwiftClient

namespace Outcome

variable {ε α β γ : Type}

@[simp] lemma bind_eq_ok {x : Except ε α} {f : α → Except ε β} {b : β} :
    (x >>= f) = .ok b ↔ ∃ a, x = .ok a ∧ f a = .ok b := by
  cases x <;> simp [bind, Except.bind]

@[simp] lemma pure_eq_ok {a b : α} : (pure a : Except ε α) = .ok b ↔ a = b := by
  simp [pure, Except.pure]

lemma map_eq_ok {x : Except ε α} {f : α → β} {b : β} :
    x.map f = .ok b ↔ ∃ a, x = .ok a ∧ f a = b := by
  cases x <;> simp [Except.map]

lemma mapError_eq_ok {δ : Type} {x : Except ε α} {f : ε → δ} {a : α} :
    x.mapError f = .ok a ↔ x = .ok a := by
  cases x <;> simp [Except.mapError]

lemma bind_eq_error {x : Except ε α} {f : α → Except ε β} {e : ε} :
    (x >>= f) = .error e ↔ x = .error e ∨ ∃ a, x = .ok a ∧ f a = .error e := by
  cases x <;> simp [bind, Except.bind]

lemma mapM_eq_ok {f : α → Except ε β} {xs : List α} {ys : List β} :
    xs.mapM f = .ok ys ↔ List.Forall₂ (fun x y => f x = .ok y) xs ys := by
  induction xs generalizing ys with
  | nil =>
    rw [List.mapM_nil, pure_eq_ok, List.forall₂_nil_left_iff]
    exact eq_comm
  | cons x xs ih =>
    simp only [List.mapM_cons, bind_eq_ok, pure_eq_ok, ih, List.forall₂_cons_left_iff]
    constructor
    · rintro ⟨y, hy, ys, hys, rfl⟩
      exact ⟨y, ys, hy, hys, rfl⟩
    · rintro ⟨y, ys, hy, hys, rfl⟩
      exact ⟨y, hy, ys, hys, rfl⟩

lemma forM_eq_ok {f : α → Except ε PUnit} {xs : List α} :
    xs.forM f = .ok () ↔ ∀ x ∈ xs, f x = .ok () := by
  induction xs with
  | nil => simp [List.forM, pure, Except.pure]
  | cons x xs ih =>
    change (f x >>= fun _ => xs.forM f) = .ok () ↔ _
    rw [bind_eq_ok, List.forall_mem_cons, ← ih]
    constructor
    · rintro ⟨⟨⟩, hx, hxs⟩
      exact ⟨hx, hxs⟩
    · rintro ⟨hx, hxs⟩
      exact ⟨(), hx, hxs⟩

/-- Whether a computation has a result of some kind is found out by running it. -/
instance decidableExistsOk {p : α → Prop} [DecidablePred p] :
    (x : Except ε α) → Decidable (∃ a, x = .ok a ∧ p a)
  | .ok a => decidable_of_iff (p a) (by simp)
  | .error _ => isFalse (by simp)

instance decidableIsOk : (x : Except ε α) → Decidable (∃ a, x = .ok a)
  | .ok a => isTrue ⟨a, rfl⟩
  | .error _ => isFalse (by simp)

def Fails (x : Except ε α) : Prop := ∃ e, x = .error e

@[simp] lemma not_fails_ok {a : α} : ¬Fails (.ok a : Except ε α) := nofun

@[simp] lemma fails_error {e : ε} : Fails (.error e : Except ε α) := ⟨e, rfl⟩

lemma fails_bind {x : Except ε α} {f : α → Except ε β} :
    Fails (x >>= f) ↔ Fails x ∨ ∃ a, x = .ok a ∧ Fails (f a) := by
  cases x <;> simp [bind, Except.bind]

lemma fails_bind_pure {x : Except ε α} {f : α → β} :
    Fails (x >>= fun a => pure (f a)) ↔ Fails x := by
  rw [fails_bind]
  exact or_iff_left fun ⟨_, _, h⟩ => not_fails_ok h

lemma fails_mapM {f : α → Except ε β} {xs : List α} :
    Fails (xs.mapM f) ↔ ∃ x ∈ xs, Fails (f x) := by
  induction xs with
  | nil => exact iff_of_false not_fails_ok (by simp)
  | cons x xs ih =>
    rw [List.mapM_cons, fails_bind, List.exists_mem_cons_iff, ← ih]
    cases f x with
    | error e => exact iff_of_true (.inl fails_error) (.inl fails_error)
    | ok y => simp only [fails_bind_pure, Except.ok.injEq, exists_eq_left']

/-- All failures of a computation have a property. -/
def FailsOnly (P : ε → Prop) (x : Except ε α) : Prop := ∀ e, x = .error e → P e

namespace FailsOnly

variable {P : ε → Prop}

lemma ok {a : α} : FailsOnly P (.ok a : Except ε α) := by
  intro e h
  cases h

lemma pure {a : α} : FailsOnly P (pure a : Except ε α) := ok

lemma error {e : ε} (h : P e) : FailsOnly P (.error e : Except ε α) := by
  intro e' h'
  cases h'
  exact h

lemma bind {x : Except ε α} {f : α → Except ε β} (hx : FailsOnly P x)
    (hf : ∀ a, x = .ok a → FailsOnly P (f a)) : FailsOnly P (x >>= f) := by
  intro e h
  rcases bind_eq_error.mp h with h | ⟨a, ha, h⟩
  · exact hx e h
  · exact hf a ha e h

lemma mono {Q : ε → Prop} {x : Except ε α} (hx : FailsOnly P x) (h : ∀ e, P e → Q e) :
    FailsOnly Q x :=
  fun e he => h e (hx e he)

lemma map {x : Except ε α} {f : α → β} (hx : FailsOnly P x) : FailsOnly P (f <$> x) := by
  rw [← bind_pure_comp]
  exact hx.bind fun _ _ => pure

lemma mapM {f : α → Except ε β} {xs : List α} (h : ∀ x ∈ xs, FailsOnly P (f x)) :
    FailsOnly P (xs.mapM f) := by
  induction xs with
  | nil => exact ok
  | cons x xs ih =>
    rw [List.forall_mem_cons] at h
    rw [List.mapM_cons]
    exact h.1.bind fun _ _ => (ih h.2).bind fun _ _ => pure

lemma forM {f : α → Except ε PUnit} {xs : List α} (h : ∀ x ∈ xs, FailsOnly P (f x)) :
    FailsOnly P (xs.forM f) := by
  induction xs with
  | nil => exact ok
  | cons x xs ih =>
    rw [List.forall_mem_cons] at h
    exact h.1.bind fun _ _ => ih h.2

end FailsOnly

end Outcome

namespace Traced

variable {α β : Type}

lemma id_map (x : Traced α) : id <$> x = x := by
  obtain ⟨notices, result⟩ := x
  cases result with
  | error e => rfl
  | ok a => exact congrArg (Traced.mk · (.ok a)) (List.append_nil notices)

lemma bind_assoc {γ : Type} (x : Traced α) (f : α → Traced β) (g : β → Traced γ) :
    x >>= f >>= g = x >>= fun a => f a >>= g := by
  obtain ⟨notices, result⟩ := x
  cases result with
  | error e => rfl
  | ok a =>
    simp only [Bind.bind, Traced.bind]
    cases (f a).result with
    | error e => rfl
    | ok b => simp only [List.append_assoc]

instance : LawfulMonad Traced := LawfulMonad.mk' Traced id_map (fun _ _ => rfl) bind_assoc

@[simp] lemma result_lift (x : Except Failure α) : (liftM x : Traced α).result = x := rfl

@[simp] lemma result_note (n : Notice) : (note n).result = .ok () := rfl

@[simp] lemma result_map (f : α → β) (x : Traced α) : (f <$> x).result = f <$> x.result := by
  rw [← bind_pure_comp, result_bind, ← bind_pure_comp]
  rfl

@[simp] lemma result_mapM (f : α → Traced β) (xs : List α) :
    (xs.mapM f).result = xs.mapM fun x => (f x).result := by
  induction xs with
  | nil => rfl
  | cons x xs ih => simp [List.mapM_cons, ih]

@[simp] lemma result_forM (f : α → Traced PUnit) (xs : List α) :
    (xs.forM f).result = xs.forM fun x => (f x).result := by
  induction xs with
  | nil => rfl
  | cons x xs ih =>
    change (f x >>= fun _ => xs.forM f).result = _
    rw [result_bind, ih]
    rfl

end Traced

end SwiftClient
