import Mathlib.Data.List.Nodup
import SwiftClient.Json.Reader
import SwiftClient.Proofs.Correspondence
import SwiftClient.Proofs.Outcome

/-!
# What readers ask for

A value is read when all that is in it is, and a record when its fields pass, it has a proper end
and each of its parts is read.
-/
namespace SwiftClient.Json

variable {α β : Type} {m : Medium} {room : ℕ}

namespace Reader

lemma values_eq_ok_iff {items : List Draft} {vs : List Json} :
    values room items = .ok vs ↔ List.Forall₂ (fun d v => value room d = .ok v) items vs := by
  induction items generalizing vs with
  | nil =>
    rw [values, List.forall₂_nil_left_iff, Except.ok.injEq]
    exact eq_comm
  | cons d rest ih =>
    simp only [values, Outcome.bind_eq_ok, Outcome.pure_eq_ok, ih, List.forall₂_cons_left_iff]
    constructor
    · rintro ⟨v, hv, vs, hvs, rfl⟩
      exact ⟨v, vs, hv, hvs, rfl⟩
    · rintro ⟨v, vs, hv, hvs, rfl⟩
      exact ⟨v, hv, vs, hvs, rfl⟩

lemma fieldValues_eq_ok_iff {fields : List (Option String × Draft)} {vs : List (String × Json)} :
    fieldValues room fields = .ok vs ↔
      List.Forall₂ (fun f v => f.1 = some v.1 ∧ value room f.2 = .ok v.2) fields vs := by
  induction fields generalizing vs with
  | nil =>
    rw [fieldValues, List.forall₂_nil_left_iff, Except.ok.injEq]
    exact eq_comm
  | cons f rest ih =>
    rcases f with ⟨_ | key, d⟩
    · simp [fieldValues, List.forall₂_cons_left_iff]
    · simp only [fieldValues, Outcome.bind_eq_ok, Outcome.pure_eq_ok, ih,
        List.forall₂_cons_left_iff, Option.some.injEq]
      constructor
      · rintro ⟨v, hv, vs, hvs, rfl⟩
        exact ⟨(key, v), vs, ⟨rfl, hv⟩, hvs, rfl⟩
      · rintro ⟨⟨_, v⟩, vs, ⟨rfl, hv⟩, hvs, rfl⟩
        exact ⟨v, hv, vs, hvs, rfl⟩

lemma value_array_eq_ok_iff {items : List Draft} {whole : Bool} {v : Json} :
    value room (.array items whole) = .ok v ↔
      ∃ inside vs, room = inside + 1 ∧ whole ∧ v = .array vs ∧
        List.Forall₂ (fun d v => value inside d = .ok v) items vs := by
  cases room with
  | zero => simp [value]
  | succ inside =>
    simp only [value, Outcome.bind_eq_ok, values_eq_ok_iff]
    constructor
    · rintro ⟨vs, hvs, h⟩
      cases whole <;> cases h
      exact ⟨inside, vs, rfl, rfl, rfl, hvs⟩
    · rintro ⟨_, vs, hroom, rfl, rfl, hvs⟩
      cases hroom
      exact ⟨vs, hvs, rfl⟩

lemma value_object_eq_ok_iff {fields : List (Option String × Draft)} {whole : Bool} {v : Json} :
    value room (.object fields whole) = .ok v ↔
      ∃ inside vs, room = inside + 1 ∧ whole ∧ v = Json.ofFields vs ∧
        List.Forall₂ (fun f v => f.1 = some v.1 ∧ value inside f.2 = .ok v.2) fields vs := by
  cases room with
  | zero => simp [value]
  | succ inside =>
    simp only [value, Outcome.bind_eq_ok, fieldValues_eq_ok_iff]
    constructor
    · rintro ⟨vs, hvs, h⟩
      cases whole <;> cases h
      exact ⟨inside, vs, rfl, rfl, rfl, hvs⟩
    · rintro ⟨_, vs, hroom, rfl, rfl, hvs⟩
      cases hroom
      exact ⟨vs, hvs, rfl⟩

end Reader

namespace Portion

lemma map_eq_read {p : Portion α} {f : α → β} {y : β} :
    f <$> p = .read y ↔ ∃ x, p = .read x ∧ f x = y := by
  cases p <;> simp [Functor.map, Portion.map]

lemma seq_eq_read {f : Portion (α → β)} {p : Portion α} {y : β} :
    f <*> p = .read y ↔ ∃ g x, f = .read g ∧ p = .read x ∧ g x = y := by
  cases f <;> cases p <;> simp [Seq.seq, Portion.both]
  split <;> simp

lemma checked_eq_read {check : Portion Unit} {p : Portion α} {x : α} :
    checked check p = .read x ↔ check = .read () ∧ p = .read x := by
  cases check <;> cases p <;> simp [checked, both, map]
  split <;> simp

lemma toExcept_eq_ok {p : Portion α} {x : α} : p.toExcept = .ok x ↔ p = .read x := by
  cases p <;> simp [toExcept]

lemma ofExcept_eq_read {place : ℕ} {r : Except Fault α} {x : α} :
    ofExcept place r = .read x ↔ r = .ok x := by
  cases r <;> simp [ofExcept]

end Portion

namespace Record

variable {r : Record} {name : String}

lemma lookup_eq_of_filter (fields : List (Option String × Draft)) (name : String) :
    fields.lookup (some name) = (fields.filter fun f => f.1 == some name).head?.map (·.2) := by
  induction fields with
  | nil => rfl
  | cons f rest ih =>
    obtain ⟨key, d⟩ := f
    by_cases hkey : key = some name
    · simp [hkey]
    · have hkey' : (some name == key) = false := beq_false_of_ne (Ne.symm hkey)
      rw [List.lookup_cons, hkey', List.filter_cons_of_neg (by simpa using hkey)]
      exact ih

lemma slot_of_lookup (hnamed : r.positional = false) {d : Draft}
    (h : r.fields.lookup (some name) = some d) : ∃ place, r.slot name = .filled place d := by
  obtain ⟨before, after, hfields, _⟩ := List.lookup_eq_some_iff.mp h
  have hfound : (r.fields.findIdx? fun f => f.1 == some name).isSome := by
    rw [List.findIdx?_isSome, hfields]
    simp
  obtain ⟨place, hplace⟩ := Option.isSome_iff_exists.mp hfound
  exact ⟨place, by rw [slot, hnamed, if_neg Bool.false_ne_true, hplace, h]⟩

lemma slot_of_lookup_none (hnamed : r.positional = false)
    (h : r.fields.lookup (some name) = none) :
    ∃ place fault, r.slot name = .missing place fault := by
  rw [slot, hnamed, if_neg Bool.false_ne_true, h]
  cases r.fields.findIdx? fun f => f.1 == some name <;> exact ⟨_, _, rfl⟩

/-- All fields have keys, each known one once, and those that are not known pass. -/
lemma checkFields_eq_read_iff {names : List String} {unasked : Draft → Except Fault Unit}
    {fields : List (Option String × Draft)} {place : ℕ} {seen : List String} :
    checkFields names unasked place seen fields = .read () ↔
      (∀ f ∈ fields, ∃ key, f.1 = some key ∧ (key ∈ names ∨ unasked f.2 = .ok ())) ∧
        ((fields.filterMap (·.1)).filter (· ∈ names)).Nodup ∧
        ∀ key ∈ fields.filterMap (·.1), key ∈ names → key ∉ seen := by
  induction fields generalizing place seen with
  | nil => simp [checkFields]
  | cons f rest ih =>
    obtain ⟨_ | key, d⟩ := f
    · simp [checkFields]
    · rw [checkFields, List.forall_mem_cons]
      split_ifs with hname hseen
      · simp [hname, hseen]
      · have hkeys : ((some key, d) :: rest).filterMap (·.1) = key :: rest.filterMap (·.1) := rfl
        rw [ih, hkeys, List.filter_cons_of_pos (by simpa using hname), List.nodup_cons,
          List.forall_mem_cons]
        simp only [List.mem_cons, not_or, List.mem_filter, Option.some.injEq, exists_eq_left',
          hname, hseen, true_or, true_and, not_false_iff, implies_true, decide_true, and_true]
        constructor
        · rintro ⟨hjudged, hnodup, hfresh⟩
          exact ⟨hjudged, ⟨fun hmem => (hfresh key hmem hname).1 rfl, hnodup⟩,
            fun k hk hkn => (hfresh k hk hkn).2⟩
        · rintro ⟨hjudged, ⟨habsent, hnodup⟩, hfresh⟩
          exact ⟨hjudged, hnodup, fun k hk hkn => ⟨fun h => habsent (h ▸ hk), hfresh k hk hkn⟩⟩
      · cases unasked d with
        | error fault => simp [hname]
        | ok u =>
          simp only [ih]
          simp [hname]

lemma readJudging_eq_ok_iff {unasked : Draft → Except Fault Unit} {body : Record → Portion α}
    {x : α} : r.readJudging unasked body = .ok x ↔
      (r.positional ∨ checkFields r.names unasked 0 [] r.fields = .read ()) ∧
        r.checkEnd = .read () ∧ body r = .read x := by
  rw [readJudging, Portion.toExcept_eq_ok, Portion.checked_eq_read, Portion.checked_eq_read]
  refine and_congr_left' ?_
  split_ifs with h <;> simp [h]

lemma checkEnd_eq_read_iff : r.checkEnd = .read () ↔
    ¬(r.positional ∧ r.names.length < r.fields.length) ∧ r.whole := by
  rw [checkEnd]
  split_ifs <;> simp_all

lemma passedOver_eq_ok_iff {d : Draft} : passedOver d = .ok () ↔ d.isWhole := by
  rw [passedOver]
  split_ifs <;> simp_all

end Record

namespace Reader

lemma tagged_eq_ok_iff {tag : String} {variants : List (String × α)}
    {fields own : List (Option String × Draft)} {v : α} :
    tagged tag variants m fields = .ok (v, own) ↔
      ∃ f, (fields.filter fun f => f.1 == some tag) = [f] ∧ variantOfTag variants m f.2 = .ok v ∧
        own = fields.filter fun f => f.1 != some tag := by
  rw [tagged]
  generalize (fields.filter fun f => f.1 == some tag) = named
  rcases named with _ | ⟨f, _ | ⟨g, rest⟩⟩
  · simp
  · simp only [Outcome.bind_eq_ok, List.isEmpty_nil, if_true, Except.ok.injEq, Prod.mk.injEq,
      List.cons.injEq, and_true, exists_eq_left']
    constructor
    · rintro ⟨_, h, rfl, rfl⟩
      exact ⟨h, rfl⟩
    · rintro ⟨h, rfl⟩
      exact ⟨v, h, rfl, rfl⟩
  · simp

end Reader

end SwiftClient.Json
