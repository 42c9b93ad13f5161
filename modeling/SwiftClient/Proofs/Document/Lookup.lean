import Mathlib.Data.List.Forall2
import SwiftClient.Document.Lookup
import SwiftClient.Proofs.Correspondence

/-!
# Schemas of a forest

A schema that is found is one of the schemas of the forest.
-/
namespace SwiftClient

namespace Schema

lemma flatten_eq (s : Schema) : s.flatten = s :: flattenAll s.nested := by
  cases s
  rfl

lemma mem_flatten_self (s : Schema) : s ∈ s.flatten := by
  simp [flatten_eq]

lemma mem_flattenAll {forest : List Schema} {t : Schema} :
    t ∈ flattenAll forest ↔ ∃ s ∈ forest, t ∈ s.flatten := by
  induction forest with
  | nil => simp [flattenAll]
  | cons s rest ih => simp [flattenAll, ih]

lemma flattenAll_subset_of_mem {forest : List Schema} {s : Schema} (h : s ∈ forest) :
    flattenAll s.nested ⊆ flattenAll forest := by
  intro t ht
  exact mem_flattenAll.mpr ⟨s, h, by simp [flatten_eq, ht]⟩

mutual

lemma flatten_subset {s : Schema} : ∀ {t : Schema}, s ∈ t.flatten → s.flatten ⊆ t.flatten
  | ⟨_, _, _, _, _, _, nested⟩, h => by
    rw [flatten_eq, List.mem_cons] at h
    rcases h with rfl | h
    · exact fun _ => id
    · exact fun u hu => List.mem_cons_of_mem _ (flatten_subset_of_mem h hu)

/-- All schemas inside one of the schemas of a forest are schemas of the forest. -/
lemma flatten_subset_of_mem {s : Schema} :
    ∀ {forest : List Schema}, s ∈ flattenAll forest → s.flatten ⊆ flattenAll forest
  | [], h => by simp [flattenAll] at h
  | t :: rest, h => by
    rw [flattenAll, List.mem_append] at h
    rw [flattenAll]
    rcases h with h | h
    · exact fun u hu => List.mem_append_left _ (flatten_subset h hu)
    · exact fun u hu => List.mem_append_right _ (flatten_subset_of_mem h hu)

end

lemma find?_cons {forest : List Schema} {name : String} {path : ScopedName} :
    find? forest (name :: path) =
      if path = [] then forest.find? (·.name == name)
      else (forest.find? (·.name == name)).bind fun s => find? s.nested path := by
  cases path <;> simp [find?, bind]

/-- Where names at the top differ, the order of the top has no bearing on what is found. -/
lemma find?_eq_of_perm {forest forest' : List Schema} (hnames : (forest.map (·.name)).Nodup)
    (h : forest.Perm forest') (path : ScopedName) : find? forest path = find? forest' path := by
  cases path with
  | nil => rfl
  | cons name path =>
    rw [find?_cons, find?_cons, find?_name_eq_of_perm hnames h]

theorem find?_mem {forest : List Schema} {path : ScopedName} {s : Schema}
    (h : find? forest path = some s) : s ∈ flattenAll forest := by
  induction path generalizing forest with
  | nil => simp [find?] at h
  | cons name path ih =>
    rw [find?_cons] at h
    split_ifs at h
    · exact mem_flattenAll.mpr ⟨s, List.mem_of_find?_eq_some h, mem_flatten_self s⟩
    · obtain ⟨t, ht, hs⟩ := Option.bind_eq_some_iff.mp h
      exact flattenAll_subset_of_mem (List.mem_of_find?_eq_some ht) (ih hs)

/-- Schemas that correspond have one name, and what is nested in them corresponds in order. -/
structure Matching (R : Schema → Schema → Prop) : Prop where
  name : ∀ {s s'}, R s s' → s'.name = s.name
  nested : ∀ {s s'}, R s s' → List.Forall₂ R s.nested s'.nested

namespace Matching

variable {R : Schema → Schema → Prop} {forest forest' : List Schema}

lemma find?_name (hR : Matching R) (h : List.Forall₂ R forest forest') (name : String) :
    Option.Rel R (forest.find? (·.name == name)) (forest'.find? (·.name == name)) := by
  apply rel_find? h
  intro s s' hs
  rw [hR.name hs]

theorem find? (hR : Matching R) (h : List.Forall₂ R forest forest') (path : ScopedName) :
    Option.Rel R (Schema.find? forest path) (Schema.find? forest' path) := by
  induction path generalizing forest forest' with
  | nil => simp [Schema.find?]
  | cons name path ih =>
    have hfirst := hR.find?_name h name
    rw [find?_cons, find?_cons]
    split_ifs
    · exact hfirst
    · exact rel_bind hfirst fun s _ s' hs => ih (hR.nested hs)

mutual

theorem flatten (hR : Matching R) :
    ∀ {s s' : Schema}, R s s' → List.Forall₂ R s.flatten s'.flatten
  | ⟨_, _, _, _, _, _, nested⟩, s', h => by
    rw [flatten_eq s', flatten_eq]
    exact .cons h (hR.flattenAll (hR.nested h))

theorem flattenAll (hR : Matching R) :
    ∀ {forest forest' : List Schema}, List.Forall₂ R forest forest' →
      List.Forall₂ R (Schema.flattenAll forest) (Schema.flattenAll forest')
  | [], _, .nil => .nil
  | _ :: _, _, .cons h hrest => List.rel_append (hR.flatten h) (hR.flattenAll hrest)

end

end Matching

end Schema

end SwiftClient
