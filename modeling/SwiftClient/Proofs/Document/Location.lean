import SwiftClient.Proofs.Document.Lookup
import SwiftClient.Proofs.Document.Validity

/-!
# Schemas at their locations

The location of a schema is the names of the schemas around it, then its own. Where siblings have
different names at every level, a path leads to the schema whose location it is, and to no other.
-/
namespace SwiftClient

namespace Schema

/-- Siblings have different names, at the top and inside every schema. -/
structure DistinctNames (forest : List Schema) : Prop where
  siblings : (forest.map (·.name)).Nodup
  nested : ∀ s ∈ flattenAll forest, (s.nested.map (·.name)).Nodup

namespace DistinctNames

variable {s : Schema} {rest : List Schema}

lemma tail (h : DistinctNames (s :: rest)) : DistinctNames rest where
  siblings := (List.nodup_cons.mp h.siblings).2
  nested t ht := h.nested t (by simp [flattenAll, ht])

lemma of_mem {forest : List Schema} (h : DistinctNames forest) (hs : s ∈ forest) :
    DistinctNames s.nested where
  siblings := h.nested s (mem_flattenAll.mpr ⟨s, hs, mem_flatten_self s⟩)
  nested t ht := h.nested t (flattenAll_subset_of_mem hs ht)

lemma inside (h : DistinctNames (s :: rest)) : DistinctNames s.nested :=
  h.of_mem List.mem_cons_self

lemma name_ne (h : DistinctNames (s :: rest)) {t : Schema} (ht : t ∈ rest) : t.name ≠ s.name := by
  have hfresh := (List.nodup_cons.mp h.siblings).1
  exact fun heq => hfresh (List.mem_map.mpr ⟨t, ht, heq⟩)

end DistinctNames

lemma find?_eq_some_cons {forest : List Schema} {path : ScopedName} {u : Schema}
    (h : find? forest path = some u) : ∃ name rest, path = name :: rest := by
  cases path with
  | nil => simp [find?] at h
  | cons name rest => exact ⟨name, rest, rfl⟩

lemma find?_singleton {s u : Schema} {name : String} {path : ScopedName} :
    find? [s] (name :: path) = some u ↔
      s.name = name ∧ (path = [] ∧ s = u ∨ find? s.nested path = some u) := by
  rw [find?_cons]
  by_cases hname : s.name = name
  · cases path with
    | nil => simp [hname, find?]
    | cons => simp [hname]
  · simp [hname]

/-- The first schema of a name hides those after it. -/
lemma find?_forest {s : Schema} {rest : List Schema} {name : String} {path : ScopedName} :
    find? (s :: rest) (name :: path) =
      if s.name = name then find? [s] (name :: path) else find? rest (name :: path) := by
  by_cases hname : s.name = name <;> simp [find?_cons, hname]

lemma find?_name_mem {forest : List Schema} {name : String} {path : ScopedName} {u : Schema}
    (h : find? forest (name :: path) = some u) : ∃ s ∈ forest, s.name = name := by
  rw [find?_cons] at h
  have hfound : ∃ s, forest.find? (·.name == name) = some s := by
    split_ifs at h
    · exact ⟨u, h⟩
    · obtain ⟨s, hs, -⟩ := Option.bind_eq_some_iff.mp h
      exact ⟨s, hs⟩
  obtain ⟨s, hs⟩ := hfound
  exact ⟨s, List.mem_of_find?_eq_some hs, by simpa using List.find?_some hs⟩

/-- Where names differ, nothing is hidden. -/
lemma find?_forest_iff {s : Schema} {rest : List Schema} (h : DistinctNames (s :: rest))
    {path : ScopedName} {u : Schema} :
    find? (s :: rest) path = some u ↔ find? [s] path = some u ∨ find? rest path = some u := by
  cases path with
  | nil => simp [find?]
  | cons name path =>
    rw [find?_forest]
    split_ifs with hname
    · refine (or_iff_left fun hrest => ?_).symm
      obtain ⟨t, ht, htname⟩ := find?_name_mem hrest
      exact h.name_ne ht (htname.trans hname.symm)
    · refine (or_iff_right fun hfirst => ?_).symm
      exact hname (find?_singleton.mp hfirst).1

mutual

lemma mem_located_iff : ∀ {around path : ScopedName} {s u : Schema}, DistinctNames [s] →
    ((path, u) ∈ located around s ↔ ∃ rest, path = around ++ rest ∧ find? [s] rest = some u)
  | around, path, ⟨name, _, _, _, _, _, nested⟩, u, h => by
    rw [located, List.mem_cons, mem_locatedAll_iff h.inside, Prod.mk.injEq]
    constructor
    · rintro (⟨rfl, rfl⟩ | ⟨rest, rfl, hrest⟩)
      · exact ⟨[name], rfl, find?_singleton.mpr ⟨rfl, Or.inl ⟨rfl, rfl⟩⟩⟩
      · exact ⟨name :: rest, by simp, find?_singleton.mpr ⟨rfl, Or.inr hrest⟩⟩
    · rintro ⟨rest, rfl, hrest⟩
      obtain ⟨name, rest, rfl⟩ := find?_eq_some_cons hrest
      obtain ⟨rfl, ⟨rfl, rfl⟩ | hbelow⟩ := find?_singleton.mp hrest
      · exact Or.inl ⟨rfl, rfl⟩
      · exact Or.inr ⟨rest, by simp, hbelow⟩

/-- What is located somewhere in a forest is what is found there, and nothing else is. -/
lemma mem_locatedAll_iff : ∀ {around path : ScopedName} {forest : List Schema} {u : Schema},
    DistinctNames forest →
    ((path, u) ∈ locatedAll around forest ↔
      ∃ rest, path = around ++ rest ∧ find? forest rest = some u)
  | around, path, [], u, _ => by
    have hnone : ∀ rest, find? [] rest = none := by
      intro rest
      cases rest with
      | nil => rfl
      | cons name rest => simp [find?_cons]
    simp [locatedAll, hnone]
  | around, path, s :: rest, u, h => by
    have hsingle : DistinctNames [s] :=
      ⟨List.nodup_singleton _, fun t ht => h.nested t (by simp_all [flattenAll])⟩
    rw [locatedAll, List.mem_append, mem_located_iff hsingle, mem_locatedAll_iff h.tail]
    simp only [find?_forest_iff h, and_or_left, exists_or]

end

mutual

lemma map_snd_located : ∀ (around : ScopedName) (s : Schema),
    (located around s).map (·.2) = s.flatten
  | around, ⟨name, _, _, _, _, _, nested⟩ => by
    rw [located, List.map_cons, map_snd_locatedAll, flatten_eq]

lemma map_snd_locatedAll : ∀ (around : ScopedName) (forest : List Schema),
    (locatedAll around forest).map (·.2) = flattenAll forest
  | _, [] => rfl
  | around, s :: rest => by
    rw [locatedAll, List.map_append, map_snd_located, map_snd_locatedAll, flattenAll]

end

end Schema

/-- A scoped name ends with the name of its schema, and what is nested has different names. -/
structure Schema.WellNamed (s : Schema) : Prop where
  last : s.scopedName.getLast? = some s.name
  nested : (s.nested.map (·.name)).Nodup

namespace Document

open Schema (WellNamed flattenAll flatten_eq)

mutual

lemma nameDefects_eq_nil_iff : ∀ {repeated : Bool} {s : Schema},
    nameDefects repeated s = [] ↔ repeated = false ∧ ∀ t ∈ s.flatten, t.WellNamed
  | repeated, ⟨name, scopedName, _, _, _, _, nested⟩ => by
    rw [nameDefects, List.append_eq_nil_iff, List.append_eq_nil_iff, siblingDefects_eq_nil_iff,
      flatten_eq, List.forall_mem_cons]
    simp only [ite_eq_right_iff, reduceCtorEq, imp_false, ite_eq_left_iff, not_not,
      Bool.not_eq_true, List.not_mem_nil, not_false_eq_true, implies_true, and_true]
    constructor
    · rintro ⟨⟨hrepeated, hlast⟩, hnested, hbelow⟩
      exact ⟨hrepeated, ⟨hlast, hnested⟩, hbelow⟩
    · rintro ⟨hrepeated, ⟨hlast, hnested⟩, hbelow⟩
      exact ⟨⟨hrepeated, hlast⟩, hnested, hbelow⟩

/-- Siblings have different names, also from those before them, and are well named throughout. -/
lemma siblingDefects_eq_nil_iff : ∀ {seen : List String} {forest : List Schema},
    siblingDefects seen forest = [] ↔
      ((forest.map (·.name)).Nodup ∧ ∀ s ∈ forest, s.name ∉ seen) ∧
        ∀ t ∈ flattenAll forest, t.WellNamed
  | seen, [] => by simp [siblingDefects, flattenAll]
  | seen, s :: rest => by
    rw [siblingDefects, List.append_eq_nil_iff, nameDefects_eq_nil_iff, siblingDefects_eq_nil_iff,
      flattenAll, List.forall_mem_append, List.map_cons, List.nodup_cons, List.forall_mem_cons]
    simp only [decide_eq_false_iff_not, List.mem_cons, not_or, List.mem_map, not_exists, not_and]
    constructor
    · rintro ⟨⟨hs, hfirst⟩, ⟨hnodup, hrest⟩, hothers⟩
      exact ⟨⟨⟨fun t ht => (hrest t ht).1, hnodup⟩, hs, fun t ht => (hrest t ht).2⟩,
        hfirst, hothers⟩
    · rintro ⟨⟨⟨hfresh, hnodup⟩, hs, hrest⟩, hfirst, hothers⟩
      exact ⟨⟨hs, hfirst⟩, ⟨hnodup, fun t ht => ⟨hfresh t ht, hrest t ht⟩⟩, hothers⟩

end

variable {d : Document}

lemma wellNamed_of_validate (h : d.validate = .ok ()) :
    (d.schemas.map (·.name)).Nodup ∧ ∀ s ∈ d.allSchemas, s.WellNamed := by
  obtain ⟨⟨hsiblings, -⟩, hnamed⟩ :=
    siblingDefects_eq_nil_iff.mp (validate_eq_ok_iff_wellFormed.mp h).1
  exact ⟨hsiblings, hnamed⟩

lemma distinctNames_of_validate (h : d.validate = .ok ()) : Schema.DistinctNames d.schemas := by
  obtain ⟨hsiblings, hnamed⟩ := wellNamed_of_validate h
  exact ⟨hsiblings, fun s hs => (hnamed s hs).nested⟩

/-- The schemas of a document, each with its location. -/
def located (d : Document) : List (ScopedName × Schema) := Schema.locatedAll [] d.schemas

/-- In a valid document a path leads to the schema that it locates. -/
theorem mem_located_iff (h : d.validate = .ok ()) {path : ScopedName} {s : Schema} :
    (path, s) ∈ d.located ↔ d.find? path = some s := by
  rw [located, Schema.mem_locatedAll_iff (distinctNames_of_validate h)]
  simp [find?]

lemma exists_find?_of_mem (h : d.validate = .ok ()) {s : Schema} (hs : s ∈ d.allSchemas) :
    ∃ path, d.find? path = some s := by
  rw [allSchemas, ← Schema.map_snd_locatedAll [], List.mem_map] at hs
  obtain ⟨⟨path, s⟩, hlocated, rfl⟩ := hs
  exact ⟨path, (mem_located_iff h).mp hlocated⟩

end Document

end SwiftClient
