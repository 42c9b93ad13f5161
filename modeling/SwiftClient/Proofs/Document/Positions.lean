import Mathlib.Data.Set.Function
import SwiftClient.Proofs.Document.Location

/-!
# Schemas at their positions

The position of a schema is its index among its siblings, after the position of the schema that it
is nested in. The list of all schemas goes through the positions in order, and where siblings have
different names at every level, the paths of names that lead somewhere are those of the positions.
-/
namespace SwiftClient

/-- The indices of schemas, from the top of a forest down to one of them. In the order of lists of
numbers a position comes before those inside it, and all of these before the next sibling. -/
abbrev Position := List ℕ

namespace Schema

/-- The schemas around a position, from the top down, and then the one that is there. -/
def way? : List Schema → Position → Option (List Schema)
  | _, [] => some []
  | forest, i :: rest => do
    let s ← forest[i]?
    let below ← way? s.nested rest
    return s :: below

def at? (forest : List Schema) (p : Position) : Option Schema := do (← way? forest p).getLast?

/-- The names of the schemas around a position, and then of the one that is there. -/
def pathTo (forest : List Schema) (p : Position) : ScopedName :=
  ((way? forest p).getD []).map (·.name)

variable {forest way way' : List Schema} {i : ℕ} {p q : Position} {path : ScopedName}
  {s t : Schema}

lemma way?_cons : way? forest (i :: p) = some way ↔
    ∃ s below, forest[i]? = some s ∧ way? s.nested p = some below ∧ way = s :: below := by
  simp only [way?, bind, Option.bind_eq_some_iff, pure, Option.some.injEq]
  constructor
  · rintro ⟨s, hs, below, hbelow, rfl⟩
    exact ⟨s, below, hs, hbelow, rfl⟩
  · rintro ⟨s, below, hs, hbelow, rfl⟩
    exact ⟨s, hs, below, hbelow, rfl⟩

lemma at?_eq_some_iff :
    at? forest p = some s ↔ ∃ way, way? forest p = some way ∧ way.getLast? = some s :=
  Option.bind_eq_some_iff

lemma pathTo_eq (h : way? forest p = some way) : pathTo forest p = way.map (·.name) := by
  rw [pathTo, h, Option.getD_some]

lemma getLast?_cons_eq_some_iff :
    (s :: way).getLast? = some t ↔ way = [] ∧ s = t ∨ way.getLast? = some t := by
  cases way <;> simp [List.getLast?_cons_cons]

lemma way?_eq_nil (h : way? forest p = some []) : p = [] := by
  cases p with
  | nil => rfl
  | cons i p =>
    obtain ⟨s, below, -, -, hway⟩ := way?_cons.mp h
    cases hway

lemma at?_cons : at? forest (i :: p) = some t ↔
    ∃ s, forest[i]? = some s ∧ (p = [] ∧ s = t ∨ at? s.nested p = some t) := by
  simp only [at?_eq_some_iff, way?_cons]
  constructor
  · rintro ⟨_, ⟨s, below, hs, hbelow, rfl⟩, hlast⟩
    refine ⟨s, hs, (getLast?_cons_eq_some_iff.mp hlast).imp ?_ fun h => ⟨below, hbelow, h⟩⟩
    exact And.imp_left fun h => way?_eq_nil (h ▸ hbelow)
  · rintro ⟨s, hs, ⟨rfl, rfl⟩ | ⟨below, hbelow, hlast⟩⟩
    · exact ⟨[s], ⟨s, [], hs, rfl, rfl⟩, rfl⟩
    · exact ⟨s :: below, ⟨s, below, hs, hbelow, rfl⟩, getLast?_cons_eq_some_iff.mpr (Or.inr hlast)⟩

lemma at?_iff_counted :
    (∃ j q, p = (0 + j) :: q ∧ at? forest (j :: q) = some t) ↔ at? forest p = some t := by
  constructor
  · rintro ⟨j, q, rfl, h⟩
    rwa [Nat.zero_add]
  · intro h
    cases p with
    | nil => cases h
    | cons j q => exact ⟨j, q, by rw [Nat.zero_add], h⟩

mutual

/-- A schema and all that are nested in it, with their positions from there. -/
def placed : Schema → List (Position × Schema)
  | s@⟨_, _, _, _, _, _, nested⟩ => ([], s) :: placedFrom 0 nested

/-- The schemas of a forest with their positions, where the first index is counted on. -/
def placedFrom (i : ℕ) : List Schema → List (Position × Schema)
  | [] => []
  | s :: rest => (placed s).map (Prod.map (i :: ·) id) ++ placedFrom (i + 1) rest

end

mutual

lemma map_snd_placed : ∀ s : Schema, (placed s).map (·.2) = s.flatten
  | ⟨_, _, _, _, _, _, nested⟩ => by
    rw [placed, List.map_cons, map_snd_placedFrom, flatten_eq]

lemma map_snd_placedFrom : ∀ (i : ℕ) (forest : List Schema),
    (placedFrom i forest).map (·.2) = flattenAll forest
  | _, [] => rfl
  | i, s :: rest => by
    have hsnd : (fun x : Position × Schema => x.2) ∘ Prod.map (i :: ·) id = (·.2) := rfl
    rw [placedFrom, List.map_append, List.map_map, hsnd, map_snd_placed, map_snd_placedFrom,
      flattenAll]

end

mutual

lemma mem_placed_iff : ∀ {s : Schema} {p : Position} {t : Schema},
    (p, t) ∈ placed s ↔ p = [] ∧ s = t ∨ at? s.nested p = some t
  | ⟨_, _, _, _, _, _, nested⟩, p, t => by
    rw [placed, List.mem_cons, mem_placedFrom_iff, at?_iff_counted, Prod.mk.injEq, eq_comm (a := t)]

lemma mem_placedFrom_iff : ∀ {i : ℕ} {forest : List Schema} {p : Position} {t : Schema},
    (p, t) ∈ placedFrom i forest ↔ ∃ j q, p = (i + j) :: q ∧ at? forest (j :: q) = some t
  | i, [], p, t => by simp [placedFrom, at?_cons]
  | i, s :: rest, p, t => by
    have hfirst : (p, t) ∈ (placed s).map (Prod.map (i :: ·) id) ↔
        ∃ q, p = i :: q ∧ at? (s :: rest) (0 :: q) = some t := by
      simp only [List.mem_map, Prod.exists, Prod.map_apply, id, Prod.mk.injEq, mem_placed_iff,
        at?_cons, List.getElem?_cons_zero, Option.some.injEq, exists_eq_left']
      constructor
      · rintro ⟨q, u, h, rfl, rfl⟩
        exact ⟨q, rfl, h⟩
      · rintro ⟨q, rfl, h⟩
        exact ⟨q, t, h, rfl, rfl⟩
    have hlater : ∀ j q, at? (s :: rest) ((j + 1) :: q) = at? rest (j :: q) := fun _ _ => rfl
    rw [placedFrom, List.mem_append, hfirst, mem_placedFrom_iff]
    constructor
    · rintro (⟨q, rfl, h⟩ | ⟨j, q, rfl, h⟩)
      · exact ⟨0, q, rfl, h⟩
      · exact ⟨j + 1, q, by rw [Nat.add_right_comm, Nat.add_assoc], h⟩
    · rintro ⟨_ | j, q, rfl, h⟩
      · exact Or.inl ⟨q, rfl, h⟩
      · exact Or.inr ⟨j, q, by rw [Nat.add_right_comm, Nat.add_assoc], h⟩

end

mutual

lemma pairwise_placed : ∀ s : Schema, (placed s).Pairwise (·.1 < ·.1)
  | ⟨_, _, _, _, _, _, nested⟩ => by
    rw [placed, List.pairwise_cons]
    refine ⟨fun x hx => ?_, pairwise_placedFrom 0 nested⟩
    obtain ⟨j, q, hp, -⟩ := mem_placedFrom_iff.mp hx
    rw [hp]
    exact List.nil_lt_cons _ _

/-- The schemas of a forest are listed in the order of their positions. -/
lemma pairwise_placedFrom : ∀ (i : ℕ) (forest : List Schema),
    (placedFrom i forest).Pairwise (·.1 < ·.1)
  | _, [] => List.Pairwise.nil
  | i, s :: rest => by
    rw [placedFrom, List.pairwise_append, List.pairwise_map]
    refine ⟨(pairwise_placed s).imp fun h => ?_, pairwise_placedFrom (i + 1) rest, ?_⟩
    · exact List.cons_lt_cons_iff.mpr (Or.inr ⟨rfl, h⟩)
    · intro x hx y hy
      obtain ⟨z, -, rfl⟩ := List.mem_map.mp hx
      obtain ⟨j, q, hp, -⟩ := mem_placedFrom_iff.mp hy
      rw [hp]
      exact List.cons_lt_cons_iff.mpr (Or.inl (by omega))

end

/-- Where names differ, the names on the way to a position lead to the schema there. -/
theorem find?_way (h : DistinctNames forest) (hway : way? forest p = some way) :
    find? forest (way.map (·.name)) = way.getLast? := by
  induction p generalizing forest way with
  | nil =>
    obtain rfl : [] = way := Option.some.inj hway
    rfl
  | cons i p ih =>
    obtain ⟨s, below, hs, hbelow, rfl⟩ := way?_cons.mp hway
    have hmem := List.mem_of_getElem? hs
    rw [List.map_cons, find?_cons, find?_eq_some_of_nodup h.siblings hmem]
    cases below with
    | nil => rfl
    | cons u below =>
      rw [if_neg (by simp), Option.bind_some, ih (h.of_mem hmem) hbelow, List.getLast?_cons_cons]

lemma exists_way?_of_find? (h : find? forest path = some s) :
    ∃ p way, way? forest p = some way ∧ way.map (·.name) = path ∧ way.getLast? = some s := by
  induction path generalizing forest with
  | nil => cases h
  | cons name path ih =>
    have hstep {t : Schema} (ht : forest.find? (·.name == name) = some t) :
        ∃ i : ℕ, forest[i]? = some t ∧ t.name = name := by
      obtain ⟨i, hi⟩ := List.mem_iff_getElem?.mp (List.mem_of_find?_eq_some ht)
      exact ⟨i, hi, by simpa using List.find?_some ht⟩
    rw [find?_cons] at h
    split_ifs at h with hpath
    · obtain ⟨i, hi, hname⟩ := hstep h
      exact ⟨[i], [s], way?_cons.mpr ⟨s, [], hi, rfl, rfl⟩, by simp [hname, hpath], rfl⟩
    · obtain ⟨t, ht, hs⟩ := Option.bind_eq_some_iff.mp h
      obtain ⟨i, hi, hname⟩ := hstep ht
      obtain ⟨p, below, hbelow, hnames, hlast⟩ := ih hs
      exact ⟨i :: p, t :: below, way?_cons.mpr ⟨t, below, hi, hbelow, rfl⟩,
        by simp [hname, hnames], getLast?_cons_eq_some_iff.mpr (Or.inr hlast)⟩

lemma position_unique (h : DistinctNames forest) (hway : way? forest p = some way)
    (hway' : way? forest q = some way') (hnames : way.map (·.name) = way'.map (·.name)) :
    p = q := by
  induction p generalizing forest q way way' with
  | nil =>
    obtain rfl : [] = way := Option.some.inj hway
    obtain rfl : way' = [] := List.map_eq_nil_iff.mp hnames.symm
    exact (way?_eq_nil hway').symm
  | cons i p ih =>
    obtain ⟨s, below, hs, hbelow, rfl⟩ := way?_cons.mp hway
    cases q with
    | nil =>
      obtain rfl : [] = way' := Option.some.inj hway'
      cases hnames
    | cons j q =>
      obtain ⟨t, below', ht, hbelow', rfl⟩ := way?_cons.mp hway'
      obtain ⟨hname, hbelowNames⟩ := List.cons.inj hnames
      have hi : i < (forest.map (·.name)).length := by
        rw [List.length_map]
        exact (List.getElem?_eq_some_iff.mp hs).1
      have hsame : (forest.map (·.name))[i]? = (forest.map (·.name))[j]? := by
        rw [List.getElem?_map, List.getElem?_map, hs, ht]
        exact congrArg some hname
      obtain rfl : i = j := (List.getElem?_inj hi h.siblings).mp hsame
      obtain rfl : s = t := Option.some.inj (hs.symm.trans ht)
      rw [ih (h.of_mem (List.mem_of_getElem? hs)) hbelow hbelow' hbelowNames]

/-- The paths to the positions are the paths under which something is found. -/
theorem pathTo_bijOn (h : DistinctNames forest) :
    Set.BijOn (pathTo forest) {p | (at? forest p).isSome} {path | (find? forest path).isSome} := by
  have hway {p : Position} (hp : (at? forest p).isSome) :
      ∃ way s, way? forest p = some way ∧ way.getLast? = some s := by
    obtain ⟨s, hs⟩ := Option.isSome_iff_exists.mp hp
    obtain ⟨way, hway, hlast⟩ := at?_eq_some_iff.mp hs
    exact ⟨way, s, hway, hlast⟩
  refine ⟨fun p hp => ?_, fun p hp q hq hpath => ?_, fun path hpath => ?_⟩
  · obtain ⟨way, s, hp, hlast⟩ := hway hp
    rw [Set.mem_ofPred_eq, pathTo_eq hp, find?_way h hp, hlast]
    rfl
  · obtain ⟨way, -, hp, -⟩ := hway hp
    obtain ⟨way', -, hq, -⟩ := hway hq
    rw [pathTo_eq hp, pathTo_eq hq] at hpath
    exact position_unique h hp hq hpath
  · obtain ⟨s, hs⟩ := Option.isSome_iff_exists.mp hpath
    obtain ⟨p, way, hp, hnames, hlast⟩ := exists_way?_of_find? hs
    refine ⟨p, ?_, by rw [pathTo_eq hp, hnames]⟩
    exact Option.isSome_iff_exists.mpr ⟨s, at?_eq_some_iff.mpr ⟨way, hp, hlast⟩⟩

end Schema

namespace Document

/-- Where siblings have different names, each schema is listed once, in the order of positions, and
is found under the path to its position. Nothing is found under other paths, and no two positions
have one path. -/
theorem find?_bijOn {d : Document} (h : Schema.DistinctNames d.schemas) :
    (∃ placed : List (Position × Schema), placed.map (·.2) = d.allSchemas ∧
      placed.Pairwise (·.1 < ·.1) ∧
        ∀ p s, (p, s) ∈ placed ↔ Schema.at? d.schemas p = some s) ∧
      (∀ p s, Schema.at? d.schemas p = some s →
        d.find? (Schema.pathTo d.schemas p) = some s) ∧
      Set.BijOn (Schema.pathTo d.schemas) {p | (Schema.at? d.schemas p).isSome}
        {path | d.has path} ∧
      (∀ path, (∀ p, (Schema.at? d.schemas p).isSome → Schema.pathTo d.schemas p ≠ path) →
        d.find? path = none) ∧
      d.find? [] = none := by
  have hbij := Schema.pathTo_bijOn h
  refine ⟨⟨Schema.placedFrom 0 d.schemas, Schema.map_snd_placedFrom 0 _,
    Schema.pairwise_placedFrom 0 _, fun p s => ?_⟩, fun p s hs => ?_, hbij,
    fun path hother => ?_, rfl⟩
  · rw [Schema.mem_placedFrom_iff, Schema.at?_iff_counted]
  · obtain ⟨way, hway, hlast⟩ := Schema.at?_eq_some_iff.mp hs
    rw [Schema.pathTo_eq hway, ← hlast]
    exact Schema.find?_way h hway
  · rw [← Option.not_isSome_iff_eq_none]
    intro hpath
    obtain ⟨p, hp, hpathTo⟩ := hbij.surjOn hpath
    exact hother p hp hpathTo

/-- Sizes at the top, and the same ones again in each of two animals. -/
def sizedAnimals : Document :=
  let sizes := Schema.top "Size" (.enum ⟨.scalar .string none, [.string "small"]⟩)
  { Document.titled "Animals" "1" with
    schemas := [{ Schema.top "Cat" (.object {}) with nested := [sizes] },
      { Schema.top "Dog" (.object {}) with nested := [sizes] }, sizes] }

theorem find?_bijOn_sizedAnimals :
    let forest := sizedAnimals.schemas
    Schema.DistinctNames forest ∧
      (∃ placed : List (Position × Schema), placed.map (·.2) = sizedAnimals.allSchemas ∧
        placed.Pairwise (·.1 < ·.1) ∧ ∀ p s, (p, s) ∈ placed ↔ Schema.at? forest p = some s) ∧
      sizedAnimals.find? ["Dog", "Size"] = Schema.at? forest [1, 0] ∧
      Set.BijOn (Schema.pathTo forest) {p | (Schema.at? forest p).isSome}
        {path | sizedAnimals.has path} := by
  have h : Schema.DistinctNames sizedAnimals.schemas := ⟨by decide, by decide⟩
  obtain ⟨hplaced, hfind, hbij, -⟩ := find?_bijOn h
  exact ⟨h, hplaced, hfind [1, 0] _ rfl, hbij⟩

end Document

end SwiftClient
