import Mathlib.Data.List.Forall2
import Mathlib.Data.List.Perm.Basic
import Mathlib.Data.String.Basic
import SwiftClient.Proofs.Json.Drafting
import SwiftClient.Proofs.Json.Reading
import SwiftClient.Proofs.Sorted

/-!
# Order of fields

A writer may put the fields of an object in any order. What depends on the values alone is the same
for each order, and a value whose objects are in order is read back from all of them.
-/
namespace SwiftClient.Json

/-- What holds of a container when it holds of its members holds of all values. -/
@[elab_as_elim]
theorem memberInduction {P : Json → Prop} (null : P .null) (bool : ∀ b, P (.bool b))
    (number : ∀ n, P (.number n)) (string : ∀ s, P (.string s))
    (array : ∀ items, (∀ item ∈ items, P item) → P (.array items))
    (object : ∀ fields, (∀ field ∈ fields, P field.2) → P (.object fields)) (v : Json) : P v := by
  refine @Json.rec P (fun items => ∀ item ∈ items, P item)
    (fun fields => ∀ field ∈ fields, P field.2) (fun field => P field.2) null bool number string
    array object ?_ ?_ ?_ ?_ ?_ v
  · simp
  · exact fun _ _ hitem hrest => List.forall_mem_cons.mpr ⟨hitem, hrest⟩
  · simp
  · exact fun _ _ hfield hrest => List.forall_mem_cons.mpr ⟨hfield, hrest⟩
  · exact fun _ _ hvalue => hvalue

lemma itemsWithoutDoubles_iff {items : List Json} :
    ItemsWithoutDoubles items ↔ ∀ item ∈ items, item.WithoutDoubles := by
  induction items with
  | nil => simp [ItemsWithoutDoubles]
  | cons item rest ih => simp [ItemsWithoutDoubles, ih]

lemma fieldsWithoutDoubles_iff {fields : List (String × Json)} :
    FieldsWithoutDoubles fields ↔ ∀ field ∈ fields, field.2.WithoutDoubles := by
  induction fields with
  | nil => simp [FieldsWithoutDoubles]
  | cons field rest ih => rw [FieldsWithoutDoubles, ih, List.forall_mem_cons]

lemma orderedItems_iff {items : List Json} :
    OrderedItems items ↔ ∀ item ∈ items, item.Ordered := by
  induction items with
  | nil => simp [OrderedItems]
  | cons item rest ih => simp [OrderedItems, ih]

lemma orderedFields_iff {fields : List (String × Json)} :
    OrderedFields fields ↔ ∀ field ∈ fields, field.2.Ordered := by
  induction fields with
  | nil => simp [OrderedFields]
  | cons field rest ih => rw [OrderedFields, ih, List.forall_mem_cons]

lemma depthOfItems_le_iff {items : List Json} {n : ℕ} :
    depthOfItems items ≤ n ↔ ∀ item ∈ items, item.depth ≤ n := by
  induction items with
  | nil => simp [depthOfItems]
  | cons item rest ih => simp [depthOfItems, ih]

lemma depthOfFields_le_iff {fields : List (String × Json)} {n : ℕ} :
    depthOfFields fields ≤ n ↔ ∀ field ∈ fields, field.2.depth ≤ n := by
  induction fields with
  | nil => simp [depthOfFields]
  | cons field rest ih => rw [depthOfFields, max_le_iff, ih, List.forall_mem_cons]

lemma exists_inside {n room : ℕ} (h : n + 1 ≤ room) : ∃ inside, room = inside + 1 :=
  ⟨room - 1, by omega⟩

/-- The same value with the fields of its objects in any order. -/
inductive Rearranged : Json → Json → Prop
  | null : Rearranged .null .null
  | bool (b : Bool) : Rearranged (.bool b) (.bool b)
  | number (n : Number) : Rearranged (.number n) (.number n)
  | string (s : String) : Rearranged (.string s) (.string s)
  | array {items items' : List Json} (h : List.Forall₂ Rearranged items items') :
    Rearranged (.array items) (.array items')
  | object {fields inOrder fields' : List (String × Json)}
    (keys : fields.map (·.1) = inOrder.map (·.1))
    (values : List.Forall₂ Rearranged (fields.map (·.2)) (inOrder.map (·.2)))
    (perm : inOrder.Perm fields') : Rearranged (.object fields) (.object fields')

def RearrangedField (f g : String × Json) : Prop := f.1 = g.1 ∧ f.2.Rearranged g.2

lemma forall₂_rearrangedField {fields fields' : List (String × Json)}
    (keys : fields.map (·.1) = fields'.map (·.1))
    (values : List.Forall₂ Rearranged (fields.map (·.2)) (fields'.map (·.2))) :
    List.Forall₂ RearrangedField fields fields' := by
  induction fields generalizing fields' with
  | nil =>
    obtain rfl : fields' = [] := by simpa using keys.symm
    exact .nil
  | cons f rest ih =>
    cases fields' with
    | nil => cases keys
    | cons g rest' =>
      obtain ⟨hkey, hkeys⟩ := List.cons.inj keys
      obtain ⟨hvalue, hvalues⟩ := List.forall₂_cons.mp values
      exact .cons ⟨hkey, hvalue⟩ (ih hkeys hvalues)

def RearrangedFields (fields fields' : List (String × Json)) : Prop :=
  Relation.Comp (List.Forall₂ RearrangedField) List.Perm fields fields'

lemma Rearranged.of_object {fields : List (String × Json)} {w : Json}
    (h : Rearranged (.object fields) w) :
    ∃ fields', w = .object fields' ∧ RearrangedFields fields fields' := by
  cases h with
  | object keys values perm => exact ⟨_, rfl, _, forall₂_rearrangedField keys values, perm⟩

theorem Rearranged.refl (v : Json) : v.Rearranged v := by
  induction v using memberInduction with
  | null => exact .null
  | bool b => exact .bool b
  | number n => exact .number n
  | string s => exact .string s
  | array items ih => exact .array (List.forall₂_same.mpr ih)
  | object fields ih =>
    refine .object rfl (List.forall₂_same.mpr fun v hv => ?_) (.refl fields)
    obtain ⟨field, hfield, rfl⟩ := List.mem_map.mp hv
    exact ih field hfield

namespace RearrangedFields

variable {fields fields' : List (String × Json)}

lemma of_perm {others : List (String × Json)} (hperm : others.Perm fields)
    (h : RearrangedFields fields fields') : RearrangedFields others fields' := by
  obtain ⟨inOrder, hvalues, hinOrder⟩ := h
  obtain ⟨inOrder', hvalues', hinOrder'⟩ := List.perm_comp_forall₂ hperm hvalues
  exact ⟨inOrder', hvalues', hinOrder'.trans hinOrder⟩

lemma exists_perm (h : RearrangedFields fields fields') :
    ∃ inOrder, fields.Perm inOrder ∧ List.Forall₂ RearrangedField inOrder fields' := by
  rw [RearrangedFields, List.forall₂_comp_perm_eq_perm_comp_forall₂] at h
  exact h

lemma map_fst_perm (h : RearrangedFields fields fields') :
    (fields.map (·.1)).Perm (fields'.map (·.1)) := by
  obtain ⟨inOrder, hvalues, hperm⟩ := h
  have hkeys : inOrder.map (·.1) = fields.map (·.1) :=
    map_eq_map_of_forall₂ hvalues fun _ _ hf => hf.1.symm
  exact hkeys ▸ hperm.map (·.1)

lemma filter (h : RearrangedFields fields fields') (p : String → Bool) :
    RearrangedFields (fields.filter fun f => p f.1) (fields'.filter fun f => p f.1) := by
  obtain ⟨inOrder, hvalues, hperm⟩ := h
  refine ⟨inOrder.filter fun f => p f.1, List.rel_filter (fun f g hf => ?_) hvalues,
    hperm.filter _⟩
  exact Eq.congr (congrArg p hf.1) rfl

lemma exists_of_mem (h : RearrangedFields fields fields') {f : String × Json} (hf : f ∈ fields) :
    ∃ f' ∈ fields', RearrangedField f f' := by
  obtain ⟨inOrder, hvalues, hperm⟩ := h
  obtain ⟨f', hf', hR⟩ := exists_mem_of_forall₂ hvalues hf
  exact ⟨f', hperm.mem_iff.mp hf', hR⟩

lemma forall_mem (h : RearrangedFields fields fields') {q : String × Json → Prop}
    (hq : ∀ f ∈ fields, ∀ f', RearrangedField f f' → q f') : ∀ f' ∈ fields', q f' := by
  obtain ⟨inOrder, hperm, hvalues⟩ := h.exists_perm
  exact forall_mem_of_forall₂ hvalues fun f hf => hq f (hperm.mem_iff.mpr hf)

end RearrangedFields

theorem Rearranged.withoutDoubles {v w : Json} (h : v.Rearranged w) (hv : v.WithoutDoubles) :
    w.WithoutDoubles := by
  induction v using memberInduction generalizing w with
  | null => cases h; trivial
  | bool b => cases h; trivial
  | number n => cases h; exact hv
  | string s => cases h; trivial
  | array items ih =>
    cases h with
    | array hitems =>
      rw [WithoutDoubles, itemsWithoutDoubles_iff] at hv ⊢
      exact forall_mem_of_forall₂ hitems fun item hi _ h => ih item hi h (hv item hi)
  | object fields ih =>
    obtain ⟨fields', rfl, hfields⟩ := h.of_object
    rw [WithoutDoubles, fieldsWithoutDoubles_iff] at hv ⊢
    exact hfields.forall_mem fun f hf _ h => ih f hf h.2 (hv f hf)

namespace Draft

lemma ofItems_eq_map (items : List Json) : ofItems items = items.map ofJson := by
  induction items with
  | nil => rfl
  | cons item rest ih => rw [ofItems, ih, List.map_cons]

lemma ofFields_eq_map (fields : List (String × Json)) :
    ofFields fields = fields.map fun f => (some f.1, ofJson f.2) := by
  induction fields with
  | nil => rfl
  | cons field rest ih => rw [ofFields, ih, List.map_cons]

end Draft

namespace Reader

lemma values_eq_ok {room : ℕ} {items items' : List Json}
    (h : List.Forall₂ (fun v w => value room (.ofJson w) = .ok v) items items') :
    values room (Draft.ofItems items') = .ok items := by
  rw [Draft.ofItems_eq_map, values_eq_ok_iff, List.forall₂_map_left_iff]
  exact h.flip

lemma fieldValues_eq_ok {room : ℕ} {fields fields' : List (String × Json)}
    (h : List.Forall₂ (fun f g => f.1 = g.1 ∧ value room (.ofJson g.2) = .ok f.2) fields fields') :
    fieldValues room (Draft.ofFields fields') = .ok fields := by
  rw [Draft.ofFields_eq_map, fieldValues_eq_ok_iff, List.forall₂_map_left_iff]
  exact h.flip.imp fun g f hf => ⟨congrArg some hf.1.symm, hf.2⟩

/-- A value whose objects are in order is read back from a draft that has their fields in any. -/
theorem value_ofJson {v w : Json} (h : v.Rearranged w) (hv : v.Ordered) {room : ℕ}
    (hroom : v.depth ≤ room) : value room (.ofJson w) = .ok v := by
  induction v using memberInduction generalizing w room with
  | null => cases h; cases room <;> rfl
  | bool b => cases h; cases room <;> rfl
  | number n => cases h; cases room <;> rfl
  | string s => cases h; cases room <;> rfl
  | array items ih =>
    cases h with
    | array hitems =>
      rw [Ordered, orderedItems_iff] at hv
      rw [depth] at hroom
      obtain ⟨room, rfl⟩ := exists_inside hroom
      rw [Nat.add_le_add_iff_right, depthOfItems_le_iff] at hroom
      have hread := values_eq_ok (forall₂_imp_of_mem hitems fun item hi _ h =>
        ih item hi h (hv item hi) (hroom item hi))
      rw [Draft.ofJson, value, hread]
      rfl
  | object fields ih =>
    obtain ⟨fields', rfl, hfields⟩ := h.of_object
    obtain ⟨inOrder, hperm, hvalues⟩ := hfields.exists_perm
    rw [Ordered, orderedFields_iff] at hv
    rw [depth] at hroom
    obtain ⟨room, rfl⟩ := exists_inside hroom
    rw [Nat.add_le_add_iff_right, depthOfFields_le_iff] at hroom
    have hread := fieldValues_eq_ok (forall₂_imp_of_mem hvalues fun f hf _ h => by
      have hmem : f ∈ fields := hperm.mem_iff.mpr hf
      exact And.intro h.1 (ih f hmem h.2 (hv.2 f hmem) (hroom f hmem)))
    -- the fields are read in the order of the text, and sorted again
    rw [Draft.ofJson, value, hread]
    exact congrArg (Except.ok ∘ Json.object) (Sorted.ofList_eq_of_perm hv.1 hperm.symm)

end Reader

end SwiftClient.Json
