import SwiftClient.Proofs.Document.Shapes
import SwiftClient.Proofs.Json.Records

/-!
# Reading extended drafts

A reader that takes a record from a draft takes the same from every draft that extends it. It looks
for each field under its name, and what else is there has only to be JSON, or to have a value where
all fields are kept.
-/
namespace SwiftClient.Json

open Draft (Extended ExtendedFields Further)

variable {α β : Type} {m : Medium} {room : ℕ} {kept : Bool} {shape : Shape}

namespace Reader

lemma filterMap_fst_of_values {fields : List (Option String × Draft)} {vs : List (String × Json)}
    (h : List.Forall₂ (fun f v => f.1 = some v.1 ∧ value room f.2 = .ok v.2) fields vs) :
    fields.filterMap (·.1) = vs.map (·.1) := by
  induction h with
  | nil => rfl
  | cons hf _ ih => rw [List.filterMap_cons_some hf.1, ih, List.map_cons]

lemma exists_value_array_iff {items : List Draft} {whole : Bool} :
    (∃ v, value room (.array items whole) = .ok v) ↔
      ∃ inside, room = inside + 1 ∧ whole ∧ ∀ d ∈ items, ∃ v, value inside d = .ok v := by
  simp only [value_array_eq_ok_iff, ← exists_forall₂_iff]
  constructor
  · rintro ⟨_, inside, vs, hroom, hwhole, rfl, hvs⟩
    exact ⟨inside, hroom, hwhole, vs, hvs⟩
  · rintro ⟨inside, hroom, hwhole, vs, hvs⟩
    exact ⟨_, inside, vs, hroom, hwhole, rfl, hvs⟩

lemma exists_value_object_iff {fields : List (Option String × Draft)} {whole : Bool} :
    (∃ v, value room (.object fields whole) = .ok v) ↔ ∃ inside, room = inside + 1 ∧ whole ∧
      ∀ f ∈ fields, f.1.isSome ∧ ∃ v, value inside f.2 = .ok v := by
  have hfield : ∀ inside (f : Option String × Draft), (f.1.isSome ∧ ∃ v, value inside f.2 = .ok v) ↔
      ∃ v : String × Json, f.1 = some v.1 ∧ value inside f.2 = .ok v.2 := fun inside f => by
    simp [Option.isSome_iff_exists]
  simp only [value_object_eq_ok_iff, hfield, ← exists_forall₂_iff]
  constructor
  · rintro ⟨_, inside, vs, hroom, hwhole, rfl, hvs⟩
    exact ⟨inside, hroom, hwhole, vs, hvs⟩
  · rintro ⟨inside, hroom, hwhole, vs, hvs⟩
    exact ⟨_, inside, vs, hroom, hwhole, rfl, hvs⟩

end Reader

/-- Where keys differ, a name is that of one field at most. -/
lemma filter_name_of_distinct {fields : List (Option String × Draft)}
    (h : (fields.filterMap (·.1)).Nodup) (name : String) :
    fields.filter (fun f => f.1 == some name) = [] ∨
      ∃ d, fields.filter (fun f => f.1 == some name) = [(some name, d)] := by
  have hnodup : ((fields.filter fun f => f.1 == some name).filterMap (·.1)).Nodup :=
    h.sublist (List.filter_sublist.filterMap _)
  have hname : ∀ f ∈ fields.filter fun f => f.1 == some name, f.1 = some name := by simp
  rcases hfields : fields.filter fun f => f.1 == some name with
    _ | ⟨⟨key, d⟩, _ | ⟨⟨key', d'⟩, rest⟩⟩
  · exact Or.inl hfields
  · rw [hfields, List.forall_mem_singleton] at hname
    obtain rfl : key = some name := hname
    exact Or.inr ⟨d, hfields⟩
  · rw [hfields, List.forall_mem_cons, List.forall_mem_cons] at hname
    obtain ⟨rfl, rfl, -⟩ : key = some name ∧ key' = some name ∧ _ := hname
    simp [hfields] at hnodup

namespace Draft.ExtendedFields

variable {R : Option String → Draft → Draft → Prop} {Other : Option String × Draft → Prop}
  {fields fields' : List (Option String × Draft)}

lemma filter (h : ExtendedFields R Other fields fields') (p : Option String → Bool) :
    ExtendedFields R (fun f => Other f ∧ p f.1)
      (fields.filter fun f => p f.1) (fields'.filter fun f => p f.1) := by
  obtain ⟨inOrder, further, hinOrder, hfurther, order⟩ := h
  refine ⟨inOrder.filter fun f => p f.1, further.filter fun f => p f.1, ?_, ?_, ?_⟩
  · exact List.rel_filter (fun f f' hf => Eq.congr (congrArg p hf.1.symm) rfl) hinOrder
  · exact fun f hf => ⟨hfurther f (List.mem_of_mem_filter hf), (List.mem_filter.mp hf).2⟩
  · rw [← List.filter_append]
    exact order.filter _

lemma mono {Other' : Option String × Draft → Prop} (h : ExtendedFields R Other fields fields')
    (hother : ∀ f, Other f → Other' f) : ExtendedFields R Other' fields fields' := by
  obtain ⟨inOrder, further, hinOrder, hfurther, order⟩ := h
  exact ⟨inOrder, further, hinOrder, fun f hf => hother f (hfurther f hf), order⟩

lemma forall_mem (h : ExtendedFields R Other fields fields') {q : Option String × Draft → Prop}
    (hq : ∀ f ∈ fields, ∀ d', R f.1 f.2 d' → q (f.1, d')) (hother : ∀ f, Other f → q f) :
    ∀ f' ∈ fields', q f' := by
  obtain ⟨inOrder, further, hinOrder, hfurther, order⟩ := h
  intro f' hf'
  rcases List.mem_append.mp (order.mem_iff.mpr hf') with hmem | hmem
  · refine forall_mem_of_forall₂ hinOrder (fun f hf f' hff' => ?_) f' hmem
    have hf' : f' = (f.1, f'.2) := Prod.ext hff'.1 rfl
    exact hf' ▸ hq f hf f'.2 hff'.2
  · exact hother f' (hfurther f' hmem)

lemma perm_of_none (h : ExtendedFields R Other fields fields') (hother : ∀ f, ¬Other f) :
    ∃ inOrder, List.Forall₂ (fun f f' => f'.1 = f.1 ∧ R f.1 f.2 f'.2) fields inOrder ∧
      inOrder.Perm fields' := by
  obtain ⟨inOrder, further, hinOrder, hfurther, order⟩ := h
  obtain rfl : further = [] :=
    List.eq_nil_iff_forall_not_mem.mpr fun f hf => hother f (hfurther f hf)
  exact ⟨inOrder, hinOrder, by rwa [List.append_nil] at order⟩

lemma forall₂_named (h : ExtendedFields R Other fields fields')
    (hdistinct : (fields.filterMap (·.1)).Nodup) {name : String}
    (hother : ∀ f, Other f → f.1 ≠ some name) :
    List.Forall₂ (fun f f' => f'.1 = f.1 ∧ R f.1 f.2 f'.2)
      (fields.filter fun f => f.1 == some name) (fields'.filter fun f => f.1 == some name) := by
  obtain ⟨inOrder, hinOrder, order⟩ := (h.filter (· == some name)).perm_of_none fun f hf =>
    hother f hf.1 (eq_of_beq hf.2)
  rcases filter_name_of_distinct hdistinct name with hnone | ⟨d, hone⟩
  · rw [hnone] at hinOrder ⊢
    cases hinOrder
    rw [List.nil_perm.mp order]
    exact .nil
  · rw [hone] at hinOrder ⊢
    obtain ⟨f', _, hff', hnil, rfl⟩ := List.forall₂_cons_left_iff.mp hinOrder
    cases hnil
    rw [List.singleton_perm] at order
    rw [← order]
    exact .cons hff' .nil

end Draft.ExtendedFields

namespace Draft

/-- Containers are extended as their members are. -/
@[elab_as_elim]
theorem extendedInduction {P : ∀ {kept shape d d'}, Extended kept shape d d' → Prop}
    (refl : ∀ kept shape d, P (.refl kept shape d))
    (array : ∀ kept shape items items' whole
      (h : Extended kept shape (.array items whole) (.array items' whole)),
      List.Forall₂ (fun d d' => ∃ i, ∃ h : Extended kept (shape.item i) d d', P h) items items' →
      P h)
    (object : ∀ kept shape fields fields' whole
      (h : Extended kept shape (.object fields whole) (.object fields' whole)),
      ExtendedFields
        (fun key d d' =>
          ∃ h : Extended (kept || shape.isTagged) (shape.under fields key) d d', P h)
        (Further (kept || shape.isTagged) shape fields) fields fields' →
      P h)
    {d d' : Draft} (h : Extended kept shape d d') : P h := by
  induction h with
  | refl => exact refl _ _ _
  | @array kept shape items items' whole length inside ih =>
    refine array _ _ _ _ _ (.array length inside) ?_
    exact forall₂_items (R := fun i d d' => ∃ h : Extended kept (shape.item i) d d', P h) length
      fun i d d' hd hd' => ⟨inside i d d' hd hd', ih i d d' hd hd'⟩
  | @object kept shape whole fields inOrder further fields' keys inside outside order ih =>
    have hinOrder := forall₂_fields
      (R := fun key d d' =>
        ∃ h : Extended (kept || shape.isTagged) (shape.under fields key) d d', P h)
      keys fun p hp => ⟨inside p hp, ih p hp⟩
    exact object _ _ _ _ _ (.object keys inside outside order)
      ⟨inOrder, further, hinOrder, outside, order⟩

variable {d d' : Draft}

lemma isWhole_of_isScalar (h : d.isScalar) : d.isWhole := by
  cases d with
  | null | bool | number | string => rfl
  | array | object | fault => cases h

theorem Extended.isWhole (h : Extended kept shape d d') (hd : d.isWhole) : d'.isWhole := by
  induction h using extendedInduction with
  | refl => exact hd
  | array kept shape items items' whole _ inside =>
    rw [Draft.isWhole, Bool.and_eq_true, areWhole_iff] at hd ⊢
    exact ⟨hd.1, forall_mem_of_forall₂ inside fun d hmem d' ⟨_, _, ih⟩ => ih (hd.2 d hmem)⟩
  | object kept shape fields fields' whole _ inside =>
    rw [Draft.isWhole, Bool.and_eq_true, fieldsAreWhole_iff] at hd ⊢
    refine ⟨hd.1, inside.forall_mem (fun f hf d' ⟨_, ih⟩ => ih (hd.2 f hf)) fun f hf => ?_⟩
    exact isWhole_of_isScalar hf.scalar

lemma exists_value_of_isScalar (h : d.isScalar) (hvalue : d.found?.isSome) :
    ∃ v, Reader.value room d = .ok v := by
  cases d with
  | null | bool => cases room <;> exact ⟨_, rfl⟩
  | number n | string n =>
    cases n with
    | none => cases hvalue
    | some n => cases room <;> exact ⟨_, rfl⟩
  | array | object | fault => cases h

/-- What has a value has one still where all further fields have. -/
theorem Extended.exists_value (h : Extended kept shape d d') (hkept : kept)
    (hd : ∃ v, Reader.value room d = .ok v) : ∃ v, Reader.value room d' = .ok v := by
  induction h using extendedInduction generalizing room with
  | refl => exact hd
  | array kept shape items items' whole _ inside =>
    rw [Reader.exists_value_array_iff] at hd ⊢
    obtain ⟨room, hroom, hwhole, hd⟩ := hd
    exact ⟨room, hroom, hwhole,
      forall_mem_of_forall₂ inside fun d hmem d' ⟨_, _, ih⟩ => ih hkept (hd d hmem)⟩
  | object kept shape fields fields' whole _ inside =>
    have hkept' : (kept || shape.isTagged) = true := by rw [hkept, Bool.true_or]
    rw [Reader.exists_value_object_iff] at hd ⊢
    obtain ⟨room, hroom, hwhole, hd⟩ := hd
    refine ⟨room, hroom, hwhole, inside.forall_mem (fun f hf d' ⟨_, ih⟩ => ?_) fun f hf => ?_⟩
    · exact ⟨(hd f hf).1, ih hkept' (hd f hf).2⟩
    · obtain ⟨key, hkey, -⟩ := hf.name
      exact ⟨hkey ▸ rfl, exists_value_of_isScalar hf.scalar (hf.value hkept')⟩

/-- Without a record there is nothing to add, and the value is the same in any order of fields. -/
theorem Extended.value_eq (h : Extended kept shape d d') (hplain : shape = .plain)
    (hdistinct : d.keysDiffer) {v : Json} (hv : Reader.value room d = .ok v) :
    Reader.value room d' = .ok v := by
  induction h using extendedInduction generalizing room v with
  | refl => exact hv
  | array kept shape items items' whole _ inside =>
    subst hplain
    rw [keysDiffer_array] at hdistinct
    rw [Reader.value_array_eq_ok_iff] at hv ⊢
    obtain ⟨room, vs, hroom, hwhole, rfl, hvs⟩ := hv
    refine ⟨room, vs, hroom, hwhole, rfl, ?_⟩
    have hinside : List.Forall₂ (fun d d' => ∀ v, Reader.value room d = .ok v →
        Reader.value room d' = .ok v) items items' :=
      forall₂_imp_of_mem inside fun d hmem d' ⟨_, _, ih⟩ v hv => ih rfl (hdistinct d hmem) hv
    exact (forall₂_comp hinside.flip hvs).imp fun d' v ⟨d, ih, hv⟩ => ih v hv
  | object kept shape fields fields' whole _ inside =>
    subst hplain
    rw [keysDiffer_object] at hdistinct
    rw [Reader.value_object_eq_ok_iff] at hv ⊢
    obtain ⟨room, vs, hroom, hwhole, rfl, hvs⟩ := hv
    obtain ⟨inOrder, hinOrder, order⟩ := inside.perm_of_none fun _ => Further.not_plain
    have hinside : List.Forall₂ (fun f f' => ∀ v : String × Json,
        f.1 = some v.1 ∧ Reader.value room f.2 = .ok v.2 →
          f'.1 = some v.1 ∧ Reader.value room f'.2 = .ok v.2) fields inOrder :=
      forall₂_imp_of_mem hinOrder fun f hf f' ⟨hkey, _, ih⟩ v hv =>
        ⟨hkey.trans hv.1, ih (Shape.under_plain _ _) (hdistinct.2 f hf) hv.2⟩
    have hvalues := (forall₂_comp hinside.flip hvs).imp fun f' v ⟨f, ih, hv⟩ => ih v hv
    obtain ⟨vs', hvs', hperm⟩ := List.perm_comp_forall₂ order.symm hvalues
    refine ⟨room, vs', hroom, hwhole, ?_, hvs'⟩
    -- the fields are read in the order of the text, and sorted again
    have hnodup : (vs.map (·.1)).Nodup := Reader.filterMap_fst_of_values hvs ▸ hdistinct.1
    exact congrArg Json.object (Sorted.ofList_congr hnodup hperm.symm)

end Draft

end SwiftClient.Json
