import SwiftClient.Proofs.Document.Extended

/-!
# Reading extended records

A reader keeps to what it has read when it reads the same from every draft that extends the first.
A record does so when the readers of its fields do, whether it has a variant or not.
-/
namespace SwiftClient.Json

open Draft (Extended ExtendedFields Further)

variable {α β : Type} {m : Medium} {room : ℕ} {kept : Bool} {shape : Shape}

namespace Reader

/-- What the reader takes from a draft whose keys differ it takes from each that extends it. -/
def KeepsAt (m : Medium) (room : ℕ) (kept : Bool) (shape : Shape) (reader : Reader α) : Prop :=
  ∀ d d' x, d.keysDiffer → Extended kept shape d d' → reader m room d = .ok x →
    reader m room d' = .ok x

lemma keeps_of_scalar {reader : Reader α} (h : ∀ d x, reader m room d = .ok x → d.isScalar) :
    KeepsAt m room kept shape reader := by
  intro d d' x _ hd hread
  rwa [hd.eq_of_isScalar (h d x hread)]

lemma isScalar_of_text {d : Draft} {s : String} (h : text m room d = .ok s) : d.isScalar := by
  cases d with
  | string => rfl
  | null | bool | number | array | object | fault => cases h

lemma keeps_text : KeepsAt m room kept shape text := keeps_of_scalar fun _ _ => isScalar_of_text

lemma keeps_flag : KeepsAt m room kept shape flag := by
  refine keeps_of_scalar fun d b h => ?_
  cases d with
  | bool => rfl
  | null | string | number | array | object | fault => cases h

lemma keeps_status : KeepsAt m room kept shape status := by
  refine keeps_of_scalar fun d n h => ?_
  cases d with
  | number => rfl
  | null | string | bool | array | object | fault => cases h

lemma keeps_any : KeepsAt m room kept .plain any :=
  fun _ _ _ hdistinct h hread => h.value_eq rfl hdistinct hread

lemma keeps_map {reader : Reader α} (h : KeepsAt m room kept shape reader) (f : α → β) :
    KeepsAt m room kept shape fun m room d => (reader m room d).map f := by
  intro d d' y hdistinct hd hread
  obtain ⟨x, hx, rfl⟩ := Outcome.map_eq_ok.mp hread
  exact Outcome.map_eq_ok.mpr ⟨x, h d d' x hdistinct hd hx, rfl⟩

lemma keeps_optional {item : Reader α} (h : KeepsAt m room kept shape item) :
    KeepsAt m room kept shape (optional item) := by
  intro d d' o hdistinct hd hread
  cases hd with
  | refl => exact hread
  | array length inside => exact keeps_map h some _ _ o hdistinct (.array length inside) hread
  | object keys inside outside order =>
    exact keeps_map h some _ _ o hdistinct (.object keys inside outside order) hread

lemma keeps_list {item : Reader α}
    (h : ∀ i inside, inside + 1 = room → KeepsAt m inside kept (shape.item i) item) :
    KeepsAt m room kept shape (list item) := by
  intro d d' xs hdistinct hd hread
  cases hd with
  | refl => exact hread
  | object => cases room <;> cases hread
  | @array _ _ items items' whole length inside =>
    cases room with
    | zero => cases hread
    | succ room =>
      simp only [list, Outcome.bind_eq_ok, Outcome.mapM_eq_ok] at hread ⊢
      obtain ⟨xs, hxs, hread⟩ := hread
      refine ⟨xs, ?_, hread⟩
      rw [Draft.keysDiffer_array] at hdistinct
      have hitems : List.Forall₂ (fun d d' => ∀ x, item m room d = .ok x → item m room d' = .ok x)
          items items' := by
        refine forall₂_imp_of_mem (Draft.forall₂_items length inside) fun d hmem d' hdd' x hx => ?_
        obtain ⟨i, hdd'⟩ := hdd'
        exact h i room rfl d d' x (hdistinct d hmem) hdd' hx
      refine (forall₂_comp hitems.flip hxs).imp fun d' x hd' => ?_
      obtain ⟨d, hdd', hx⟩ := hd'
      exact hdd' x hx

lemma noContent_eq_ok {d : Draft} (h : noContent m d = .ok ()) :
    d = .null ∨ ∃ whole, d = .object [] whole := by
  unfold noContent at h
  split at h
  · exact Or.inl rfl
  · exact Or.inr ⟨_, rfl⟩
  · cases h

lemma choice_object_eq_ok {variants : List (String × α)} {fields : List (Option String × Draft)}
    {whole : Bool} {x : α} (h : choice variants m room (.object fields whole) = .ok x) :
    ∃ key content, fields = [(key, content)] ∧
      (content = .null ∨ ∃ whole, content = .object [] whole) := by
  unfold choice at h
  split at h
  · rename_i hd
    cases hd
  · rename_i name content rest _ hd
    cases hd
    split_ifs at h with hlast <;>
      simp only [Outcome.bind_eq_ok, reduceCtorEq, false_and, and_false, exists_false] at h
    obtain ⟨_, _, _, hcontent, _⟩ := h
    rw [Bool.and_eq_true, List.isEmpty_iff] at hlast
    exact ⟨some name, content, by rw [hlast.1], noContent_eq_ok hcontent⟩
  · cases h
  · rename_i name content _ _ hd
    cases hd
    simp only [Outcome.bind_eq_ok] at h
    obtain ⟨_, _, _, hcontent, _⟩ := h
    exact ⟨some name, content, rfl, noContent_eq_ok hcontent⟩
  · cases h
  · cases h

/-- Where there is no record, an object with one field at most has nothing to put in order. -/
lemma eq_of_extended_empty {d d' : Draft} (h : Extended kept .plain d d')
    (hd : d = .null ∨ ∃ whole, d = .object [] whole) : d' = d := by
  rcases hd with rfl | ⟨whole, rfl⟩
  · exact h.eq_of_isScalar rfl
  · obtain ⟨fields', rfl, hfields⟩ := Draft.extended_object_iff.mp h
    obtain ⟨inOrder, hinOrder, order⟩ := hfields.perm_of_none fun _ => Further.not_plain
    cases hinOrder
    rw [List.nil_perm.mp order]

lemma keeps_choice (variants : List (String × α)) :
    KeepsAt m room kept .plain (choice variants) := by
  intro d d' x _ hd hread
  cases d with
  | null | bool | number | array | fault => cases m <;> cases hread
  | string => rwa [hd.eq_of_isScalar rfl]
  | object fields whole =>
    obtain ⟨key, content, rfl, hcontent⟩ := choice_object_eq_ok hread
    obtain ⟨fields', rfl, hfields⟩ := Draft.extended_object_iff.mp hd
    obtain ⟨inOrder, hinOrder, order⟩ := hfields.perm_of_none fun _ => Further.not_plain
    obtain ⟨⟨key', content'⟩, _, ⟨rfl, hsame⟩, hnil, rfl⟩ := List.forall₂_cons_left_iff.mp hinOrder
    cases hnil
    rw [Shape.under_plain] at hsame
    obtain rfl : content' = content := eq_of_extended_empty hsame hcontent
    rwa [← List.singleton_perm.mp order]

end Reader

namespace Portion

/-- What is read from one part of a record is read from another. -/
def Carries (p p' : Portion α) : Prop := ∀ x, p = .read x → p' = .read x

namespace Carries

lemma map {p p' : Portion α} (h : p.Carries p') (f : α → β) : (f <$> p).Carries (f <$> p') := by
  intro y hy
  obtain ⟨x, hx, rfl⟩ := map_eq_read.mp hy
  exact map_eq_read.mpr ⟨x, h x hx, rfl⟩

lemma seq {f f' : Portion (α → β)} {p p' : Portion α} (hf : f.Carries f') (h : p.Carries p') :
    (f <*> p).Carries (f' <*> p') := by
  intro y hy
  obtain ⟨g, x, hg, hx, rfl⟩ := seq_eq_read.mp hy
  exact seq_eq_read.mpr ⟨g, x, hf g hg, h x hx, rfl⟩

end Carries

end Portion

lemma Draft.Further.exists_key {type : RecordType} {fields : List (Option String × Draft)}
    {f : Option String × Draft} (h : Further kept (.record type) fields f) :
    ∃ key, f.1 = some key ∧ key ∉ type.layout.map (·.1) := by
  obtain ⟨key, hkey, hfresh⟩ := h.name
  exact ⟨key, hkey, Shape.not_mem_layout_of_record hfresh⟩

inductive Slot.Extended (kept : Bool) (shape : Shape) : Slot → Slot → Prop
  | filled {place place' : ℕ} {d d' : Draft} (distinct : d.keysDiffer)
    (inside : Draft.Extended kept shape d d') :
    Slot.Extended kept shape (.filled place d) (.filled place' d')
  | missing {place place' : ℕ} {fault fault' : Fault} :
    Slot.Extended kept shape (.missing place fault) (.missing place' fault')
  | cut {place place' : ℕ} : Slot.Extended kept shape (.cut place) (.cut place')

namespace Record

/-- What the first record has for its fields, the second has too. -/
structure ExtendedTo (kept : Bool) (layout : Layout) (r r' : Record) : Prop where
  medium : r'.medium = r.medium
  room : r'.room = r.room
  slots : ∀ name shape, layout.lookup name = some shape →
    Slot.Extended kept shape (r.slot name) (r'.slot name)

namespace ExtendedTo

variable {layout : Layout} {r r' : Record} {reader : Reader α}

lemma required (h : r.ExtendedTo kept layout r') (name : String)
    (hname : layout.lookup name = some shape)
    (hreader : reader.KeepsAt r.medium r.room kept shape) :
    (r.required name reader).Carries (r'.required name reader) := by
  intro x hx
  have hslot := h.slots name shape hname
  rw [Record.required] at hx ⊢
  generalize r.slot name = slot at hslot hx
  generalize r'.slot name = slot' at hslot ⊢
  cases hslot with
  | @filled _ _ d d' distinct inside =>
    rw [h.medium, h.room]
    exact Portion.ofExcept_eq_read.mpr
      (hreader d d' x distinct inside (Portion.ofExcept_eq_read.mp hx))
  | missing | cut => cases hx

lemma withDefault (h : r.ExtendedTo kept layout r') (name : String) (absent : α)
    (hname : layout.lookup name = some shape)
    (hreader : reader.KeepsAt r.medium r.room kept shape) :
    (r.withDefault name reader absent).Carries (r'.withDefault name reader absent) := by
  intro x hx
  have hslot := h.slots name shape hname
  rw [Record.withDefault] at hx ⊢
  generalize r.slot name = slot at hslot hx
  generalize r'.slot name = slot' at hslot ⊢
  cases hslot with
  | @filled _ _ d d' distinct inside =>
    rw [h.medium, h.room]
    exact Portion.ofExcept_eq_read.mpr
      (hreader d d' x distinct inside (Portion.ofExcept_eq_read.mp hx))
  | missing => exact hx
  | cut => cases hx

lemma optional (h : r.ExtendedTo kept layout r') (name : String)
    (hname : layout.lookup name = some shape)
    (hreader : reader.KeepsAt r.medium r.room kept shape) :
    (r.optional name reader).Carries (r'.optional name reader) :=
  h.withDefault name none hname (Reader.keeps_optional hreader)

lemma present (h : r.ExtendedTo kept layout r') (name : String)
    (hname : layout.lookup name = some shape)
    (hreader : reader.KeepsAt r.medium r.room kept shape) :
    (r.present name reader).Carries (r'.present name reader) :=
  h.withDefault name none hname (Reader.keeps_map hreader some)

end ExtendedTo

variable {r r' : Record}

lemma slot_extended {R : Option String → Draft → Draft → Prop}
    {Other : Option String × Draft → Prop} (hr : r.positional = false) (hr' : r'.positional = false)
    (hfields : ExtendedFields R Other r.fields r'.fields)
    (hdistinct : (r.fields.filterMap (·.1)).Nodup) (hdiffer : ∀ f ∈ r.fields, f.2.keysDiffer)
    {name : String} (hinside : ∀ d d', R (some name) d d' → Draft.Extended kept shape d d')
    (hother : ∀ f, Other f → f.1 ≠ some name) :
    Slot.Extended kept shape (r.slot name) (r'.slot name) := by
  have hnamed := hfields.forall₂_named hdistinct hother
  have hlookup := lookup_eq_of_filter r.fields name
  have hlookup' := lookup_eq_of_filter r'.fields name
  rcases filter_name_of_distinct hdistinct name with hnone | ⟨d, hone⟩
  · rw [hnone] at hnamed hlookup
    rw [List.forall₂_nil_left_iff.mp hnamed] at hlookup'
    obtain ⟨place, fault, hslot⟩ := slot_of_lookup_none hr hlookup
    obtain ⟨place', fault', hslot'⟩ := slot_of_lookup_none hr' hlookup'
    rw [hslot, hslot']
    exact .missing
  · rw [hone] at hnamed hlookup
    obtain ⟨f', _, hff', hnil, hone'⟩ := List.forall₂_cons_left_iff.mp hnamed
    cases hnil
    rw [hone'] at hlookup'
    obtain ⟨place, hslot⟩ := slot_of_lookup hr hlookup
    obtain ⟨place', hslot'⟩ := slot_of_lookup hr' hlookup'
    have hmem : (some name, d) ∈ r.fields :=
      List.mem_of_mem_filter (hone ▸ List.mem_singleton_self _)
    rw [hslot, hslot']
    exact .filled (hdiffer _ hmem) (hinside d f'.2 hff'.2)

lemma extendedTo_of_fields {layout : Layout} {R : Option String → Draft → Draft → Prop}
    {Other : Option String × Draft → Prop} (hmedium : r'.medium = r.medium)
    (hroom : r'.room = r.room) (hr : r.positional = false) (hr' : r'.positional = false)
    (hfields : ExtendedFields R Other r.fields r'.fields)
    (hdistinct : (r.fields.filterMap (·.1)).Nodup) (hdiffer : ∀ f ∈ r.fields, f.2.keysDiffer)
    (hinside : ∀ name shape, layout.lookup name = some shape →
      ∀ d d', R (some name) d d' → Draft.Extended kept shape d d')
    (hother : ∀ f, Other f → ∃ key, f.1 = some key ∧ key ∉ layout.map (·.1)) :
    r.ExtendedTo kept layout r' := by
  refine ⟨hmedium, hroom, fun name shape hname => ?_⟩
  refine slot_extended hr hr' hfields hdistinct hdiffer (hinside name shape hname) ?_
  rintro f hf hf'
  obtain ⟨key, hkey, hfresh⟩ := hother f hf
  obtain rfl : key = name := Option.some.inj (hkey.symm.trans hf')
  exact hfresh (Layout.mem_of_lookup hname)

/-- The fields that a type of record has itself, with a variant or without. -/
lemma extendedTo_of_type {type : RecordType} (hmedium : r'.medium = r.medium)
    (hroom : r'.room = r.room) (hr : r.positional = false) (hr' : r'.positional = false)
    (hfields : ExtendedFields
      (fun key => Draft.Extended kept ((Shape.record type).under r.fields key))
      (Further kept (.record type) r.fields) r.fields r'.fields)
    (hdistinct : (r.fields.filterMap (·.1)).Nodup) (hdiffer : ∀ f ∈ r.fields, f.2.keysDiffer) :
    r.ExtendedTo kept type.layout r' :=
  extendedTo_of_fields hmedium hroom hr hr' hfields hdistinct hdiffer
    (fun _ _ hname _ _ hdd' => Shape.under_record hname r.fields ▸ hdd') fun _ hf => hf.exists_key

lemma extendedTo_of_items {type : RecordType} {title : String} {items items' : List Draft}
    {whole : Bool} (hlength : items'.length = items.length) (hdiffer : ∀ d ∈ items, d.keysDiffer)
    (hitems : ∀ i d d', items[i]? = some d → items'[i]? = some d' →
      Draft.Extended kept ((Shape.record type).item i) d d') :
    ExtendedTo kept type.layout
      ⟨m, room, title, type.layout.map (·.1), items.map (none, ·), true, whole⟩
      ⟨m, room, title, type.layout.map (·.1), items'.map (none, ·), true, whole⟩ := by
  refine ⟨rfl, rfl, fun name shape hname => ?_⟩
  have hposition := Layout.getElem?_of_lookup hname
  simp only [slot, if_true, List.getElem?_map]
  generalize (type.layout.map (·.1)).idxOf name = i at hposition ⊢
  have hitem : (Shape.record type).item i = shape := by rw [Shape.item, hposition]; rfl
  cases hd : items[i]? with
  | none =>
    have hd' : items'[i]? = none := by
      rwa [List.getElem?_eq_none_iff, hlength, ← List.getElem?_eq_none_iff]
    rw [hd']
    cases whole with
    | true => exact .missing
    | false => exact .cut
  | some d =>
    obtain ⟨hi, rfl⟩ := List.getElem?_eq_some_iff.mp hd
    have hd' := List.getElem?_eq_getElem (hlength ▸ hi : i < items'.length)
    rw [hd']
    exact .filled (hdiffer _ (List.getElem_mem hi)) (hitem ▸ hitems i _ _ hd hd')

/-- Fields that pass are still those of a record when they are extended by others that pass. -/
lemma checkFields_extended {names : List String} {unasked : Draft → Except Fault Unit}
    {R : Option String → Draft → Draft → Prop} {Other : Option String × Draft → Prop}
    {fields fields' : List (Option String × Draft)}
    (hfields : ExtendedFields R Other fields fields')
    (hinside : ∀ key d d', R key d d' → unasked d = .ok () → unasked d' = .ok ())
    (hother : ∀ f, Other f → ∃ key, f.1 = some key ∧ key ∉ names ∧ unasked f.2 = .ok ())
    (h : checkFields names unasked 0 [] fields = .read ()) :
    checkFields names unasked 0 [] fields' = .read () := by
  rw [checkFields_eq_read_iff] at h ⊢
  obtain ⟨hjudged, hnodup, -⟩ := h
  refine ⟨hfields.forall_mem (fun f hf d' hR => ?_) fun f hf => ?_, ?_, by simp⟩
  · obtain ⟨key, hkey, hpass⟩ := hjudged f hf
    exact ⟨key, hkey, hpass.imp id (hinside _ _ _ hR)⟩
  · obtain ⟨key, hkey, -, hpass⟩ := hother f hf
    exact ⟨key, hkey, Or.inr hpass⟩
  · obtain ⟨inOrder, further, hinOrder, hfurther, order⟩ := hfields
    have hmap : inOrder.map (·.1) = fields.map (·.1) :=
      map_eq_map_of_forall₂ hinOrder fun _ _ hf => hf.1
    have hkeys := congrArg (List.filterMap id) hmap
    rw [List.filterMap_map, List.filterMap_map, Function.id_comp] at hkeys
    have hunknown : (further.filterMap (·.1)).filter (· ∈ names) = [] := by
      refine List.filter_eq_nil_iff.mpr fun key hkey => ?_
      obtain ⟨f, hf, hname⟩ := List.mem_filterMap.mp hkey
      obtain ⟨key', hkey', hfresh, -⟩ := hother f (hfurther f hf)
      obtain rfl : key' = key := Option.some.inj (hkey'.symm.trans hname)
      simpa using hfresh
    refine (((order.filterMap _).filter _).nodup_iff).mp ?_
    rw [List.filterMap_append, List.filter_append, hkeys, hunknown, List.append_nil]
    exact hnodup

theorem readJudging_extended {unasked : Draft → Except Fault Unit} {body : Record → Portion α}
    {R : Option String → Draft → Draft → Prop} {Other : Option String × Draft → Prop} {x : α}
    (h : r.readJudging unasked body = .ok x) (hbody : (body r).Carries (body r'))
    (hr : r.positional = false) (hr' : r'.positional = false) (hnames : r'.names = r.names)
    (hwhole : r'.whole = r.whole) (hfields : ExtendedFields R Other r.fields r'.fields)
    (hinside : ∀ key d d', R key d d' → unasked d = .ok () → unasked d' = .ok ())
    (hother : ∀ f, Other f → ∃ key, f.1 = some key ∧ key ∉ r.names ∧ unasked f.2 = .ok ()) :
    r'.readJudging unasked body = .ok x := by
  rw [readJudging_eq_ok_iff, checkEnd_eq_read_iff, hr] at h
  rw [readJudging_eq_ok_iff, checkEnd_eq_read_iff, hr', hnames, hwhole]
  obtain ⟨hcheck, ⟨-, hend⟩, hx⟩ := h
  have hcheck' := checkFields_extended hfields hinside hother (hcheck.resolve_left (by simp))
  exact ⟨Or.inr hcheck', ⟨by simp, hend⟩, hbody x hx⟩

end Record

namespace Reader

theorem keeps_record {type : RecordType} (title : String) {names : List String}
    {body : Record → Portion α} (hnames : type.layout.map (·.1) = names)
    (htagged : type.isTagged = false)
    (hbody : ∀ r r' : Record, r.ExtendedTo kept type.layout r' → r.medium = m →
      r.room + 1 = room → (body r).Carries (body r')) :
    KeepsAt m room kept (.record type) (record title names body) := by
  subst hnames
  intro d d' x hdistinct hd hread
  cases d with
  | null | bool | number | string | fault => cases room <;> cases hread
  | object fields whole =>
    cases room with
    | zero => cases hread
    | succ room =>
      obtain ⟨fields', rfl, hfields⟩ := Draft.extended_object_iff.mp hd
      rw [Draft.keysDiffer_object] at hdistinct
      rw [Shape.isTagged, htagged, Bool.or_false] at hfields
      have hcarries := hbody ⟨m, room, title, type.layout.map (·.1), fields, false, whole⟩
        ⟨m, room, title, type.layout.map (·.1), fields', false, whole⟩
        (Record.extendedTo_of_type rfl rfl rfl rfl hfields hdistinct.1 hdistinct.2) rfl rfl
      refine Record.readJudging_extended hread hcarries rfl rfl rfl rfl hfields ?_ fun f hf => ?_
      · simp only [Record.passedOver_eq_ok_iff]
        exact fun key d d' => Draft.Extended.isWhole
      · obtain ⟨key, hkey, hfresh⟩ := hf.exists_key
        exact ⟨key, hkey, hfresh,
          Record.passedOver_eq_ok_iff.mpr (Draft.isWhole_of_isScalar hf.scalar)⟩
  | array items whole =>
    cases room with
    | zero => cases hread
    | succ room =>
      obtain ⟨items', rfl, hlength, hitems⟩ := Draft.extended_array_iff.mp hd
      rw [Draft.keysDiffer_array] at hdistinct
      rw [record, Record.read, Record.readJudging_eq_ok_iff, Record.checkEnd_eq_read_iff] at hread ⊢
      obtain ⟨-, hend, hx⟩ := hread
      refine ⟨Or.inl rfl, ?_, hbody _ _ ?_ rfl rfl x hx⟩
      · simpa [hlength] using hend
      · exact Record.extendedTo_of_items hlength hdistinct hitems

end Reader

/-- The fields of two records of a type that has a variant. -/
structure Record.ExtendedWith (type : RecordType) (r r' : Record) : Prop where
  room : r'.room = r.room
  named : r'.names = r.names
  names : r.names = type.layout.map (·.1)
  fields : ExtendedFields (fun key => Extended true ((Shape.record type).under r.fields key))
    (Further true (.record type) r.fields) r.fields r'.fields
  distinct : (r.fields.filterMap (·.1)).Nodup
  differ : ∀ f ∈ r.fields, f.2.keysDiffer

namespace Reader

lemma valued_eq_ok_iff {d : Draft} :
    ((value room d).map fun _ => ()) = .ok () ↔ ∃ v, value room d = .ok v := by
  simp [Outcome.map_eq_ok]

theorem keeps_openRecord {type : RecordType} (title : String) {names : List String}
    {body : Record → Portion α} (hnames : type.layout.map (·.1) = names)
    (htagged : type.isTagged)
    (hbody : ∀ r r' : Record, r.ExtendedTo true type.layout r' → r.ExtendedWith type r' →
      r.medium = m → r.room + 1 = room → (body r).Carries (body r')) :
    KeepsAt m room kept (.record type) (openRecord title names body) := by
  subst hnames
  intro d d' x hdistinct hd hread
  cases d with
  | null | bool | number | string | array | fault => cases room <;> cases hread
  | object fields whole =>
    cases room with
    | zero => cases hread
    | succ room =>
      obtain ⟨fields', rfl, hfields⟩ := Draft.extended_object_iff.mp hd
      rw [Draft.keysDiffer_object] at hdistinct
      rw [Shape.isTagged, htagged, Bool.or_true] at hfields
      have hcarries := hbody ⟨m, room, title, type.layout.map (·.1), fields, false, whole⟩
        ⟨m, room, title, type.layout.map (·.1), fields', false, whole⟩
        (Record.extendedTo_of_type rfl rfl rfl rfl hfields hdistinct.1 hdistinct.2)
        ⟨rfl, rfl, rfl, hfields, hdistinct.1, hdistinct.2⟩ rfl rfl
      refine Record.readJudging_extended hread hcarries rfl rfl rfl rfl hfields ?_ fun f hf => ?_
      · simp only [valued_eq_ok_iff]
        exact fun key d d' hdd' => hdd'.exists_value rfl
      · obtain ⟨key, hkey, hfresh⟩ := hf.exists_key
        exact ⟨key, hkey, hfresh,
          valued_eq_ok_iff.mpr (Draft.exists_value_of_isScalar hf.scalar (hf.value rfl))⟩

lemma isScalar_of_variantOfTag {variants : List (String × α)} {d : Draft} {v : α}
    (h : variantOfTag variants m d = .ok v) : d.isScalar := by
  cases d with
  | null | bool | number | string => rfl
  | array | object | fault => cases m <;> cases h

end Reader

namespace Record.ExtendedWith

variable {type : RecordType} {r r' : Record} {tag : String} {variants : List (String × β)}

lemma others_eq_filter (r : Record) :
    r.others = r.fields.filter fun f => f.1.elim false (· ∉ r.names) := by
  refine List.filter_congr fun f _ => ?_
  rcases f with ⟨_ | key, d⟩ <;> rfl

lemma others (h : r.ExtendedWith type r') :
    ExtendedFields (fun key => Extended true ((Shape.record type).under r.fields key))
      (Further true (.record type) r.fields) r.others r'.others := by
  rw [others_eq_filter, others_eq_filter, h.named]
  exact (h.fields.filter fun key => key.elim false (· ∉ r.names)).mono fun f hf => hf.1

lemma filter_others (h : tag ∉ r.names) :
    (r.others.filter fun f => f.1 == some tag) = r.fields.filter fun f => f.1 == some tag := by
  rw [Record.others, List.filter_filter]
  refine List.filter_congr fun f _ => ?_
  by_cases hf : f.1 = some tag <;> simp [hf, h]

/-- The tag of both records names the same variant, which the fields of the first show. -/
lemma tagged (h : r.ExtendedWith type r') (htag : tag ∉ r.names)
    (hlayout : tag ∈ ((Shape.record type).layout r.fields).map (·.1)) {v : β}
    {own : List (Option String × Draft)}
    (hv : Reader.tagged tag variants .aside r.others = .ok (v, own)) :
    variantIn tag variants r.fields = some v ∧
      Reader.tagged tag variants .aside r'.others =
        .ok (v, r'.others.filter fun f => f.1 != some tag) := by
  obtain ⟨f, hf, hvariant, -⟩ := Reader.tagged_eq_ok_iff.mp hv
  have hscalar : f.2.isScalar := Reader.isScalar_of_variantOfTag hvariant
  have hfields : (r.fields.filter fun f => f.1 == some tag) = [f] := filter_others htag ▸ hf
  constructor
  · rw [variantIn, lookup_eq_of_filter, hfields]
    simp [hvariant, Except.toOption]
  · have hnamed := h.fields.forall₂_named h.distinct fun f hf hf' => by
      obtain ⟨key, hkey, hfresh⟩ := hf.name
      obtain rfl : key = tag := Option.some.inj (hkey.symm.trans hf')
      exact hfresh hlayout
    rw [hfields] at hnamed
    obtain ⟨f', _, hff', hnil, hfields'⟩ := List.forall₂_cons_left_iff.mp hnamed
    cases hnil
    refine Reader.tagged_eq_ok_iff.mpr ⟨f', ?_, ?_, rfl⟩
    · rw [filter_others (h.named ▸ htag), hfields']
    · rwa [hff'.2.eq_of_isScalar hscalar]

theorem variant {namesOf : β → List String} {layoutOf : β → Layout} {body : Record → β → Portion α}
    (h : r.ExtendedWith type r')
    (hlayout : ∀ fields, type.variantLayout fields =
      (tag, .plain) :: (variantIn tag variants fields).elim [] layoutOf)
    (hnames : ∀ v, (layoutOf v).map (·.1) = namesOf v)
    (hown : ∀ v, ∀ name ∈ tag :: namesOf v, name ∉ type.layout.map (·.1))
    (htag : ∀ v, tag ∉ namesOf v)
    (hbody : ∀ v (q q' : Record), q.ExtendedTo true (layoutOf v) q' → q.medium = .aside →
      q.room = r.room → (body q v).Carries (body q' v)) :
    (r.afterwards do
      let (v, fields) ← Reader.tagged tag variants .aside r.others
      Reader.variantRecord r.room fields (namesOf v) (body · v)).Carries
    (r'.afterwards do
      let (v, fields) ← Reader.tagged tag variants .aside r'.others
      Reader.variantRecord r'.room fields (namesOf v) (body · v)) := by
  intro x hx
  rw [afterwards, Portion.ofExcept_eq_read, Outcome.bind_eq_ok] at hx ⊢
  obtain ⟨⟨v, own⟩, hv, hread⟩ := hx
  have hmem : tag ∈ ((Shape.record type).layout r.fields).map (·.1) := by
    simp [Shape.layout, hlayout]
  have htag' : tag ∉ r.names := h.names ▸ hown v tag List.mem_cons_self
  obtain ⟨hvariant, htagged⟩ := h.tagged htag' hmem hv
  obtain ⟨-, -, -, rfl⟩ := Reader.tagged_eq_ok_iff.mp hv
  have hown' : type.variantLayout r.fields = (tag, .plain) :: layoutOf v := by
    rw [hlayout, hvariant, Option.elim_some]
  have hfields := (h.others.filter (· != some tag)).mono fun f hf => hf.1
  have hsublist : (r.others.filter fun f => f.1 != some tag).Sublist r.fields :=
    List.filter_sublist.trans List.filter_sublist
  have hfresh : ∀ f, Further true (.record type) r.fields f →
      ∃ key, f.1 = some key ∧ key ∉ (layoutOf v).map (·.1) := by
    intro f hf
    obtain ⟨key, hkey, hkey'⟩ := hf.name
    refine ⟨key, hkey, fun hmem => hkey' ?_⟩
    rw [Shape.layout, hown', List.map_append, List.map_cons]
    exact List.mem_append_right _ (List.mem_cons_of_mem _ hmem)
  have hextended : ExtendedTo true (layoutOf v)
      ⟨.aside, r.room, "", namesOf v, r.others.filter fun f => f.1 != some tag, false, true⟩
      ⟨.aside, r'.room, "", namesOf v, r'.others.filter fun f => f.1 != some tag, false, true⟩ := by
    refine extendedTo_of_fields rfl h.room rfl rfl hfields
      (h.distinct.sublist (hsublist.filterMap _)) (fun f hf => h.differ f (hsublist.subset hf)) ?_
      hfresh
    intro name shape hname d d' hdd'
    have hmem : name ∈ namesOf v := hnames v ▸ Layout.mem_of_lookup hname
    have hne : name ≠ tag := fun heq => htag v (heq ▸ hmem)
    rwa [Shape.under_variant hown' hname (hown v name (List.mem_cons_of_mem _ hmem)) hne] at hdd'
  refine ⟨(v, _), htagged, ?_⟩
  dsimp only at hread ⊢
  rw [Reader.variantRecord, Record.read] at hread ⊢
  refine readJudging_extended hread (hbody v _ _ hextended rfl rfl) rfl rfl rfl rfl hfields ?_
    fun f hf => ?_
  · simp only [passedOver_eq_ok_iff]
    exact fun key d d' => Draft.Extended.isWhole
  · obtain ⟨key, hkey, hkey'⟩ := hfresh f hf
    exact ⟨key, hkey, hnames v ▸ hkey',
      passedOver_eq_ok_iff.mpr (Draft.isWhole_of_isScalar hf.scalar)⟩

end Record.ExtendedWith

end SwiftClient.Json
