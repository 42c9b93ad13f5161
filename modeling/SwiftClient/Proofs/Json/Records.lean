import SwiftClient.Proofs.Json.Rearranged

/-!
# Reading what was written

A record is written as an object of the fields that have a value. Its reader finds each of them
under its name, in whatever order they stand, and takes a field that is not there for nothing.
-/
namespace SwiftClient.Json

variable {α : Type} {m : Medium} {room : ℕ}

lemma string_ne_null (s : String) : string s ≠ .null := by
  intro h
  cases h

lemma ofNat_ne_null (n : ℕ) : ofNat n ≠ .null := by
  intro h
  cases h

lemma ofList_ne_null (encode : α → Json) (xs : List α) : ofList encode xs ≠ .null := by
  intro h
  cases h

lemma ofPresent_ne_null (listed : List (String × Option Json)) : ofPresent listed ≠ .null := by
  intro h
  cases h

namespace Reader

/-- From the medium and with the room given, the reader takes a draft of the value for `x`,
whatever the order of the fields in it. -/
def ReadsAt (m : Medium) (room : ℕ) (reader : Reader α) (v : Json) (x : α) : Prop :=
  ∀ w, v.Rearranged w → v.Ordered → v.depth ≤ room → reader m room (.ofJson w) = .ok x

lemma reads_text (s : String) : ReadsAt m room text (.string s) s := by
  intro w h _ _
  cases h
  rfl

lemma reads_flag (b : Bool) : ReadsAt m room flag (.bool b) b := by
  intro w h _ _
  cases h
  rfl

lemma reads_status {n : ℕ} (hn : n < 65536) : ReadsAt m room status (ofNat n) n := by
  intro w h _ _
  cases h
  have hrange : (0 : ℤ) ≤ n ∧ (n : ℤ) < 65536 := by omega
  simp only [Draft.ofJson, status, if_pos hrange, Int.toNat_natCast]

lemma reads_any (v : Json) : ReadsAt m room any v v :=
  fun _ h hv hroom => value_ofJson h hv hroom

lemma reads_choice {variants : List (String × α)} {name : String} {x : α}
    (h : variants.lookup name = some x) : ReadsAt m room (choice variants) (.string name) x := by
  intro w hw _ _
  cases hw
  simp only [Draft.ofJson, choice, variantNamed, h]

lemma reads_list {item : Reader α} {encode : α → Json} (xs : List α)
    (h : ∀ x ∈ xs, ∀ inside, inside + 1 = room → ReadsAt m inside item (encode x) x) :
    ReadsAt m room (list item) (ofList encode xs) xs := by
  intro w hw hv hroom
  cases hw with
  | @array _ items' hitems =>
    rw [ofList, Ordered, orderedItems_iff] at hv
    rw [ofList, depth] at hroom
    obtain ⟨room, rfl⟩ := exists_inside hroom
    rw [Nat.add_le_add_iff_right, depthOfItems_le_iff] at hroom
    have hread : (Draft.ofItems items').mapM (item m room) = .ok xs := by
      rw [Draft.ofItems_eq_map, Outcome.mapM_eq_ok, List.forall₂_map_left_iff]
      refine List.Forall₂.flip (forall₂_imp_of_mem (List.forall₂_map_left_iff.mp hitems) ?_)
      intro x hx w hw
      have hmem : encode x ∈ xs.map encode := List.mem_map_of_mem hx
      exact h x hx room rfl w hw (hv _ hmem) (hroom _ hmem)
    rw [Draft.ofJson, list, hread]
    rfl

lemma reads_texts (xs : List String) : ReadsAt m room (list text) (ofStrings xs) xs :=
  reads_list xs fun x _ _ _ => reads_text x

lemma reads_optional {item : Reader α} {v : Json} {x : α} (h : ReadsAt m room item v x)
    (hnull : v ≠ .null) : ReadsAt m room (optional item) v (some x) := by
  intro w hw hv hroom
  have hread : optional item m room (.ofJson w) = (item m room (.ofJson w)).map some := by
    cases hw <;> first | rfl | exact absurd rfl hnull
  rw [hread, h w hw hv hroom]
  rfl

end Reader

def present (listed : List (String × Option Json)) : List (String × Json) :=
  listed.filterMap fun f => f.2.map (f.1, ·)

lemma ofPresent_eq (listed : List (String × Option Json)) :
    ofPresent listed = .object (Sorted.ofList (present listed)) := rfl

lemma mem_present {listed : List (String × Option Json)} {name : String} {v : Json} :
    (name, v) ∈ present listed ↔ (name, some v) ∈ listed := by
  simp only [present, List.mem_filterMap, Option.map_eq_some_iff, Prod.mk.injEq]
  constructor
  · rintro ⟨⟨name', v'⟩, hmem, v, rfl, rfl, rfl⟩
    exact hmem
  · exact fun h => ⟨(name, some v), h, v, rfl, rfl, rfl⟩

lemma map_fst_present_sublist (listed : List (String × Option Json)) :
    ((present listed).map (·.1)).Sublist (listed.map (·.1)) := by
  induction listed with
  | nil => exact .slnil
  | cons f rest ih =>
    rcases f with ⟨name, _ | v⟩
    · exact ih.cons name
    · exact ih.cons_cons name

lemma present_filter (listed : List (String × Option Json)) (p : String → Bool) :
    present (listed.filter fun f => p f.1) = (present listed).filter fun f => p f.1 := by
  simp only [present, List.filter_filterMap, List.filterMap_filter]
  refine List.filterMap_congr fun f _ => ?_
  cases f.2 <;> by_cases hp : p f.1 <;> simp [Option.filter, hp]

/-- Drafts of the fields listed that have a value, in any order. -/
structure Listing (room : ℕ) (listed : List (String × Option Json))
    (drafts : List (Option String × Draft)) : Prop where
  drafted : ∃ fields, RearrangedFields (present listed) fields ∧ drafts = Draft.ofFields fields
  nodup : (listed.map (·.1)).Nodup
  fits : ∀ name v, (name, some v) ∈ listed → v.Ordered ∧ v.depth ≤ room

lemma Draft.lookup_ofFields (fields : List (String × Json)) (name : String) :
    (ofFields fields).lookup (some name) = (fields.lookup name).map ofJson := by
  induction fields with
  | nil => rfl
  | cons f rest ih =>
    rcases f with ⟨key, v⟩
    by_cases h : name = key
    · simp [ofFields, h]
    · have hkey : (name == key) = false := beq_false_of_ne h
      simp [ofFields, List.lookup_cons, hkey, ih]

lemma lookup_of_nodup {fields : List (String × Json)} (hnodup : (fields.map (·.1)).Nodup)
    {name : String} {v : Json} (hv : (name, v) ∈ fields) : fields.lookup name = some v := by
  obtain ⟨before, after, rfl⟩ := List.append_of_mem hv
  refine List.lookup_eq_some_iff.mpr ⟨before, after, rfl, fun f hf => ?_⟩
  rw [List.map_append, List.nodup_append] at hnodup
  have hne : f.1 ≠ name := hnodup.2.2 f.1 (List.mem_map_of_mem hf) name (by simp)
  simpa using hne.symm

namespace Listing

variable {listed : List (String × Option Json)} {drafts : List (Option String × Draft)}

lemma of_object {w : Json} (h : (ofPresent listed).Rearranged w)
    (hnodup : (listed.map (·.1)).Nodup) (hv : (ofPresent listed).Ordered)
    (hroom : (ofPresent listed).depth ≤ room + 1) :
    ∃ drafts, Draft.ofJson w = .object drafts true ∧ Listing room listed drafts := by
  have hperm : (Sorted.ofList (present listed)).Perm (present listed) :=
    Sorted.ofList_perm (hnodup.sublist (map_fst_present_sublist listed))
  rw [ofPresent_eq] at h hv hroom
  rw [Ordered, orderedFields_iff] at hv
  rw [depth, Nat.add_le_add_iff_right, depthOfFields_le_iff] at hroom
  obtain ⟨fields, rfl, hfields⟩ := h.of_object
  refine ⟨_, rfl, ⟨fields, hfields.of_perm hperm.symm, rfl⟩, hnodup, fun name v hmem => ?_⟩
  have hsorted : (name, v) ∈ Sorted.ofList (present listed) :=
    hperm.mem_iff.mpr (mem_present.mpr hmem)
  exact ⟨hv.2 _ hsorted, hroom _ hsorted⟩

lemma filter (h : Listing room listed drafts) (p : String → Bool)
    (q : Option String × Draft → Bool) (hq : ∀ key d, q (some key, d) = p key) :
    Listing room (listed.filter fun f => p f.1) (drafts.filter q) := by
  obtain ⟨fields, hfields, rfl⟩ := h.drafted
  refine ⟨⟨fields.filter fun f => p f.1, ?_, ?_⟩, ?_, fun name v hmem => ?_⟩
  · rw [present_filter]
    exact hfields.filter p
  · simp only [Draft.ofFields_eq_map, List.filter_map, Function.comp_def, hq]
  · exact h.nodup.sublist (List.filter_sublist.map _)
  · exact h.fits name v (List.mem_of_mem_filter hmem)

lemma nodup_fields (h : Listing room listed drafts) {fields : List (String × Json)}
    (hfields : RearrangedFields (present listed) fields) : (fields.map (·.1)).Nodup :=
  hfields.map_fst_perm.nodup_iff.mp (h.nodup.sublist (map_fst_present_sublist listed))

lemma eq_singleton {name : String} {v : Json} (h : Listing room [(name, some v)] drafts) :
    ∃ w, v.Rearranged w ∧ drafts = [(some name, .ofJson w)] := by
  obtain ⟨fields, ⟨inOrder, hvalues, hperm⟩, rfl⟩ := h.drafted
  have hone : present [(name, some v)] = [(name, v)] := rfl
  rw [hone, List.forall₂_cons_left_iff] at hvalues
  obtain ⟨⟨_, w⟩, _, ⟨rfl, hw⟩, hnil, rfl⟩ := hvalues
  rw [List.forall₂_nil_left_iff.mp hnil, List.singleton_perm] at hperm
  exact ⟨w, hw, hperm ▸ rfl⟩

lemma lookup_of_mem (h : Listing room listed drafts) {name : String} {v : Json}
    (hv : (name, some v) ∈ listed) :
    ∃ w, v.Rearranged w ∧ drafts.lookup (some name) = some (.ofJson w) := by
  obtain ⟨fields, hfields, rfl⟩ := h.drafted
  obtain ⟨⟨_, w⟩, hf, rfl, hw⟩ := hfields.exists_of_mem (mem_present.mpr hv)
  refine ⟨w, hw, ?_⟩
  rw [Draft.lookup_ofFields, lookup_of_nodup (h.nodup_fields hfields) hf]
  rfl

lemma lookup_of_absent (h : Listing room listed drafts) {name : String}
    (hnone : (name, none) ∈ listed) : drafts.lookup (some name) = none := by
  obtain ⟨fields, hfields, rfl⟩ := h.drafted
  rw [Draft.lookup_ofFields, Option.map_eq_none_iff, List.lookup_eq_none_iff]
  refine hfields.forall_mem fun f hf g hg => ?_
  rw [bne_iff_ne, ← hg.1]
  rintro rfl
  cases List.inj_on_of_nodup_map h.nodup (mem_present.mp hf) hnone rfl

end Listing

/-- What the fields of a record have for those listed. -/
structure Record.Shows (r : Record) (listed : List (String × Option Json)) : Prop where
  named : r.positional = false
  ended : r.whole = true
  listing : Listing r.room listed r.fields

namespace Record.Shows

variable {r : Record} {listed : List (String × Option Json)}

lemma slot_filled (hr : r.Shows listed) {name : String} {v : Json}
    (hv : (name, some v) ∈ listed) :
    ∃ place w, v.Rearranged w ∧ r.slot name = .filled place (.ofJson w) := by
  obtain ⟨w, hw, hlookup⟩ := hr.listing.lookup_of_mem hv
  obtain ⟨place, hslot⟩ := slot_of_lookup hr.named hlookup
  exact ⟨place, w, hw, hslot⟩

lemma slot_missing (hr : r.Shows listed) {name : String} (hnone : (name, none) ∈ listed) :
    ∃ place fault, r.slot name = .missing place fault :=
  slot_of_lookup_none hr.named (hr.listing.lookup_of_absent hnone)

variable {reader : Reader α}

lemma slot_reads (hr : r.Shows listed) {name : String} {v : Json} {x : α}
    (hreads : reader.ReadsAt r.medium r.room v x) (hv : (name, some v) ∈ listed) :
    ∃ place d, r.slot name = .filled place d ∧ reader r.medium r.room d = .ok x := by
  obtain ⟨place, w, hw, hslot⟩ := hr.slot_filled hv
  obtain ⟨hordered, hroom⟩ := hr.listing.fits name v hv
  exact ⟨place, .ofJson w, hslot, hreads w hw hordered hroom⟩

lemma required (hr : r.Shows listed) (name : String) {v : Json} {x : α}
    (hreads : reader.ReadsAt r.medium r.room v x) (hv : (name, some v) ∈ listed) :
    r.required name reader = .read x := by
  obtain ⟨place, d, hslot, hread⟩ := hr.slot_reads hreads hv
  simp only [Record.required, hslot, hread, Portion.ofExcept]

lemma withDefault (hr : r.Shows listed) (name : String) {v : Json} {x absent : α}
    (hreads : reader.ReadsAt r.medium r.room v x) (hv : (name, some v) ∈ listed) :
    r.withDefault name reader absent = .read x := by
  obtain ⟨place, d, hslot, hread⟩ := hr.slot_reads hreads hv
  simp only [Record.withDefault, hslot, hread, Portion.ofExcept]

lemma withDefault_absent (hr : r.Shows listed) (name : String) {absent : α}
    (hnone : (name, none) ∈ listed) : r.withDefault name reader absent = .read absent := by
  obtain ⟨place, fault, hslot⟩ := hr.slot_missing hnone
  rw [Record.withDefault, hslot]

lemma optional (hr : r.Shows listed) (name : String) (o : Option α) {encode : α → Json}
    (hreads : ∀ x ∈ o, reader.ReadsAt r.medium r.room (encode x) x)
    (hnull : ∀ x, encode x ≠ .null) (ho : (name, o.map encode) ∈ listed) :
    r.optional name reader = .read o := by
  cases o with
  | none => exact hr.withDefault_absent name ho
  | some x =>
    exact hr.withDefault name (Reader.reads_optional (hreads x rfl) (hnull x)) ho

lemma optional_text (hr : r.Shows listed) (name : String) (o : Option String)
    (ho : (name, o.map .string) ∈ listed) : r.optional name Reader.text = .read o :=
  hr.optional name o (fun s _ => Reader.reads_text s) string_ne_null ho

lemma present (hr : r.Shows listed) (name : String) (o : Option Json) (ho : (name, o) ∈ listed) :
    r.present name Reader.any = .read o := by
  cases o with
  | none => exact hr.withDefault_absent name ho
  | some v =>
    refine hr.withDefault name (fun w hw hordered hroom => ?_) ho
    rw [Reader.reads_any v w hw hordered hroom]
    rfl

end Record.Shows

lemma checkFields_ofFields {names : List String} {unasked : Draft → Except Fault Unit}
    {fields : List (String × Json)} (hnodup : (fields.map (·.1)).Nodup)
    (hjudge : ∀ f ∈ fields, f.1 ∈ names ∨ unasked (.ofJson f.2) = .ok ()) :
    Record.checkFields names unasked 0 [] (Draft.ofFields fields) = .read () := by
  have hkeys : (Draft.ofFields fields).filterMap (·.1) = fields.map (·.1) := by
    rw [Draft.ofFields_eq_map, List.filterMap_map]
    exact congrFun List.filterMap_eq_map fields
  refine Record.checkFields_eq_read_iff.mpr ⟨?_, ?_, by simp⟩
  · rw [Draft.ofFields_eq_map, List.forall_mem_map]
    exact fun f hf => ⟨f.1, rfl, hjudge f hf⟩
  · rw [hkeys]
    exact hnodup.filter _

/-- A record is read when its body is and each field is asked for or passes the judgement. -/
theorem Record.Shows.readJudging_eq_ok {r : Record} {listed : List (String × Option Json)} {x : α}
    {unasked : Draft → Except Fault Unit} {body : Record → Portion α} (hr : r.Shows listed)
    (hjudge : ∀ name v, (name, some v) ∈ listed →
      name ∈ r.names ∨ ∀ w, v.Rearranged w → unasked (.ofJson w) = .ok ())
    (hbody : body r = .read x) : r.readJudging unasked body = .ok x := by
  obtain ⟨fields, hfields, hdrafts⟩ := hr.listing.drafted
  have hnodup : (fields.map (·.1)).Nodup := hr.listing.nodup_fields hfields
  have hcheck : checkFields r.names unasked 0 [] r.fields = .read () := by
    rw [hdrafts]
    refine checkFields_ofFields hnodup (hfields.forall_mem fun f hf g hg => ?_)
    rw [← hg.1]
    exact (hjudge f.1 f.2 (mem_present.mp hf)).imp id fun h => h g.2 hg.2
  have hend : r.checkEnd = .read () := checkEnd_eq_read_iff.mpr (by simp [hr.named, hr.ended])
  exact readJudging_eq_ok_iff.mpr ⟨Or.inr hcheck, hend, hbody⟩

namespace Reader

variable {listed : List (String × Option Json)} {names : List String} {x : α}
  {body : Record → Portion α}

theorem reads_record (title : String) (hnames : listed.map (·.1) = names) (hnodup : names.Nodup)
    (hbody : ∀ r : Record, r.medium = m → r.room + 1 = room → r.Shows listed → body r = .read x) :
    ReadsAt m room (record title names body) (ofPresent listed) x := by
  intro w hw hv hroom
  obtain ⟨room, rfl⟩ := exists_inside hroom
  obtain ⟨drafts, hdraft, hlisting⟩ := Listing.of_object hw (hnames ▸ hnodup) hv hroom
  rw [hdraft, record, Record.read]
  have hr : Record.Shows ⟨m, room, title, names, drafts, false, true⟩ listed := ⟨rfl, rfl, hlisting⟩
  refine hr.readJudging_eq_ok (fun name v hmem => Or.inl ?_) (hbody _ rfl rfl hr)
  exact hnames ▸ List.mem_map_of_mem hmem

theorem reads_openRecord (title : String) {own : List (String × Option Json)}
    (hnodup : ((listed ++ own).map (·.1)).Nodup)
    (hbody : ∀ r : Record, r.medium = m → r.room + 1 = room → r.names = names →
      r.Shows (listed ++ own) → body r = .read x) :
    ReadsAt m room (openRecord title names body) (ofPresent (listed ++ own)) x := by
  intro w hw hv hroom
  obtain ⟨room, rfl⟩ := exists_inside hroom
  obtain ⟨drafts, hdraft, hlisting⟩ := Listing.of_object hw hnodup hv hroom
  rw [hdraft, openRecord]
  have hr : Record.Shows ⟨m, room, title, names, drafts, false, true⟩ (listed ++ own) :=
    ⟨rfl, rfl, hlisting⟩
  -- every field is judged as if none had a known name, which is more than is needed
  refine hr.readJudging_eq_ok (fun name v hmem => Or.inr fun w hw => ?_) (hbody _ rfl rfl rfl hr)
  obtain ⟨hordered, hdepth⟩ := hlisting.fits name v hmem
  rw [value_ofJson hw hordered hdepth]
  rfl

theorem variantRecord_eq_ok {drafts : List (Option String × Draft)}
    (h : Listing room listed drafts) (hnames : listed.map (·.1) = names)
    (hbody : ∀ r : Record, r.medium = .aside → r.room = room → r.Shows listed → body r = .read x) :
    variantRecord room drafts names body = .ok x := by
  have hr : Record.Shows ⟨.aside, room, "", names, drafts, false, true⟩ listed := ⟨rfl, rfl, h⟩
  refine hr.readJudging_eq_ok (fun name v hmem => Or.inl ?_) (hbody _ rfl rfl hr)
  exact hnames ▸ List.mem_map_of_mem hmem

theorem tagged_eq_ok {drafts : List (Option String × Draft)} {tag name : String}
    {variants : List (String × α)} (h : Listing room ((tag, some (.string name)) :: listed) drafts)
    (hname : variants.lookup name = some x) :
    ∃ others, tagged tag variants m drafts = .ok (x, others) ∧ Listing room listed others := by
  have hnodup := h.nodup
  have hfresh : ∀ f ∈ listed, f.1 ≠ tag := by
    intro f hf heq
    rw [List.map_cons, List.nodup_cons] at hnodup
    have hmem : f.1 ∈ listed.map (·.1) := List.mem_map_of_mem hf
    exact hnodup.1 (heq ▸ hmem)
  have htag := h.filter (· == tag) (fun f => f.1 == some tag) fun _ _ => rfl
  have hothers := h.filter (· != tag) (fun f => f.1 != some tag) fun _ _ => rfl
  rw [List.filter_cons_of_pos (by simp), List.filter_eq_nil_iff.mpr (by simpa using hfresh)] at htag
  rw [List.filter_cons_of_neg (by simp), List.filter_eq_self.mpr (by simpa using hfresh)] at hothers
  obtain ⟨w, hw, hone⟩ := htag.eq_singleton
  cases hw
  refine ⟨_, tagged_eq_ok_iff.mpr ⟨_, hone, ?_, rfl⟩, hothers⟩
  simp only [Draft.ofJson, variantOfTag, variantNamed, hname]

end Reader

lemma Record.Shows.others {r : Record} {listed own : List (String × Option Json)}
    (hr : r.Shows (listed ++ own)) (hnames : r.names = listed.map (·.1)) :
    Listing r.room own r.others := by
  have hnodup := hr.listing.nodup
  rw [List.map_append, List.nodup_append, ← hnames] at hnodup
  have hothers : Listing r.room ((listed ++ own).filter fun f => decide (f.1 ∉ r.names)) r.others :=
    hr.listing.filter (fun key => decide (key ∉ r.names)) _ fun _ _ => rfl
  have hlisted : ∀ f ∈ listed, f.1 ∈ r.names := fun f hf => hnames ▸ List.mem_map_of_mem hf
  have hown : ∀ f ∈ own, f.1 ∉ r.names := fun f hf hmem =>
    hnodup.2.2 f.1 hmem f.1 (List.mem_map_of_mem hf) rfl
  rw [List.filter_append, List.filter_eq_nil_iff.mpr (by simpa using hlisted),
    List.filter_eq_self.mpr (by simpa using hown), List.nil_append] at hothers
  exact hothers

/-- A variant is read from the fields set aside, of which the tag says how. -/
theorem Record.Shows.afterwards_variant {β : Type} {r : Record}
    {listed own : List (String × Option Json)} {tag name : String} {variants : List (String × β)}
    {variant : β} {namesOf : β → List String} {body : Record → β → Portion α} {x : α}
    (hr : r.Shows (listed ++ (tag, some (.string name)) :: own))
    (hnames : r.names = listed.map (·.1)) (hvariant : variants.lookup name = some variant)
    (hown : own.map (·.1) = namesOf variant)
    (hbody : ∀ r' : Record, r'.Shows own → body r' variant = .read x) :
    (r.afterwards do
      let (tag, fields) ← Reader.tagged tag variants .aside r.others
      Reader.variantRecord r.room fields (namesOf tag) (body · tag)) = .read x := by
  obtain ⟨others, htagged, hothers⟩ := Reader.tagged_eq_ok (hr.others hnames) hvariant
  have hread := Reader.variantRecord_eq_ok hothers hown fun r' _ _ => hbody r'
  rw [Record.afterwards, htagged]
  exact congrArg (Portion.ofExcept _) hread

end SwiftClient.Json
