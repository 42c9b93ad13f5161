import SwiftClient.Proofs.Document.Reordered
import SwiftClient.Proofs.Resolution.Made

/-!
# What resolving depends on

What a schema or group is resolved to depends on it alone, besides the package and the style of
enums. The document decides only whether it can be resolved, through the schemas that are looked up
to compare inherited properties; and these are found in any order of the schemas at the top.
-/
namespace SwiftClient

namespace Resolution

variable {d d' : Document} {package : Option String} {style : Naming.EnumStyle}

lemma MakesKind.unique {s : Schema} {kind : SchemaKind} {k k' : Resolved.SchemaKind}
    (h : (Resolution.mk d package style).MakesKind s kind k)
    (h' : (Resolution.mk d' package style).MakesKind s kind k') : k = k' := by
  -- properties are resolved without looking at the document
  have hproperties : ∀ {properties : List Property} {ps ps' : List Resolved.Property},
      List.Forall₂ (fun p q => ((Resolution.mk d package style).property s.scopedName.dotted
        p).result = .ok q) properties ps →
      List.Forall₂ (fun p q => ((Resolution.mk d' package style).property s.scopedName.dotted
        p).result = .ok q) properties ps' → ps = ps' :=
    List.right_unique_forall₂' fun _ _ _ hp hp' => Except.ok.inj (hp.symm.trans hp')
  cases h with
  | object properties =>
    cases h' with
    | object properties' =>
      rw [hproperties properties properties']
      rfl
  | enum value values =>
    cases h' with
    | enum value' values' =>
      obtain rfl := Except.ok.inj (value.symm.trans value')
      rw [List.right_unique_forall₂' (fun _ _ _ hm hm' => Except.ok.inj (hm.symm.trans hm')) values
        values']
  | interface properties =>
    cases h' with
    | interface properties' => rw [hproperties properties properties']
  | hierarchy properties =>
    cases h' with
    | hierarchy properties' =>
      rw [hproperties properties properties']
      rfl
  | wrapper property =>
    cases h' with
    | wrapper property' => rw [Except.ok.inj (property.symm.trans property')]
  | oneOf members =>
    cases h' with
    | oneOf members' =>
      rw [List.right_unique_forall₂' (fun _ _ _ hm hm' => Except.ok.inj (hm.symm.trans hm')) members
        members']
      rfl

mutual

lemma schema_unique : ∀ {inside inside' : Bool} {s : Schema} {t t' : Resolved.Schema},
    ((Resolution.mk d package style).schema inside s).result = .ok t →
    ((Resolution.mk d' package style).schema inside' s).result = .ok t' → t = t'
  | _, _, ⟨_, _, _, _, _, _, nested⟩, t, t', h, h' => by
    obtain ⟨-, kind, below, hkind, hbelow, rfl⟩ := schema_eq_ok.mp h
    obtain ⟨-, kind', below', hkind', hbelow', rfl⟩ := schema_eq_ok.mp h'
    rw [(makesKind_of_kind hkind).unique (makesKind_of_kind hkind'),
      schemas_unique hbelow hbelow']

lemma schemas_unique : ∀ {inside inside' : Bool} {forest : List Schema}
    {resolved resolved' : List Resolved.Schema},
    ((Resolution.mk d package style).schemas inside forest).result = .ok resolved →
    ((Resolution.mk d' package style).schemas inside' forest).result = .ok resolved' →
      resolved = resolved'
  | _, _, [], _, _, h, h' => Except.ok.inj (h.symm.trans h')
  | _, _, s :: rest, _, _, h, h' => by
    obtain ⟨t, ts, ht, hts, rfl⟩ := List.forall₂_cons_left_iff.mp (schemas_eq_ok.mp h)
    obtain ⟨t', ts', ht', hts', rfl⟩ := List.forall₂_cons_left_iff.mp (schemas_eq_ok.mp h')
    rw [schema_unique ht ht', schemas_unique (schemas_eq_ok.mpr hts) (schemas_eq_ok.mpr hts')]

end

/-- A schema is resolved to one thing at most, in whatever document. -/
theorem Makes.unique {s : Schema} {t t' : Resolved.Schema}
    (h : (Resolution.mk d package style).Makes s t)
    (h' : (Resolution.mk d' package style).Makes s t') : t = t' := by
  obtain ⟨named, hnamed, ht⟩ := h
  obtain ⟨named', hnamed', ht'⟩ := h'
  obtain rfl : named = named' := Except.ok.inj (hnamed.symm.trans hnamed')
  exact schema_unique ht ht'

/-- Documents in which the same is found let the same schemas be resolved. -/
lemma kind_congr (h : ∀ path, d.find? path = d'.find? path) (s : Schema) :
    (Resolution.mk d package style).kind s = (Resolution.mk d' package style).kind s := by
  have hoverrides : (Resolution.mk d package style).checkOverrides =
      (Resolution.mk d' package style).checkOverrides := by
    funext child properties parent
    unfold checkOverrides
    rw [h parent]
    rfl
  unfold kind
  rw [hoverrides]
  rfl

mutual

lemma schema_congr (h : ∀ path, d.find? path = d'.find? path) : ∀ (inside : Bool) (s : Schema),
    (Resolution.mk d package style).schema inside s =
      (Resolution.mk d' package style).schema inside s
  | inside, ⟨_, _, _, _, _, _, nested⟩ => by
    rw [schema, schema, kind_congr h, schemas_congr h]

lemma schemas_congr (h : ∀ path, d.find? path = d'.find? path) :
    ∀ (inside : Bool) (forest : List Schema),
      (Resolution.mk d package style).schemas inside forest =
        (Resolution.mk d' package style).schemas inside forest
  | _, [] => rfl
  | inside, s :: rest => by rw [schemas, schemas, schema_congr h, schemas_congr h]

end

end Resolution

namespace Document

variable {d : Document} {options : Options} {resolved resolved' : ResolvedDocument}

lemma resolve_with_schemas {forest : List Schema} (h : (d.resolve options).result = .ok resolved)
    (h' : ({ d with schemas := forest }.resolve options).result = .ok resolved') :
    resolved' = { resolved with schemas := resolved'.schemas } := by
  obtain ⟨-, named, hnamed, schemas, groups, -, hgroups, rfl⟩ := resolve_eq_ok.mp h
  obtain ⟨-, named', hnamed', schemas', groups', -, hgroups', rfl⟩ := resolve_eq_ok.mp h'
  simp only [nameMembers, Outcome.bind_eq_ok, Outcome.pure_eq_ok] at hnamed hnamed'
  obtain ⟨after, -, rfl⟩ := hnamed
  obtain ⟨after', -, rfl⟩ := hnamed'
  obtain rfl : groups = groups' := Except.ok.inj (hgroups.symm.trans hgroups')
  rfl

/-- Naming and resolving go schema by schema, and look up the same in any order. -/
theorem exists_resolve_of_perm {forest : List Schema}
    (h : (d.resolve options).result = .ok resolved) (hperm : forest.Perm d.schemas) :
    ∃ resolved', ({ d with schemas := forest }.resolve options).result = .ok resolved' := by
  obtain ⟨hd, named, hnamed, schemas, groups, hschemas, hgroups, rfl⟩ := resolve_eq_ok.mp h
  simp only [nameMembers, Outcome.bind_eq_ok, Outcome.pure_eq_ok] at hnamed
  obtain ⟨after, hafter, rfl⟩ := hnamed
  rw [Schema.nameAllMembers_eq_ok] at hafter
  obtain ⟨after', hafter', hpermAfter⟩ := List.perm_comp_forall₂ hperm hafter
  have hvalid : { d with schemas := forest }.validate = .ok () := by
    have hreordered : d.Reordered { d with schemas := forest } :=
      ⟨rfl, rfl, .of_perm .refl (.refl _), .of_perm .refl hperm.symm, rfl⟩
    rw [validate_eq_ok_iff_valid] at hd ⊢
    exact hreordered.valid_iff.mp hd
  have hnames : (after.map (·.name)).Nodup := by
    rw [map_eq_map_of_forall₂ hafter fun _ _ => (Schema.matching_nameMembers _).name]
    exact (wellNamed_of_validate hd).1
  have hfind : ∀ path, { d with schemas := after }.find? path =
      { d with schemas := after' }.find? path :=
    Schema.find?_eq_of_perm hnames hpermAfter.symm
  obtain ⟨schemas', hschemas', -⟩ :=
    List.perm_comp_forall₂ hpermAfter (Resolution.schemas_eq_ok.mp hschemas)
  refine ⟨_, resolve_eq_ok.mpr ⟨hvalid, { d with schemas := after' }, ?_, schemas', groups, ?_,
    hgroups, rfl⟩⟩
  · simp only [nameMembers, Outcome.bind_eq_ok, Outcome.pure_eq_ok]
    exact ⟨after', Schema.nameAllMembers_eq_ok.mpr hafter', rfl⟩
  · rw [Resolution.allSchemas, ← Resolution.schemas_congr hfind]
    exact Resolution.schemas_eq_ok.mpr hschemas'

instance : Nonempty Resolved.Schema :=
  ⟨⟨"", "", [], none, .unknown, false, .oneOf, .named "", .oneOf [] none, []⟩⟩

lemma exists_resolve_eq_map (options : Options) :
    ∃ f : Schema → Resolved.Schema, ∀ {d : Document} {named : Document} {t : ResolvedDocument},
      t.options = options → List.Forall₂ (t.resolution named).Makes d.schemas t.schemas →
        t.schemas = d.schemas.map f := by
  let Makes (s : Schema) (t : Resolved.Schema) : Prop :=
    ∃ named, (Resolution.mk named options.package options.enumStyle).Makes s t
  have hunique : Relator.RightUnique Makes := by
    rintro s t t' ⟨named, ht⟩ ⟨named', ht'⟩
    exact ht.unique ht'
  obtain ⟨f, hf⟩ := exists_map_of_rightUnique hunique
  refine ⟨f, fun {d named t} hoptions hmakes => hf (hmakes.imp fun s t hst => ⟨named, ?_⟩)⟩
  rw [← hoptions]
  exact hst

/-- There is one function that resolves the schemas of a document, of the document with its schemas
in any order, and of the document with a schema added. In any order of its schemas the document can
be resolved. Groups and all else are resolved to the same. -/
theorem resolve_schemas_one_by_one (h : (d.resolve options).result = .ok resolved) :
    ∃ f : Schema → Resolved.Schema, resolved.schemas = d.schemas.map f ∧
      (∀ forest, forest.Perm d.schemas →
        ({ d with schemas := forest }.resolve options).result =
          .ok { resolved with schemas := forest.map f }) ∧
      ∀ before added after resolved', d.schemas = before ++ after →
        ({ d with schemas := before ++ added :: after }.resolve options).result = .ok resolved' →
          resolved' = { resolved with schemas := (before ++ added :: after).map f } := by
  obtain ⟨f, hf⟩ := exists_resolve_eq_map resolved.options
  have hother : ∀ forest resolved',
      ({ d with schemas := forest }.resolve options).result = .ok resolved' →
        resolved' = { resolved with schemas := forest.map f } := by
    intro forest resolved' h'
    obtain ⟨named, -, hmakes⟩ := makes_of_resolve h'
    have hoptions : resolved'.options = resolved.options :=
      (options_of_resolve h').trans (options_of_resolve h).symm
    have hrest := resolve_with_schemas h h'
    have hschemas : resolved'.schemas = forest.map f := hf hoptions hmakes
    rw [hschemas] at hrest
    exact hrest
  refine ⟨f, ?_, fun forest hperm => ?_, fun before added after resolved' _ => hother _ resolved'⟩
  · obtain ⟨named, -, hmakes⟩ := makes_of_resolve h
    exact hf rfl hmakes
  · obtain ⟨resolved', h'⟩ := exists_resolve_of_perm h hperm
    rw [h', hother forest resolved' h']

/-- Dogs that have a name, a choice that they are a part of, and an operation that finds them. -/
def kennel : Document :=
  let name : Property := { name := "name", required := true, type := .scalar .string none }
  { Document.titled "Kennel" "1" with
    groups := [{
      name := "dogs"
      operations := [{
        name := "findDog", method := .get, path := "/dog",
        responses := [{ code := some 200, type := some (.named .object ["Dog"]) }] }] }]
    schemas := [
      .top "Named" (.interface { properties := [name] }),
      .top "Dog" (.object { properties := [name], implements := [["Named"]] }),
      .top "Guest"
        (.oneOf ⟨[⟨none, .named .object ["Dog"]⟩, ⟨none, .scalar .string none⟩], none⟩)] }

theorem resolve_schemas_one_by_one_kennel :
    ∃ resolved, (kennel.resolve .default).result = .ok resolved ∧ ∃ f : Schema → Resolved.Schema,
      resolved.schemas = kennel.schemas.map f ∧
        ({ kennel with schemas := kennel.schemas.reverse }.resolve .default).result =
          .ok { resolved with schemas := kennel.schemas.reverse.map f } ∧
        ∃ resolved', ({ kennel with
            schemas := .top "Cat" (.object {}) :: kennel.schemas }.resolve .default).result =
              .ok resolved' ∧
          resolved'.groups = resolved.groups ∧ resolved'.schemas.tail = resolved.schemas := by
  obtain ⟨resolved, h⟩ : ∃ resolved, (kennel.resolve .default).result = .ok resolved := by
    decide +kernel
  obtain ⟨resolved', hcat⟩ : ∃ resolved', ({ kennel with
      schemas := .top "Cat" (.object {}) :: kennel.schemas }.resolve .default).result =
        .ok resolved' := by
    decide +kernel
  obtain ⟨f, hschemas, horder, hadded⟩ := resolve_schemas_one_by_one h
  refine ⟨resolved, h, f, hschemas, horder _ (List.reverse_perm _), resolved', hcat, ?_⟩
  have hresolved := hadded [] (.top "Cat" (.object {})) kennel.schemas _ rfl hcat
  rw [hresolved, hschemas]
  exact ⟨rfl, rfl⟩

end Document

end SwiftClient
