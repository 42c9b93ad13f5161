import SwiftClient.Proofs.Resolution.Inheritance
import SwiftClient.Proofs.Resolution.References
import SwiftClient.Proofs.Resolution.Typing

/-!
# Overridden properties

In a resolved document every property agrees with those of its name that the direct parents of its
schema declare: in the type as it is written, in nullability and in whether it is required. Where
resolving fails for an override, the document has two properties that differ, and the failure names
them and says how.
-/
namespace SwiftClient

open Outcome (FailsOnly)

/-- How a property differs from an inherited one. -/
inductive Property.Differs (package : Option String) (own inherited : Property) :
    Incompatibility → Prop
  | type {type type' : SwiftType} (typed : own.type.Typed package type)
      (typed' : inherited.type.Typed package type') (ne : type.expression ≠ type'.expression) :
      Differs package own inherited (.type type.expression type'.expression)
  | nullable (ne : own.type.nullable ≠ inherited.type.nullable) :
      Differs package own inherited (.nullable own.type.nullable inherited.type.nullable)
  | required (ne : own.required ≠ inherited.required) :
      Differs package own inherited (.required own.required inherited.required)

/-- A property of a schema and one of the same name that a direct parent `u` declares. -/
structure Document.Overrides (d : Document) (s u : Schema) (own inherited : Property) : Prop where
  child : s ∈ d.allSchemas
  parent : ∃ name ∈ s.kind.parents, d.find? name = some u
  declared : own ∈ s.properties
  declaredAbove : inherited ∈ u.properties
  name : own.name = inherited.name

/-- A schema and one of its direct parents, of the names in a failure, have a property of the name
each, and these differ for the reason. -/
def Document.DiffersFromParent (d : Document) (package : Option String)
    (child parent name : String) (reason : Incompatibility) : Prop :=
  ∃ s u own inherited, d.Overrides s u own inherited ∧ s.scopedName.dotted = child ∧
    u.scopedName.dotted = parent ∧ own.name = name ∧ own.Differs package inherited reason

/-- A property may override another. -/
structure Resolved.Property.Agrees (p q : Property) : Prop where
  type : p.type.expression = q.type.expression
  nullable : p.nullable = q.nullable
  required : p.required = q.required

/-- The direct parents of `s` are found, and the properties of `t` agree with what they declare. -/
def ResolvedDocument.AgreesWithParents (d : ResolvedDocument) (s : Schema) (t : Resolved.Schema) :
    Prop :=
  ∀ name ∈ s.kind.parents, ∃ u, d.find? name = some u ∧
    ∀ p ∈ t.properties, ∀ q ∈ u.properties, p.name = q.name → p.Agrees q

lemma Resolved.Property.agrees_of_compatible {p q : Resolved.Property} (h : q.compatible p) :
    p.Agrees q := by
  obtain ⟨htype, hnullable, hrequired⟩ := compatible_iff.mp h
  exact ⟨htype.symm, hnullable.symm, hrequired.symm⟩

namespace Resolution

variable {r : Resolution} {context context' : String} {own inherited : Property}
  {p q : Resolved.Property}

lemma typed_of_property (h : (r.property context own).result = .ok p) :
    own.type.Typed r.package p.type := by
  obtain ⟨_, htype⟩ := types_of_property h
  exact TypeUsage.typed_of_swiftType htype

lemma differs_of_incompatibility? {reason : Incompatibility}
    (hp : (r.property context own).result = .ok p)
    (hq : (r.property context' inherited).result = .ok q)
    (h : q.incompatibility? p = some reason) : own.Differs r.package inherited reason := by
  have hown := property_kept hp
  have hinherited := property_kept hq
  unfold Resolved.Property.incompatibility? at h
  split_ifs at h with htype hnullable hrequired
  · obtain rfl := Option.some.inj h
    exact .type (typed_of_property hp) (typed_of_property hq) (Ne.symm htype)
  · obtain rfl := Option.some.inj h
    rw [hown.nullable, hinherited.nullable] at hnullable ⊢
    exact .nullable (Ne.symm hnullable)
  · obtain rfl := Option.some.inj h
    rw [hown.required, hinherited.required] at hrequired ⊢
    exact .required (Ne.symm hrequired)

lemma not_agrees_of_differs {reason : Incompatibility}
    (hp : (r.property context own).result = .ok p)
    (hq : (r.property context' inherited).result = .ok q)
    (h : own.Differs r.package inherited reason) : ¬p.Agrees q := by
  intro hagrees
  cases h with
  | @type type type' typed typed' ne =>
    have hown : type = p.type := typed.unique (typed_of_property hp)
    have hinherited : type' = q.type := typed'.unique (typed_of_property hq)
    rw [hown, hinherited] at ne
    exact ne hagrees.type
  | nullable ne =>
    rw [← (property_kept hp).nullable, ← (property_kept hq).nullable] at ne
    exact ne hagrees.nullable
  | required ne =>
    rw [← (property_kept hp).required, ← (property_kept hq).required] at ne
    exact ne hagrees.required

end Resolution

/-- Naming the members of a schema leaves alone what overrides depend on. -/
lemma Schema.overriding_of_nameMembers {package : Option String} {s s' : Schema}
    (h : s.nameMembers package = .ok s') :
    s'.scopedName = s.scopedName ∧ s'.properties = s.properties ∧
      s'.kind.parents = s.kind.parents := by
  have hkinds := (membersNamed_of_nameMembers h).kinds
  obtain ⟨nested, kind, -, -, rfl⟩ := nameMembers_eq_ok.mp h
  exact ⟨rfl, hkinds.properties, hkinds.parents⟩

namespace Document

variable {d named : Document} {package : Option String} {options : Options}
  {resolved : ResolvedDocument}

lemma exists_of_mem_nameMembers (h : d.nameMembers package = .ok named) {s' : Schema}
    (hs' : s' ∈ named.allSchemas) :
    ∃ s ∈ d.allSchemas, s.nameMembers package = .ok s' := by
  simp only [nameMembers, Outcome.bind_eq_ok, Outcome.pure_eq_ok] at h
  obtain ⟨forest, hforest, rfl⟩ := h
  have hall := (Schema.matching_nameMembers package).flattenAll
    (Schema.nameAllMembers_eq_ok.mp hforest)
  exact exists_mem_of_forall₂ hall.flip hs'

lemma overrides_of_misfit {style : Naming.EnumStyle} {s : Schema} {child parent name : String}
    {reason : Incompatibility} (hnamed : d.nameMembers package = .ok named)
    (hs : s ∈ named.allSchemas) (h : (Resolution.mk named package style).Misfit s
      (.incompatibleProperty child parent name reason)) :
    d.DiffersFromParent package child parent name reason := by
  obtain ⟨properties, hproperties, ref, href, hclash⟩ := h
  cases hclash with
  | @intro u' inherited p q _ hfound hdeclared hp hq hreason =>
    -- the schema and its parent stand in the document as they did before members were named
    obtain ⟨s₀, hs₀, hs₀s⟩ := exists_of_mem_nameMembers hnamed hs
    have hrel := nameMembers_find? hnamed ref
    rw [show named.find? ref = some u' from hfound] at hrel
    obtain ⟨u, hu, huu'⟩ := exists_of_rel_some_right hrel
    obtain ⟨hscoped, hown, hparents⟩ := Schema.overriding_of_nameMembers hs₀s
    obtain ⟨hscoped', hinherited, -⟩ := Schema.overriding_of_nameMembers huu'
    -- the property that the search by name finds is made of one that the schema declares
    obtain ⟨own, hmem, hresolved⟩ :=
      exists_mem_of_forall₂ hproperties.flip (List.mem_of_find?_eq_some hp)
    have hname : p.name = own.name := (Resolution.property_kept hresolved).name
    have hsame : p.name = inherited.name := by simpa using List.find?_some hp
    refine ⟨s₀, u, own, inherited, ⟨hs₀, ⟨ref, hparents ▸ href, hu⟩, hown ▸ hmem,
      hinherited ▸ hdeclared, hname.symm.trans hsame⟩, ?_, ?_, hname.symm,
      Resolution.differs_of_incompatibility? hresolved hq hreason⟩
    · rw [hscoped]
    · rw [hscoped']

lemma agreesWithParents_of_makes (h : (d.resolve options).result = .ok resolved) {s : Schema}
    {t : Resolved.Schema} (hs : s ∈ d.allSchemas) (hst : (resolved.resolution named).Makes s t) :
    resolved.AgreesWithParents s t := by
  intro name hname
  have hvalid := (resolve_eq_ok.mp h).1
  obtain ⟨path, hpath⟩ := exists_find?_of_mem hvalid hs
  have hextends : d.Extends path name := ⟨s, hpath, hname⟩
  have hparent := (has_of_inherits hvalid (.single hextends)).2
  rw [← isSome_find?_resolve h] at hparent
  obtain ⟨u, hu⟩ := Option.isSome_iff_exists.mp hparent
  obtain ⟨named', -, hfind⟩ := makes_find?_of_resolve h
  obtain ⟨t', ht', hst'⟩ := exists_of_rel_some (hpath ▸ hfind path)
  obtain rfl : t' = t := hst'.unique hst
  refine ⟨u, hu, fun p hp q hq hpq => Resolved.Property.agrees_of_compatible ?_⟩
  exact compatibleAt_of_extends h hextends t' u ht' hu p hp q hq hpq rfl

lemma fails_of_differsFromParent {child parent name : String} {reason : Incompatibility}
    (hdiffers : d.DiffersFromParent (options.complete d.info).package child parent name reason) :
    Outcome.Fails (d.resolve options).result := by
  cases h : (d.resolve options).result with
  | error e => exact Outcome.fails_error
  | ok resolved =>
    obtain ⟨s, u, own, inherited, hoverrides, -, -, -, hreason⟩ := hdiffers
    obtain ⟨hs, ⟨ref, href, hu⟩, hown, hinherited, hsame⟩ := hoverrides
    obtain ⟨named, -, hmakes⟩ := makes_of_resolve h
    obtain ⟨t, -, hst⟩ := exists_mem_of_forall₂ (Resolution.makes_flattenAll hmakes) hs
    obtain ⟨u', hu', hagrees⟩ := agreesWithParents_of_makes h hs hst ref href
    have huu' := Resolution.makes_find? hmakes ref
    rw [show Schema.find? d.schemas ref = some u from hu,
      show Resolved.Schema.find? resolved.schemas ref = some u' from hu',
      Option.rel_some_some] at huu'
    obtain ⟨p, hp, hownp⟩ := exists_mem_of_forall₂ hst.properties hown
    obtain ⟨q, hq, hinheritedq⟩ := exists_mem_of_forall₂ huu'.properties hinherited
    have hpq : p.name = q.name := by
      rw [(Resolution.property_kept hownp).name, (Resolution.property_kept hinheritedq).name, hsame]
    rw [← options_of_resolve h] at hreason
    have hnot := Resolution.not_agrees_of_differs hownp hinheritedq hreason
    exact absurd (hagrees p hp q hq hpq) hnot

lemma differsFromParent_of_incompatibleProperty {child parent name : String}
    {reason : Incompatibility}
    (h : (d.resolve options).result = .error (.incompatibleProperty child parent name reason)) :
    d.DiffersFromParent (options.complete d.info).package child parent name reason := by
  cases hd : d.validate with
  | error defect =>
    simp only [resolve, hd, Traced.result_bind, Traced.result_ofExcept] at h
    cases h
  | ok =>
    have hfails : FailsOnly (fun e => e = .incompatibleProperty child parent name reason →
        d.DiffersFromParent (options.complete d.info).package child parent name reason)
        (d.resolve options).result := by
      refine resolve_failsOnly_of_kinds hd ?_ ?_ fun named hnamed s hs => ?_
      · intro e he heq
        subst heq
        cases he
      · intro nested heq
        cases heq
      · have hschemas := (validate_eq_ok_iff_wellFormed.mp (validate_nameMembers hnamed hd)).2.1
        refine (Resolution.kind_failsOnly hschemas (hschemas s hs)).mono ?_
        rintro e (he | he) rfl
        · cases he
        · exact overrides_of_misfit hnamed hs he
    exact hfails _ h rfl

/-- Overrides are rejected exactly. In a resolved document all properties agree with what direct
parents declare. Where resolving fails for an override, two properties of the document differ, under
the names and for the reason that the failure states, and a document that has such properties is
never resolved. -/
theorem resolve_rejects_overrides (d : Document) (options : Options) :
    (∀ resolved, (d.resolve options).result = .ok resolved →
      List.Forall₂ resolved.AgreesWithParents d.allSchemas resolved.allSchemas) ∧
      (∀ child parent name reason,
        (d.resolve options).result = .error (.incompatibleProperty child parent name reason) →
          d.DiffersFromParent (options.complete d.info).package child parent name reason) ∧
      ∀ child parent name reason,
        d.DiffersFromParent (options.complete d.info).package child parent name reason →
          Outcome.Fails (d.resolve options).result := by
  refine ⟨fun resolved h => ?_, fun _ _ _ _ => differsFromParent_of_incompatibleProperty,
    fun _ _ _ _ => fails_of_differsFromParent⟩
  obtain ⟨named, -, hmakes⟩ := makes_of_resolve h
  exact forall₂_imp_of_mem (Resolution.makes_flattenAll hmakes) fun s hs t hst =>
    agreesWithParents_of_makes h hs hst

set_option maxRecDepth 4000 in
theorem resolve_rejects_overrides_pedigree :
    let text : Property := { name := "tag", type := .scalar .string none }
    let number : Property := { name := "tag", type := .scalar .integer none }
    (∃ resolved, ((pedigree [text] [text]).resolve .default).result = .ok resolved ∧
      List.Forall₂ resolved.AgreesWithParents (pedigree [text] [text]).allSchemas
        resolved.allSchemas) ∧
      ((pedigree [text] [number]).resolve .default).result =
        .error (.incompatibleProperty "Cat" "Pet" "tag" (.type "Int" "String")) ∧
      (pedigree [text] [number]).DiffersFromParent (some "Api") "Cat" "Pet" "tag"
        (.type "Int" "String") := by
  intro text number
  obtain ⟨resolved, h⟩ : ∃ resolved,
      ((pedigree [text] [text]).resolve .default).result = .ok resolved := by
    decide +kernel +zetaReduce
  have hfails : ((pedigree [text] [number]).resolve .default).result =
      .error (.incompatibleProperty "Cat" "Pet" "tag" (.type "Int" "String")) := rfl
  obtain ⟨hagrees, -, -⟩ := resolve_rejects_overrides (pedigree [text] [text]) .default
  obtain ⟨-, hdiffers, -⟩ := resolve_rejects_overrides (pedigree [text] [number]) .default
  exact ⟨⟨resolved, h, hagrees _ h⟩, hfails, hdiffers _ _ _ _ hfails⟩

end Document

end SwiftClient
