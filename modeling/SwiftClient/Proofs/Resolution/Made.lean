import SwiftClient.Proofs.Resolution.Names

/-!
# What is made of a schema

Resolving a document makes one schema of each of its own, at the same place. So what is found at a
path of the resolved document is made of what is found at that path of the document.
-/
namespace SwiftClient

lemma Resolved.Schema.find?_cons {forest : List Resolved.Schema} {name : String}
    {path : ScopedName} :
    find? forest (name :: path) =
      if path = [] then forest.find? (·.name == name)
      else (forest.find? (·.name == name)).bind fun t => find? t.nested path := by
  cases path <;> simp [find?, bind]

namespace Resolved.Schema

mutual

def flatten : Schema → List Schema
  | t@⟨_, _, _, _, _, _, _, _, _, nested⟩ => t :: flattenAll nested

def flattenAll : List Schema → List Schema
  | [] => []
  | t :: rest => flatten t ++ flattenAll rest

end

lemma flatten_eq (t : Schema) : t.flatten = t :: flattenAll t.nested := by
  cases t
  rfl

end Resolved.Schema

def ResolvedDocument.allSchemas (d : ResolvedDocument) : List Resolved.Schema :=
  Resolved.Schema.flattenAll d.schemas

namespace Resolution

variable {r : Resolution}

/-- What resolving makes of the kind of a schema. The parents of an object or interface only have to
agree with it. -/
inductive MakesKind (r : Resolution) (s : Schema) : SchemaKind → Resolved.SchemaKind → Prop
  | object {o : ObjectSchema} {ps : List Resolved.Property}
      (properties : List.Forall₂ (fun p q => (r.property s.scopedName.dotted p).result = .ok q)
        o.properties ps)
      (overrides : ∀ parent ∈ o.parent.toList ++ o.implements,
        (r.checkOverrides s ps parent).result = .ok ()) :
      MakesKind r s (.object o)
        (.object ps (o.parent.map (·.swiftType r.package))
          (o.implements.map (·.swiftType r.package)) (o.discriminator.map (r.discriminator [])))
  | enum {e : EnumSchema} {ctx : LiteralContext} {members : List Resolved.EnumMember}
      (value : e.valueType.literalContext r.package s.scopedName.dotted true = .ok ctx)
      (values : List.Forall₂ (fun v m => (r.enumMember ctx v).result = .ok m) e.values members) :
      MakesKind r s (.enum e) (.enum ctx.type members)
  | interface {i : InterfaceSchema} {ps : List Resolved.Property}
      (properties : List.Forall₂ (fun p q => (r.property s.scopedName.dotted p).result = .ok q)
        i.properties ps)
      (overrides : ∀ parent ∈ i.parents, (r.checkOverrides s ps parent).result = .ok ()) :
      MakesKind r s (.interface i)
        (.interface ps (i.parents.map (·.swiftType r.package))
          (i.implementation.map (·.swiftType r.package)))
  | hierarchy {h : HierarchySchema} {ps : List Resolved.Property}
      (properties : List.Forall₂ (fun p q => (r.property s.scopedName.dotted p).result = .ok q)
        h.properties ps) :
      MakesKind r s (.hierarchy h)
        (.hierarchy ps (r.discriminator [] h.discriminator) (h.members.map (·.swiftType r.package)))
  | wrapper {w : WrapperSchema} {p : Resolved.Property}
      (property : (r.property s.scopedName.dotted w.property).result = .ok p) :
      MakesKind r s (.wrapper w) (.wrapper p)
  | oneOf {o : OneOfSchema} {ms : List Resolved.Member}
      (members : List.Forall₂ (fun m q => r.member s.scopedName.dotted m = .ok q) o.members ms) :
      MakesKind r s (.oneOf o) (.oneOf ms (o.discriminator.map (r.discriminator o.members)))

/-- The kind of a schema is resolved when all of its parts are and no override is incompatible. -/
theorem makesKind_of_kind {s : Schema} {k : Resolved.SchemaKind} (h : (r.kind s).result = .ok k) :
    r.MakesKind s s.kind k := by
  obtain ⟨name, scopedName, description, purpose, nullable, kind, nested⟩ := s
  cases kind with
  | object o =>
    simp only [Resolution.kind, Traced.result_bind, Traced.result_pure, Traced.result_mapM,
      Traced.result_forM, Outcome.bind_eq_ok, Outcome.mapM_eq_ok, Except.ok.injEq] at h
    obtain ⟨properties, hproperties, ⟨⟩, hoverrides, rfl⟩ := h
    exact .object hproperties (Outcome.forM_eq_ok.mp hoverrides)
  | enum e =>
    simp only [Resolution.kind, Traced.result_bind, Traced.result_lift, Traced.result_pure,
      Traced.result_mapM, Outcome.bind_eq_ok, Outcome.mapM_eq_ok, Except.ok.injEq] at h
    obtain ⟨ctx, hctx, members, hmembers, rfl⟩ := h
    exact .enum hctx hmembers
  | interface i =>
    simp only [Resolution.kind, Traced.result_bind, Traced.result_pure, Traced.result_mapM,
      Traced.result_forM, Outcome.bind_eq_ok, Outcome.mapM_eq_ok, Except.ok.injEq] at h
    obtain ⟨properties, hproperties, ⟨⟩, hoverrides, rfl⟩ := h
    exact .interface hproperties (Outcome.forM_eq_ok.mp hoverrides)
  | hierarchy x =>
    simp only [Resolution.kind, Traced.result_bind, Traced.result_pure, Traced.result_mapM,
      Outcome.bind_eq_ok, Outcome.mapM_eq_ok, Except.ok.injEq] at h
    obtain ⟨properties, hproperties, rfl⟩ := h
    exact .hierarchy hproperties
  | wrapper w =>
    simp only [Resolution.kind, Traced.result_bind, Traced.result_pure, Outcome.bind_eq_ok,
      Except.ok.injEq] at h
    obtain ⟨property, hproperty, rfl⟩ := h
    exact .wrapper hproperty
  | oneOf o =>
    simp only [Resolution.kind, Traced.result_bind, Traced.result_ofExcept, Traced.result_pure,
      Outcome.bind_eq_ok, Outcome.mapM_eq_ok, Except.ok.injEq] at h
    obtain ⟨members, hmembers, rfl⟩ := h
    exact .oneOf hmembers

lemma MakesKind.properties {s : Schema} {kind : SchemaKind} {k : Resolved.SchemaKind}
    (h : r.MakesKind s kind k) :
    List.Forall₂ (fun p q => (r.property s.scopedName.dotted p).result = .ok q) kind.properties
      k.properties := by
  cases h with
  | object properties | interface properties | hierarchy properties => exact properties
  | wrapper property => exact .cons property .nil
  | enum | oneOf => exact .nil

/-- What resolving makes of a schema: its members are named, then it is resolved. -/
def Makes (r : Resolution) (s : Schema) (t : Resolved.Schema) : Prop :=
  ∃ named, s.nameMembers r.package = .ok named ∧ (r.schema false named).result = .ok t

/-- Where a schema stands decides whether it is resolved, but not to what. -/
lemma schema_top_eq_ok {inside : Bool} {s : Schema} {t : Resolved.Schema}
    (h : (r.schema inside s).result = .ok t) : (r.schema false s).result = .ok t := by
  rw [schema_eq_ok] at h ⊢
  exact ⟨rfl, h.2⟩

lemma makes_of_schemas {inside : Bool} {forest named : List Schema}
    {resolved : List Resolved.Schema} (hnamed : Schema.nameAllMembers r.package forest = .ok named)
    (h : (r.schemas inside named).result = .ok resolved) :
    List.Forall₂ r.Makes forest resolved := by
  have hresolved := (schemas_eq_ok.mp h).imp fun _ _ => schema_top_eq_ok
  exact forall₂_comp (Schema.nameAllMembers_eq_ok.mp hnamed) hresolved

lemma Makes.parts {s : Schema} {t : Resolved.Schema} (h : r.Makes s t) :
    ∃ named kind nested, s.nameMembers r.package = .ok named ∧ (r.kind named).result = .ok kind ∧
      List.Forall₂ r.Makes s.nested nested ∧
        t = ⟨s.name, Naming.className s.name, s.scopedName, s.description, s.purpose, s.nullable,
          named.classification, s.scopedName.swiftType r.package, kind, nested⟩ := by
  obtain ⟨named, hnamed, ht⟩ := h
  obtain ⟨-, kind, nested, hkind, hnested, rfl⟩ := schema_eq_ok.mp ht
  obtain ⟨below, kind', hbelow, -, rfl⟩ := Schema.nameMembers_eq_ok.mp hnamed
  exact ⟨_, kind, nested, hnamed, hkind, makes_of_schemas hbelow hnested, rfl⟩

namespace Makes

variable {s : Schema} {t : Resolved.Schema}

lemma name (h : r.Makes s t) : t.name = s.name := by
  obtain ⟨-, -, -, -, -, -, rfl⟩ := h.parts
  rfl

lemma type (h : r.Makes s t) : t.type = s.scopedName.swiftType r.package := by
  obtain ⟨-, -, -, -, -, -, rfl⟩ := h.parts
  rfl

lemma nested (h : r.Makes s t) : List.Forall₂ r.Makes s.nested t.nested := by
  obtain ⟨-, -, _, -, -, hnested, rfl⟩ := h.parts
  exact hnested

lemma properties (h : r.Makes s t) :
    List.Forall₂ (fun p q => (r.property s.scopedName.dotted p).result = .ok q) s.properties
      t.properties := by
  obtain ⟨named, kind, nested, hnamed, hkind, -, rfl⟩ := h.parts
  have hproperties := (makesKind_of_kind hkind).properties
  rw [(Schema.membersNamed_of_nameMembers hnamed).kinds.properties] at hproperties
  obtain ⟨below, kind', -, -, rfl⟩ := Schema.nameMembers_eq_ok.mp hnamed
  exact hproperties

end Makes

/-- A path leads to the same place before and after resolving. -/
theorem makes_find? {forest : List Schema} {resolved : List Resolved.Schema}
    (h : List.Forall₂ r.Makes forest resolved) (path : ScopedName) :
    Option.Rel r.Makes (Schema.find? forest path) (Resolved.Schema.find? resolved path) := by
  induction path generalizing forest resolved with
  | nil => simp [Schema.find?, Resolved.Schema.find?]
  | cons name path ih =>
    have hfirst : Option.Rel r.Makes (forest.find? (·.name == name))
        (resolved.find? (·.name == name)) := by
      apply rel_find? h
      intro s t hst
      rw [hst.name]
    rw [Schema.find?_cons, Resolved.Schema.find?_cons]
    split_ifs
    · exact hfirst
    · exact rel_bind hfirst fun s _ t hst => ih hst.nested

mutual

lemma makes_flatten : ∀ {s : Schema} {t : Resolved.Schema}, r.Makes s t →
    List.Forall₂ r.Makes s.flatten t.flatten
  | ⟨_, _, _, _, _, _, nested⟩, t, h => by
    rw [Schema.flatten_eq, Resolved.Schema.flatten_eq]
    exact .cons h (makes_flattenAll h.nested)

lemma makes_flattenAll : ∀ {forest : List Schema} {resolved : List Resolved.Schema},
    List.Forall₂ r.Makes forest resolved →
      List.Forall₂ r.Makes (Schema.flattenAll forest) (Resolved.Schema.flattenAll resolved)
  | [], _, .nil => .nil
  | _ :: _, _, .cons first others => List.rel_append (makes_flatten first) (makes_flattenAll others)

end

end Resolution

namespace ResolvedDocument

/-- What the schemas of a resolved document were looked up and resolved with. -/
def resolution (d : ResolvedDocument) (named : Document) : Resolution :=
  ⟨named, d.options.package, d.options.enumStyle⟩

end ResolvedDocument

namespace Document

variable {d : Document} {options : Options} {resolved : ResolvedDocument}

/-- The schemas of a resolved document are made of those of the document, one by one. -/
theorem makes_of_resolve (h : (d.resolve options).result = .ok resolved) :
    ∃ named, d.nameMembers resolved.options.package = .ok named ∧
      List.Forall₂ (resolved.resolution named).Makes d.schemas resolved.schemas := by
  obtain ⟨-, named, hnamed, schemas, groups, hschemas, -, rfl⟩ := resolve_eq_ok.mp h
  refine ⟨named, hnamed, ?_⟩
  simp only [nameMembers, Outcome.bind_eq_ok, Outcome.pure_eq_ok] at hnamed
  obtain ⟨forest, hforest, rfl⟩ := hnamed
  exact Resolution.makes_of_schemas hforest hschemas

/-- What is at a path of a resolved document is made of what the document has there. -/
theorem makes_find?_of_resolve (h : (d.resolve options).result = .ok resolved) :
    ∃ named, d.nameMembers resolved.options.package = .ok named ∧
      ∀ path, Option.Rel (resolved.resolution named).Makes (d.find? path)
        (resolved.find? path) := by
  obtain ⟨named, hnamed, hmakes⟩ := makes_of_resolve h
  exact ⟨named, hnamed, Resolution.makes_find? hmakes⟩

end Document

end SwiftClient
