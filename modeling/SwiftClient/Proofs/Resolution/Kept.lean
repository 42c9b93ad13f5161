import SwiftClient.Proofs.Resolution.Made

/-!
# What resolving keeps

Resolving adds types, identifiers and starting values to what a document has, and takes nothing
away: everything in the resolved document corresponds, in order, to what the document has in that
place, with the same names, flags and codes.
-/
namespace SwiftClient

structure Property.Kept (p : Property) (q : Resolved.Property) : Prop where
  name : q.name = p.name
  serializedName : q.serializedName = p.wireName
  description : q.description = p.description
  required : q.required = p.required
  nullable : q.nullable = p.type.nullable
  classification : q.classification = p.type.classification

structure Member.Kept (m : Member) (q : Resolved.Member) : Prop where
  name : ∀ n, m.name = some n → q.name = n
  classification : q.classification = m.type.classification

structure Discriminator.Kept (package : Option String) (x : Discriminator)
    (q : Resolved.Discriminator) : Prop where
  name : q.name = x.name
  serializedName : q.serializedName = x.wireName
  mappings : (q.mappings.map fun m => (m.value, m.type)) =
    x.mappings.map fun m => (m.value, m.scopedName.swiftType package)

/-- A kind stays the same with all that it consists of. Schemas that it names become types. -/
inductive SchemaKind.Kept (package : Option String) : SchemaKind → Resolved.SchemaKind → Prop
  | object {o : ObjectSchema} {ps : List Resolved.Property} {x : Option Resolved.Discriminator}
      (properties : List.Forall₂ Property.Kept o.properties ps)
      (discriminator : Option.Rel (Discriminator.Kept package) o.discriminator x) :
      Kept package (.object o)
        (.object ps (o.parent.map (·.swiftType package)) (o.implements.map (·.swiftType package)) x)
  | enum {e : EnumSchema} {type : SwiftType} {members : List Resolved.EnumMember}
      (values : members.map (·.value) = e.values) : Kept package (.enum e) (.enum type members)
  | interface {i : InterfaceSchema} {ps : List Resolved.Property}
      (properties : List.Forall₂ Property.Kept i.properties ps) :
      Kept package (.interface i)
        (.interface ps (i.parents.map (·.swiftType package))
          (i.implementation.map (·.swiftType package)))
  | hierarchy {h : HierarchySchema} {ps : List Resolved.Property} {x : Resolved.Discriminator}
      (properties : List.Forall₂ Property.Kept h.properties ps)
      (discriminator : h.discriminator.Kept package x) :
      Kept package (.hierarchy h) (.hierarchy ps x (h.members.map (·.swiftType package)))
  | wrapper {w : WrapperSchema} {p : Resolved.Property} (property : w.property.Kept p) :
      Kept package (.wrapper w) (.wrapper p)
  | oneOf {o : OneOfSchema} {ms : List Resolved.Member} {x : Option Resolved.Discriminator}
      (members : List.Forall₂ Member.Kept o.members ms)
      (discriminator : Option.Rel (Discriminator.Kept package) o.discriminator x) :
      Kept package (.oneOf o) (.oneOf ms x)

inductive Schema.Kept (package : Option String) : Schema → Resolved.Schema → Prop
  | intro {s : Schema} {t : Resolved.Schema} (name : t.name = s.name)
      (scopedName : t.scopedName = s.scopedName) (description : t.description = s.description)
      (purpose : t.purpose = s.purpose) (nullable : t.nullable = s.nullable)
      (classification : t.classification = s.classification) (kind : s.kind.Kept package t.kind)
      (nested : List.Forall₂ (Kept package) s.nested t.nested) : Kept package s t

structure Parameter.Kept (p : Parameter) (q : Resolved.Parameter) : Prop where
  name : q.name = p.name
  place : q.place = p.place
  required : q.required = p.required
  nullable : q.nullable = p.type.nullable
  description : q.description = p.description
  classification : q.classification = p.type.classification

structure RequestBody.Kept (b : RequestBody) (c : Resolved.RequestBody) : Prop where
  required : c.required = b.required
  nullable : c.nullable = b.type.nullable
  mediaType : c.mediaType = b.mediaType

structure Response.Kept (p : Response) (q : Resolved.Response) : Prop where
  code : q.code = p.code
  isSuccess : q.isSuccess = p.isSuccess
  description : q.description = p.description
  mediaType : q.mediaType = p.mediaType
  body : q.type.isSome = p.type.isSome

structure Operation.Kept (group : OperationGroup) (o : Operation) (u : Resolved.Operation) :
    Prop where
  name : u.name = o.name
  method : u.method = o.method
  path : u.path = o.path
  fullPath : u.fullPath = group.path ++ o.path
  summary : u.summary = o.summary
  description : u.description = o.description
  deprecated : u.deprecated = o.deprecated
  parameters : List.Forall₂ Parameter.Kept o.parameters u.parameters
  requestBody : Option.Rel RequestBody.Kept o.requestBody u.requestBody
  responses : List.Forall₂ Response.Kept o.responses u.responses
  securityRequirements : u.securityRequirements = o.securityRequirements

structure OperationGroup.Kept (g : OperationGroup) (t : Resolved.Group) : Prop where
  name : t.name = g.name
  path : t.path = g.path
  description : t.description = g.description
  operations : List.Forall₂ (Operation.Kept g) g.operations t.operations

structure Document.Kept (d : Document) (t : ResolvedDocument) : Prop where
  info : t.info = d.info
  servers : t.servers = d.servers
  groups : List.Forall₂ OperationGroup.Kept d.groups t.groups
  schemas : List.Forall₂ (Schema.Kept t.options.package) d.schemas t.schemas
  securitySchemes : t.securitySchemes = d.securitySchemes

namespace Resolution

variable {r : Resolution} {context : String}

lemma property_kept {p : Property} {q : Resolved.Property}
    (h : (r.property context p).result = .ok q) : p.Kept q := by
  simp only [property, Traced.result_bind, Traced.result_lift, Traced.result_pure,
    Outcome.bind_eq_ok, Except.ok.injEq] at h
  obtain ⟨ctx, -, values, -, rfl⟩ := h
  exact ⟨rfl, rfl, rfl, rfl, rfl, rfl⟩

lemma discriminator_kept (members : List Member) (x : Discriminator) :
    x.Kept r.package (r.discriminator members x) where
  name := rfl
  serializedName := rfl
  mappings := by
    rw [discriminator, List.map_map]
    rfl

lemma optional_discriminator_kept (members : List Member) (x : Option Discriminator) :
    Option.Rel (Discriminator.Kept r.package) x (x.map (r.discriminator members)) := by
  cases x with
  | none => exact .none
  | some x => exact .some (discriminator_kept members x)

lemma value_of_enumMember {ctx : LiteralContext} {value : Json} {m : Resolved.EnumMember}
    (h : (r.enumMember ctx value).result = .ok m) : m.value = value := by
  simp only [enumMember, Traced.result_bind, Traced.result_pure, Outcome.bind_eq_ok,
    Except.ok.injEq] at h
  obtain ⟨literal, -, rfl⟩ := h
  rfl

lemma name_of_enumMember {ctx : LiteralContext} {value : Json} {m : Resolved.EnumMember}
    (h : (r.enumMember ctx value).result = .ok m) :
    m.name = Naming.memberName r.enumStyle (valueText m.value) := by
  simp only [enumMember, Traced.result_bind, Traced.result_pure, Outcome.bind_eq_ok,
    Except.ok.injEq] at h
  obtain ⟨literal, -, rfl⟩ := h
  rfl

lemma enumMembers_kept {ctx : LiteralContext} {values : List Json}
    {members : List Resolved.EnumMember}
    (h : List.Forall₂ (fun v m => (r.enumMember ctx v).result = .ok m) values members) :
    members.map (·.value) = values := by
  have hvalue : members.map (·.value) = values.map id :=
    map_eq_map_of_forall₂ h fun _ _ => value_of_enumMember
  rw [hvalue, List.map_id]

lemma member_kept {m : Member} {q : Resolved.Member} (h : r.member context m = .ok q) :
    m.Kept q := by
  simp only [member, Outcome.bind_eq_ok, Outcome.pure_eq_ok] at h
  obtain ⟨type, -, rfl⟩ := h
  refine ⟨fun n hn => ?_, rfl⟩
  rw [hn, Option.getD_some]

theorem kind_kept {s : Schema} {k : Resolved.SchemaKind} (h : (r.kind s).result = .ok k) :
    s.kind.Kept r.package k := by
  have hmakes := makesKind_of_kind h
  generalize s.kind = kind at hmakes
  cases hmakes with
  | object properties =>
    exact .object (properties.imp fun _ _ => property_kept) (optional_discriminator_kept [] _)
  | enum _ values => exact .enum (enumMembers_kept values)
  | interface properties => exact .interface (properties.imp fun _ _ => property_kept)
  | hierarchy properties =>
    exact .hierarchy (properties.imp fun _ _ => property_kept) (discriminator_kept [] _)
  | wrapper property => exact .wrapper (property_kept property)
  | oneOf members =>
    exact .oneOf (members.imp fun _ _ => member_kept) (optional_discriminator_kept _ _)

end Resolution

namespace SchemaKind.MembersNamed

variable {nested : List Schema} {kind named : SchemaKind}

lemma classification (h : kind.MembersNamed nested named) :
    named.classification = kind.classification := by
  cases h <;> rfl

lemma kept {package : Option String} {k : Resolved.SchemaKind} (h : kind.MembersNamed nested named)
    (hk : named.Kept package k) : kind.Kept package k := by
  cases h with
  | oneOf members _ =>
    cases hk with
    | oneOf hmembers discriminator =>
      refine .oneOf ((forall₂_comp members hmembers).imp ?_) discriminator
      rintro m q ⟨m', hm, hq⟩
      exact ⟨fun n hn => hq.name n (hm.kept n hn), hq.classification.trans (by rw [hm.type])⟩
  | other => exact hk

end SchemaKind.MembersNamed

namespace Resolution

variable {r : Resolution}

mutual

theorem Makes.kept : ∀ {s : Schema} {t : Resolved.Schema}, r.Makes s t → s.Kept r.package t
  | ⟨_, _, _, _, _, _, nested⟩, t, h => by
    obtain ⟨named, kind, below, hnamed, hkind, hbelow, rfl⟩ := h.parts
    have hmembers := (Schema.membersNamed_of_nameMembers hnamed).kinds
    exact .intro rfl rfl rfl rfl rfl hmembers.classification (hmembers.kept (kind_kept hkind))
      (schemas_kept hbelow)

theorem schemas_kept : ∀ {forest : List Schema} {resolved : List Resolved.Schema},
    List.Forall₂ r.Makes forest resolved → List.Forall₂ (Schema.Kept r.package) forest resolved
  | [], _, .nil => .nil
  | _ :: _, _, .cons first others => .cons first.kept (schemas_kept others)

end

variable {context : String}

lemma parameter_kept {p : Parameter} {q : Resolved.Parameter}
    (h : (r.parameter context p).result = .ok q) : p.Kept q := by
  simp only [parameter, Traced.result_bind, Traced.result_lift, Traced.result_pure,
    Outcome.bind_eq_ok, Except.ok.injEq] at h
  obtain ⟨ctx, -, values, -, rfl⟩ := h
  exact ⟨rfl, rfl, rfl, rfl, rfl, rfl⟩

lemma ifPresent_eq_ok {α β : Type} {f : α → Except Failure β} {a : Option α} {b : Option β} :
    ifPresent f a = .ok b ↔ Option.Rel (fun x y => f x = .ok y) a b := by
  cases a with
  | none => cases b <;> simp [ifPresent]
  | some x =>
    rw [ifPresent]
    cases hx : f x <;> cases b <;> simp [Except.map, hx]

lemma requestBody_kept {b : RequestBody} {c : Resolved.RequestBody}
    (h : r.requestBody context b = .ok c) : b.Kept c := by
  simp only [requestBody, Outcome.bind_eq_ok, Outcome.pure_eq_ok] at h
  obtain ⟨type, -, rfl⟩ := h
  exact ⟨rfl, rfl, rfl⟩

lemma response_kept {p : Response} {q : Resolved.Response}
    (h : r.response context p = .ok q) : p.Kept q := by
  simp only [response, Outcome.bind_eq_ok, Outcome.pure_eq_ok, ifPresent_eq_ok] at h
  obtain ⟨type, htype, rfl⟩ := h
  refine ⟨rfl, rfl, rfl, rfl, ?_⟩
  generalize p.type = usage at htype
  cases htype <;> rfl

theorem operation_kept {g : OperationGroup} {o : Operation} {u : Resolved.Operation}
    (h : (r.operation g o).result = .ok u) : o.Kept g u := by
  simp only [operation, Traced.result_bind, Traced.result_lift, Traced.result_ofExcept,
    Traced.result_mapM, Traced.result_pure, Outcome.bind_eq_ok, Outcome.mapM_eq_ok,
    ifPresent_eq_ok, Except.ok.injEq] at h
  obtain ⟨parameters, hparameters, body, hbody, responses, hresponses, rfl⟩ := h
  have hrequestBody : Option.Rel RequestBody.Kept o.requestBody body := by
    generalize o.requestBody = b at hbody ⊢
    cases hbody with
    | none => exact .none
    | some hb => exact .some (requestBody_kept hb)
  exact {
    name := rfl
    method := rfl
    path := rfl
    fullPath := rfl
    summary := rfl
    description := rfl
    deprecated := rfl
    parameters := hparameters.imp fun _ _ => parameter_kept
    requestBody := hrequestBody
    responses := hresponses.imp fun _ _ => response_kept
    securityRequirements := rfl }

theorem group_kept {g : OperationGroup} {t : Resolved.Group} (h : (r.group g).result = .ok t) :
    g.Kept t := by
  obtain ⟨operations, hoperations, rfl⟩ := group_eq_ok.mp h
  exact ⟨rfl, rfl, rfl, hoperations.imp fun _ _ => operation_kept⟩

end Resolution

namespace Document

variable {d : Document} {options : Options} {resolved : ResolvedDocument}

/-- A resolved document keeps all that is in the document, in its order. What is found in it at a
path is what resolving makes of the schema that the document has there. -/
theorem resolve_keeps (h : (d.resolve options).result = .ok resolved) :
    d.Kept resolved ∧
      ∃ named, d.nameMembers resolved.options.package = .ok named ∧
        ∀ path, Option.Rel (resolved.resolution named).Makes (d.find? path)
          (resolved.find? path) := by
  obtain ⟨named, hnamed, hmakes⟩ := makes_of_resolve h
  refine ⟨?_, named, hnamed, Resolution.makes_find? hmakes⟩
  obtain ⟨-, named', hnamed', schemas, groups, -, hgroups, rfl⟩ := resolve_eq_ok.mp h
  simp only [nameMembers, Outcome.bind_eq_ok, Outcome.pure_eq_ok] at hnamed'
  obtain ⟨forest, -, rfl⟩ := hnamed'
  rw [Resolution.allGroups, Traced.result_mapM, Outcome.mapM_eq_ok] at hgroups
  exact {
    info := rfl
    servers := rfl
    groups := hgroups.imp fun _ _ => Resolution.group_kept
    schemas := Resolution.schemas_kept hmakes
    securitySchemes := rfl }

/-- Pets by size, with a choice of sizes nested in them and an operation that looks for them. -/
def petShop : Document :=
  { Document.titled "Pet shop" "1" with
    servers := [⟨"/v1", none⟩]
    groups := [{
      name := "pets"
      path := "/pets"
      operations := [{
        name := "findPet"
        method := .get
        path := "/{id}"
        deprecated := true
        parameters := [{
          name := "id", place := .path, required := true, type := .scalar .integer "int64" }]
        responses := [{ code := some 200, type := some (.named .object ["Pet"]) }, {}] }] }]
    schemas := [{ Schema.top "Pet" (.object {
      properties := [{
        name := "size", required := true, type := .named .oneOf ["Pet", "Size"] }] }) with
      nested := [{
        name := "Size"
        scopedName := ["Pet", "Size"]
        kind := .oneOf ⟨[⟨some "inches", .scalar .integer none⟩, ⟨none, .scalar .string none⟩],
          none⟩ }] }]
    securitySchemes := [⟨"key", none, .apiKey "X-Key" .header⟩] }

lemma exists_resolve_petShop : ∃ resolved, (petShop.resolve .default).result = .ok resolved := by
  decide +kernel

theorem resolve_keeps_petShop :
    ∃ resolved, (petShop.resolve .default).result = .ok resolved ∧ petShop.Kept resolved ∧
      ∃ named, petShop.nameMembers resolved.options.package = .ok named ∧
        Option.Rel (resolved.resolution named).Makes (petShop.find? ["Pet", "Size"])
          (resolved.find? ["Pet", "Size"]) := by
  obtain ⟨resolved, h⟩ := exists_resolve_petShop
  obtain ⟨hkept, named, hnamed, hfind⟩ := resolve_keeps h
  exact ⟨resolved, h, hkept, named, hnamed, hfind _⟩

end Document

end SwiftClient
