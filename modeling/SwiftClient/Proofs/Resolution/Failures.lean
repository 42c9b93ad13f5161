import SwiftClient.Proofs.Resolution.NamedDocument
import SwiftClient.Resolution.Document

/-!
# How resolving can fail

In a valid document every part of a type and every schema that is referred to is found. What is
left to fail are formats, map keys, literals and compositions that Swift does not support. Of these,
types and values alone never lead to a failure of composition, so such a failure always comes from
a nested interface or from the comparison of a property with one that it overrides.
-/
namespace SwiftClient

open Outcome (FailsOnly)

/-- A failure that a valid document leads to when it asks for what Swift does not support. -/
inductive Failure.Unsupported : Failure → Prop
  | format (c : Classification) (format : String) : Unsupported (.unsupportedFormat c format)
  | mapKey (c : Classification) (context : String) : Unsupported (.invalidMapKey c context)
  | notScalar (c : Classification) (value : Json) :
    Unsupported (.unsupportedLiteral c (.notScalar value))
  | notWritable (c : Classification) (value : Json) :
    Unsupported (.unsupportedLiteral c (.notWritable value))
  | nested (name : String) : Unsupported (.nestedInterface name)
  | property (child parent name : String) (reason : Incompatibility) :
    Unsupported (.incompatibleProperty child parent name reason)

/-- A failure of a type or of a value, which has nothing to do with how schemas are composed. -/
inductive Failure.Inexpressible : Failure → Prop
  | format (c : Classification) (format : String) : Inexpressible (.unsupportedFormat c format)
  | mapKey (c : Classification) (context : String) : Inexpressible (.invalidMapKey c context)
  | notScalar (c : Classification) (value : Json) :
    Inexpressible (.unsupportedLiteral c (.notScalar value))
  | notWritable (c : Classification) (value : Json) :
    Inexpressible (.unsupportedLiteral c (.notWritable value))

open Failure (Unsupported Inexpressible)

lemma Failure.Inexpressible.unsupported {e : Failure} (h : e.Inexpressible) : e.Unsupported := by
  cases h with
  | format c format => exact .format c format
  | mapKey c context => exact .mapKey c context
  | notScalar c value => exact .notScalar c value
  | notWritable c value => exact .notWritable c value

namespace Classification

lemma swiftType_failsOnly {c : Classification} (h : c.isPrimitive) (format : Option String) :
    FailsOnly Inexpressible (c.swiftType format) := by
  cases c with
  | integer | number =>
    rcases format with _ | format
    · exact .ok
    · unfold swiftType
      split <;> first | exact .ok | exact .error (.format _ _) | simp_all
  | string =>
    unfold swiftType
    split <;> first | exact .ok | contradiction
  | boolean | date | time | dateTime | binary | file | any => exact .ok
  | array | map | object | enum | oneOf | interface | hierarchy | wrapper => cases h

lemma component?_swiftType {c : Classification} {format : Option String} {type : SwiftType}
    (h : c.swiftType format = .ok type) : type.component? = none := by
  unfold swiftType at h
  split at h <;> cases h <;> rfl

end Classification

namespace TypeUsage

variable {d : Document} {t : TypeUsage} {package : Option String} {context : String}

lemma component?_swiftType {type : SwiftType} (hkey : t.classification.isMapKey)
    (h : t.swiftType package context = .ok type) : type.component? = none := by
  obtain ⟨c, format, nullable, scopedName, component, key, purpose⟩ := t
  cases c with
  | string | integer => exact Classification.component?_swiftType h
  | _ => cases hkey

lemma swiftType_array {c : TypeUsage} (hkind : t.classification = .array)
    (hc : t.component = some c) :
    t.swiftType package context = (do return .array (← c.swiftType package context)) := by
  obtain ⟨c, format, nullable, scopedName, component, key, purpose⟩ := t
  subst hkind hc
  rw [swiftType]

lemma swiftType_map {k c : TypeUsage} (hkind : t.classification = .map)
    (hc : t.component = some c) (hk : t.key = some k) :
    t.swiftType package context =
      if k.classification.isMapKey then do
        let keyType ← k.swiftType package context
        let valueType ← c.swiftType package context
        (SwiftType.dictionaryOf keyType valueType).mapError .type
      else .error (.invalidMapKey k.classification context) := by
  obtain ⟨c, format, nullable, scopedName, component, key, purpose⟩ := t
  subst hkind hc hk
  rw [swiftType]

lemma swiftType_named {name : ScopedName} (hkind : t.classification.isNamed)
    (hname : t.scopedName = some name) :
    t.swiftType package context = .ok (name.swiftType package) := by
  obtain ⟨c, format, nullable, scopedName, component, key, purpose⟩ := t
  subst hname
  cases c <;> first | rfl | cases hkind

lemma swiftType_primitive (hkind : t.classification.isPrimitive) :
    t.swiftType package context = t.classification.swiftType t.format := by
  obtain ⟨c, format, nullable, scopedName, component, key, purpose⟩ := t
  cases c <;> first | rfl | cases hkind

theorem swiftType_failsOnly (h : t.WellFormed d) :
    FailsOnly Inexpressible (t.swiftType package context) := by
  induction h with
  | array kind component _ ih =>
    rw [swiftType_array kind component]
    exact ih.bind fun _ _ => .pure
  | map kind component key _ _ ihk ihc =>
    rw [swiftType_map kind component key]
    split_ifs with hkey
    · refine ihk.bind fun keyType hkeyType => ihc.bind fun valueType _ => ?_
      rw [SwiftType.dictionaryOf, component?_swiftType hkey hkeyType]
      exact .ok
    · exact .error (.mapKey _ _)
  | named kind scopedName =>
    rw [swiftType_named kind scopedName]
    exact .ok
  | primitive kind =>
    rw [swiftType_primitive kind]
    exact Classification.swiftType_failsOnly kind _

end TypeUsage

/-- Arrays have what is needed to write their elements, at every depth. -/
inductive LiteralContext.Complete : LiteralContext → Prop
  | collection {c : Classification} {format : Option String} {type : SwiftType}
      {required nullable : Bool} {component : LiteralContext} (inside : component.Complete) :
      Complete ⟨c, format, type, required, nullable, some component⟩
  | single {c : Classification} {format : Option String} {type : SwiftType}
      {required nullable : Bool} (h : c ≠ .array) :
      Complete ⟨c, format, type, required, nullable, none⟩

namespace TypeUsage

variable {d : Document} {t : TypeUsage} {package : Option String} {context : String}
  {required : Bool}

lemma literalContext_collection {c : TypeUsage} (hkind : t.classification.isCollection)
    (hc : t.component = some c) :
    t.literalContext package context required = (do
      let type ← t.swiftType package context
      let inner ← c.literalContext package context true
      return ⟨t.classification, t.format, type, required, t.nullable, some inner⟩) := by
  obtain ⟨c, format, nullable, scopedName, component, key, purpose⟩ := t
  subst hc
  cases c with
  | array | map => rw [literalContext]
  | _ => cases hkind

lemma literalContext_single (hkind : t.classification.isCollection = false) :
    t.literalContext package context required = (do
      let type ← t.swiftType package context
      return ⟨t.classification, t.format, type, required, t.nullable, none⟩) := by
  obtain ⟨c, format, nullable, scopedName, component, key, purpose⟩ := t
  cases c <;> first | rfl | cases hkind

/-- The context of a usage can be made whenever its type can, and is complete. -/
theorem literalContext_spec (h : t.WellFormed d) :
    FailsOnly Inexpressible (t.literalContext package context required) ∧
      ∀ ctx, t.literalContext package context required = .ok ctx → ctx.Complete := by
  have htype : FailsOnly Inexpressible (t.swiftType package context) := swiftType_failsOnly h
  induction h generalizing required with
  | array kind component inside ih | map kind component _ _ inside _ ih =>
    obtain ⟨hinner, hcomplete⟩ := @ih true (swiftType_failsOnly inside)
    rw [literalContext_collection (by rw [kind]; rfl) component]
    constructor
    · exact htype.bind fun _ _ => hinner.bind fun _ _ => .pure
    · simp only [Outcome.bind_eq_ok, Outcome.pure_eq_ok]
      rintro ctx ⟨_, -, inner, hc, rfl⟩
      exact .collection (hcomplete inner hc)
  | @named t name kind | @primitive t kind =>
    have hsingle : t.classification.isCollection = false :=
      Classification.isCollection_eq_false (by simp [kind])
    rw [literalContext_single hsingle]
    constructor
    · exact htype.bind fun _ _ => .pure
    · simp only [Outcome.bind_eq_ok, Outcome.pure_eq_ok]
      rintro ctx ⟨_, -, rfl⟩
      refine .single fun harray => ?_
      rw [harray] at hsingle
      cases hsingle

end TypeUsage

namespace Literal

variable {style : Naming.EnumStyle} {ctx : LiteralContext}

lemma scalarText_failsOnly (c : Classification) (value : Json) :
    FailsOnly Inexpressible (scalarText c value) := by
  cases value with
  | string | number | bool => exact .ok
  | null | array | object => exact .error (.notScalar c _)

lemma writeWith_failsOnly {element : Option (Json → Traced String)} {value : Json}
    (harray : ctx.classification = .array → element ≠ none)
    (helement : ∀ f, element = some f → ∀ v, FailsOnly Inexpressible (f v).result) :
    FailsOnly Inexpressible (writeWith style element ctx value).result := by
  obtain ⟨c, format, type, required, nullable, component⟩ := ctx
  cases c with
  | enum | string | date | time | dateTime | binary =>
    simp only [writeWith, Traced.result_bind, Traced.result_lift, Traced.result_pure]
    exact (scalarText_failsOnly _ value).bind fun _ _ => .pure
  | integer | number | boolean => exact scalarText_failsOnly _ value
  | array =>
    cases element with
    | none => exact absurd rfl (harray rfl)
    | some f =>
      simp only [writeWith, Traced.result_bind, Traced.result_mapM, Traced.result_pure]
      exact (FailsOnly.mapM fun v _ => helement f rfl v).bind fun _ _ => .pure
  | object | map | oneOf | interface | hierarchy | wrapper => exact .ok
  | file | any => exact .error (.notWritable _ value)

lemma write_null : write style ctx .null = pure "nil" := by
  rw [write]

lemma write_of_ne_null {value : Json} (h : value ≠ .null) :
    write style ctx value = writeWith style (ctx.component.map (write style)) ctx value := by
  obtain ⟨c, format, type, required, nullable, component⟩ := ctx
  cases component <;> rw [write] <;> first | rfl | exact h

theorem write_failsOnly (h : ctx.Complete) (value : Json) :
    FailsOnly Inexpressible (write style ctx value).result := by
  induction h generalizing value with
  | collection inside ih =>
    by_cases hvalue : value = .null
    · rw [hvalue, write_null]
      exact .ok
    · rw [write_of_ne_null hvalue]
      refine writeWith_failsOnly (fun _ => by simp) fun f hf v => ?_
      obtain rfl := Option.some.inj hf
      exact ih v
  | single hc =>
    by_cases hvalue : value = .null
    · rw [hvalue, write_null]
      exact .ok
    · rw [write_of_ne_null hvalue]
      exact writeWith_failsOnly (fun harray => absurd harray hc) (by simp)

lemma given_failsOnly (h : ctx.Complete) (default : Option Json) :
    FailsOnly Inexpressible (given style ctx default).result := by
  cases default with
  | none => exact .ok
  | some value =>
    simp only [given, Traced.result_bind, Traced.result_pure]
    exact (write_failsOnly h value).bind fun _ _ => .pure

lemma initial_failsOnly (h : ctx.Complete) (default : Option Default) :
    FailsOnly Inexpressible (initial style ctx default).result := by
  have hzero : ∀ value : Json, FailsOnly Inexpressible
      (do return some (Default.mk value (← write style ctx value)) :
        Traced (Option Default)).result := by
    intro value
    simp only [Traced.result_bind, Traced.result_pure]
    exact (write_failsOnly h value).bind fun _ _ => .pure
  unfold initial missing
  split
  · exact .ok
  · split_ifs
    · exact .ok
    · split <;> first | exact hzero _ | exact .ok
    · exact .ok

end Literal

def SchemaKind.parents : SchemaKind → List ScopedName
  | .object o => o.parent.toList ++ o.implements
  | .interface i => i.parents
  | _ => []

lemma nameMembers_failsOnly {d : Document} {package : Option String} {context : String}
    {scope : Naming.Scope} {members : List Member} (h : ∀ m ∈ members, m.type.WellFormed d) :
    FailsOnly Inexpressible (nameMembers package context scope members) := by
  induction members generalizing scope with
  | nil => exact .ok
  | cons member rest ih =>
    rw [List.forall_mem_cons] at h
    obtain ⟨name, type⟩ := member
    cases name with
    | some name =>
      rw [nameMembers]
      exact (ih h.2).bind fun _ _ => .pure
    | none =>
      rw [nameMembers]
      refine (TypeUsage.swiftType_failsOnly h.1).bind fun _ _ => ?_
      exact (ih h.2).bind fun _ _ => .pure

namespace Schema

mutual

theorem nameMembers_failsOnly {d : Document} {package : Option String} :
    ∀ {s : Schema}, (∀ t ∈ s.flatten, t.WellFormed d) →
      FailsOnly Inexpressible (s.nameMembers package)
  | ⟨name, scopedName, description, purpose, nullable, kind, nested⟩, h => by
    rw [flatten_eq, List.forall_mem_cons] at h
    rw [nameMembers]
    refine (nameAllMembers_failsOnly h.2).bind fun nested' _ => .bind ?_ fun _ _ => .pure
    have hkind : kind.WellFormed d := h.1.kind
    cases kind with
    | oneOf o =>
      exact (SwiftClient.nameMembers_failsOnly hkind.2).bind fun _ _ => .pure
    | object | enum | interface | hierarchy | wrapper => exact .ok

theorem nameAllMembers_failsOnly {d : Document} {package : Option String} :
    ∀ {forest : List Schema}, (∀ t ∈ flattenAll forest, t.WellFormed d) →
      FailsOnly Inexpressible (nameAllMembers package forest)
  | [], _ => .ok
  | s :: rest, h => by
    rw [flattenAll, List.forall_mem_append] at h
    rw [nameAllMembers]
    exact (nameMembers_failsOnly h.1).bind fun _ _ =>
      (nameAllMembers_failsOnly h.2).bind fun _ _ => .pure

end

end Schema

namespace Resolution

variable {r : Resolution} {context : String}

lemma startingValues_failsOnly {ctx : LiteralContext} (h : ctx.Complete) (default : Option Json) :
    FailsOnly Inexpressible (r.startingValues ctx default).result := by
  simp only [startingValues, Traced.result_bind, Traced.result_pure]
  exact (Literal.given_failsOnly h default).bind fun given _ =>
    (Literal.initial_failsOnly h given).bind fun _ _ => .pure

lemma valuesOf_failsOnly {α : Type} {t : TypeUsage} {package : Option String} {required : Bool}
    {default : Option Json} (h : t.WellFormed r.document)
    {make : LiteralContext → Option Literal.Default × Option Literal.Default → α} :
    FailsOnly Inexpressible (do
      let ctx ← t.literalContext package context required
      let values ← (r.startingValues ctx default).result
      return make ctx values) := by
  obtain ⟨hctx, hcomplete⟩ := TypeUsage.literalContext_spec h
  exact hctx.bind fun ctx hc =>
    (startingValues_failsOnly (hcomplete ctx hc) default).bind fun _ _ => .pure

lemma property_failsOnly {p : Property} (h : p.type.WellFormed r.document) :
    FailsOnly Inexpressible (r.property context p).result := by
  simp only [property, Traced.result_bind, Traced.result_lift, Traced.result_pure]
  exact valuesOf_failsOnly h

lemma parameter_failsOnly {p : Parameter} (h : p.type.WellFormed r.document) :
    FailsOnly Inexpressible (r.parameter context p).result := by
  simp only [parameter, Traced.result_bind, Traced.result_lift, Traced.result_pure]
  exact valuesOf_failsOnly h

lemma properties_failsOnly {properties : List Property}
    (h : ∀ p ∈ properties, p.type.WellFormed r.document) :
    FailsOnly Inexpressible (properties.mapM (r.property context)).result := by
  rw [Traced.result_mapM]
  exact .mapM fun p hp => property_failsOnly (h p hp)

/-- The failure of a property that a parent declares and that `child`, which has `properties`,
overrides otherwise than it may. -/
inductive Clash (r : Resolution) (child : Schema) (properties : List Resolved.Property)
    (parent : ScopedName) : Failure → Prop
  | intro {u : Schema} {inherited : Property} {p q : Resolved.Property} {reason : Incompatibility}
      (found : r.document.find? parent = some u) (declared : inherited ∈ u.properties)
      (own : properties.find? (·.name == inherited.name) = some p)
      (resolved : (r.property u.scopedName.dotted inherited).result = .ok q)
      (differ : q.incompatibility? p = some reason) :
      Clash r child properties parent
        (.incompatibleProperty child.scopedName.dotted u.scopedName.dotted p.name reason)

/-- The properties of a parent are well formed because the parent is a schema of the document. So
the comparison with them fails only where a property really differs. -/
lemma checkOverrides_failsOnly {child : Schema} {properties : List Resolved.Property}
    {parent : ScopedName} (hschemas : ∀ s ∈ r.document.allSchemas, s.WellFormed r.document)
    (h : r.document.has parent) :
    FailsOnly (fun e => e.Inexpressible ∨ r.Clash child properties parent e)
      (r.checkOverrides child properties parent).result := by
  obtain ⟨u, hu⟩ := Option.isSome_iff_exists.mp h
  have hwell := (hschemas u (Schema.find?_mem hu)).types
  unfold checkOverrides
  rw [show r.document.find? parent = some u from hu, Traced.result_forM]
  refine .forM fun inherited hinherited => ?_
  unfold checkOverride
  cases hp : properties.find? (·.name == inherited.name) with
  | none => exact .ok
  | some p =>
    rw [Traced.result_bind]
    have hproperty : FailsOnly Inexpressible (r.property u.scopedName.dotted inherited).result :=
      property_failsOnly (hwell inherited hinherited)
    refine (hproperty.mono fun _ => Or.inl).bind fun q hq => ?_
    cases hreason : q.incompatibility? p with
    | none => exact .ok
    | some reason => exact .error (Or.inr (.intro hu hinherited hp hq hreason))

/-- The failure of a schema that overrides a property of one of its parents otherwise than it
may. -/
def Misfit (r : Resolution) (s : Schema) (e : Failure) : Prop :=
  ∃ properties, List.Forall₂ (fun p q => (r.property s.scopedName.dotted p).result = .ok q)
    s.properties properties ∧ ∃ parent ∈ s.kind.parents, r.Clash s properties parent e

lemma Misfit.unsupported {s : Schema} {e : Failure} (h : r.Misfit s e) : e.Unsupported := by
  obtain ⟨properties, -, parent, -, hclash⟩ := h
  cases hclash with
  | intro => exact .property _ _ _ _

lemma overriding_failsOnly {s : Schema}
    (hschemas : ∀ t ∈ r.document.allSchemas, t.WellFormed r.document)
    (htypes : ∀ p ∈ s.properties, p.type.WellFormed r.document)
    (hparents : ∀ parent ∈ s.kind.parents, r.document.has parent) {α : Type}
    {make : List Resolved.Property → α} :
    FailsOnly (fun e => e.Inexpressible ∨ r.Misfit s e) (do
      let properties ← (s.properties.mapM (r.property s.scopedName.dotted)).result
      (s.kind.parents.forM (r.checkOverrides s properties)).result
      return make properties) := by
  refine ((properties_failsOnly htypes).mono fun _ => Or.inl).bind fun properties hproperties => ?_
  rw [Traced.result_mapM, Outcome.mapM_eq_ok] at hproperties
  rw [Traced.result_forM]
  refine .bind (.forM fun parent hparent => ?_) fun _ _ => .pure
  refine (checkOverrides_failsOnly hschemas (hparents parent hparent)).mono fun e he => ?_
  exact he.imp_right fun hclash => ⟨properties, hproperties, parent, hparent, hclash⟩

/-- The kind of a schema fails for a type or a value in it, or for an override. -/
theorem kind_failsOnly {s : Schema}
    (hschemas : ∀ t ∈ r.document.allSchemas, t.WellFormed r.document)
    (h : s.WellFormed r.document) :
    FailsOnly (fun e => e.Inexpressible ∨ r.Misfit s e) (r.kind s).result := by
  obtain ⟨-, htypes, hkind⟩ := h
  obtain ⟨name, scopedName, description, purpose, nullable, kind, nested⟩ := s
  cases kind with
  | object o =>
    simp only [Resolution.kind, Traced.result_bind, Traced.result_pure]
    exact overriding_failsOnly hschemas htypes hkind
  | interface i =>
    simp only [Resolution.kind, Traced.result_bind, Traced.result_pure]
    exact overriding_failsOnly hschemas htypes hkind
  | enum e =>
    obtain ⟨hctx, hcomplete⟩ := TypeUsage.literalContext_spec hkind.2
    simp only [Resolution.kind, enumMember, Traced.result_bind, Traced.result_lift,
      Traced.result_mapM, Traced.result_pure]
    refine FailsOnly.mono (P := Inexpressible) ?_ fun _ => Or.inl
    refine hctx.bind fun ctx hc => .bind (.mapM fun value _ => ?_) fun _ _ => .pure
    exact (Literal.write_failsOnly (hcomplete ctx hc) value).bind fun _ _ => .pure
  | hierarchy h =>
    simp only [Resolution.kind, Traced.result_bind, Traced.result_pure]
    refine FailsOnly.mono (P := Inexpressible) ?_ fun _ => Or.inl
    exact (properties_failsOnly htypes).bind fun _ _ => .pure
  | wrapper w =>
    simp only [Resolution.kind, Traced.result_bind, Traced.result_pure]
    refine FailsOnly.mono (P := Inexpressible) ?_ fun _ => Or.inl
    exact (property_failsOnly (htypes _ (List.mem_singleton_self _))).bind fun _ _ => .pure
  | oneOf o =>
    simp only [Resolution.kind, Traced.result_bind, Traced.result_ofExcept,
      Traced.result_pure]
    refine FailsOnly.mono (P := Inexpressible) ?_ fun _ => Or.inl
    refine .bind (.mapM fun m hm => ?_) fun _ _ => .pure
    exact (TypeUsage.swiftType_failsOnly (hkind.2 m hm)).bind fun _ _ => .pure

mutual

/-- A schema fails as one of the kinds in it, or because it is a nested interface. -/
theorem schema_failsOnly {P : Failure → Prop} (hnested : ∀ name, P (.nestedInterface name)) :
    ∀ {inside : Bool} {s : Schema}, (∀ t ∈ s.flatten, FailsOnly P (r.kind t).result) →
      FailsOnly P (r.schema inside s).result
  | inside, ⟨name, scopedName, description, purpose, nullable, kind, nested⟩, h => by
    rw [Schema.flatten_eq, List.forall_mem_cons] at h
    rw [schema]
    split_ifs
    · exact .error (hnested _)
    · simp only [Traced.result_bind, Traced.result_pure]
      refine h.1.bind fun _ _ => ?_
      exact (schemas_failsOnly hnested h.2).bind fun _ _ => .pure

theorem schemas_failsOnly {P : Failure → Prop} (hnested : ∀ name, P (.nestedInterface name)) :
    ∀ {inside : Bool} {forest : List Schema},
      (∀ t ∈ Schema.flattenAll forest, FailsOnly P (r.kind t).result) →
      FailsOnly P (r.schemas inside forest).result
  | _, [], _ => .ok
  | _, s :: rest, h => by
    rw [Schema.flattenAll, List.forall_mem_append] at h
    simp only [schemas, Traced.result_bind, Traced.result_pure]
    exact (schema_failsOnly hnested h.1).bind fun _ _ =>
      (schemas_failsOnly hnested h.2).bind fun _ _ => .pure

end

lemma ifPresent_failsOnly {α β : Type} {f : α → Except Failure β} {a : Option α}
    (h : ∀ x ∈ a, FailsOnly Inexpressible (f x)) : FailsOnly Inexpressible (ifPresent f a) := by
  cases a with
  | none => exact .ok
  | some x => exact (h x rfl).map

theorem operation_failsOnly {g : OperationGroup} {o : Operation}
    (h : ∀ t ∈ o.usages, t.WellFormed r.document) :
    FailsOnly Inexpressible (r.operation g o).result := by
  simp only [Operation.usages, List.mem_append, List.mem_map, List.mem_filterMap,
    Option.mem_toList] at h
  simp only [operation, Traced.result_bind, Traced.result_mapM, Traced.result_lift,
    Traced.result_ofExcept, Traced.result_pure]
  refine .bind (.mapM fun p hp => ?_) fun parameters _ => ?_
  · exact parameter_failsOnly (h _ (Or.inl (Or.inl ⟨p, hp, rfl⟩)))
  refine .bind (ifPresent_failsOnly fun b hb => ?_) fun body _ => ?_
  · have hbody := h b.type (Or.inl (Or.inr ⟨b, hb, rfl⟩))
    exact (TypeUsage.swiftType_failsOnly hbody).bind fun _ _ => .pure
  refine .bind (.mapM fun response hresponse => ?_) fun responses _ => .pure
  refine .bind (ifPresent_failsOnly fun t ht => ?_) fun _ _ => .pure
  exact TypeUsage.swiftType_failsOnly (h t (Or.inr ⟨response, hresponse, ht⟩))

theorem group_failsOnly {g : OperationGroup} (h : g.WellFormed r.document) :
    FailsOnly Inexpressible (r.group g).result := by
  simp only [group, Traced.result_bind, Traced.result_mapM, Traced.result_pure]
  exact .bind (.mapM fun o ho => operation_failsOnly (h.types o ho)) fun _ _ => .pure

end Resolution

lemma Options.result_completeNoting (o : Options) (info : Info) :
    (o.completeNoting info).result = .ok (o.complete info) := by
  unfold completeNoting
  split_ifs <;> rfl

namespace Document

variable {d : Document}

/-- Each step after validation fails only for what Swift does not support. -/
structure StepsUnsupported (d : Document) (package : Option String) : Prop where
  naming : FailsOnly Unsupported (d.nameMembers package)
  schemas : ∀ named style, d.nameMembers package = .ok named → ∀ s ∈ named.allSchemas, ∀ inside,
    FailsOnly Unsupported ((Resolution.mk named package style).schema inside s).result
  operations : ∀ named style, d.nameMembers package = .ok named → ∀ g ∈ named.groups,
    ∀ o ∈ g.operations,
      FailsOnly Unsupported ((Resolution.mk named package style).operation g o).result

variable {package : Option String}

lemma kinds_failsOnly {named : Document} (h : named.validate = .ok ()) (style : Naming.EnumStyle) :
    ∀ s ∈ named.allSchemas,
      FailsOnly Unsupported ((Resolution.mk named package style).kind s).result := by
  intro s hs
  have hschemas := (validate_eq_ok_iff_wellFormed.mp h).2.1
  refine (Resolution.kind_failsOnly hschemas (hschemas s hs)).mono fun e he => ?_
  exact he.elim (·.unsupported) (·.unsupported)

theorem stepsUnsupported (h : d.validate = .ok ()) (package : Option String) :
    d.StepsUnsupported package := by
  have hvalid : ∀ named, d.nameMembers package = .ok named → named.validate = .ok () :=
    fun named hnamed => validate_nameMembers hnamed h
  constructor
  · have hschemas := (validate_eq_ok_iff_wellFormed.mp h).2.1
    have hnaming : FailsOnly Inexpressible (d.nameMembers package) :=
      (Schema.nameAllMembers_failsOnly hschemas).bind fun _ _ => .pure
    exact hnaming.mono fun _ => Inexpressible.unsupported
  · intro named style hnamed s hs inside
    have hkinds : ∀ t ∈ named.allSchemas,
        FailsOnly Unsupported ((Resolution.mk named package style).kind t).result :=
      kinds_failsOnly (hvalid named hnamed) style
    have hinside := Schema.flatten_subset_of_mem hs
    exact Resolution.schema_failsOnly .nested fun t ht => hkinds t (hinside ht)
  · intro named style hnamed g hg o ho
    obtain ⟨-, -, hgroups⟩ := validate_eq_ok_iff_wellFormed.mp (hvalid named hnamed)
    have hoperation := Resolution.operation_failsOnly (r := ⟨named, package, style⟩) (g := g)
      ((hgroups g hg).types o ho)
    exact hoperation.mono fun _ => Inexpressible.unsupported

/-- A valid document fails for a type or a value in it, for a nested interface, or as the kind of
one of its schemas does once members are named. -/
theorem resolve_failsOnly_of_kinds {P : Failure → Prop} {options : Options}
    (h : d.validate = .ok ()) (hP : ∀ e, Inexpressible e → P e)
    (hnested : ∀ name, P (.nestedInterface name))
    (hkinds : ∀ named, d.nameMembers (options.complete d.info).package = .ok named →
      ∀ s ∈ named.allSchemas, FailsOnly P ((Resolution.mk named (options.complete d.info).package
        (options.complete d.info).enumStyle).kind s).result) :
    FailsOnly P (d.resolve options).result := by
  unfold resolve
  simp only [h, Traced.result_bind, Traced.result_ofExcept, Traced.result_lift, Traced.result_note,
    Traced.result_pure, Options.result_completeNoting]
  refine .bind .ok fun _ _ => .bind .ok fun completed hcompleted => ?_
  obtain rfl := Except.ok.inj hcompleted
  have hschemas := (validate_eq_ok_iff_wellFormed.mp h).2.1
  refine .bind ?_ fun named hnamed => ?_
  · exact (Schema.nameAllMembers_failsOnly hschemas |>.mono hP).bind fun _ _ => .pure
  obtain ⟨-, -, hgroups⟩ := validate_eq_ok_iff_wellFormed.mp (validate_nameMembers hnamed h)
  refine .bind (Resolution.schemas_failsOnly hnested (hkinds named hnamed)) fun schemas _ => ?_
  refine .bind ?_ fun groups _ => .ok
  rw [Resolution.allGroups, Traced.result_mapM]
  exact .mapM fun g hg => (Resolution.group_failsOnly (hgroups g hg)).mono hP

theorem resolve_failsOnly (h : d.validate = .ok ()) (options : Options) :
    FailsOnly Unsupported (d.resolve options).result :=
  resolve_failsOnly_of_kinds h (fun _ => Inexpressible.unsupported) .nested fun _ hnamed =>
    kinds_failsOnly (validate_nameMembers hnamed h) _

/-- Resolving fails for the first defect of a document, or, if it has none, for something that
Swift does not support; and so does each of its steps alone. -/
theorem resolve_failures (d : Document) (options : Options) :
    (∀ e, (d.resolve options).result = .error e →
      (∃ defect, d.validate = .error defect ∧ e = .schema defect) ∨
        d.validate = .ok () ∧ e.Unsupported) ∧
    (d.validate = .ok () → ∀ package, d.StepsUnsupported package) := by
  refine ⟨fun e he => ?_, stepsUnsupported⟩
  cases hd : d.validate with
  | ok => exact Or.inr ⟨rfl, resolve_failsOnly hd options e he⟩
  | error defect =>
    simp only [resolve, hd, Traced.result_bind, Traced.result_ofExcept] at he
    exact Or.inl ⟨defect, rfl, (Except.error.inj he).symm⟩

/-- A valid document with a map that Swift has no type for. -/
def keyedByBooleans : Document :=
  { Document.titled "Flags" "1" with
    schemas := [.top "Flags" (.object {
      properties := [{
        name := "byState"
        type := .mapOf (.scalar .boolean none) (.scalar .string none) }] })] }

set_option maxRecDepth 4000 in
theorem resolve_failures_keyedByBooleans :
    keyedByBooleans.validate = .ok () ∧
      (keyedByBooleans.resolve .default).result =
        .error (.invalidMapKey .boolean "Flags.byState") ∧
      (Failure.invalidMapKey .boolean "Flags.byState").Unsupported ∧
      keyedByBooleans.StepsUnsupported (some "Api") := by
  have hvalid : keyedByBooleans.validate = .ok () := by decide +kernel
  have herror : (keyedByBooleans.resolve .default).result =
      .error (.invalidMapKey .boolean "Flags.byState") := rfl
  obtain ⟨hfailures, hsteps⟩ := resolve_failures keyedByBooleans .default
  refine ⟨hvalid, herror, ?_, hsteps hvalid _⟩
  rcases hfailures _ herror with ⟨defect, hdefect, -⟩ | ⟨-, h⟩
  · rw [hvalid] at hdefect
    cases hdefect
  · exact h

end Document

end SwiftClient
