import SwiftClient.Proofs.Literal.Contexts
import SwiftClient.Proofs.Resolution.Kept

/-!
# Cases of enums in defaults

The cases of an enum are named when the enum is resolved, and a default that is a value of the enum
is written when the property or parameter is resolved that has it. Both take the name from the text
of the value, so each default names a case that is declared: on its own, and in arrays of any depth.
-/
namespace SwiftClient

/-- A literal has the parts of a value, along the components of arrays, and each part that is no
array stands for its value as `P` says. -/
inductive TypeUsage.WrittenAs (P : TypeUsage → Json → String → Prop) :
    TypeUsage → Json → String → Prop
  | null {u : TypeUsage} : WrittenAs P u .null "nil"
  | array {u c : TypeUsage} {value : Json} {texts : List String} (kind : u.classification = .array)
      (component : u.component = some c) (ne : value ≠ .null)
      (length : (Literal.itemsOf value).length = texts.length)
      (items : ∀ item text, (item, text) ∈ (Literal.itemsOf value).zip texts →
        WrittenAs P c item text) : WrittenAs P u value (Literal.arrayLiteral texts)
  | single {u : TypeUsage} {value : Json} {text : String} (kind : u.classification ≠ .array)
      (ne : value ≠ .null) (h : P u value text) : WrittenAs P u value text

namespace ResolvedDocument

/-- Where an enum is used, the literal of a value is the type of the usage with the case of the
value in it: the case of that value in every enum of the document, and so in the one that is
used. -/
def WritesCase (d : ResolvedDocument) (u : TypeUsage) (value : Json) (text : String) : Prop :=
  u.classification = .enum → ∃ type, u.Typed d.options.package type ∧
    ∀ t ∈ d.allSchemas, ∀ valueType members, t.kind = .enum valueType members →
      ∀ m ∈ members, m.value = value → text = type.expression ++ "." ++ m.name

/-- A default keeps its value, and its literal writes all cases of enums in it. -/
def WritesDefault (d : ResolvedDocument) (u : TypeUsage) :
    Option Json → Option Literal.Default → Prop :=
  Option.Rel fun value default =>
    default.value = value ∧ u.WrittenAs d.WritesCase value default.literal

/-- The defaults of all properties of a schema are written with the cases of the document. -/
def WritesSchema (d : ResolvedDocument) (s : Schema) (t : Resolved.Schema) : Prop :=
  List.Forall₂ (fun p q => d.WritesDefault p.type p.default q.default) s.properties t.properties

def WritesGroup (d : ResolvedDocument) (g : OperationGroup) (k : Resolved.Group) : Prop :=
  List.Forall₂ (fun o u => List.Forall₂ (fun p q => d.WritesDefault p.type p.default q.default)
    o.parameters u.parameters) g.operations k.operations

end ResolvedDocument

/-- An enum has a case for each of its values, in their order. -/
def Schema.HasCases (s : Schema) (t : Resolved.Schema) : Prop :=
  ∀ e, s.kind = .enum e →
    ∃ valueType members, t.kind = .enum valueType members ∧ members.map (·.value) = e.values

namespace Literal

variable {style : Naming.EnumStyle} {package : Option String} {P : TypeUsage → Json → String → Prop}

/-- The literal that is written in the context of a usage has the parts of its value. -/
theorem writtenAs_of_write {t : TypeUsage} {ctx : LiteralContext} {value : Json} {text : String}
    (hP : ∀ u ctx element value text, u.Describes package ctx → ctx.classification ≠ .array →
      value ≠ .null → (writeWith style element ctx value).result = .ok text → P u value text)
    (hall : t.DescribesAll package ctx) (h : (write style ctx value).result = .ok text) :
    t.WrittenAs P value text := by
  induction hall generalizing value text with
  | @single t ctx kind own component =>
    by_cases hvalue : value = .null
    · subst hvalue
      rw [write_null] at h
      obtain rfl := Except.ok.inj h
      exact .null
    · rw [write_of_ne_null hvalue] at h
      have harray : ctx.classification ≠ .array := by
        rw [own.classification]
        intro harray
        rw [harray] at kind
        cases kind
      exact .single (own.classification ▸ harray) hvalue (hP _ _ _ _ _ own harray hvalue h)
  | @collection t c ctx inner kind own inside component required type all ih =>
    by_cases hvalue : value = .null
    · subst hvalue
      rw [write_null] at h
      obtain rfl := Except.ok.inj h
      exact .null
    rw [write_of_ne_null hvalue] at h
    by_cases harray : ctx.classification = .array
    · rw [component, Option.map_some, writeWith, harray] at h
      simp only [Traced.result_bind, Traced.result_mapM, Traced.result_pure, Outcome.bind_eq_ok,
        Outcome.mapM_eq_ok, Except.ok.injEq] at h
      obtain ⟨texts, htexts, rfl⟩ := h
      refine .array (own.classification ▸ harray) inside hvalue htexts.length_eq ?_
      intro item text hitem
      exact ih (List.forall₂_zip htexts hitem)
    · exact .single (own.classification ▸ harray) hvalue (hP _ _ _ _ _ own harray hvalue h)

end Literal

lemma Literal.valueText_of_scalarText {c : Classification} {value : Json} {text : String}
    (h : scalarText c value = .ok text) : Resolution.valueText value = text := by
  cases value with
  | string | number =>
    obtain rfl := Except.ok.inj h
    rfl
  | bool b =>
    obtain rfl := Except.ok.inj h
    cases b <;> rfl
  | null | array | object => cases h

lemma TypeUsage.Typed.concrete {package : Option String} {u : TypeUsage} {type : SwiftType}
    (h : u.Typed package type) (hu : u.classification = .enum) : type.concrete = type := by
  cases h with
  | named => rfl
  | array kind | map kind | primitive kind =>
    rw [hu] at kind
    cases kind

/-- A usage of an enum writes a value as the case that is named after its text. -/
lemma Literal.text_of_enum {style : Naming.EnumStyle} {package : Option String} {u : TypeUsage}
    {ctx : LiteralContext} {element : Option (Json → Traced String)} {value : Json} {text : String}
    (hctx : u.Describes package ctx) (hu : u.classification = .enum)
    (h : (writeWith style element ctx value).result = .ok text) :
    ∃ type, u.Typed package type ∧ text = type.expression ++ "." ++
      Naming.memberName style (Resolution.valueText value) := by
  have htyped : u.Typed package ctx.type := TypeUsage.typed_of_swiftType (hctx.type "")
  have hconcrete := htyped.concrete hu
  have hclassification : ctx.classification = .enum := hctx.classification.trans hu
  obtain ⟨c, format, type, required, nullable, component⟩ := ctx
  subst hclassification
  simp only [writeWith, Traced.result_bind, Traced.result_lift, Traced.result_pure,
    Outcome.bind_eq_ok, Except.ok.injEq] at h
  obtain ⟨written, hwritten, rfl⟩ := h
  rw [valueText_of_scalarText hwritten]
  exact ⟨type, htyped, by rw [hconcrete]⟩

namespace Resolution

variable {r : Resolution} {context : String}

lemma Makes.enumCases {s : Schema} {t : Resolved.Schema} (h : r.Makes s t) {valueType : SwiftType}
    {members : List Resolved.EnumMember} (ht : t.kind = .enum valueType members) :
    ∀ m ∈ members, m.name = Naming.memberName r.enumStyle (valueText m.value) := by
  obtain ⟨named, kind, nested, -, hkind, -, rfl⟩ := h.parts
  have hmakes := makesKind_of_kind hkind
  generalize named.kind = namedKind at hmakes
  subst ht
  cases hmakes with
  | enum _ values => exact forall_mem_of_forall₂ values fun _ _ _ => name_of_enumMember

lemma Makes.hasCases {s : Schema} {t : Resolved.Schema} (h : r.Makes s t) : s.HasCases t := by
  intro e he
  have hkept := h.kept
  cases hkept with
  | intro _ _ _ _ _ _ kind =>
    rw [he] at kind
    generalize t.kind = resolvedKind at kind
    cases kind with
    | enum values => exact ⟨_, _, rfl, values⟩

lemma default_of_property {p : Property} {q : Resolved.Property}
    (h : (r.property context p).result = .ok q) :
    ∃ context' ctx, p.type.literalContext r.package context' p.required = .ok ctx ∧
      (Literal.given r.enumStyle ctx p.default).result = .ok q.default := by
  simp only [property, startingValues, Traced.result_bind, Traced.result_lift, Traced.result_pure,
    Outcome.bind_eq_ok, Except.ok.injEq] at h
  obtain ⟨ctx, hctx, values, ⟨given, hgiven, initial, -, rfl⟩, rfl⟩ := h
  exact ⟨_, ctx, hctx, hgiven⟩

lemma default_of_parameter {p : Parameter} {q : Resolved.Parameter}
    (h : (r.parameter context p).result = .ok q) :
    ∃ context' ctx, p.type.literalContext r.package context' p.required = .ok ctx ∧
      (Literal.given r.enumStyle ctx p.default).result = .ok q.default := by
  simp only [parameter, startingValues, Traced.result_bind, Traced.result_lift, Traced.result_pure,
    Outcome.bind_eq_ok, Except.ok.injEq] at h
  obtain ⟨ctx, hctx, values, ⟨given, hgiven, initial, -, rfl⟩, rfl⟩ := h
  exact ⟨_, ctx, hctx, hgiven⟩

lemma parameters_of_operation {g : OperationGroup} {o : Operation} {u : Resolved.Operation}
    (h : (r.operation g o).result = .ok u) :
    List.Forall₂ (fun p q => ∃ context, (r.parameter context p).result = .ok q) o.parameters
      u.parameters := by
  simp only [operation, Traced.result_bind, Traced.result_lift, Traced.result_ofExcept,
    Traced.result_mapM, Traced.result_pure, Outcome.bind_eq_ok, Outcome.mapM_eq_ok,
    Except.ok.injEq] at h
  obtain ⟨parameters, hparameters, body, -, responses, -, rfl⟩ := h
  exact hparameters.imp fun _ _ hp => ⟨_, hp⟩

end Resolution

namespace ResolvedDocument

variable {d : ResolvedDocument} {u : TypeUsage}

lemma writesDefault_of_given {context : String} {required : Bool} {ctx : LiteralContext}
    {default : Option Json} {given : Option Literal.Default}
    (hcases : ∀ t ∈ d.allSchemas, ∀ valueType members, t.kind = .enum valueType members →
      ∀ m ∈ members, m.name = Naming.memberName d.options.enumStyle (Resolution.valueText m.value))
    (hctx : u.literalContext d.options.package context required = .ok ctx)
    (h : (Literal.given d.options.enumStyle ctx default).result = .ok given) :
    d.WritesDefault u default given := by
  cases default with
  | none =>
    obtain rfl := Except.ok.inj h
    exact .none
  | some value =>
    simp only [Literal.given, Traced.result_bind, Traced.result_pure, Outcome.bind_eq_ok,
      Except.ok.injEq] at h
    obtain ⟨text, htext, rfl⟩ := h
    refine .some ⟨rfl, ?_⟩
    have hall := (TypeUsage.describesAll_of_literalContext hctx).2
    refine Literal.writtenAs_of_write ?_ hall htext
    intro u ctx element value text hown _ _ hwrite hu
    obtain ⟨type, htype, rfl⟩ := Literal.text_of_enum hown hu hwrite
    refine ⟨type, htype, fun t ht valueType members hkind m hm hvalue => ?_⟩
    rw [hcases t ht valueType members hkind m hm, hvalue]

end ResolvedDocument

namespace Document

variable {d : Document} {options : Options} {resolved : ResolvedDocument}

/-- Every value of an enum that a default of a resolved document has, alone or inside arrays, is
written as the type of its usage with the case that the enum declares for it; and an enum declares
one for each of its values. -/
theorem resolve_writes_cases (h : (d.resolve options).result = .ok resolved) :
    List.Forall₂ (fun s t => s.HasCases t ∧ resolved.WritesSchema s t) d.allSchemas
        resolved.allSchemas ∧
      List.Forall₂ resolved.WritesGroup d.groups resolved.groups := by
  obtain ⟨named, -, hmakes⟩ := makes_of_resolve h
  have hall := Resolution.makes_flattenAll hmakes
  have hcases : ∀ t ∈ resolved.allSchemas, ∀ valueType members, t.kind = .enum valueType members →
      ∀ m ∈ members,
        m.name = Naming.memberName resolved.options.enumStyle (Resolution.valueText m.value) :=
    forall_mem_of_forall₂ hall fun _ _ _ hst _ _ => hst.enumCases
  constructor
  · refine hall.imp fun s t hst => ⟨hst.hasCases, hst.properties.imp fun p q hpq => ?_⟩
    obtain ⟨context, ctx, hctx, hgiven⟩ := Resolution.default_of_property hpq
    exact ResolvedDocument.writesDefault_of_given hcases hctx hgiven
  · obtain ⟨-, named', hnamed', schemas, groups, -, hgroups, rfl⟩ := resolve_eq_ok.mp h
    simp only [nameMembers, Outcome.bind_eq_ok, Outcome.pure_eq_ok] at hnamed'
    obtain ⟨forest, -, rfl⟩ := hnamed'
    rw [Resolution.allGroups, Traced.result_mapM, Outcome.mapM_eq_ok] at hgroups
    refine hgroups.imp fun g k hk => (Resolution.of_group_eq_ok hk).2.imp fun o u hu => ?_
    refine (Resolution.parameters_of_operation hu).imp fun p q hpq => ?_
    obtain ⟨context, hpq⟩ := hpq
    obtain ⟨context', ctx, hctx, hgiven⟩ := Resolution.default_of_parameter hpq
    exact ResolvedDocument.writesDefault_of_given hcases hctx hgiven

/-- Cars with stripes in the colours of a shop, which are values of an enum of three kinds. -/
def paintShop : Document :=
  let colour : TypeUsage := .named .enum ["Colour"]
  { Document.titled "Paint shop" "1" with
    groups := [{
      name := "cars"
      operations := [{
        name := "paint"
        method := .post
        path := "/cars"
        parameters := [{
          name := "colour", place := .query, type := colour, default := some (.bool true) }] }] }]
    schemas := [
      .top "Colour" (.enum ⟨.scalar .string none, [.string "DARK_RED", .ofNat 7, .bool true]⟩),
      .top "Car" (.object { properties := [{
        name := "stripes"
        type := .arrayOf (.arrayOf colour)
        default := some (.array [.array [.string "DARK_RED"], .ofNat 7]) }] })] }

theorem resolve_writes_cases_paintShop :
    ∃ resolved, (paintShop.resolve { Options.default with enumStyle := .camelCase }).result =
        .ok resolved ∧
      List.Forall₂ (fun s t => s.HasCases t ∧ resolved.WritesSchema s t) paintShop.allSchemas
        resolved.allSchemas ∧
      List.Forall₂ resolved.WritesGroup paintShop.groups resolved.groups ∧
      resolved.allSchemas.flatMap (·.properties.map (·.default.map (·.literal))) =
        [some "[[Api.Colour.darkRED], [Api.Colour._7]]"] ∧
      resolved.groups.flatMap (fun g => g.operations.flatMap fun o =>
        o.parameters.map (·.default.map (·.literal))) = [some "Api.Colour.`true`"] := by
  obtain ⟨resolved, h, hdefaults⟩ : ∃ resolved,
      (paintShop.resolve { Options.default with enumStyle := .camelCase }).result = .ok resolved ∧
        resolved.allSchemas.flatMap (·.properties.map (·.default.map (·.literal))) =
          [some "[[Api.Colour.darkRED], [Api.Colour._7]]"] ∧
        resolved.groups.flatMap (fun g => g.operations.flatMap fun o =>
          o.parameters.map (·.default.map (·.literal))) = [some "Api.Colour.`true`"] := by
    decide +kernel
  obtain ⟨hschemas, hgroups⟩ := resolve_writes_cases h
  exact ⟨resolved, h, hschemas, hgroups, hdefaults⟩

end Document

end SwiftClient
