import SwiftClient.Proofs.Resolution.Typing

/-!
# Contexts of literals

A usage has a literal context as soon as it has a type. The context has the type, and inside it one
context for each usage that is inside, down to the last component. A value fails to be written in a
context when a part of it comes to a place that has no literals for it.
-/
namespace SwiftClient

open Outcome (Fails)

namespace TypeUsage

/-- What a context says of a usage itself. -/
structure Describes (package : Option String) (t : TypeUsage) (ctx : LiteralContext) : Prop where
  classification : ctx.classification = t.classification
  format : ctx.format = t.format
  nullable : ctx.nullable = t.nullable
  type : ∀ context, t.swiftType package context = .ok ctx.type

/-- What a context says of a usage and of those inside it, which are always required. -/
inductive DescribesAll (package : Option String) : TypeUsage → LiteralContext → Prop
  | single {t : TypeUsage} {ctx : LiteralContext} (kind : t.classification.isCollection = false)
    (own : t.Describes package ctx) (component : ctx.component = none) : DescribesAll package t ctx
  | collection {t c : TypeUsage} {ctx inner : LiteralContext}
    (kind : t.classification.isCollection) (own : t.Describes package ctx)
    (inside : t.component = some c) (component : ctx.component = some inner)
    (required : inner.required = true) (type : ctx.type.component? = some inner.type)
    (all : DescribesAll package c inner) : DescribesAll package t ctx

variable {package : Option String} {t : TypeUsage} {type : SwiftType}

lemma DescribesAll.own {ctx : LiteralContext} (h : t.DescribesAll package ctx) :
    t.Describes package ctx := by
  cases h with
  | single _ own => exact own
  | collection _ own => exact own

lemma DescribesAll.isSome_component {ctx : LiteralContext} (h : t.DescribesAll package ctx)
    (harray : ctx.classification = .array) : ctx.component.isSome := by
  cases h with
  | single kind own =>
    rw [← own.classification, harray] at kind
    cases kind
  | collection _ _ _ component => rw [component, Option.isSome_some]

theorem Typed.exists_literalContext (h : t.Typed package type) (context : String)
    (required : Bool) : ∃ ctx, t.literalContext package context required = .ok ctx ∧
      ctx.type = type ∧ ctx.required = required ∧ t.DescribesAll package ctx := by
  induction h generalizing required with
  | @array t c type kind component inside ih =>
    obtain ⟨inner, hinner, rfl, hrequired, hall⟩ := ih true
    have hcollection : t.classification.isCollection := by rw [kind]; rfl
    have htyped : t.Typed package (.array inner.type) := .array kind component inside
    rw [literalContext_collection hcollection component, htyped.swiftType, hinner]
    exact ⟨_, rfl, rfl, rfl, .collection hcollection ⟨rfl, rfl, rfl, htyped.swiftType⟩ component rfl
      hrequired rfl hall⟩
  | @map t k c keyType type kind component key isKey keyed inside _ ih =>
    obtain ⟨inner, hinner, rfl, hrequired, hall⟩ := ih true
    have hcollection : t.classification.isCollection := by rw [kind]; rfl
    have htyped : t.Typed package (.dictionary keyType inner.type) :=
      .map kind component key isKey keyed inside
    rw [literalContext_collection hcollection component, htyped.swiftType, hinner]
    exact ⟨_, rfl, rfl, rfl, .collection hcollection ⟨rfl, rfl, rfl, htyped.swiftType⟩ component rfl
      hrequired rfl hall⟩
  | @named t name kind scopedName =>
    have hsingle : t.classification.isCollection = false :=
      Classification.isCollection_eq_false (Or.inl kind)
    have htyped : t.Typed package (name.swiftType package) := .named kind scopedName
    rw [literalContext_single hsingle, htyped.swiftType]
    exact ⟨_, rfl, rfl, rfl, .single hsingle ⟨rfl, rfl, rfl, htyped.swiftType⟩ rfl⟩
  | @primitive t type kind scalar =>
    have hsingle : t.classification.isCollection = false :=
      Classification.isCollection_eq_false (Or.inr kind)
    have htyped : t.Typed package type := .primitive kind scalar
    rw [literalContext_single hsingle, htyped.swiftType]
    exact ⟨_, rfl, rfl, rfl, .single hsingle ⟨rfl, rfl, rfl, htyped.swiftType⟩ rfl⟩

lemma literalContext_eq_error {context : String} {required : Bool} {e : Failure}
    (h : t.swiftType package context = .error e) :
    t.literalContext package context required = .error e := by
  unfold literalContext
  split <;> rw [h] <;> rfl

/-- The context of a usage describes it at every depth. -/
lemma describesAll_of_literalContext {context : String} {required : Bool} {ctx : LiteralContext}
    (h : t.literalContext package context required = .ok ctx) :
    ctx.required = required ∧ t.DescribesAll package ctx := by
  cases htype : t.swiftType package context with
  | error e =>
    rw [literalContext_eq_error htype] at h
    cases h
  | ok type =>
    obtain ⟨ctx', hctx', -, hrequired, hall⟩ :=
      (typed_of_swiftType htype).exists_literalContext context required
    obtain rfl : ctx = ctx' := Except.ok.inj (h.symm.trans hctx')
    exact ⟨hrequired, hall⟩

end TypeUsage

def Json.isContainer : Json → Bool
  | .array _ | .object _ => true
  | _ => false

namespace LiteralContext

/-- A place that has no literal for the value. -/
def Refuses (ctx : LiteralContext) (value : Json) : Prop :=
  ctx.classification = .file ∨ ctx.classification = .any ∨
    (ctx.classification.isPrimitive ∨ ctx.classification = .enum) ∧ value.isContainer

/-- The parts of a value and the contexts that they come to, along the components of arrays. -/
inductive Meets : LiteralContext → Json → LiteralContext → Json → Prop
  | here (ctx : LiteralContext) (value : Json) : Meets ctx value ctx value
  | inside {ctx inner ctx' : LiteralContext} {value item value' : Json}
    (kind : ctx.classification = .array) (component : ctx.component = some inner)
    (mem : item ∈ Literal.itemsOf value) (meets : Meets inner item ctx' value') :
    Meets ctx value ctx' value'

/-- Some part of the value that is not null comes to a place that refuses it. -/
def Unwritable (ctx : LiteralContext) (value : Json) : Prop :=
  ∃ ctx' value', ctx.Meets value ctx' value' ∧ value' ≠ .null ∧ ctx'.Refuses value'

variable {ctx : LiteralContext} {value : Json}

lemma Meets.eq_null {ctx' : LiteralContext} {value' : Json} (h : ctx.Meets value ctx' value')
    (hvalue : value = .null) : value' = .null := by
  induction h with
  | here => exact hvalue
  | inside _ _ mem _ ih =>
    subst hvalue
    exact ih (List.mem_singleton.mp mem)

lemma not_unwritable_null : ¬ctx.Unwritable .null := by
  rintro ⟨ctx', value', hmeets, hnull, -⟩
  exact hnull (hmeets.eq_null rfl)

lemma unwritable_of_ne_array (h : ctx.classification ≠ .array) (hvalue : value ≠ .null) :
    ctx.Unwritable value ↔ ctx.Refuses value := by
  constructor
  · rintro ⟨ctx', value', hmeets, -, hrefuses⟩
    cases hmeets with
    | here => exact hrefuses
    | inside kind => exact absurd kind h
  · exact fun hrefuses => ⟨ctx, value, .here ctx value, hvalue, hrefuses⟩

lemma unwritable_array {inner : LiteralContext} (h : ctx.classification = .array)
    (hinner : ctx.component = some inner) :
    ctx.Unwritable value ↔ ∃ item ∈ Literal.itemsOf value, inner.Unwritable item := by
  constructor
  · rintro ⟨ctx', value', hmeets, hnull, hrefuses⟩
    cases hmeets with
    | here =>
      rw [Refuses, h] at hrefuses
      rcases hrefuses with h | h | ⟨h | h, -⟩ <;> cases h
    | inside _ component mem meets =>
      obtain rfl := Option.some.inj (component.symm.trans hinner)
      exact ⟨_, mem, ctx', value', meets, hnull, hrefuses⟩
  · rintro ⟨item, mem, ctx', value', meets, hnull, hrefuses⟩
    exact ⟨ctx', value', .inside h hinner mem meets, hnull, hrefuses⟩

end LiteralContext

namespace Literal

variable {style : Naming.EnumStyle} {ctx : LiteralContext} {value : Json}

lemma fails_scalarText (c : Classification) (hvalue : value ≠ .null) :
    Fails (scalarText c value) ↔ value.isContainer := by
  cases value with
  | null => exact absurd rfl hvalue
  | string | number | bool => simp [scalarText, Json.isContainer]
  | array | object => simp [scalarText, Json.isContainer]

/-- Apart from arrays, a value fails to be written where its context refuses it. -/
lemma fails_writeWith (element : Option (Json → Traced String)) (h : ctx.classification ≠ .array)
    (hvalue : value ≠ .null) :
    Fails (writeWith style element ctx value).result ↔ ctx.Refuses value := by
  have hscalar := fails_scalarText ctx.classification hvalue
  obtain ⟨c, format, type, required, nullable, component⟩ := ctx
  cases c with
  | array => exact absurd rfl h
  | enum | string | date | time | dateTime | binary =>
    simp only [writeWith, Traced.result_bind, Traced.result_lift]
    refine Outcome.fails_bind_pure.trans (hscalar.trans ?_)
    simp [LiteralContext.Refuses, Classification.isPrimitive]
  | integer | number | boolean =>
    refine hscalar.trans ?_
    simp [LiteralContext.Refuses, Classification.isPrimitive]
  | object | map | oneOf | interface | hierarchy | wrapper =>
    refine iff_of_false Outcome.not_fails_ok ?_
    simp [LiteralContext.Refuses, Classification.isPrimitive]
  | file => exact iff_of_true Outcome.fails_error (Or.inl rfl)
  | any => exact iff_of_true Outcome.fails_error (Or.inr (Or.inl rfl))

lemma fails_writeWith_array {element : Json → Traced String} (h : ctx.classification = .array) :
    Fails (writeWith style (some element) ctx value).result ↔
      ∃ item ∈ itemsOf value, Fails (element item).result := by
  rw [writeWith, h]
  simp only [Traced.result_bind, Traced.result_mapM]
  exact Outcome.fails_bind_pure.trans Outcome.fails_mapM

/-- In the context of a usage a value fails to be written when a part of it comes to a place that
refuses it, and then only. -/
theorem fails_write {package : Option String} {t : TypeUsage} (h : t.DescribesAll package ctx)
    (value : Json) : Fails (write style ctx value).result ↔ ctx.Unwritable value := by
  induction h generalizing value with
  | @single t ctx kind own component =>
    by_cases hvalue : value = .null
    · subst hvalue
      rw [write_null]
      exact iff_of_false Outcome.not_fails_ok LiteralContext.not_unwritable_null
    · have harray : ctx.classification ≠ .array := by
        rw [own.classification]
        intro harray
        rw [harray] at kind
        cases kind
      rw [write_of_ne_null hvalue, fails_writeWith _ harray hvalue,
        LiteralContext.unwritable_of_ne_array harray hvalue]
  | @collection t c ctx inner kind own inside component required type all ih =>
    by_cases hvalue : value = .null
    · subst hvalue
      rw [write_null]
      exact iff_of_false Outcome.not_fails_ok LiteralContext.not_unwritable_null
    rw [write_of_ne_null hvalue]
    by_cases harray : ctx.classification = .array
    · rw [component, Option.map_some, fails_writeWith_array harray,
        LiteralContext.unwritable_array harray component]
      simp only [ih]
    · -- a dictionary has a component too, but no value is ever taken apart for it
      rw [fails_writeWith _ harray hvalue, LiteralContext.unwritable_of_ne_array harray hvalue]

end Literal

namespace TypeUsage

/-- A usage has a literal context as soon as it has a type, and without one it lacks both for the
same reason. The context describes the usage at every depth, and a value fails to be written in it
exactly when a part of the value comes to a place that refuses it. -/
theorem literalContext_agrees (t : TypeUsage) (package : Option String) (context : String)
    (required : Bool) :
    (t.literalContext package context required).map (·.type) = t.swiftType package context ∧
      ∀ ctx, t.literalContext package context required = .ok ctx →
        ctx.required = required ∧ t.DescribesAll package ctx ∧
          ∀ style value, Fails (Literal.ofValue style ctx (some value)).result ↔
            ctx.Unwritable value := by
  cases htype : t.swiftType package context with
  | error e =>
    rw [literalContext_eq_error htype]
    exact ⟨rfl, nofun⟩
  | ok type =>
    obtain ⟨ctx, hctx, rfl, hrequired, hall⟩ :=
      (typed_of_swiftType htype).exists_literalContext context required
    rw [hctx]
    refine ⟨rfl, fun ctx' h => ?_⟩
    cases h
    refine ⟨hrequired, hall, fun style value => ?_⟩
    rw [← Literal.fails_write hall value, Literal.ofValue, Traced.result_bind]
    exact Outcome.fails_bind_pure

theorem literalContext_agrees_sizes :
    let sizes : TypeUsage := .arrayOf (.arrayOf (.named .enum ["Size"]))
    ∃ ctx, sizes.literalContext (some "Shop") "Shoe" false = .ok ctx ∧
      ctx.required = false ∧ sizes.DescribesAll (some "Shop") ctx ∧
      ¬ctx.Unwritable (.array [.array [.string "small", .null], .string "large"]) ∧
      ctx.Unwritable (.array [.array [.string "small", .array []], .string "large"]) := by
  intro sizes
  obtain ⟨-, hctx⟩ := literalContext_agrees sizes (some "Shop") "Shoe" false
  obtain ⟨hrequired, hall, hfails⟩ := hctx _ rfl
  refine ⟨_, rfl, hrequired, hall, ?_, ?_⟩
  · exact fun h => Outcome.not_fails_ok ((hfails .camelCase _).mpr h)
  · exact (hfails .camelCase _).mp ⟨_, rfl⟩

end TypeUsage

end SwiftClient
