import SwiftClient.Proofs.Literal.Contexts

/-!
# Missing values

What a missing value stands for is known with its literal. A document can also give that value
itself, and the literal that it is then written with is the same. Only dictionaries have no literals
when they are given, so the empty one is dropped with a notice where a missing one is written.
-/
namespace SwiftClient

namespace Literal

/-- What a missing value stands for where one is required. -/
def zero? : Classification → Option Default
  | .number => some ⟨.number .doubleZero, "0.0"⟩
  | .integer => some ⟨.number .zero, "0"⟩
  | .boolean => some ⟨.bool false, "false"⟩
  | .array => some ⟨.array [], "[]"⟩
  | .map => some ⟨.object [], "[:]"⟩
  | .string | .date | .time | .dateTime | .binary | .file | .any | .object | .enum | .oneOf
  | .interface | .hierarchy | .wrapper => none

variable {style : Naming.EnumStyle} {ctx : LiteralContext} {d : Default}

/-- Writing a zero never fails, and leaves no notice. -/
theorem missing_eq (style : Naming.EnumStyle) (ctx : LiteralContext) :
    missing style ctx = pure (if ctx.required then zero? ctx.classification else some .nil) := by
  obtain ⟨c, format, type, required, nullable, component⟩ := ctx
  cases required with
  | false => rfl
  | true => cases c <;> cases component <;> rfl

lemma ofValue_some {value : Json} {text : String} (h : write style ctx value = pure text) :
    ofValue style ctx (some value) = pure (some text) := by
  rw [ofValue, h]
  rfl

lemma value_ne_null_of_zero {c : Classification} (h : zero? c = some d) : d.value ≠ .null := by
  cases c with
  | number | integer | boolean | array | map =>
    obtain rfl := Option.some.inj h
    exact nofun
  | string | date | time | dateTime | binary | file | any | object | enum | oneOf | interface
  | hierarchy | wrapper => cases h

lemma write_zero (hzero : zero? ctx.classification = some d) (hmap : ctx.classification ≠ .map)
    (harray : ctx.classification = .array → ctx.component.isSome) :
    write style ctx d.value = pure d.literal := by
  rw [write_of_ne_null (value_ne_null_of_zero hzero)]
  obtain ⟨c, format, type, required, nullable, component⟩ := ctx
  cases c with
  | number | integer | boolean =>
    obtain rfl := Option.some.inj hzero
    rfl
  | array =>
    obtain rfl := Option.some.inj hzero
    obtain ⟨component, rfl⟩ := Option.isSome_iff_exists.mp (harray rfl)
    rfl
  | map => exact absurd rfl hmap
  | string | date | time | dateTime | binary | file | any | object | enum | oneOf | interface
  | hierarchy | wrapper => cases hzero

/-- No dictionary that is given is written, not even the empty one. -/
lemma ofValue_map {value : Json} (hmap : ctx.classification = .map) (hvalue : value ≠ .null) :
    ofValue style ctx (some value) =
      ⟨[.literalDropped .map value], .ok (some "nil")⟩ := by
  rw [ofValue, write_of_ne_null hvalue]
  obtain ⟨c, format, type, required, nullable, component⟩ := ctx
  subst hmap
  rfl

end Literal

namespace TypeUsage

variable {t : TypeUsage} {package : Option String} {context : String} {required : Bool}
  {ctx : LiteralContext}

/-- In the context of a usage it is always known what a missing value stands for. That value has the
same literal when it is given, except where a dictionary is required: the empty one that is given is
dropped with a notice, like all else but null. -/
theorem missing_written (h : t.literalContext package context required = .ok ctx)
    (style : Naming.EnumStyle) :
    (∃ value, Literal.missing style ctx = pure value ∧
      (value.isSome ↔ required = false ∨ (Literal.zero? t.classification).isSome)) ∧
      ∀ d, Literal.missing style ctx = pure (some d) →
        (¬(required = true ∧ t.classification = .map) →
          Literal.ofValue style ctx (some d.value) = pure (some d.literal)) ∧
        (required = true ∧ t.classification = .map →
          d = ⟨.object [], "[:]"⟩ ∧ ∀ value, value ≠ .null →
            Literal.ofValue style ctx (some value) =
              ⟨[.literalDropped .map value], .ok (some "nil")⟩) := by
  obtain ⟨rfl, hall⟩ := describesAll_of_literalContext h
  rw [← hall.own.classification, Literal.missing_eq]
  refine ⟨⟨_, rfl, ?_⟩, fun d hd => ?_⟩
  · cases ctx.required <;> simp
  replace hd := Except.ok.inj (congrArg Traced.result hd)
  cases hrequired : ctx.required with
  | false =>
    rw [hrequired] at hd
    obtain rfl := Option.some.inj hd
    exact ⟨fun _ => Literal.ofValue_some Literal.write_null, nofun⟩
  | true =>
    rw [hrequired] at hd
    constructor
    · intro hmap
      have hne : ctx.classification ≠ .map := fun h => hmap ⟨rfl, h⟩
      exact Literal.ofValue_some (Literal.write_zero hd hne hall.isSome_component)
    · rintro ⟨-, hmap⟩
      have hzero : Literal.zero? .map = some d := hmap ▸ hd
      obtain rfl := Option.some.inj hzero
      exact ⟨rfl, fun _ => Literal.ofValue_map hmap⟩

/-- How much there is of each size. -/
def stock : TypeUsage := .mapOf (.scalar .string none) (.arrayOf (.scalar .integer none))

/-- The empty dictionary is written where it is missing, and dropped where it is given. -/
theorem ofValue_emptyStock :
    ∃ ctx d, stock.literalContext (some "Api") "Shoe" true = .ok ctx ∧
      (Literal.missing .constant ctx).result = .ok (some d) ∧
      (Literal.ofValue .constant ctx (some d.value)).result ≠ .ok (some d.literal) := by
  refine ⟨_, _, rfl, rfl, fun h => ?_⟩
  have hliteral : "nil" = "[:]" := Option.some.inj (Except.ok.inj h)
  exact absurd hliteral (by decide)

theorem missing_written_sizes :
    let sizes : TypeUsage := .arrayOf (.scalar .integer none)
    ∃ ctx, sizes.literalContext (some "Api") "Shoe" true = .ok ctx ∧
      (∃ value, Literal.missing .constant ctx = pure value ∧ value.isSome) ∧
      Literal.missing .constant ctx = pure (some ⟨.array [], "[]"⟩) ∧
      Literal.ofValue .constant ctx (some (.array [])) = pure (some "[]") := by
  intro sizes
  have h : sizes.literalContext (some "Api") "Shoe" true = .ok _ := rfl
  obtain ⟨⟨value, hvalue, hsome⟩, hagrees⟩ := missing_written h .constant
  obtain ⟨hwritten, -⟩ := hagrees ⟨.array [], "[]"⟩ rfl
  exact ⟨_, h, ⟨value, hvalue, hsome.mpr (Or.inr rfl)⟩, rfl, hwritten nofun⟩

end TypeUsage

end SwiftClient
