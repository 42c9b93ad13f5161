import SwiftClient.Decimal.Binary64

/-!
# Shortest decimal form

Of the decimals that round to a double, the form with the fewest digits is chosen; of two with that
many digits the nearer, and of two equally near the even one.
-/
namespace SwiftClient.Decimal

/-- The decimal `digits * 10 ^ power`. -/
structure Form where
  digits : Nat
  power : Int
  deriving DecidableEq, Repr

def Form.fraction (d : Form) : Nat × Nat :=
  if 0 ≤ d.power then (d.digits * Nat.pow 10 d.power.toNat, 1)
  else (d.digits, Nat.pow 10 (-d.power).toNat)

/-- The power of ten of the leading digit of a positive fraction. -/
def leadingPower (num den : Nat) : Int :=
  if den ≤ num then (Nat.toDigits 10 (num / den)).length - 1
  else -(Nat.toDigits 10 ((den - 1) / num)).length

def fractionLe (a b : Nat × Nat) : Bool := a.1 * b.2 ≤ b.1 * a.2

def fractionLt (a b : Nat × Nat) : Bool := a.1 * b.2 < b.1 * a.2

/-- The numerator of the distance of two fractions over the product of their denominators. -/
def distance (a b : Nat × Nat) : Nat :=
  (a.1 * b.2 - b.1 * a.2) + (b.1 * a.2 - a.1 * b.2)

/-- The ends of the interval of reals that round to `x`. They belong to it when the mantissa is
even. Below a power of two the interval is half as wide. -/
def roundingEnds (x : Magnitude) : (Nat × Nat) × (Nat × Nat) :=
  let below := if x.mantissa = Nat.pow 2 52 ∧ x.exponent ≠ Magnitude.leastExponent then 1 else 2
  let quarter (m : Nat) := (Magnitude.mk m (x.exponent - 2)).fraction
  (quarter (4 * x.mantissa - below), quarter (4 * x.mantissa + 2))

def roundsTo (x : Magnitude) (d : Form) : Bool :=
  let ends := roundingEnds x
  if x.mantissa % 2 = 0 then fractionLe ends.1 d.fraction && fractionLe d.fraction ends.2
  else fractionLt ends.1 d.fraction && fractionLt d.fraction ends.2

/-- The better of two neighbours on one grid, of which `low` is the lower. -/
def nearer (x : Magnitude) (low high : Form) : Form :=
  let toLow := distance low.fraction x.fraction
  let toHigh := distance high.fraction x.fraction
  if toLow < toHigh then low
  else if toHigh < toLow then high
  else if low.digits % 2 = 0 then low else high

/-- The best decimal with `count` digits that rounds to `x`, if there is one. -/
def withDigits (x : Magnitude) (count : Nat) : Option Form :=
  let v := x.fraction
  let power := leadingPower v.1 v.2 + 1 - count
  let scaled :=
    if 0 ≤ power then (v.1, v.2 * Nat.pow 10 power.toNat)
    else (v.1 * Nat.pow 10 (-power).toNat, v.2)
  let low : Form := ⟨scaled.1 / scaled.2, power⟩
  let high : Form := ⟨scaled.1 / scaled.2 + 1, power⟩
  match roundsTo x low, roundsTo x high with
  | true, true => some (nearer x low high)
  | true, false => some low
  | false, true => some high
  | false, false => none

/-- The same decimal without zeros at its end. -/
def Form.trimmed (d : Form) : Form :=
  if 0 < d.digits ∧ d.digits % 10 = 0 then trimmed ⟨d.digits / 10, d.power + 1⟩ else d
  termination_by d.digits
  decreasing_by exact Nat.div_lt_self (by omega) (by decide)

/-- Seventeen digits always tell doubles apart. -/
def mostDigits : Nat := 17

/-- The shortest decimal that rounds to `x`; zero has the digit zero. -/
def shortest (x : Magnitude) : Form :=
  if x.mantissa = 0 then ⟨0, 0⟩
  else (((List.range mostDigits).findSome? fun n => withDigits x (n + 1)).getD ⟨0, 0⟩).trimmed

end SwiftClient.Decimal
