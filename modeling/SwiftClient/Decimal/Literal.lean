import SwiftClient.Decimal.Binary64

/-!
# Reading decimal numerals

A numeral is read in two steps: its leading digits become a significand as long as that fits in 64
bits, and one product or quotient of doubles by a power of ten gives the value. Digits that do not
fit still count as places before the point and are dropped after it.
-/
namespace SwiftClient.Decimal

/-- A numeral as written, its digits from first to last. -/
structure Numeral where
  negative : Bool
  whole : List Nat
  fraction : Option (List Nat)
  exponent : Option Int
  deriving DecidableEq, Repr

structure Scaled where
  significand : Nat
  power : Int
  deriving DecidableEq, Repr

def significandLimit : Nat := Nat.pow 2 64

/-- Takes digits before the point; the first that does not fit and all after it only add places. -/
def Scaled.takeWhole (significand : Nat) : List Nat → Scaled
  | [] => ⟨significand, 0⟩
  | d :: ds =>
    if significand * 10 + d < significandLimit then takeWhole (significand * 10 + d) ds
    else ⟨significand, (ds.length : Int) + 1⟩

def Scaled.takeFraction (s : Scaled) : List Nat → Scaled
  | [] => s
  | d :: ds =>
    if s.significand * 10 + d < significandLimit then
      takeFraction ⟨s.significand * 10 + d, s.power - 1⟩ ds
    else s

def Numeral.scaled (n : Numeral) : Scaled :=
  let s := (Scaled.takeWhole 0 n.whole).takeFraction (n.fraction.getD [])
  ⟨s.significand, s.power + n.exponent.getD 0⟩

/-- The greatest power of ten that one step multiplies or divides by. -/
def greatestPower : Nat := 308

def powerOfTen (power : Nat) : Option Magnitude := Magnitude.nearest (Nat.pow 10 power) 1

/-- Divides by a power of ten, the greatest one at a time while more is left. -/
def divideByPower (x : Magnitude) (power : Nat) : Option Magnitude :=
  if power ≤ greatestPower then (powerOfTen power).bind x.div
  else if x.mantissa = 0 then some x
  else
    ((powerOfTen greatestPower).bind x.div).bind fun y => divideByPower y (power - greatestPower)
  termination_by power
  decreasing_by
    have : 0 < greatestPower := by decide
    omega

/-- The double that a significand and a power of ten stand for, none when it is too large. -/
def Scaled.magnitude (s : Scaled) : Option Magnitude :=
  (Magnitude.nearest s.significand 1).bind fun x =>
    if s.power < 0 then divideByPower x (-s.power).toNat
    else if s.power.toNat ≤ greatestPower then
      (powerOfTen s.power.toNat).bind x.mul
    else if x.mantissa = 0 then some x
    else none

end SwiftClient.Decimal
