/-!
# Finite doubles

A finite double is a whole number of at most 53 bits times a power of two. Rounding a fraction to
one goes to the nearest, and a tie goes to the even neighbour. All of it is exact arithmetic on
natural numbers.
-/
namespace SwiftClient.Decimal

/-- The double `mantissa * 2 ^ exponent`, without its sign. -/
structure Magnitude where
  mantissa : Nat
  exponent : Int
  deriving DecidableEq, Repr

structure Binary64 where
  negative : Bool
  magnitude : Magnitude
  deriving DecidableEq, Repr

/-- The quotient to the nearest whole number, a tie to the even one. -/
def roundedQuotient (num den : Nat) : Nat :=
  let q := num / den
  let r := num % den
  if 2 * r < den then q else if den < 2 * r then q + 1 else q + q % 2

namespace Magnitude

def leastExponent : Int := -1074

def greatestExponent : Int := 971

def zero : Magnitude := ⟨0, leastExponent⟩

def fraction (x : Magnitude) : Nat × Nat :=
  if 0 ≤ x.exponent then (x.mantissa * Nat.pow 2 x.exponent.toNat, 1)
  else (x.mantissa, Nat.pow 2 (-x.exponent).toNat)

/-- `num / den` in units of `2 ^ e`, as a fraction again. -/
def inUnits (num den : Nat) (e : Int) : Nat × Nat :=
  if 0 ≤ e then (num, den * Nat.pow 2 e.toNat) else (num * Nat.pow 2 (-e).toNat, den)

/-- The exponent at which `num / den` has 53 bits before the point, or the least one. -/
def exponentFor (num den : Nat) : Int :=
  let low := max ((num.log2 : Int) - den.log2 - 53) leastExponent
  let scaled := inUnits num den low
  if scaled.1 / scaled.2 < Nat.pow 2 53 then low else low + 1

/-- The nearest double, or none when the fraction is too large for any. -/
def nearest (num den : Nat) : Option Magnitude :=
  if num = 0 then some zero else
  let e := exponentFor num den
  let scaled := inUnits num den e
  let m := roundedQuotient scaled.1 scaled.2
  let x : Magnitude := if m = Nat.pow 2 53 then ⟨Nat.pow 2 52, e + 1⟩ else ⟨m, e⟩
  if x.exponent ≤ greatestExponent then some x else none

def mul (x y : Magnitude) : Option Magnitude :=
  nearest (x.fraction.1 * y.fraction.1) (x.fraction.2 * y.fraction.2)

def div (x y : Magnitude) : Option Magnitude :=
  nearest (x.fraction.1 * y.fraction.2) (x.fraction.2 * y.fraction.1)

end Magnitude

end SwiftClient.Decimal
