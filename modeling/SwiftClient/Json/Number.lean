import SwiftClient.Decimal.Literal
import SwiftClient.Decimal.Shortest

/-!
# Numbers of a JSON text

A numeral without point or exponent that fits in 64 bits is a whole number; every other numeral,
and minus zero, is a double. A double is written with the fewest digits that read back.
-/
namespace SwiftClient.Json
open Decimal

inductive Number where
  | whole (value : Int)
  | double (value : Binary64)
  deriving DecidableEq, Repr

namespace Number

/-- Minus `2 ^ 63`. -/
def least : Int := -9223372036854775808

/-- One less than `2 ^ 64`. -/
def greatest : Int := 18446744073709551615

def zero : Number := .whole 0

/-- The double zero, written with a point. -/
def doubleZero : Number := .double ⟨false, Magnitude.zero⟩

/-- The whole number that plain digits stand for, when it is in range and not minus zero. -/
def ofDigits? (negative : Bool) (digits : List Nat) : Option Int :=
  let n : Nat := digits.foldl (fun n d => n * 10 + d) 0
  if negative then if 0 < n ∧ least ≤ -(n : Int) then some (-n) else none
  else if (n : Int) ≤ greatest then some n else none

/-- The number that a numeral stands for, none when it is too large for a double. -/
def ofNumeral? (n : Numeral) : Option Number :=
  let double := n.scaled.magnitude.map fun m => .double ⟨n.negative, m⟩
  if n.fraction.isNone ∧ n.exponent.isNone then
    match ofDigits? n.negative n.whole with
    | some value => some (.whole value)
    | none => double
  else double

/-- Exponents of the leading digit for which a double is written without an exponent. -/
def positional (exponent : Int) : Bool := -5 ≤ exponent && exponent ≤ 15

def digitsText (n : Nat) : List Char := Nat.toDigits 10 n

/-- The digits of a double with a point somewhere among or before them, or after added zeros. -/
def pointed (digits : List Char) (exponent : Int) : List Char :=
  if exponent < 0 then '0' :: '.' :: List.replicate (-exponent - 1).toNat '0' ++ digits
  else
    let before := exponent.toNat + 1
    if digits.length ≤ before then
      digits ++ List.replicate (before - digits.length) '0' ++ ['.', '0']
    else digits.take before ++ '.' :: digits.drop before

/-- One digit, a point if more follow, and a signed exponent. -/
def scientific (digits : List Char) (exponent : Int) : List Char :=
  let fraction := digits.drop 1
  digits.take 1 ++ (if fraction.isEmpty then [] else '.' :: fraction)
    ++ 'e' :: (if exponent < 0 then '-' else '+') :: digitsText exponent.natAbs

def magnitudeText (m : Magnitude) : List Char :=
  let d := shortest m
  let digits := digitsText d.digits
  let exponent := d.power + digits.length - 1
  if positional exponent then pointed digits exponent else scientific digits exponent

def wholeText (n : Int) : List Char :=
  if n < 0 then '-' :: digitsText n.natAbs else digitsText n.natAbs

def chars : Number → List Char
  | whole n => wholeText n
  | double x => if x.negative then '-' :: magnitudeText x.magnitude else magnitudeText x.magnitude

def text (n : Number) : String := String.ofList n.chars

end Number

end SwiftClient.Json
