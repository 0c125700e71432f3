/-!
# Decimal fractions

A number that is written with a point or an exponent stands for the nearest number of
the binary64 format.  This module keeps such a number as it is written and finds out
which integer, if any, it stands for.
-/

namespace DepAtlas

/-- A number as written: a sign, digits and a power of ten, or one of the values that
binary64 has besides. -/
inductive Decimal where
  | finite (negative : Bool) (digits : Nat) (exponent : Int)
  | infinite (negative : Bool)
  | nan
  deriving DecidableEq, Repr

/-- A magnitude of the binary64 format: `mantissa * 2 ^ exponent`, or infinity. -/
inductive Magnitude where
  | finite (mantissa : Nat) (exponent : Int)
  | infinite
  deriving DecidableEq, Repr

/-- Why a decimal stands for no integer. -/
inductive NotInteger where
  | notFinite
  | fractional
  | tooLarge
  deriving DecidableEq, Repr

namespace Magnitude

/-- The quotient of two numbers rounded to the nearest integer, a tie to the even one. -/
def roundDiv (num den : Nat) : Nat :=
  let floor := num / den
  match compare (2 * (num % den)) den with
  | .lt => floor
  | .gt => floor + 1
  | .eq => floor + floor % 2

/-- Numerator and denominator of `num / (den * 2 ^ exponent)`. -/
def scaled (num den : Nat) (exponent : Int) : Nat × Nat :=
  if 0 ≤ exponent then (num, den * Nat.pow 2 exponent.toNat)
  else (num * Nat.pow 2 (-exponent).toNat, den)

/-- The magnitude nearest to the positive fraction `num / den`: 53 binary digits, as long as the
exponent is at least -1074. -/
def nearest (num den : Nat) : Magnitude :=
  let low := max ((num.log2 : Int) - (den.log2 : Int) - 53) (-1074)
  let wide := scaled num den low
  let exponent := if wide.1 / wide.2 < Nat.pow 2 53 then low else low + 1
  let fraction := scaled num den exponent
  let mantissa := roundDiv fraction.1 fraction.2
  if exponent ≤ 971 ∧ mantissa * Nat.pow 2 exponent.toNat < Nat.pow 2 1024 then
    .finite mantissa exponent
  else .infinite

/-- The magnitude that a decimal rounds to.  Numbers beyond `10 ^ 400` are infinite and
numbers below `10 ^ -400` are zero whatever their digits. -/
def ofDecimal (digits : Nat) (exponent : Int) : Magnitude :=
  let size := exponent + (Nat.toDigits 10 digits).length
  if digits = 0 ∨ size < -400 then .finite 0 0
  else if 400 < size then .infinite
  else if 0 ≤ exponent then nearest (digits * Nat.pow 10 exponent.toNat) 1
  else nearest digits (Nat.pow 10 (-exponent).toNat)

/-- The integer that a finite magnitude is, if it is one. -/
def integer? (mantissa : Nat) (exponent : Int) : Option Nat :=
  if 0 ≤ exponent then some (mantissa * Nat.pow 2 exponent.toNat)
  else if mantissa % Nat.pow 2 (-exponent).toNat = 0 then
    some (mantissa / Nat.pow 2 (-exponent).toNat)
  else none

end Magnitude

/-- The integer that a decimal stands for; its size stays below `2 ^ 63`. -/
def Decimal.integer : Decimal → Except NotInteger Int
  | .nan | .infinite _ => .error .notFinite
  | .finite negative digits exponent =>
      match Magnitude.ofDecimal digits exponent with
      | .infinite => .error .notFinite
      | .finite mantissa power =>
          match Magnitude.integer? mantissa power with
          | none => .error .fractional
          | some n =>
              if n < Nat.pow 2 63 then .ok (if negative then -(n : Int) else n)
              else .error .tooLarge

end DepAtlas
