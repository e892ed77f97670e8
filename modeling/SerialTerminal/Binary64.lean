import SerialTerminal.Powers

/-!
# Binary floating-point numbers of 64 bits

Clock readings, delays in seconds and numbers written in decimal are binary64 numbers. A finite
number is kept as a sign, a significand and an exponent, so that all arithmetic is exact integer
arithmetic followed by one rounding.

`Binary64.ofRatio` is that rounding: to nearest, ties to the even significand, with gradual
underflow and overflow to infinity. Every other operation computes an exact quotient and rounds it.

Delays (`SPEC_FULL.md` §4.2), readings of the clock (§4.3) and the numbers of a configuration file
(§10) are numbers of this kind.
-/

namespace SerialTerminal

/-- A binary64 number. The finite constructor stands for `± significand · 2 ^ exponent`. -/
inductive Binary64 where
  | finite (negative : Bool) (significand : Nat) (exponent : Int)
  | infinite (negative : Bool)
  | notANumber
deriving DecidableEq, Repr

namespace Binary64

/-- Why a number has no integer part. -/
inductive IntegerError where
  | notANumber
  | infinite
deriving DecidableEq, Repr

/-- The wording of an integer conversion that failed. -/
def IntegerError.message : IntegerError → String
  | .notANumber => "cannot convert float NaN to integer"
  | .infinite => "cannot convert float infinity to integer"

/-- Exponent of the least significant bit of the smallest numbers. -/
def minExponent : Int := -1074

/-- Exponent of the least significant bit of the largest numbers. -/
def maxExponent : Int := 971

/-- Quotient of two naturals rounded to nearest, ties to even. -/
def roundHalfEven (num den : Nat) : Nat :=
  let q := num / den
  let twice := 2 * (num % den)
  if den < twice ∨ (twice = den ∧ q % 2 = 1) then q + 1 else q

/-- The nearest natural to `num / den · 2 ^ -e`, ties to even. -/
def roundScaled (num den : Nat) (e : Int) : Nat :=
  if 0 ≤ e then roundHalfEven num (den * twoPow e.toNat)
  else roundHalfEven (num * twoPow (-e).toNat) den

/-- The exponent that leaves 53 bits before the point: the greatest `e` with
`2 ^ 52 ≤ num / den · 2 ^ -e`, for a positive quotient. -/
def leadingExponent (num den : Nat) : Int :=
  let e := (num.log2 : Int) - den.log2 - 52
  let below := if 0 ≤ e then num < den * twoPow (e.toNat + 52)
    else num * twoPow (-e).toNat < den * twoPow 52
  if below then e - 1 else e

/-- A rounded significand with its exponent, or infinity past the largest finite number. -/
def pack (negative : Bool) (significand : Nat) (exponent : Int) : Binary64 :=
  if maxExponent < exponent then .infinite negative else .finite negative significand exponent

/-- The binary64 number nearest to `± num / den`. The denominator is positive. -/
def ofRatio (negative : Bool) (num den : Nat) : Binary64 :=
  if num = 0 then .finite negative 0 minExponent
  else
    let e := max (leadingExponent num den) minExponent
    let m := roundScaled num den e
    if m < twoPow 53 then pack negative m e else pack negative (twoPow 52) (e + 1)

/-- The number zero. -/
def zero : Binary64 := .finite false 0 minExponent

/-- The nearest number to `v · 2 ^ e`. -/
def ofScaled (v : Int) (e : Int) : Binary64 :=
  if 0 ≤ e then ofRatio (v < 0) (v.natAbs * twoPow e.toNat) 1
  else ofRatio (v < 0) v.natAbs (twoPow (-e).toNat)

/-- The nearest number to an integer. -/
def ofInt (v : Int) : Binary64 := ofScaled v 0

/-- The nearest number to `± digits · 10 ^ exponent`. The exponents that certainly leave the range
are answered at once, so the work is bounded by the number of digits. -/
def ofDecimal (negative : Bool) (digits : Nat) (exponent : Int) : Binary64 :=
  if digits = 0 then ofRatio negative 0 1
  else if 400 < exponent then .infinite negative
  else if exponent + digits.log2 + 1 < -400 then ofRatio negative 0 1
  else if 0 ≤ exponent then ofRatio negative (digits * tenPow exponent.toNat) 1
  else ofRatio negative digits (tenPow (-exponent).toNat)

/-- The significand with its sign. -/
def signed (negative : Bool) (significand : Nat) : Int :=
  if negative then -significand else significand

/-- The integer part, toward zero. -/
def truncate : Binary64 → Except IntegerError Int
  | .notANumber => .error .notANumber
  | .infinite _ => .error .infinite
  | .finite s m e =>
    .ok (signed s (if 0 ≤ e then m * twoPow e.toNat else m / twoPow (-e).toNat))

/-- The greatest integer that is not above a finite number. -/
def floor? : Binary64 → Option Int
  | .finite s m e =>
    some (if 0 ≤ e then signed s m * twoPow e.toNat else signed s m / twoPow (-e).toNat)
  | _ => none

/-- Product with a positive natural, rounded once. -/
def scale (x : Binary64) (k : Nat) : Binary64 :=
  match x with
  | .finite s m e =>
    if 0 ≤ e then ofRatio s (m * k * twoPow e.toNat) 1 else ofRatio s (m * k) (twoPow (-e).toNat)
  | other => other

/-- Difference, rounded once. -/
def sub : Binary64 → Binary64 → Binary64
  | .finite s m e, .finite t n f =>
    let low := min e f
    ofScaled (signed s m * twoPow (e - low).toNat - signed t n * twoPow (f - low).toNat) low
  | .infinite s, .infinite t => if s = t then .notANumber else .infinite s
  | .infinite s, .finite .. => .infinite s
  | .finite .., .infinite t => .infinite (!t)
  | _, _ => .notANumber

/-- The number itself, or zero if it is below zero. What is not a number stays so. -/
def atLeastZero : Binary64 → Binary64
  | .finite true m e => if m = 0 then .finite true m e else zero
  | .infinite true => zero
  | other => other

/-- Holds of the numbers above zero. -/
def isPositive : Binary64 → Bool
  | .finite s m _ => !s && 0 < m
  | .infinite s => !s
  | .notANumber => false

/-- Holds of the finite numbers without a fractional part. -/
def isIntegral : Binary64 → Bool
  | .finite _ m e => 0 ≤ e || m % twoPow (-e).toNat == 0
  | _ => false

/-- The interchange encoding: sign, biased exponent, fraction. -/
def toBits (x : Binary64) : Nat :=
  match x with
  | .notANumber => 0x7ff8000000000000
  | .infinite s => signBit s + 0x7ff0000000000000
  | .finite s m e =>
    if m < twoPow 52 then signBit s + m
    else signBit s + (e + 1075).toNat * twoPow 52 + (m - twoPow 52)
where
  /-- The highest bit, set for negative numbers. -/
  signBit (negative : Bool) : Nat := if negative then twoPow 63 else 0

end Binary64

end SerialTerminal
