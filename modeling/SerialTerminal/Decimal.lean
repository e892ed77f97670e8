import SerialTerminal.Binary64
import SerialTerminal.Numeral

/-!
# Decimal numerals of binary64 numbers

A positive number is looked at as an exact quotient and rounded to a decimal grid, to nearest with
ties to the even digit. `Decimal.shortest` takes the coarsest grid on which a neighbour of the
number reads back as the number, and of two such neighbours the nearer.

Numerals come in three layouts: with a fixed number of places, with one digit in front of the point
and an exponent, and the general one, which takes the first where the exponent is small.

Records (`SPEC_FULL.md` §13) write numbers with a fraction in these layouts.
-/

namespace SerialTerminal

/-- The number `significand · 10 ^ exponent`. -/
structure Decimal where
  significand : Nat
  exponent : Int
deriving DecidableEq, Repr

namespace Decimal

/-- The quotient `m · 2 ^ e`. -/
def magnitude (m : Nat) (e : Int) : Nat × Nat :=
  if 0 ≤ e then (m * twoPow e.toNat, 1) else (m, twoPow (-e).toNat)

/-- The quotient `num / den · 10 ^ places`. -/
def shifted (num den : Nat) (places : Int) : Nat × Nat :=
  if 0 ≤ places then (num * tenPow places.toNat, den) else (num, den * tenPow (-places).toNat)

/-- The greatest `e` with `10 ^ e ≤ num / den`, for a positive quotient. -/
def order (num den : Nat) : Int :=
  let e : Int := (Numeral.digits num).length - (Numeral.digits den).length
  let (n, d) := shifted num den (-e)
  if n < d then e - 1 else e

/-- The nearest number with a number of digits. -/
def nearest (num den count : Nat) : Decimal :=
  let unit := order num den - (count - 1)
  let (n, d) := shifted num den (-unit)
  ⟨Binary64.roundHalfEven n d, unit⟩

/-- The neighbours of a quotient among the numbers with a number of digits, the nearer one first. -/
def neighbours (num den count : Nat) : List Decimal :=
  let unit := order num den - (count - 1)
  let (n, d) := shifted num den (-unit)
  let near := Binary64.roundHalfEven n d
  [⟨near, unit⟩, ⟨if near = n / d then near + 1 else n / d, unit⟩]

/-- The greatest number of digits that any number needs. -/
def maxDigits : Nat := 17

/-- The shortest decimal that reads back as a number. -/
def shortest (m : Nat) (e : Int) : Decimal :=
  let (num, den) := magnitude m e
  let all := (List.range maxDigits).flatMap fun i => neighbours num den (i + 1)
  (all.find? fun c => Binary64.ofDecimal false c.significand c.exponent = .finite false m e).getD
    (nearest num den maxDigits)

/-- Digits without the zeros at their end. -/
def withoutEndZeros (digits : List Char) : List Char :=
  (digits.reverse.dropWhile (· = '0')).reverse

/-- An exponent of ten behind its mark, with a sign and at least two digits. -/
def exponentPart (e : Int) : List Char :=
  'e' :: (if e < 0 then '-' else '+') :: Numeral.padLeft '0' 2 (Numeral.digits e.natAbs)

/-- A point and the digits behind it. Without digits there is no point, unless it is asked for. -/
def fractionPart (point : Bool) (digits : List Char) : List Char :=
  if digits.isEmpty && !point then [] else '.' :: digits

/-- Digits with the exponent of the first one. -/
structure Digits where
  digits : List Char
  exponent : Int
deriving DecidableEq, Repr

/-- More digits than any binary64 number has, and more places. Digits beyond them are zeros. -/
def mostDigits : Nat := 1100

/-- The first digits of `m · 2 ^ e`, of which there are no more than `mostDigits`. Zero has the
exponent zero. -/
def leadingDigits (m : Nat) (e : Int) (count : Nat) : Digits :=
  let exact := min count mostDigits
  if m = 0 then ⟨List.replicate exact '0', 0⟩
  else
    let (num, den) := magnitude m e
    let c := nearest num den exact
    let digits := Numeral.digits c.significand
    ⟨digits.take exact, c.exponent + digits.length - 1⟩

/-- Digits with zeros behind them, up to a number of digits. -/
def Digits.filledTo (count : Nat) (d : Digits) : Digits :=
  { d with digits := d.digits ++ List.replicate (count - d.digits.length) '0' }

/-- Digits in the layout with an exponent. -/
def Digits.scientific (point : Bool) (d : Digits) : List Char :=
  d.digits.take 1 ++ fractionPart point (d.digits.drop 1) ++ exponentPart d.exponent

/-- Digits in the layout without an exponent. -/
def Digits.positional (point : Bool) (d : Digits) : List Char :=
  if d.exponent < 0 then
    '0' :: fractionPart point (List.replicate (-d.exponent - 1).toNat '0' ++ d.digits)
  else
    let whole := d.exponent.toNat + 1
    d.digits.take whole ++ List.replicate (whole - d.digits.length) '0'
      ++ fractionPart point (d.digits.drop whole)

/-- Digits without the zeros at their end. One digit stays. -/
def Digits.trimmed (d : Digits) : Digits :=
  { d with digits := d.digits.take 1 ++ withoutEndZeros (d.digits.drop 1) }

/-- The number `m · 2 ^ e` with a fixed number of places. -/
def fixed (point : Bool) (places m : Nat) (e : Int) : List Char :=
  let exact := min places mostDigits
  let (num, den) := magnitude m e
  let (n, d) := shifted num den exact
  let digits := Numeral.padLeft '0' (exact + 1) (Numeral.digits (Binary64.roundHalfEven n d))
  let whole := digits.length - exact
  digits.take whole
    ++ fractionPart point (digits.drop whole ++ List.replicate (places - exact) '0')

/-- The number `m · 2 ^ e` with an exponent and a number of places behind the point. -/
def scientific (point : Bool) (places m : Nat) (e : Int) : List Char :=
  ((leadingDigits m e (places + 1)).filledTo (places + 1)).scientific point

/-- The number `m · 2 ^ e` with a number of digits in the general layout. Zeros at the end of a
fraction stay only where the point is asked for. -/
def general (point : Bool) (count m : Nat) (e : Int) : List Char :=
  let found := leadingDigits m e (max count 1)
  let d := if point then found.filledTo (max count 1) else found.trimmed
  if d.exponent < -4 ∨ (max count 1 : Int) ≤ d.exponent then d.scientific point
  else d.positional point

/-- The number `m · 2 ^ e` in the shortest numeral that reads back. A number without a fraction has
one zero behind the point. -/
def shortestNumeral (m : Nat) (e : Int) : List Char :=
  if m = 0 then ['0', '.', '0']
  else
    let c := shortest m e
    let digits := Numeral.digits c.significand
    let d : Digits := ⟨withoutEndZeros digits, c.exponent + digits.length - 1⟩
    if d.exponent < -4 ∨ 16 ≤ d.exponent then d.scientific false
    else
      let text := d.positional false
      if '.' ∈ text then text else text ++ ['.', '0']

end Decimal

end SerialTerminal
