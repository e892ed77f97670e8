import SerialTerminal.Binary64

/-!
# Rounding of small quotients

A quotient is rounded to zero only where it is close to the smallest binary64 numbers. Any other
positive quotient has significant bits, so a number above zero comes of it
(`Binary64.isPositive_ofRatio`).
-/

namespace SerialTerminal.Binary64

variable {num den : Nat}

/-- A quotient of at least one is not rounded to zero. -/
theorem roundHalfEven_pos (hden : 0 < den) (h : den ≤ num) : 0 < roundHalfEven num den := by
  have hq : 0 < num / den := Nat.div_pos h hden
  rw [roundHalfEven]
  split
  · exact Nat.succ_pos _
  · exact hq

/-- A quotient is not rounded to zero if its last place is below its first bit. -/
theorem roundScaled_pos (hnum : num ≠ 0) (hden : 0 < den) {e : Int}
    (he : e < num.log2 - den.log2) : 0 < roundScaled num den e := by
  have hlow : 2 ^ num.log2 ≤ num := Nat.log2_self_le hnum
  have hhigh : den < 2 ^ (den.log2 + 1) := Nat.lt_log2_self
  rw [roundScaled]
  split
  · have hexp : den.log2 + 1 + e.toNat ≤ num.log2 := by omega
    refine roundHalfEven_pos (Nat.mul_pos hden (twoPow_pos _)) ?_
    calc den * 2 ^ e.toNat
        ≤ 2 ^ (den.log2 + 1) * 2 ^ e.toNat := Nat.mul_le_mul_right _ (Nat.le_of_lt hhigh)
      _ = 2 ^ (den.log2 + 1 + e.toNat) := (Nat.pow_add ..).symm
      _ ≤ 2 ^ num.log2 := Nat.pow_le_pow_right (by decide) hexp
      _ ≤ num := hlow
  · have hexp : den.log2 + 1 ≤ num.log2 + (-e).toNat := by omega
    refine roundHalfEven_pos hden ?_
    calc den
        ≤ 2 ^ (den.log2 + 1) := Nat.le_of_lt hhigh
      _ ≤ 2 ^ (num.log2 + (-e).toNat) := Nat.pow_le_pow_right (by decide) hexp
      _ = 2 ^ num.log2 * 2 ^ (-e).toNat := Nat.pow_add ..
      _ ≤ num * 2 ^ (-e).toNat := Nat.mul_le_mul_right _ hlow

/-- The last place is chosen far below the first bit. -/
theorem leadingExponent_le (num den : Nat) :
    leadingExponent num den ≤ num.log2 - den.log2 - 52 := by
  simp only [leadingExponent]
  split <;> omega

private theorem isPositive_pack {significand : Nat} (h : 0 < significand) (exponent : Int) :
    (pack false significand exponent).isPositive := by
  rw [pack]
  split
  · rfl
  · simpa [isPositive] using h

/-- A positive quotient that is not too small is rounded to a number above zero. -/
theorem isPositive_ofRatio (hnum : num ≠ 0) (hden : 0 < den)
    (h : den.log2 ≤ num.log2 + 1073) : (ofRatio false num den).isPositive := by
  have he : max (leadingExponent num den) minExponent < num.log2 - den.log2 := by
    have hlead := leadingExponent_le num den
    have hmin : minExponent = -1074 := rfl
    omega
  simp only [ofRatio, if_neg hnum]
  split
  · exact isPositive_pack (roundScaled_pos hnum hden he) _
  · exact isPositive_pack (twoPow_pos 52) _

end SerialTerminal.Binary64
