import Mathlib.Algebra.Order.Field.Power
import Mathlib.Data.Int.Log
import Mathlib.Data.Rat.Floor
import SerialTerminal.Proofs.Text.WholeNumbers

/-!
# Exact quotients

The rounding of a quotient depends on its value alone, not on the numbers that it is taken of
(`ofRatio_mul_right`). So a quotient that comes to a whole number of at most 53 bits is kept as it
is, also where it is written with a fraction or with an exponent (`truncate_ofDecimal`).
-/

namespace SerialTerminal.Binary64

section Scale

variable {num den k : Nat}

/-- Quotients of one value are rounded alike. -/
theorem roundHalfEven_mul_right (hk : 0 < k) (num den : Nat) :
    roundHalfEven (num * k) (den * k) = roundHalfEven num den := by
  have hrest : 2 * (num * k % (den * k)) = 2 * (num % den) * k := by
    rw [Nat.mul_mod_mul_right, Nat.mul_assoc]
  have heq : 2 * (num % den) * k = den * k ↔ 2 * (num % den) = den :=
    Nat.mul_left_inj (Nat.ne_of_gt hk)
  simp only [roundHalfEven, Nat.mul_div_mul_right _ _ hk, hrest, Nat.mul_lt_mul_right hk, heq]

/-- So they are where they are scaled first. -/
theorem roundScaled_mul_right (hk : 0 < k) (num den : Nat) (e : Int) :
    roundScaled (num * k) (den * k) e = roundScaled num den e := by
  simp only [roundScaled, Nat.mul_right_comm _ k, roundHalfEven_mul_right hk]

private theorem cast_twoPow (n : Nat) : (twoPow n : ℚ) = 2 ^ (n : Int) := by simp [twoPow]

/-- Naturals are compared instead of a quotient and a power of two. -/
private theorem below_iff (hden : 0 < den) (e : Int) :
    (if 0 ≤ e then num < den * twoPow (e.toNat + 52)
      else num * twoPow (-e).toNat < den * twoPow 52) ↔ (num / den : ℚ) < 2 ^ (e + 52) := by
  have hden' : (0 : ℚ) < den := by exact_mod_cast hden
  rw [div_lt_iff₀ hden']
  split
  · next he =>
    have hexp : e + 52 = ((e.toNat + 52 : Nat) : Int) := by omega
    rw [hexp, ← cast_twoPow, mul_comm]
    exact_mod_cast Iff.rfl
  · next he =>
    have hexp : e + 52 = -((-e).toNat : Int) + (52 : Nat) := by omega
    rw [hexp, zpow_add₀ two_ne_zero, zpow_neg, ← cast_twoPow, ← cast_twoPow, mul_assoc,
      ← div_eq_inv_mul, lt_div_iff₀ (by exact_mod_cast twoPow_pos _), mul_comm (twoPow 52 : ℚ)]
    exact_mod_cast Iff.rfl

private theorem lt_two_zpow_log2 (n : Nat) : (n : ℚ) < 2 ^ ((n.log2 : Int) + 1) := by
  exact_mod_cast Nat.lt_log2_self (n := n)

private theorem two_zpow_log2_le {n : Nat} (hn : n ≠ 0) : (2 : ℚ) ^ (n.log2 : Int) ≤ n := by
  exact_mod_cast Nat.log2_self_le hn

private theorem log_lt_iff (hnum : num ≠ 0) (hden : 0 < den) (e : Int) :
    Int.log 2 (num / den : ℚ) < e ↔ (num / den : ℚ) < 2 ^ e := by
  have hvalue : (0 : ℚ) < num / den :=
    div_pos (by exact_mod_cast Nat.pos_of_ne_zero hnum) (by exact_mod_cast hden)
  exact (Int.lt_zpow_iff_log_lt one_lt_two hvalue).symm

/-- The last place of a quotient stands 52 places behind its first bit. -/
theorem leadingExponent_eq (hnum : num ≠ 0) (hden : 0 < den) :
    leadingExponent num den = Int.log 2 (num / den : ℚ) - 52 := by
  have hden' : (0 : ℚ) < den := by exact_mod_cast hden
  have hlow : ¬ Int.log 2 (num / den : ℚ) < num.log2 - den.log2 - 1 := by
    rw [log_lt_iff hnum hden, not_lt, le_div_iff₀ hden']
    calc (2 : ℚ) ^ ((num.log2 : Int) - den.log2 - 1) * den
        ≤ 2 ^ ((num.log2 : Int) - den.log2 - 1) * 2 ^ ((den.log2 : Int) + 1) := by
          gcongr
          exact (lt_two_zpow_log2 den).le
      _ = 2 ^ (num.log2 : Int) := by
          rw [← zpow_add₀ two_ne_zero]
          congr 1
          omega
      _ ≤ num := two_zpow_log2_le hnum
  have hhigh : Int.log 2 (num / den : ℚ) < num.log2 - den.log2 + 1 := by
    rw [log_lt_iff hnum hden, div_lt_iff₀ hden']
    calc (num : ℚ)
        < 2 ^ ((num.log2 : Int) + 1) := lt_two_zpow_log2 num
      _ = 2 ^ ((num.log2 : Int) - den.log2 + 1) * 2 ^ (den.log2 : Int) := by
          rw [← zpow_add₀ two_ne_zero]
          congr 1
          omega
      _ ≤ 2 ^ ((num.log2 : Int) - den.log2 + 1) * den := by
          gcongr
          exact two_zpow_log2_le (Nat.ne_of_gt hden)
  simp only [leadingExponent, below_iff hden, ← log_lt_iff hnum hden]
  split <;> omega

/-- Quotients of one value have one nearest number. -/
theorem ofRatio_mul_right (hden : 0 < den) (hk : 0 < k) (negative : Bool) (num : Nat) :
    ofRatio negative (num * k) (den * k) = ofRatio negative num den := by
  by_cases hnum : num = 0
  · simp [ofRatio, hnum]
  · have hscaled : num * k ≠ 0 := Nat.mul_ne_zero hnum (Nat.ne_of_gt hk)
    have hvalue : ((num * k : Nat) / (den * k : Nat) : ℚ) = num / den := by
      push_cast
      exact mul_div_mul_right _ _ (by exact_mod_cast Nat.ne_of_gt hk)
    have hlead : leadingExponent (num * k) (den * k) = leadingExponent num den := by
      rw [leadingExponent_eq hscaled (Nat.mul_pos hden hk), hvalue, leadingExponent_eq hnum hden]
    simp only [ofRatio, if_neg hnum, if_neg hscaled, hlead, roundScaled_mul_right hk]

end Scale

section Sign

/-- Holds of the numbers with a sign. -/
inductive HasSign (negative : Bool) : Binary64 → Prop where
  | finite (m : Nat) (e : Int) : HasSign negative (.finite negative m e)
  | infinite : HasSign negative (.infinite negative)

private theorem hasSign_pack (negative : Bool) (m : Nat) (e : Int) :
    (pack negative m e).HasSign negative := by
  rw [pack]
  split
  · exact .infinite
  · exact .finite m e

/-- A quotient keeps its sign. -/
theorem hasSign_ofRatio (negative : Bool) (num den : Nat) :
    (ofRatio negative num den).HasSign negative := by
  simp only [ofRatio]
  split
  · exact .finite 0 minExponent
  · split
    · apply hasSign_pack
    · apply hasSign_pack

/-- So does a number written in decimal. -/
theorem hasSign_ofDecimal (negative : Bool) (digits : Nat) (exponent : Int) :
    (ofDecimal negative digits exponent).HasSign negative := by
  rw [ofDecimal]
  split
  · apply hasSign_ofRatio
  split
  · exact .infinite
  split
  · apply hasSign_ofRatio
  split
  · apply hasSign_ofRatio
  · apply hasSign_ofRatio

/-- Nothing below zero comes of a number that is not negative. -/
theorem HasSign.nonneg {x : Binary64} {n : Int} (hx : x.HasSign false) (h : x.truncate = .ok n) :
    0 ≤ n := by
  cases hx with
  | finite m e =>
    obtain rfl := Except.ok.inj h
    exact Int.natCast_nonneg _
  | infinite => cases h

private theorem truncate_pack (negative : Bool) (m : Nat) (e : Int) :
    (pack negative m e).truncate =
      (pack false m e).truncate.map fun n => if negative then -n else n := by
  rw [pack, pack]
  split
  · rfl
  · cases negative <;> rfl

/-- The integer part of a quotient is that of the quotient without its sign. -/
theorem truncate_ofRatio (negative : Bool) (num den : Nat) :
    (ofRatio negative num den).truncate =
      (ofRatio false num den).truncate.map fun n => if negative then -n else n := by
  simp only [ofRatio]
  split
  · cases negative <;> rfl
  · split
    · apply truncate_pack
    · apply truncate_pack

end Sign

section Whole

variable {n : Nat}

private theorem truncate_ofRatio_whole (hn : n ≤ twoPow 53) {den : Nat} (hden : 0 < den)
    (negative : Bool) : (ofRatio negative (n * den) den).truncate = .ok (signed negative n) := by
  have hratio : ofRatio false (n * den) den = ofRatio false n 1 := by
    have hscaled := ofRatio_mul_right Nat.one_pos hden false n
    rwa [Nat.one_mul] at hscaled
  rw [truncate_ofRatio, hratio, truncate_ofRatio_one hn]
  cases negative <;> rfl

private theorem cast_tenPow (k : Nat) : (tenPow k : ℚ) = 10 ^ (k : Int) := by simp [tenPow]

section Decimal

variable {digits : Nat} {exponent : Int}

private theorem exponent_le (hdigits : digits ≠ 0) (hn : n ≤ twoPow 53)
    (h : (digits * 10 ^ exponent : ℚ) = n) : exponent ≤ 400 := by
  by_contra hlarge
  have hdigits' : (1 : ℚ) ≤ digits := by exact_mod_cast Nat.one_le_iff_ne_zero.mpr hdigits
  have hsmall : (n : ℚ) < 10 ^ (16 : Int) := by
    have hbound : n < 10 ^ 16 := Nat.lt_of_le_of_lt hn (by decide)
    exact_mod_cast hbound
  refine absurd hsmall (not_lt.mpr ?_)
  calc (10 : ℚ) ^ (16 : Int)
      ≤ 10 ^ exponent := zpow_le_zpow_right₀ (by norm_num) (by omega)
    _ ≤ digits * 10 ^ exponent := le_mul_of_one_le_left (by positivity) hdigits'
    _ = n := h

private theorem le_exponent (hn : n ≠ 0) (h : (digits * 10 ^ exponent : ℚ) = n) :
    -400 ≤ exponent + digits.log2 + 1 := by
  by_contra hsmall
  have hdigits : (digits : ℚ) ≤ 10 ^ ((digits.log2 : Int) + 1) := by
    have hbound : digits ≤ 10 ^ (digits.log2 + 1) :=
      Nat.le_trans (Nat.le_of_lt Nat.lt_log2_self) (Nat.pow_le_pow_left (by decide) _)
    exact_mod_cast hbound
  refine hn (Nat.lt_one_iff.mp ?_)
  rw [← Nat.cast_lt (α := ℚ), Nat.cast_one, ← h]
  calc (digits * 10 ^ exponent : ℚ)
      ≤ 10 ^ ((digits.log2 : Int) + 1) * 10 ^ exponent := by gcongr
    _ = 10 ^ ((digits.log2 : Int) + 1 + exponent) := (zpow_add₀ (by norm_num) _ _).symm
    _ < 1 := zpow_lt_one_of_neg₀ (by norm_num) (by omega)

/-- What is written in decimal is kept if it comes to a whole number of at most 53 bits. -/
theorem truncate_ofDecimal (hn : n ≤ twoPow 53) (h : (digits * 10 ^ exponent : ℚ) = n)
    (negative : Bool) :
    (ofDecimal negative digits exponent).truncate = .ok (signed negative n) := by
  rw [ofDecimal]
  by_cases hdigits : digits = 0
  · obtain rfl : n = 0 := by simpa [hdigits] using h.symm
    rw [if_pos hdigits, ← truncate_ofRatio_whole hn Nat.one_pos, Nat.zero_mul]
  have hzero : n ≠ 0 := by
    rintro rfl
    have hpow : (10 : ℚ) ^ exponent ≠ 0 := zpow_ne_zero _ (by norm_num)
    simp [hdigits, hpow] at h
  have hlarge := exponent_le hdigits hn h
  have hsmall := le_exponent hzero h
  rw [if_neg hdigits, if_neg (by omega), if_neg (by omega)]
  split
  · next hexp =>
    obtain ⟨k, rfl⟩ := Int.eq_ofNat_of_zero_le hexp
    have hnat : digits * tenPow k = n * 1 := by
      rw [← cast_tenPow] at h
      rw [Nat.mul_one]
      exact_mod_cast h
    rw [Int.toNat_natCast, hnat, truncate_ofRatio_whole hn Nat.one_pos]
  · next hexp =>
    obtain ⟨k, hk⟩ := Int.eq_ofNat_of_zero_le (by omega : 0 ≤ -exponent)
    obtain rfl : exponent = -k := by omega
    have hnat : digits = n * tenPow k := by
      rw [zpow_neg, ← cast_tenPow, ← div_eq_mul_inv,
        div_eq_iff (by exact_mod_cast Nat.ne_of_gt (tenPow_pos k))] at h
      exact_mod_cast h
    rw [hk, Int.toNat_natCast, hnat, truncate_ofRatio_whole hn (tenPow_pos k)]

end Decimal

end Whole

end SerialTerminal.Binary64
