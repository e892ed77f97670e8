import SerialTerminal.Numeral
import SerialTerminal.Proofs.Text.Trimming
import SerialTerminal.Text.FloatNumeral

/-!
# Whole numbers

Decimal digits are read as a binary64 number, of which the integer part is taken. The detour changes
no number up to `2 ^ 53`: it has at most 53 bits, or it is a power of two, so it is its own nearest
binary64 number (`Binary64.truncate_ofRatio_one`). Digits are read as the number that they stand for
(`Text.readFloat?_of_isDigits`).
-/

namespace SerialTerminal

namespace Binary64

section Whole

variable {n : Nat}

/-- Division by one leaves nothing to round. -/
theorem roundHalfEven_one (n : Nat) : roundHalfEven n 1 = n := by
  rw [roundHalfEven, Nat.div_one, Nat.mod_one]
  exact if_neg (by omega)

private theorem mul_twoPow_lt {k : Nat} (hk : n.log2 + k = 52) : n * twoPow k < twoPow 53 := by
  have hlt : n < 2 ^ (n.log2 + 1) := Nat.lt_log2_self
  calc n * 2 ^ k
      < 2 ^ (n.log2 + 1) * 2 ^ k := Nat.mul_lt_mul_of_pos_right hlt (Nat.pow_pos (by decide))
    _ = 2 ^ 53 := by rw [← Nat.pow_add, Nat.add_right_comm, hk]

private theorem le_mul_twoPow (hn : n ≠ 0) {k : Nat} (hk : n.log2 + k = 52) :
    twoPow 52 ≤ n * twoPow k := by
  calc 2 ^ 52
      = 2 ^ n.log2 * 2 ^ k := by rw [← Nat.pow_add, hk]
    _ ≤ n * 2 ^ k := Nat.mul_le_mul_right _ (Nat.log2_self_le hn)

/-- A number of at most 53 bits is shifted until its highest bit is the first of 53. -/
theorem leadingExponent_one (hn : n ≠ 0) {k : Nat} (hk : n.log2 + k = 52) :
    leadingExponent n 1 = -k := by
  have he : (n.log2 : Int) - Nat.log2 1 - 52 = -k := by
    have hone : Nat.log2 1 = 0 := by decide
    omega
  have hle := le_mul_twoPow hn hk
  rw [leadingExponent, he]
  simp only [Int.neg_neg, Int.toNat_natCast, Nat.one_mul]
  rw [if_neg]
  split
  · next h0 =>
    obtain rfl : k = 0 := by omega
    have htwo : n * twoPow 0 = n := Nat.mul_one n
    rw [htwo] at hle
    simpa using hle
  · simpa using hle

/-- Nothing is rounded where a number is shifted up. -/
theorem roundScaled_one (n k : Nat) : roundScaled n 1 (-k) = n * twoPow k := by
  rw [roundScaled]
  split
  · obtain rfl : k = 0 := by omega
    simp [twoPow, roundHalfEven_one]
  · rw [Int.neg_neg, Int.toNat_natCast, roundHalfEven_one]

/-- A number shifted up is shifted back by its exponent. -/
theorem truncate_finite_neg (n k : Nat) : (finite false (n * twoPow k) (-k)).truncate = .ok n := by
  rw [truncate]
  split
  · obtain rfl : k = 0 := by omega
    simp [twoPow, signed]
  · rw [Int.neg_neg, Int.toNat_natCast, Nat.mul_div_cancel n (twoPow_pos k)]
    rfl

private theorem truncate_zero : zero.truncate = .ok 0 := by
  rw [zero, truncate, if_neg (by decide), Nat.zero_div]
  rfl

/-- The integer part of the number nearest to a whole one of at most 53 bits is the whole one. -/
theorem truncate_ofRatio_one (h : n ≤ twoPow 53) : (ofRatio false n 1).truncate = .ok n := by
  by_cases hzero : n = 0
  · rw [ofRatio, if_pos hzero, hzero]
    exact truncate_zero
  · rcases Nat.lt_or_eq_of_le h with hlt | rfl
    · have hlog : n.log2 < 53 := (Nat.log2_lt hzero).mpr hlt
      obtain ⟨k, hk⟩ : ∃ k, n.log2 + k = 52 := ⟨52 - n.log2, by omega⟩
      have hmax : max (-k : Int) minExponent = -k := Int.max_eq_left (by unfold minExponent; omega)
      have hpack : ¬ maxExponent < -(k : Int) := by unfold maxExponent; omega
      simp only [ofRatio, if_neg hzero, leadingExponent_one hzero hk, hmax, roundScaled_one]
      rw [if_pos (mul_twoPow_lt hk), pack, if_neg hpack, truncate_finite_neg]
    · decide +kernel

end Whole

end Binary64

namespace Text

/-- The codes of the digits of ASCII. -/
theorem isAsciiDigit_iff {c : Char} : isAsciiDigit c ↔ 48 ≤ c.toNat ∧ c.toNat ≤ 57 := by
  rw [isAsciiDigit, Bool.and_eq_true, decide_eq_true_iff, decide_eq_true_iff]
  exact Iff.rfl

/-- Holds of the texts of digits. -/
def IsDigits (text : List Char) : Prop := text ≠ [] ∧ ∀ c ∈ text, isAsciiDigit c

instance (text : List Char) : Decidable (IsDigits text) :=
  decidable_of_iff (text ≠ [] ∧ text.all isAsciiDigit = true)
    (and_congr_right fun _ => List.all_eq_true)

section Digits

variable {c : Char} {text : List Char}

/-- The digits of a number are digits. -/
theorem isDigits_digits (n : Nat) : IsDigits (Numeral.digits n) := by
  refine ⟨Nat.toDigits_ne_nil, fun c hc => ?_⟩
  have hd := Nat.isDigit_of_mem_toDigits (by decide) (by decide) hc
  rw [Char.isDigit, Bool.and_eq_true, decide_eq_true_iff, decide_eq_true_iff] at hd
  exact isAsciiDigit_iff.mpr hd

/-- They stand for the number. -/
theorem natOfDigits_digits (n : Nat) : natOfDigits (Numeral.digits n) = n :=
  Nat.ofDigitChars_toDigits (by decide) (by decide)

private theorem not_isWhiteSpace (h : isAsciiDigit c) : ¬ isWhiteSpace c := by
  obtain ⟨hlow, hhigh⟩ := isAsciiDigit_iff.mp h
  simp only [isWhiteSpace, Bool.or_eq_true, Bool.and_eq_true, decide_eq_true_eq]
  omega

private theorem asciiDigit_eq (h : isAsciiDigit c) : asciiDigit c = c := by
  obtain ⟨hlow, hhigh⟩ := isAsciiDigit_iff.mp h
  have hfirst : (decide (0x30 ≤ c.toNat) && decide (c.toNat < 0x30 + 10)) = true := by
    simp only [Bool.and_eq_true, decide_eq_true_eq]
    omega
  have hvalue : digitValue? c = some (c.toNat - 48) := by
    simp only [digitValue?, decimalZeros, List.find?_cons, hfirst, Option.map_some]
  rw [asciiDigit, hvalue]
  simp only
  rw [Nat.add_sub_cancel' hlow, Char.ofNat_toNat]

private theorem dropUnderscores_eq (h : ∀ c ∈ text, isAsciiDigit c) (afterDigit : Bool) :
    dropUnderscores afterDigit text = some text := by
  induction text generalizing afterDigit with
  | nil => rfl
  | cons c rest ih =>
    obtain ⟨hc, hrest⟩ := List.forall_mem_cons.mp h
    have hline : c ≠ '_' := by
      rintro rfl
      exact absurd hc (by decide)
    rw [dropUnderscores, ih hrest]
    · rfl
    · exact hline

private theorem toLower_digit (h : isAsciiDigit c) : c.toLower = c := by
  obtain ⟨_, hhigh⟩ := isAsciiDigit_iff.mp h
  exact toLower_of_not_capital fun hcapital => by omega

private theorem readUnsigned?_eq (h : IsDigits text) (negative : Bool) :
    readUnsigned? negative text = some (Binary64.ofDecimal negative (natOfDigits text) 0) := by
  have hwhole : text.takeWhile isAsciiDigit = text := List.takeWhile_eq_self_iff.mpr h.2
  have hne : text.isEmpty = false := List.isEmpty_eq_false_iff.mpr h.1
  simp [readUnsigned?, hwhole, hne, readExponent?]

private theorem readSigned?_eq (h : IsDigits text) :
    readSigned? text = some (Binary64.ofDecimal false (natOfDigits text) 0) := by
  cases text with
  | nil => exact absurd rfl h.1
  | cons c rest =>
    have hc : isAsciiDigit c := h.2 c List.mem_cons_self
    -- No sign and no word begins with a digit.
    have hno (d : Char) (hd : isAsciiDigit d = false) : c ≠ d := by
      rintro rfl
      rw [hc] at hd
      cases hd
    have hsign : takeSign (c :: rest) = (false, c :: rest) := by
      rw [takeSign]
      · exact fun _ he => hno '-' rfl (List.cons.inj he).1
      · exact fun _ he => hno '+' rfl (List.cons.inj he).1
    have hword (d : Char) (hd : isAsciiDigit d = false) (others : List Char) :
        lower (c :: rest) ≠ d :: others := by
      rw [lower, List.map_cons, toLower_digit hc]
      exact fun he => hno d hd (List.cons.inj he).1
    have hinfinite : ¬ (lower (c :: rest) = "inf".toList ∨ lower (c :: rest) = "infinity".toList) :=
      not_or.mpr ⟨hword 'i' rfl _, hword 'i' rfl _⟩
    have hnan : lower (c :: rest) ≠ "nan".toList := hword 'n' rfl _
    rw [readSigned?, hsign]
    simp only [if_neg hinfinite, if_neg hnan]
    exact readUnsigned?_eq h false

/-- Digits are read as the number that they stand for. -/
theorem readFloat?_of_isDigits (h : IsDigits text) :
    readFloat? text = some (Binary64.ofDecimal false (natOfDigits text) 0) := by
  have htrimmed : Trimmed isWhiteSpace text :=
    ⟨fun c hc => not_isWhiteSpace (h.2 c (List.mem_of_mem_head? hc)),
      fun c hc => not_isWhiteSpace (h.2 c (List.mem_of_mem_getLast? hc))⟩
  have hmap : text.map asciiDigit = text := by
    conv => rhs; rw [← List.map_id text]
    exact List.map_congr_left fun c hc => asciiDigit_eq (h.2 c hc)
  rw [readFloat?, htrimmed.trim_eq, hmap, dropUnderscores_eq h.2, Option.bind_some,
    readSigned?_eq h]

end Digits

end Text

end SerialTerminal
