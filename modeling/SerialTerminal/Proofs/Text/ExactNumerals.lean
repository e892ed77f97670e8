import SerialTerminal.Proofs.ExactRounding

/-!
# Exact numerals

A numeral with a fraction is read as the binary64 number nearest to what it says. `readNumeral?`
reads the same numerals and keeps what they say, so that both can be compared
(`readFloat?_eq`): a numeral that says a whole number of at most 53 bits is read as that number,
in whatever form it is written (`truncate_of_exactValue?`).
-/

namespace SerialTerminal.Text

/-- What a written number says. The first form stands for `± digits · 10 ^ exponent`. -/
inductive FloatNumeral where
  | decimal (negative : Bool) (digits : Nat) (exponent : Int)
  | infinite (negative : Bool)
  | notANumber
deriving DecidableEq, Repr

namespace FloatNumeral

/-- The binary64 number that is nearest to a numeral. -/
def nearest : FloatNumeral → Binary64
  | decimal negative digits exponent => .ofDecimal negative digits exponent
  | infinite negative => .infinite negative
  | notANumber => .notANumber

/-- The value of a numeral, if it is finite. -/
def value? : FloatNumeral → Option ℚ
  | decimal negative digits exponent =>
    some ((if negative then -1 else 1) * (digits * 10 ^ exponent))
  | _ => none

end FloatNumeral

/-- The digits of a fraction, if a text starts with one, and the text behind it. -/
def takeFraction : List Char → List Char × List Char
  | '.' :: rest => (rest.takeWhile isAsciiDigit, rest.drop (rest.takeWhile isAsciiDigit).length)
  | rest => ([], rest)

/-- An unsigned numeral as it is written. -/
def readUnsignedNumeral? (negative : Bool) (text : List Char) : Option FloatNumeral :=
  let whole := text.takeWhile isAsciiDigit
  let (fraction, afterFraction) := takeFraction (text.drop whole.length)
  if whole.isEmpty && fraction.isEmpty then none
  else
    (readExponent? afterFraction).map fun exponent =>
      .decimal negative (natOfDigits (whole ++ fraction)) (exponent - fraction.length)

/-- A signed numeral or word as it is written. -/
def readSignedNumeral? (text : List Char) : Option FloatNumeral :=
  let (negative, rest) := takeSign text
  let word := lower rest
  if word = "inf".toList ∨ word = "infinity".toList then some (.infinite negative)
  else if word = "nan".toList then some .notANumber
  else readUnsignedNumeral? negative rest

/-- The numeral that a text is. -/
def readNumeral? (text : List Char) : Option FloatNumeral :=
  (dropUnderscores false ((trim isWhiteSpace text).map asciiDigit)).bind readSignedNumeral?

/-- The value that a text says exactly, if it is a finite numeral. -/
def exactValue? (text : List Char) : Option ℚ := (readNumeral? text).bind FloatNumeral.value?

private theorem readUnsigned?_eq_map (negative : Bool) (text : List Char) :
    readUnsigned? negative text =
      (readUnsignedNumeral? negative text).map FloatNumeral.nearest := by
  change (if _ && (takeFraction _).1.isEmpty then none else
    (readExponent? (takeFraction _).2).map fun exponent => Binary64.ofDecimal negative _ _) = _
  simp only [readUnsignedNumeral?]
  split
  · rfl
  · rw [Option.map_map]
    rfl

private theorem readSigned?_eq_map (text : List Char) :
    readSigned? text = (readSignedNumeral? text).map FloatNumeral.nearest := by
  simp only [readSigned?, readSignedNumeral?, readUnsigned?_eq_map]
  split
  · rfl
  · split <;> rfl

/-- A text is read as the number nearest to the numeral that it is. -/
theorem readFloat?_eq (text : List Char) :
    readFloat? text = (readNumeral? text).map FloatNumeral.nearest := by
  rw [readFloat?, readNumeral?, Option.map_bind]
  congr 1
  funext rest
  exact readSigned?_eq_map rest

section Values

variable {text : List Char} {q : ℚ}

/-- The finite numerals are those in decimal. -/
theorem exactValue?_eq_some_iff : exactValue? text = some q ↔ ∃ negative digits exponent,
    readNumeral? text = some (.decimal negative digits exponent) ∧
      (if negative then -1 else 1) * (digits * 10 ^ exponent) = q := by
  rw [exactValue?, Option.bind_eq_some_iff]
  constructor
  · rintro ⟨numeral, hnumeral, hvalue⟩
    cases numeral with
    | decimal negative digits exponent => exact ⟨_, _, _, hnumeral, Option.some.inj hvalue⟩
    | infinite negative => cases hvalue
    | notANumber => cases hvalue
  · rintro ⟨negative, digits, exponent, hnumeral, rfl⟩
    exact ⟨_, hnumeral, rfl⟩

/-- A whole number of at most 53 bits is read, however it is written. -/
theorem truncate_of_exactValue? {n : Int} (h : exactValue? text = some (n : ℚ))
    (hn : n.natAbs ≤ twoPow 53) : ∃ x, readFloat? text = some x ∧ x.truncate = .ok n := by
  obtain ⟨negative, digits, exponent, hnumeral, hvalue⟩ := exactValue?_eq_some_iff.mp h
  have hpos : (0 : ℚ) ≤ digits * 10 ^ exponent := by positivity
  rw [readFloat?_eq, hnumeral]
  refine ⟨_, rfl, ?_⟩
  rw [FloatNumeral.nearest]
  cases negative with
  | false =>
    simp only [Bool.false_eq_true, if_false, one_mul] at hvalue
    rw [hvalue] at hpos
    obtain ⟨k, rfl⟩ := Int.eq_ofNat_of_zero_le (by exact_mod_cast hpos : 0 ≤ n)
    exact Binary64.truncate_ofDecimal hn (by exact_mod_cast hvalue) false
  | true =>
    have hvalue' : (digits * 10 ^ exponent : ℚ) = (-n : Int) := by
      rw [Int.cast_neg, ← hvalue, if_pos rfl, neg_one_mul, neg_neg]
    rw [hvalue'] at hpos
    obtain ⟨k, hk⟩ := Int.eq_ofNat_of_zero_le (by exact_mod_cast hpos : 0 ≤ -n)
    obtain rfl : n = -k := by omega
    rw [Int.natAbs_neg] at hn
    rw [Int.neg_neg] at hvalue'
    exact Binary64.truncate_ofDecimal hn (by exact_mod_cast hvalue') true

/-- Nothing below zero is read of a numeral that is not below zero. -/
theorem nonneg_of_exactValue? (h : exactValue? text = some q) (hq : 0 ≤ q) {x : Binary64}
    (hx : readFloat? text = some x) {n : Int} (hn : x.truncate = .ok n) : 0 ≤ n := by
  obtain ⟨negative, digits, exponent, hnumeral, hvalue⟩ := exactValue?_eq_some_iff.mp h
  rw [readFloat?_eq, hnumeral] at hx
  obtain rfl : Binary64.ofDecimal negative digits exponent = x := Option.some.inj hx
  cases negative with
  | false => exact (Binary64.hasSign_ofDecimal false digits exponent).nonneg hn
  | true =>
    have hzero : (digits * 10 ^ exponent : ℚ) = (0 : Nat) := by
      simp only [if_true, neg_one_mul] at hvalue
      have hpos : (0 : ℚ) ≤ digits * 10 ^ exponent := by positivity
      rw [Nat.cast_zero]
      linarith
    rw [Binary64.truncate_ofDecimal (Nat.zero_le _) hzero] at hn
    obtain rfl := Except.ok.inj hn
    decide

/-- A finite numeral has an integer part, unless it is read as an infinite number. -/
theorem exists_of_exactValue? (h : exactValue? text = some q) :
    ∃ x, readFloat? text = some x ∧
      ((∃ n, x.truncate = .ok n) ∨ ∃ negative, x = .infinite negative) := by
  obtain ⟨negative, digits, exponent, hnumeral, _⟩ := exactValue?_eq_some_iff.mp h
  rw [readFloat?_eq, hnumeral]
  refine ⟨_, rfl, ?_⟩
  have hsign := Binary64.hasSign_ofDecimal negative digits exponent
  rw [FloatNumeral.nearest]
  generalize Binary64.ofDecimal negative digits exponent = x at hsign
  cases hsign with
  | finite m e => exact .inl ⟨_, rfl⟩
  | infinite => exact .inr ⟨negative, rfl⟩

/-- What else is read are words, or nothing. -/
theorem of_exactValue?_eq_none (h : exactValue? text = none) :
    readFloat? text = none ∨ readFloat? text = some .notANumber ∨
      ∃ negative, readFloat? text = some (.infinite negative) := by
  rw [readFloat?_eq]
  cases hnumeral : readNumeral? text with
  | none => exact .inl rfl
  | some numeral =>
    right
    cases numeral with
    | decimal negative digits exponent =>
      rw [exactValue?, hnumeral] at h
      cases h
    | infinite negative => exact .inr ⟨negative, rfl⟩
    | notANumber => exact .inl rfl

end Values

end SerialTerminal.Text
