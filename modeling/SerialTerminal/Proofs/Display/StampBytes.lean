import SerialTerminal.Display.Viewer
import SerialTerminal.Proofs.Text.Encoding
import SerialTerminal.Proofs.Text.WholeNumbers

/-!
# Stamps as bytes

What is written in front of a line. No stamp is a line feed (`LineStamp.bytes_ne_lineFeed`), so a
write of one can be told from the write that ends a line. A stamp in seconds has no line feed in it
and can be read back from the front of its line: nothing up to its point and nothing of the fixed
width behind it depends on the line (`readStamped_append`).
-/

namespace SerialTerminal

namespace LineStamp

/-- The bytes of a stamp at a clock reading. -/
def bytes (stamp : LineStamp) (now : Binary64) : Except StampError (List UInt8) :=
  (stamp.text now).map Text.utf8

/-- The milliseconds that a stamp in seconds shows: those since a start, or those since 1970. -/
def count (sinceStart : Bool) (start now : Binary64) : Except Binary64.IntegerError Int :=
  milliseconds (if sinceStart then (now.sub start).atLeastZero else now)

/-- The places that a stamp in seconds has for the seconds. -/
def secondsWidth (sinceStart : Bool) : Nat := if sinceStart then 4 else 8

/-- A stamp in seconds shows its milliseconds. -/
theorem text_stampFor (sinceStart : Bool) (start now : Binary64) (zone : Calendar.Zone) :
    (Display.stampFor none sinceStart start zone).text now =
      ((count sinceStart start now).mapError StampError.number).map
        (ofMilliseconds (secondsWidth sinceStart)) := by
  cases sinceStart <;> rfl

/-- Every stamp ends with a bar or with a space. -/
theorem exists_text_eq {stamp : LineStamp} {now : Binary64} {text : List Char}
    (h : stamp.text now = .ok text) : ∃ front c, text = front ++ [c] ∧ (c = '|' ∨ c = ' ') := by
  have hseconds {width : Nat} {read : Except StampError Int}
      (h : read.map (ofMilliseconds width) = .ok text) :
      ∃ front c, text = front ++ [c] ∧ (c = '|' ∨ c = ' ') := by
    cases read with
    | error cause => cases h
    | ok ms =>
      refine ⟨Numeral.spacePadded width (ms / 1000) ++ '.' :: Numeral.zeroPadded 3 (ms % 1000) ++
        [':'], ' ', ?_, .inr rfl⟩
      rw [← Except.ok.inj h, ofMilliseconds, List.append_assoc _ [':'] [' ']]
      rfl
  cases stamp with
  | formatted format zone =>
    rw [LineStamp.text, ofFormat] at h
    split at h
    · cases h
    · split at h
      · cases h
      · split at h
        · cases h
        · exact ⟨_, '|', (Except.ok.inj h).symm, .inl rfl⟩
  | sinceStart start => exact hseconds h
  | sinceEpoch => exact hseconds h

/-- No stamp is a line feed. -/
theorem bytes_ne_lineFeed {stamp : LineStamp} {now : Binary64} {written : List UInt8}
    (h : stamp.bytes now = .ok written) : written ≠ [10] := by
  rw [bytes] at h
  cases htext : stamp.text now with
  | error cause =>
    rw [htext] at h
    cases h
  | ok text =>
    rw [htext] at h
    obtain ⟨front, c, rfl, hc⟩ := exists_text_eq htext
    have hascii : ∀ d ∈ [c], Text.IsAscii d := by
      intro d hd
      rw [List.mem_singleton.mp hd]
      rcases hc with rfl | rfl <;> decide
    rw [← Except.ok.inj h, Text.utf8_append, Text.utf8_eq_latin1 hascii]
    intro hline
    have hlast : (Text.utf8 front ++ Text.latin1 [c]).getLast? = some 10 := by
      rw [hline]
      rfl
    rw [Text.latin1, List.map_singleton, List.getLast?_concat] at hlast
    rcases hc with rfl | rfl <;> cases hlast

section Seconds

open Text

/-- Holds of the characters in the places of the seconds. -/
private def IsPlace (c : Char) : Prop := c = ' ' ∨ c = '-' ∨ isAsciiDigit c

private theorem isPlace_ofInt (v : Int) : ∀ c ∈ Numeral.ofInt v, IsPlace c ∧ c ≠ ' ' := by
  have hdigit : ∀ c ∈ Numeral.digits v.natAbs, IsPlace c ∧ c ≠ ' ' := by
    intro c hc
    have hd := (isDigits_digits v.natAbs).2 c hc
    refine ⟨.inr (.inr hd), ?_⟩
    rintro rfl
    exact absurd hd (by decide)
  rw [Numeral.ofInt]
  split
  · exact List.forall_mem_cons.mpr ⟨⟨.inr (.inl rfl), by decide⟩, hdigit⟩
  · exact hdigit

private theorem isPlace_spacePadded (width : Nat) (v : Int) :
    ∀ c ∈ Numeral.spacePadded width v, IsPlace c := by
  intro c hc
  rcases List.mem_append.mp hc with hc | hc
  · exact .inl (List.eq_of_mem_replicate hc)
  · exact (isPlace_ofInt v c hc).1

private theorem isAscii_of_isPlace {c : Char} (h : IsPlace c) :
    IsAscii c ∧ c ≠ '.' ∧ c ≠ '\n' := by
  rcases h with rfl | rfl | hdigit
  · decide
  · decide
  · have hcode := isAsciiDigit_iff.mp hdigit
    refine ⟨Nat.lt_of_le_of_lt hcode.2 (by decide), ?_, ?_⟩
    · rintro rfl
      exact absurd hcode (by decide)
    · rintro rfl
      exact absurd hcode (by decide)

/-- The integer of digits behind the sign that there may be. -/
def readInt : List Char → Int
  | '-' :: digits => -natOfDigits digits
  | digits => natOfDigits digits

/-- An integer is read as it is written. -/
theorem readInt_ofInt (v : Int) : readInt (Numeral.ofInt v) = v := by
  rw [Numeral.ofInt]
  split
  · rw [readInt, natOfDigits_digits]
    omega
  · have hminus : '-' ∉ Numeral.digits v.natAbs := fun hmem =>
      absurd ((isDigits_digits v.natAbs).2 _ hmem) (by decide)
    rw [readInt, natOfDigits_digits]
    · omega
    · exact fun rest heq => hminus (heq ▸ List.mem_cons_self)

/-- Spaces in front of an integer are no part of it. -/
theorem dropWhile_spacePadded (width : Nat) (v : Int) :
    (Numeral.spacePadded width v).dropWhile (· = ' ') = Numeral.ofInt v := by
  have hspaces : ∀ c ∈ List.replicate (width - (Numeral.ofInt v).length) ' ',
      decide (c = ' ') = true := fun c hc => decide_eq_true (List.eq_of_mem_replicate hc)
  rw [Numeral.spacePadded, Numeral.padLeft, List.dropWhile_append_of_pos hspaces]
  refine List.dropWhile_eq_self_iff.mpr fun hlength => ?_
  have hhead := (isPlace_ofInt v _ (List.getElem_mem hlength)).2
  simpa using hhead

/-- The milliseconds behind full seconds have three digits. -/
theorem zeroPadded_three {r : Int} (hlow : 0 ≤ r) (hhigh : r < 1000) :
    (Numeral.zeroPadded 3 r).length = 3 ∧ IsDigits (Numeral.zeroPadded 3 r) ∧
      (natOfDigits (Numeral.zeroPadded 3 r) : Int) = r := by
  obtain ⟨-, hdigits⟩ := isDigits_digits r.natAbs
  have hfew : (Numeral.digits r.natAbs).length ≤ 3 :=
    (Nat.length_toDigits_le_iff (by decide) (by decide)).mpr (by omega)
  have heq : Numeral.zeroPadded 3 r = List.replicate (3 - (Numeral.digits r.natAbs).length) '0' ++
      Numeral.digits r.natAbs := if_neg (by omega)
  rw [heq]
  have hlength : (List.replicate (3 - (Numeral.digits r.natAbs).length) '0' ++
      Numeral.digits r.natAbs).length = 3 := by
    rw [List.length_append, List.length_replicate]
    omega
  refine ⟨hlength, ⟨List.ne_nil_of_length_pos (by omega), fun c hc => ?_⟩, ?_⟩
  · rcases List.mem_append.mp hc with hc | hc
    · rw [List.eq_of_mem_replicate hc]
      decide
    · exact hdigits c hc
  · change (Nat.ofDigitChars 10 (_ ++ _) 0 : Int) = r
    rw [Nat.ofDigitChars_append, Nat.ofDigitChars_replicate_zero]
    have hvalue : Nat.ofDigitChars 10 (Numeral.digits r.natAbs) 0 = r.natAbs :=
      natOfDigits_digits r.natAbs
    rw [Nat.mul_zero, hvalue]
    omega

/-- A stamp in seconds: places for the seconds, a point, three digits, a colon and a space. -/
private theorem exists_ofMilliseconds_eq (width : Nat) (ms : Int) :
    ∃ digits, digits.length = 3 ∧ IsDigits digits ∧ (natOfDigits digits : Int) = ms % 1000 ∧
      ofMilliseconds width ms =
        Numeral.spacePadded width (ms / 1000) ++ '.' :: (digits ++ [':', ' ']) := by
  obtain ⟨hlength, hdigits, hvalue⟩ :=
    zeroPadded_three (Int.emod_nonneg ms (by decide)) (Int.emod_lt_of_pos ms (by decide))
  refine ⟨Numeral.zeroPadded 3 (ms % 1000), hlength, hdigits, hvalue, ?_⟩
  rw [ofMilliseconds, List.append_assoc]
  rfl

/-- A stamp in seconds is ASCII, without a line feed. -/
private theorem isAscii_ofMilliseconds (width : Nat) (ms : Int) :
    ∀ c ∈ ofMilliseconds width ms, IsAscii c ∧ c ≠ '\n' := by
  obtain ⟨digits, -, hdigits, -, heq⟩ := exists_ofMilliseconds_eq width ms
  have hplace {c : Char} (h : IsPlace c) : IsAscii c ∧ c ≠ '\n' :=
    ⟨(isAscii_of_isPlace h).1, (isAscii_of_isPlace h).2.2⟩
  rw [heq]
  intro c hc
  rcases List.mem_append.mp hc with hc | hc
  · exact hplace (isPlace_spacePadded width _ c hc)
  · rcases List.mem_cons.mp hc with rfl | hc
    · decide
    · rcases List.mem_append.mp hc with hc | hc
      · exact hplace (.inr (.inr (hdigits.2 c hc)))
      · rcases List.mem_cons.mp hc with rfl | hc
        · decide
        · rw [List.mem_singleton.mp hc]
          decide

/-- No stamp in seconds has a line feed in it. -/
theorem lineFeed_not_mem_ofMilliseconds (width : Nat) (ms : Int) :
    10 ∉ utf8 (ofMilliseconds width ms) := by
  have hascii := isAscii_ofMilliseconds width ms
  rw [utf8_eq_latin1 fun c hc => (hascii c hc).1]
  exact not_mem_latin1 (d := '\n') (fun c hc => (hascii c hc).1.isLatin1) (by decide)
    fun hmem => (hascii _ hmem).2 rfl

/-- The milliseconds of the stamp in seconds in front of a line, and the line behind it. -/
def readStamped (line : List UInt8) : Int × List UInt8 :=
  let places := line.takeWhile (· ≠ 46)
  let behind := line.drop (places.length + 1)
  (1000 * readInt ((ofLatin1 places).dropWhile (· = ' ')) + natOfDigits (ofLatin1 (behind.take 3)),
    behind.drop 5)

/-- The first point of a line is the one behind the seconds. -/
private theorem takeWhile_places {places : List Char} (h : ∀ c ∈ places, IsPlace c)
    (behind : List UInt8) :
    (latin1 places ++ 46 :: behind).takeWhile (· ≠ 46) = latin1 places := by
  have hlatin : ∀ c ∈ places, IsLatin1 c := fun c hc => (isAscii_of_isPlace (h c hc)).1.isLatin1
  have hpoint : 46 ∉ latin1 places := not_mem_latin1 (d := '.') hlatin (by decide) fun hmem =>
    (isAscii_of_isPlace (h _ hmem)).2.1 rfl
  have hne : ∀ b ∈ latin1 places, decide (b ≠ 46) = true := fun b hb =>
    decide_eq_true fun hb46 => hpoint (hb46 ▸ hb)
  rw [List.takeWhile_append_of_pos hne, List.takeWhile_cons_of_neg (by decide), List.append_nil]

/-- A stamp in seconds is read back, and so is what stands behind it. -/
theorem readStamped_append (width : Nat) (ms : Int) (line : List UInt8) :
    readStamped (utf8 (ofMilliseconds width ms) ++ line) = (ms, line) := by
  obtain ⟨digits, hlength, hdigits, hvalue, heq⟩ := exists_ofMilliseconds_eq width ms
  have hplaces := isPlace_spacePadded width (ms / 1000)
  have hread {text : List Char} (h : ∀ c ∈ text, IsPlace c) : ofLatin1 (latin1 text) = text :=
    ofLatin1_latin1 fun c hc => (isAscii_of_isPlace (h c hc)).1.isLatin1
  have hbytes : utf8 (ofMilliseconds width ms) ++ line =
      latin1 (Numeral.spacePadded width (ms / 1000)) ++
        46 :: (latin1 digits ++ 58 :: 32 :: line) := by
    rw [utf8_eq_latin1 fun c hc => (isAscii_ofMilliseconds width ms c hc).1, heq]
    simp [latin1]
  have hthree : (latin1 digits).length = 3 := by rw [latin1, List.length_map, hlength]
  have htake : (latin1 digits ++ 58 :: 32 :: line).take 3 = latin1 digits :=
    List.take_left' hthree
  have hdrop : (latin1 digits ++ 58 :: 32 :: line).drop 5 = line := by
    rw [List.drop_append, hthree, List.drop_of_length_le (by omega)]
    rfl
  rw [hbytes, readStamped, takeWhile_places hplaces, List.drop_append,
    List.drop_of_length_le (by omega)]
  simp only [Nat.add_sub_cancel_left, List.nil_append, List.drop_succ_cons, List.drop_zero]
  rw [htake, hdrop, hread hplaces, hread fun c hc => .inr (.inr (hdigits.2 c hc)),
    dropWhile_spacePadded, readInt_ofInt, hvalue, Int.mul_ediv_add_emod]

/-- Stamps in seconds that can be written are those of the milliseconds that they show. -/
theorem exists_counts {sinceStart : Bool} {start : Binary64} {zone : Calendar.Zone}
    {readings : List Binary64} {stamps : List (List UInt8)}
    (h : readings.map (Display.stampFor none sinceStart start zone).bytes = stamps.map .ok) :
    ∃ counts : List Int, readings.map (count sinceStart start) = counts.map .ok ∧
      stamps = counts.map fun ms => utf8 (ofMilliseconds (secondsWidth sinceStart) ms) := by
  induction readings generalizing stamps with
  | nil => exact ⟨[], rfl, List.map_eq_nil_iff.mp h.symm⟩
  | cons now later ih =>
    obtain ⟨stamp, rest, rfl, hstamp, hrest⟩ := List.map_eq_cons_iff.mp h.symm
    obtain ⟨counts, hcounts, rfl⟩ := ih hrest.symm
    rw [bytes, text_stampFor] at hstamp
    cases hcount : count sinceStart start now with
    | error cause =>
      rw [hcount] at hstamp
      cases hstamp
    | ok ms =>
      rw [hcount] at hstamp
      obtain rfl := Except.ok.inj hstamp
      exact ⟨ms :: counts, by rw [List.map_cons, hcount, hcounts]; rfl, rfl⟩

end Seconds

end LineStamp

/-- The mode of a view with stamps tells whether a line begins. -/
theorem View.mode_dated_eq_startDate {atLineStart : Bool} :
    (View.dated atLineStart).mode = .startDate ↔ atLineStart := by
  cases atLineStart <;> decide

namespace Viewer

open Act

/-- The clock is read first. Then the stamp is written, if there is one for the reading. -/
theorem run_writeStamp (v : Viewer) :
    writeStamp.run v =
      (Act.ofExcept ((v.display.stamp.bytes v.clock.reading).mapError Failure.stamp)
        >>= write).run { v with clock := v.clock.advance } := by
  have hnow : (Act.on clock (fun clock v => { v with clock := clock }) Clock.now).run v =
      ⟨.ok v.clock.reading, { v with clock := v.clock.advance }, []⟩ := rfl
  have hlook : (gets fun v : Viewer => v.display.stamp).run { v with clock := v.clock.advance } =
      ⟨.ok v.display.stamp, { v with clock := v.clock.advance }, []⟩ := rfl
  rw [writeStamp, run_bind_of_ok _ hnow, run_bind_of_ok _ hlook, LineStamp.bytes]
  cases v.display.stamp.text v.clock.reading <;> rfl

end Viewer

end SerialTerminal
