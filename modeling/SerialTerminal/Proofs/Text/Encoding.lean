import SerialTerminal.Proofs.HexDump

/-!
# Text in UTF-8

The bytes of a text are those of its characters one after another. The characters of ASCII have one
byte each, which is their code.
-/

namespace SerialTerminal.Text

/-- The bytes of a text in UTF-8. -/
def utf8 (text : List Char) : List UInt8 := (String.ofList text).toUTF8.toList

/-- Holds of the characters of ASCII. -/
def IsAscii (c : Char) : Prop := c.toNat < 128

instance : DecidablePred IsAscii := fun c => inferInstanceAs (Decidable (c.toNat < 128))

/-- They have one byte. -/
theorem IsAscii.isLatin1 {c : Char} (h : IsAscii c) : IsLatin1 c := Nat.lt_trans h (by decide)

/-- A character that a text does not have is not among its bytes. -/
theorem not_mem_latin1 {text : List Char} (h : ∀ c ∈ text, IsLatin1 c) {d : Char}
    (hd : IsLatin1 d) (hmem : d ∉ text) : UInt8.ofNat d.toNat ∉ latin1 text := by
  intro hbyte
  obtain ⟨c, hc, hcode⟩ := List.mem_map.mp hbyte
  have hnat : c.toNat = d.toNat :=
    calc c.toNat
        = (UInt8.ofNat c.toNat).toNat := (UInt8.toNat_ofNat_of_lt (h c hc)).symm
      _ = (UInt8.ofNat d.toNat).toNat := congrArg UInt8.toNat hcode
      _ = d.toNat := UInt8.toNat_ofNat_of_lt hd
  have heq : c = d := by rw [← Char.ofNat_toNat c, hnat, Char.ofNat_toNat]
  exact hmem (heq ▸ hc)

private theorem toList_loop (bytes : ByteArray) (i : Nat) (front : List UInt8) :
    ByteArray.toList.loop bytes i front = front.reverse ++ bytes.data.toList.drop i := by
  fun_induction ByteArray.toList.loop bytes i front with
  | case1 i front hi ih =>
    have hlength : i < bytes.data.toList.length := hi
    have hget : bytes.get! i = bytes.data.toList[i] := getElem!_pos bytes.data i hi
    rw [ih, List.reverse_cons, List.append_assoc, hget, List.drop_eq_getElem_cons hlength]
    rfl
  | case2 i front hi =>
    have hlength : bytes.data.toList.length ≤ i := Nat.le_of_not_lt hi
    rw [List.drop_of_length_le hlength, List.append_nil]

/-- A text is written character by character. -/
theorem utf8_eq_flatMap (text : List Char) : utf8 text = text.flatMap String.utf8EncodeChar := by
  have hdata : (String.ofList text).toUTF8.data.toList = text.flatMap String.utf8EncodeChar :=
    List.toList_data_toByteArray
  rw [utf8, ByteArray.toList, toList_loop, hdata]
  rfl

/-- Texts are written one after another. -/
theorem utf8_append (front behind : List Char) :
    utf8 (front ++ behind) = utf8 front ++ utf8 behind := by
  rw [utf8_eq_flatMap, utf8_eq_flatMap, utf8_eq_flatMap, List.flatMap_append]

private theorem utf8EncodeChar_eq {c : Char} (h : IsAscii c) :
    String.utf8EncodeChar c = [UInt8.ofNat c.toNat] :=
  if_pos (Nat.le_of_lt_succ h)

/-- A text of ASCII has one byte for each character. -/
theorem utf8_eq_latin1 {text : List Char} (h : ∀ c ∈ text, IsAscii c) :
    utf8 text = latin1 text := by
  rw [utf8_eq_flatMap]
  induction text with
  | nil => rfl
  | cons c rest ih =>
    obtain ⟨hc, hrest⟩ := List.forall_mem_cons.mp h
    rw [List.flatMap_cons, utf8EncodeChar_eq hc, ih hrest]
    rfl

end SerialTerminal.Text
