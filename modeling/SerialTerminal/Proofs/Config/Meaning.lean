import SerialTerminal.Proofs.Config.FileLines
import SerialTerminal.Proofs.Config.LineShape
import SerialTerminal.Proofs.Text.ExactNumerals

/-!
# What texts mean in a configuration file

A text that a file gives for a boolean or a number denotes a value, or nothing (`Denotes`). One
would have a field keep what the text denotes, and refuse every other text (`Honest`). That fails
for three kinds of texts (`Misread`): words that are not known, which are taken for true unless they
are empty; numbers that are no whole ones or have too many bits, of which the integer part of a
number nearby is kept; and infinite numbers. There are no others (`honest_iff`).
-/

namespace SerialTerminal.Config

namespace File

/-- The fields whose values are read as words for booleans. -/
def booleanFields : List Field := [.startTime, .debug]

/-- Holds of the value that a text denotes for a field: the boolean that it is a word for, or the
integer that it comes to as a numeral. A text that is no numeral may still be an integer in the
lenient reading. -/
def Denotes (field : Field) (text : List Char) : Value → Prop
  | .bool b => field ∈ booleanFields ∧ Value.boolOfWord? (String.ofList text) = some b
  | .int n => field ∈ numberFields ∧
    match Text.exactValue? text with
    | some q => q = n
    | none => Text.readLenientInteger text = .ok n
  | _ => False

/-- The words for booleans that are taken for what they denote, in small letters. -/
def plainWords : List String :=
  ["1", "on", "t", "true", "y", "yes", "0", "off", "false", "no"]

/-- Holds of the texts that a field takes for something that they do not denote, and of what comes
of them. -/
inductive Misread (field : Field) (text : List Char) : Except Failure Value → Prop where
  /-- Any other word is taken for true, unless it is empty. -/
  | word (hfield : field ∈ booleanFields)
      (hword : String.ofList (Text.lower text) ∉ plainWords) :
    Misread field text (.ok (.bool !text.isEmpty))
  /-- A numeral is taken for the integer part of the number nearest to it. -/
  | number (hfield : field ∈ numberFields) {q : ℚ} {x : Binary64} {n : Int}
      (hvalue : Text.exactValue? text = some q) (hread : Text.readFloat? text = some x)
      (hwhole : x.truncate = .ok n) (hne : q ≠ n) (haccepts : field.Accepts (.int n)) :
    Misread field text (.ok (.int n))
  /-- What is read as an infinite number has no integer part. -/
  | infinite (hfield : field ∈ numberFields) {negative : Bool}
      (hread : Text.readFloat? text = some (.infinite negative)) :
    Misread field text (.error (.number .infinite))

/-- Holds of a field that takes a text on a line for what it denotes. -/
structure Honest (field : Field) (line text : List Char) : Prop where
  /-- What comes about keeps the value that is denoted, if no later line is for the field. -/
  kept : ∀ earlier later cfg, (∀ other ∈ later, ¬ Assigns field other) →
    configOfLines (earlier ++ line :: later) = .ok cfg → Denotes field text (cfg.get field)
  /-- The line is refused as a fault of the field, for want of a value that it accepts. -/
  refused : ∀ e, configOfLines [line] = .error e →
    (∃ fault, e = .misconfigured (.faults [(field, fault)])) ∧
      ∀ v, Denotes field text v → ¬ field.Accepts v

section Words

variable {text : List Char}

/-- Ten words are taken for what they denote. -/
theorem boolOfWord?_of_mem (h : String.ofList (Text.lower text) ∈ plainWords) :
    Value.boolOfWord? (String.ofList text) = some (boolOfText text) := by
  have hne : text.isEmpty = false := by
    cases text with
    | nil => exact absurd h (by decide)
    | cons c rest => rfl
  have hall : ∀ word ∈ plainWords,
      (if word ∈ Value.trueWords then some true
        else if word ∈ Value.falseWords then some false else none) =
      some (if word ∈ ["1", "true", "yes", "on"] then true
        else if word ∈ ["0", "false", "no", "off"] then false else true) := by decide
  simp only [Value.boolOfWord?, boolOfText, String.toList_ofList, hne]
  exact hall _ h

/-- Other words are taken for true. -/
theorem boolOfText_of_not_mem (h : String.ofList (Text.lower text) ∉ plainWords) :
    boolOfText text = !text.isEmpty := by
  have htrue : ∀ word ∈ ["1", "true", "yes", "on"], word ∈ plainWords := by decide
  have hfalse : ∀ word ∈ ["0", "false", "no", "off"], word ∈ plainWords := by decide
  simp only [boolOfText, if_neg (mt (htrue _) h), if_neg (mt (hfalse _) h)]

/-- They do not denote that. -/
theorem boolOfWord?_ne_of_not_mem (h : String.ofList (Text.lower text) ∉ plainWords) :
    Value.boolOfWord? (String.ofList text) ≠ some (!text.isEmpty) := by
  cases text with
  | nil => decide
  | cons c rest =>
    have htrue : ∀ word ∈ Value.trueWords, word ∈ plainWords := by decide
    simp only [Value.boolOfWord?, String.toList_ofList, if_neg (mt (htrue _) h)]
    split <;> simp

end Words

section Numbers

variable {field : Field} {text : List Char} {v w : Value} {n m : Int}

/-- Holds of the integers that may be kept for a field. -/
def Allows : Field → Int → Prop
  | .baudrate, n => n ∈ supportedBaudrates
  | .delayUs, n => 0 ≤ n
  | _, _ => False

/-- Of what a value says a field of integers reads no more than the integer. -/
private theorem read_eq_ok_iff (hfield : field ∈ numberFields) :
    field.read v = .ok w ↔ ∃ n, v.readInt = .ok n ∧ Allows field n ∧ w = .int n := by
  rcases List.mem_pair.mp hfield with rfl | rfl
  · rw [Field.read, Value.readBaudrate]
    cases v.readInt with
    | error fault => simp [Except.map, bind, Except.bind]
    | ok n =>
      by_cases hn : n ∈ supportedBaudrates <;>
        simp [Except.map, bind, Except.bind, Allows, hn, eq_comm]
  · rw [Field.read, Value.readDelay]
    cases v.readInt with
    | error fault => simp [Except.map, bind, Except.bind]
    | ok n =>
      by_cases hn : 0 ≤ n <;> simp [Except.map, bind, Except.bind, Allows, hn, eq_comm]

private theorem accepts_int_iff (hfield : field ∈ numberFields) :
    field.Accepts (.int n) ↔ Allows field n := by
  constructor
  · rintro ⟨w, hw⟩
    obtain ⟨_, hn, hallows, _⟩ := (read_eq_ok_iff hfield).mp hw
    obtain rfl := Except.ok.inj hn
    exact hallows
  · exact fun h => ⟨_, (read_eq_ok_iff hfield).mpr ⟨n, rfl, h, rfl⟩⟩

/-- A text that is left as it stands is read leniently. -/
private theorem readInt_text_eq_ok_iff :
    (Value.text (String.ofList text)).readInt = .ok n ↔ Text.readLenientInteger text = .ok n := by
  rw [Value.readInt, String.toList_ofList]
  cases Text.readLenientInteger text with
  | ok k => simp
  | error fault => cases fault <;> simp

/-- Where the value of a numeral is allowed, so is what the numeral is taken for. -/
private theorem allows_of_exactValue? (hvalue : Text.exactValue? text = some (m : ℚ))
    (hm : Allows field m) {x : Binary64} (hread : Text.readFloat? text = some x)
    (hn : x.truncate = .ok n) : Allows field n := by
  cases field with
  | baudrate =>
    have hsmall : ∀ speed ∈ supportedBaudrates, speed.natAbs ≤ twoPow 53 := by decide
    obtain ⟨y, hy, hwhole⟩ := Text.truncate_of_exactValue? hvalue (hsmall m hm)
    obtain rfl : x = y := Option.some.inj (hread.symm.trans hy)
    obtain rfl : n = m := Except.ok.inj (hn.symm.trans hwhole)
    exact hm
  | delayUs =>
    have hm' : (0 : ℚ) ≤ m := by exact_mod_cast hm
    exact Text.nonneg_of_exactValue? hvalue hm' hread hn
  | _ => exact hm.elim

end Numbers

section Values

variable {field : Field} {text : List Char} {v w : Value}

/-- What a field of integers takes a text for, if it is not misread. -/
private theorem numberOfText_of_exactValue? {q : ℚ} (hvalue : Text.exactValue? text = some q)
    (hv : numberOfText text = .ok v) :
    ∃ x n, Text.readFloat? text = some x ∧ x.truncate = .ok n ∧ v = .int n := by
  obtain ⟨x, hx, ⟨n, hn⟩ | ⟨negative, rfl⟩⟩ := Text.exists_of_exactValue? hvalue
  · refine ⟨x, n, hx, hn, ?_⟩
    simp only [numberOfText, hx, hn] at hv
    exact (Except.ok.inj hv).symm
  · simp only [numberOfText, hx, Binary64.truncate] at hv
    cases hv

private theorem numberOfText_of_none (hvalue : Text.exactValue? text = none)
    (hv : numberOfText text = .ok v) : v = .text (String.ofList text) := by
  rcases Text.of_exactValue?_eq_none hvalue with hx | hx | ⟨negative, hx⟩
  all_goals
    simp only [numberOfText, hx, Binary64.truncate] at hv
    cases hv
  · rfl
  · rfl

private theorem valueOfText_boolean (hfield : field ∈ booleanFields) :
    valueOfText field text = .ok (.bool (boolOfText text)) := by
  rcases List.mem_pair.mp hfield with rfl | rfl <;> rfl

private theorem read_boolean (hfield : field ∈ booleanFields) (b : Bool) :
    field.read (.bool b) = .ok (.bool b) := by
  rcases List.mem_pair.mp hfield with rfl | rfl <;> rfl

private theorem valueOfText_number (hfield : field ∈ numberFields) :
    valueOfText field text = numberOfText text := by
  rcases List.mem_pair.mp hfield with rfl | rfl <;> rfl

/-- What is read of a text is what it denotes, unless it is misread. -/
theorem denotes_of_read (hfield : field ∈ booleanFields ∨ field ∈ numberFields)
    (hmisread : ∀ r, ¬ Misread field text r) (hv : valueOfText field text = .ok v)
    (hw : field.read v = .ok w) : Denotes field text w := by
  rcases hfield with hfield | hfield
  · rw [valueOfText_boolean hfield] at hv
    obtain rfl := Except.ok.inj hv
    rw [read_boolean hfield] at hw
    obtain rfl := Except.ok.inj hw
    by_cases hword : String.ofList (Text.lower text) ∈ plainWords
    · exact ⟨hfield, boolOfWord?_of_mem hword⟩
    · exact absurd (.word hfield hword) (hmisread _)
  · rw [valueOfText_number hfield] at hv
    obtain ⟨n, hn, hallows, rfl⟩ := (read_eq_ok_iff hfield).mp hw
    refine ⟨hfield, ?_⟩
    cases hvalue : Text.exactValue? text with
    | none =>
      obtain rfl := numberOfText_of_none hvalue hv
      exact readInt_text_eq_ok_iff.mp hn
    | some q =>
      obtain ⟨x, m, hx, hm, rfl⟩ := numberOfText_of_exactValue? hvalue hv
      obtain rfl : m = n := Except.ok.inj hn
      by_contra hne
      have haccepts := (accepts_int_iff hfield).mpr hallows
      exact hmisread _ (.number hfield hvalue hx hm hne haccepts)

/-- A text whose value is not accepted denotes none that is. -/
theorem not_accepts_of_denotes (hv : valueOfText field text = .ok v) (hread : ¬ field.Accepts v)
    (hw : Denotes field text w) : ¬ field.Accepts w := by
  intro haccepts
  cases w with
  | bool b =>
    rw [valueOfText_boolean hw.1] at hv
    obtain rfl := Except.ok.inj hv
    exact hread ⟨_, read_boolean hw.1 _⟩
  | int n =>
    obtain ⟨hfield, hn⟩ := hw
    rw [valueOfText_number hfield] at hv
    have hallows := (accepts_int_iff hfield).mp haccepts
    apply hread
    cases hvalue : Text.exactValue? text with
    | none =>
      rw [hvalue] at hn
      obtain rfl := numberOfText_of_none hvalue hv
      exact ⟨_, (read_eq_ok_iff hfield).mpr ⟨n, readInt_text_eq_ok_iff.mpr hn, hallows, rfl⟩⟩
    | some q =>
      rw [hvalue] at hn
      obtain rfl : q = n := hn
      obtain ⟨x, m, hx, hm, rfl⟩ := numberOfText_of_exactValue? hvalue hv
      exact (accepts_int_iff hfield).mpr (allows_of_exactValue? hvalue hallows hx hm)
  | null | float x | text s | composite => exact hw

end Values

end File

section Lines

open File

variable {field : Field} {line key value : List Char} {v : Value}

/-- A value that is not accepted is the only fault of a line that stands alone. -/
private theorem faultsIn_overlay {source : Field → Option Value} {base : Config}
    (hbase : base.Valid) {fault : Fault} (hv : source field = some v)
    (hread : field.read v = .error fault) (hothers : ∀ other, other ≠ field → source other = none) :
    faultsIn (overlay source base.get) = [(field, fault)] := by
  have hother (other : Field) : faultOf other (other.read (overlay source base.get other)) =
      if other = field then [(field, fault)] else [] := by
    split
    · next h =>
      subst h
      rw [overlay_of_eq_some hv, hread]
      rfl
    · next h =>
      rw [overlay_of_eq_none (hothers other h), valid_iff.mp hbase other]
      rfl
  rw [faultsIn, funext hother]
  cases field <;> rfl

/-- What comes of a line that stands alone. -/
theorem configOfLines_singleton (hline : Gives line key value) (hkey : Names field key)
    (hv : valueOfText field (textFor field value) = .ok v) :
    (∀ w, field.read v = .ok w → (configOfLines [line]).map (·.get field) = .ok w) ∧
      ∀ fault, field.read v = .error fault →
        configOfLines [line] = .error (.misconfigured (.faults [(field, fault)])) := by
  have hread : readLine line = .ok (some (field, v)) := by
    rw [readLine_of_gives hline hkey, hv]
    rfl
  have hlines : readLines [line] = .ok (Layer.empty.set field v) := by
    rw [readLines, readLinesOnto, hread]
    rfl
  have hself : (Layer.empty.set field v).get? field = some v := Layer.get?_set_self _ field v
  have hothers : ∀ other, other ≠ field → (Layer.empty.set field v).get? other = none :=
    fun other hne => Layer.get?_set_of_ne _ (Ne.symm hne) v
  rw [configOfLines_of_readLines hlines]
  constructor
  · intro w hw
    have haccepts : ∀ (other : Field) (u : Value),
        (Layer.empty.set field v).get? other = some u → other.Accepts u := by
      intro other u hu
      by_cases h : other = field
      · subst h
        obtain rfl : v = u := Option.some.inj (hself.symm.trans hu)
        exact ⟨w, hw⟩
      · rw [hothers other h] at hu
        cases hu
    obtain ⟨cfg, hcfg⟩ := (exists_build_iff valid_default).mpr haccepts
    have hkept := build_eq_ok_iff.mp hcfg field
    rw [overlay_of_eq_some hself, hw] at hkept
    rw [hcfg, Except.ok.inj hkept]
    rfl
  · intro fault hfault
    have hbuild : build (Layer.empty.set field v) {} = .error [(field, fault)] :=
      build_eq_error_iff.mpr
        ⟨(faultsIn_overlay valid_default hself hfault hothers).symm, List.cons_ne_nil _ _⟩
    rw [hbuild]
    rfl

/-- What comes of a text that is misread. -/
theorem map_get_of_misread (hline : Gives line key value) (hkey : Names field key)
    {r : Except Failure Value} (h : Misread field (textFor field value) r) :
    (configOfLines [line]).map (·.get field) = r := by
  cases h with
  | word hfield hword =>
    refine (configOfLines_singleton hline hkey (valueOfText_boolean hfield)).1 _ ?_
    rw [read_boolean hfield, boolOfText_of_not_mem hword]
  | @number hfield q x n hvalue hread hwhole hne haccepts =>
    have hv : valueOfText field (textFor field value) = .ok (.int n) := by
      simp only [valueOfText_number hfield, numberOfText, hread, hwhole]
    obtain ⟨w, hw⟩ := haccepts
    obtain ⟨m, hm, _, rfl⟩ := (read_eq_ok_iff hfield).mp hw
    obtain rfl : n = m := Except.ok.inj hm
    exact (configOfLines_singleton hline hkey hv).1 _ hw
  | infinite hfield hread =>
    have hsupplies : SuppliesInfinity line :=
      ⟨key, value, field, _, splitLine?_eq_some_iff.mpr hline, fieldOfKey?_eq_some_iff.mpr hkey,
        hfield, hread⟩
    have herror := configOfLines_eq_error_iff.mpr (.inl ⟨rfl, line, List.mem_singleton_self line,
      hsupplies⟩)
    rw [herror]
    rfl

/-- A field that takes a text for nothing but what it denotes has not misread it. -/
private theorem not_misread_of_honest (hline : Gives line key value) (hkey : Names field key)
    (h : Honest field line (textFor field value)) (r : Except Failure Value) :
    ¬ Misread field (textFor field value) r := by
  intro hmisread
  have hresult := map_get_of_misread hline hkey hmisread
  have hnone : ∀ other ∈ ([] : List (List Char)), ¬ Assigns field other :=
    fun _ hmem => absurd hmem List.not_mem_nil
  cases hmisread with
  | word hfield hword =>
    obtain ⟨cfg, hcfg, hget⟩ := exists_ok_of_map hresult
    have hdenotes := h.kept [] [] cfg hnone hcfg
    rw [hget] at hdenotes
    exact boolOfWord?_ne_of_not_mem hword hdenotes.2
  | number hfield hvalue hread hwhole hne haccepts =>
    obtain ⟨cfg, hcfg, hget⟩ := exists_ok_of_map hresult
    have hdenotes := h.kept [] [] cfg hnone hcfg
    rw [hget] at hdenotes
    have hq := hdenotes.2
    rw [hvalue] at hq
    exact hne hq
  | infinite hfield hread =>
    obtain ⟨⟨fault, he⟩, _⟩ := h.refused _ (map_eq_error_iff.mp hresult)
    cases he

/-- A text that is not misread is taken for nothing but what it denotes. -/
private theorem honest_of_not_misread (hfield : field ∈ booleanFields ∨ field ∈ numberFields)
    (hline : Gives line key value) (hkey : Names field key)
    (hmisread : ∀ r, ¬ Misread field (textFor field value) r) :
    Honest field line (textFor field value) := by
  have hread := readLine_of_gives hline hkey
  cases hv : valueOfText field (textFor field value) with
  | error e =>
    obtain ⟨hnumber, he⟩ := valueOfText_eq_error_iff.mp hv
    obtain ⟨_, negative, hx⟩ := numberOfText_eq_error_iff.mp he
    exact absurd (.infinite hnumber hx) (hmisread _)
  | ok v =>
    rw [hv] at hread
    constructor
    · intro earlier later cfg hlater hcfg
      cases hlines : readLines (earlier ++ line :: later) with
      | error e =>
        rw [configOfLines, hlines] at hcfg
        cases hcfg
      | ok layer =>
        rw [configOfLines_of_readLines hlines, mapError_eq_ok_iff] at hcfg
        have hkept := build_eq_ok_iff.mp hcfg field
        rw [overlay_of_eq_some (get?_readLines_of_last hlines hread hlater)] at hkept
        exact denotes_of_read hfield hmisread hv hkept
    · intro e he
      cases hw : field.read v with
      | ok w =>
        have hresult := (configOfLines_singleton hline hkey hv).1 w hw
        rw [he] at hresult
        cases hresult
      | error fault =>
        have hresult := (configOfLines_singleton hline hkey hv).2 fault hw
        refine ⟨⟨fault, Except.error.inj (he.symm.trans hresult)⟩, fun u hu => ?_⟩
        refine not_accepts_of_denotes hv ?_ hu
        rintro ⟨w, hw'⟩
        rw [hw] at hw'
        cases hw'

/-- Whole numbers of at most 53 bits are not misread, however they are written. -/
private theorem not_misread_whole (hfield : field ∈ numberFields) {text : List Char} {n : Int}
    (hn : n.natAbs ≤ twoPow 53) (hvalue : Text.exactValue? text = some (n : ℚ))
    (r : Except Failure Value) : ¬ Misread field text r := by
  obtain ⟨x, hx, hwhole⟩ := Text.truncate_of_exactValue? hvalue hn
  intro h
  cases h with
  | word hboolean _ =>
    have hapart : ∀ other ∈ numberFields, other ∉ booleanFields := by decide
    exact absurd hboolean (hapart field hfield)
  | number _ hvalue' hread hwhole' hne _ =>
    obtain rfl := Option.some.inj (hx.symm.trans hread)
    obtain rfl := Except.ok.inj (hwhole.symm.trans hwhole')
    exact hne (Option.some.inj (hvalue'.symm.trans hvalue))
  | infinite _ hread =>
    obtain rfl := Option.some.inj (hx.symm.trans hread)
    cases hwhole

/-- Delays with a fraction are always misread. -/
private theorem exists_misread_fraction {text : List Char} {q : ℚ}
    (hvalue : Text.exactValue? text = some q) (hq : 0 ≤ q) (hden : q.den ≠ 1) :
    ∃ r, Misread .delayUs text r := by
  obtain ⟨x, hx, ⟨n, hn⟩ | ⟨negative, rfl⟩⟩ := Text.exists_of_exactValue? hvalue
  · have hnumber : Field.delayUs ∈ numberFields := by decide
    have haccepts : Field.delayUs.Accepts (.int n) :=
      (accepts_int_iff hnumber).mpr (Text.nonneg_of_exactValue? hvalue hq hx hn)
    refine ⟨_, .number hnumber hvalue hx hn ?_ haccepts⟩
    rintro rfl
    exact hden (Rat.den_intCast n)
  · exact ⟨_, .infinite (by decide) hx⟩

/-- A field takes the text of a line for what it denotes, and refuses it otherwise, just if it does
not misread it. What comes of a misread text is known. Whole numbers of at most 53 bits are never
misread, delays with a fraction always are. -/
theorem honest_iff (hfield : field ∈ booleanFields ∨ field ∈ numberFields)
    (hline : Gives line key value) (hkey : Names field key) :
    let text := textFor field value
    (Honest field line text ↔ ∀ r, ¬ Misread field text r) ∧
      (∀ r, Misread field text r → (configOfLines [line]).map (·.get field) = r) ∧
      (∀ n : Int, field ∈ numberFields → n.natAbs ≤ twoPow 53 →
        Text.exactValue? text = some (n : ℚ) → ∀ r, ¬ Misread field text r) ∧
      ∀ q, field = .delayUs → Text.exactValue? text = some q → 0 ≤ q → q.den ≠ 1 →
        ∃ r, Misread field text r := by
  intro text
  refine ⟨⟨not_misread_of_honest hline hkey, honest_of_not_misread hfield hline hkey⟩,
    fun r => map_get_of_misread hline hkey, fun n hnumber hn hvalue => ?_, ?_⟩
  · exact not_misread_whole hnumber hn hvalue
  · rintro q rfl hvalue hq hden
    exact exists_misread_fraction hvalue hq hden

/-- The same digits, with and without an exponent. -/
theorem honest_iff_same_digits :
    let whole := "[delay] = 1.5e3 # slow".toList
    let part := "[DELAY]=1.5".toList
    Honest .delayUs whole "1.5e3".toList ∧ ¬ Honest .delayUs part "1.5".toList ∧
      (configOfLines [part]).map (·.get .delayUs) = .ok (.int 1) := by
  intro whole part
  have hnumber : Field.delayUs ∈ numberFields := by decide
  have hwhole : Gives whole "delay".toList "1.5e3 # slow".toList :=
    splitLine?_eq_some_iff.mp (by decide)
  have hpart : Gives part "DELAY".toList "1.5".toList := splitLine?_eq_some_iff.mp (by decide)
  have hvalue : Text.exactValue? "1.5e3".toList = some (1500 : Int) :=
    Text.exactValue?_eq_some_iff.mpr ⟨false, 15, 2, by decide, by norm_num⟩
  have hvalue' : Text.exactValue? "1.5".toList = some (3 / 2) :=
    Text.exactValue?_eq_some_iff.mpr ⟨false, 15, -1, by decide, by norm_num⟩
  have hmisread : Misread .delayUs "1.5".toList (.ok (.int 1)) :=
    .number hnumber hvalue' rfl rfl (by norm_num) ⟨_, rfl⟩
  obtain ⟨hhonest, _, hkept, _⟩ := honest_iff (.inr hnumber) hwhole (by decide : Names .delayUs _)
  obtain ⟨hhonest', hresult, _⟩ := honest_iff (.inr hnumber) hpart (by decide : Names .delayUs _)
  refine ⟨hhonest.mpr (hkept 1500 hnumber (by decide) hvalue), fun h => ?_, ?_⟩
  · exact hhonest'.mp h _ hmisread
  · exact hresult _ hmisread

/-- A word for false turns a switch on. -/
theorem debug_on_for_word_for_false :
    Value.boolOfWord? "f" = some false ∧
      ∃ cfg, configOfLines ["[debug] = f".toList] = .ok cfg ∧ cfg.debug = true :=
  ⟨by decide, _, rfl, rfl⟩

end Lines

end SerialTerminal.Config
