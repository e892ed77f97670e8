import SerialTerminal.Proofs.Config.FileLines
import SerialTerminal.Proofs.Config.LineShape
import SerialTerminal.Proofs.ExactRounding

/-!
# Written configurations

A configuration can be written to a file and read back. `Writes` says how one field may be written
on a line: with any of its words, in any case, with blanks wherever they may stand and a comment
behind. `Written` says which lines write a whole configuration. The lines of the fields come in any
order, other lines may stand between them, and a field may be given other values before its own.

What is read of a written line is the value of the field (`readLine_of_writes`), so the lines lead
back to the configuration (`configOfLines_of_written`). A configuration must keep values that a line
can hold (`Writable`): a time format may hold the marks of a comment, other text may not.
-/

namespace SerialTerminal.Config

open File (Bare)

/-- Holds of the configurations that the lines of a file can hold. -/
structure Writable (cfg : Config) : Prop where
  valid : cfg.Valid
  delayUs_le : cfg.delayUs ≤ twoPow 53
  device : Bare cfg.device.toList
  logDir : Bare cfg.logDir.toList
  timeFormat : ∀ format, cfg.timeFormat = some format →
    format.toList ≠ [] ∧ Text.Trimmed Text.isBlank format.toList ∧ '\n' ∉ format.toList

namespace File

open Text (Blank isBlank)

/-- Holds of the texts that may stand for a value that a configuration keeps. -/
def Spells : Value → List Char → Prop
  | .null, text => text = []
  | .bool true, text => String.ofList (Text.lower text) ∈ ["1", "true", "yes", "on"]
  | .bool false, text => String.ofList (Text.lower text) ∈ ["0", "false", "no", "off"]
  | .int n, text => Text.IsDigits text ∧ Text.natOfDigits text = n
  | .text s, text => text = s.toList
  | .float _, _ | .composite, _ => False

instance (v : Value) (text : List Char) : Decidable (Spells v text) := by
  unfold Spells
  split <;> infer_instance

/-- Holds of the lines on which a field of a configuration may be written. -/
def Writes (cfg : Config) (field : Field) (line : List Char) : Prop :=
  ∃ lead key gap front text behind,
    Blank lead ∧ Names field key ∧ Blank gap ∧ Blank front ∧ Spells (cfg.get field) text ∧
      (Blank behind ∨ field ≠ .timeFormat ∧ Remark behind ∧ '\n' ∉ behind) ∧
      line = lead ++ '[' :: (key ++ ']' :: (gap ++ '=' :: (front ++ (text ++ behind))))

/-- Holds of the lines on which a configuration is written: each field on one of them, which no
later line for the field follows. On all others there is no infinite number for a field of
integers. -/
structure Written (cfg : Config) (lines : List (List Char)) : Prop where
  last : ∀ field, ∃ earlier line later, lines = earlier ++ line :: later ∧
    Writes cfg field line ∧ ∀ other ∈ later, ¬ Assigns field other
  readable : ∀ line ∈ lines, SuppliesInfinity line → ∃ field, Writes cfg field line

instance (line : List Char) : Decidable (SuppliesInfinity line) :=
  decidable_of_iff (readLine line = .error .infinite) (by simp [readLine_eq_error_iff])

section Values

variable {cfg : Config} {field : Field} {text : List Char}

private theorem isOrdinary_of_isDigits (h : Text.IsDigits text) :
    ∀ c ∈ text, Text.isOrdinary c := by
  intro c hc
  obtain ⟨hlow, hhigh⟩ := Text.isAsciiDigit_iff.mp (h.2 c hc)
  exact Text.isOrdinary_of_toNat hlow (by omega)

private theorem isOrdinary_of_spells_bool {b : Bool} (h : Spells (.bool b) text) :
    ∀ c ∈ text, Text.isOrdinary c := by
  cases b with
  | true => exact Text.isOrdinary_of_mem_words (by decide) h
  | false => exact Text.isOrdinary_of_mem_words (by decide) h

/-- What stands for a value of a field other than the time format can be held by a line. -/
theorem bare_of_spells (hcfg : cfg.Writable) (hfield : field ≠ .timeFormat)
    (h : Spells (cfg.get field) text) : Bare text := by
  cases field with
  | timeFormat => exact absurd rfl hfield
  | device =>
    obtain rfl : text = cfg.device.toList := h
    exact hcfg.device
  | logDir =>
    obtain rfl : text = cfg.logDir.toList := h
    exact hcfg.logDir
  | mode =>
    obtain rfl : text = cfg.mode.name.toList := h
    apply bare_of_isOrdinary
    apply List.all_eq_true.mp
    cases cfg.mode <;> decide
  | baudrate => exact bare_of_isOrdinary (isOrdinary_of_isDigits h.1)
  | delayUs => exact bare_of_isOrdinary (isOrdinary_of_isDigits h.1)
  | startTime => exact bare_of_isOrdinary (isOrdinary_of_spells_bool h)
  | debug => exact bare_of_isOrdinary (isOrdinary_of_spells_bool h)

/-- What stands for a value has no blanks at its ends, and no line feed. -/
theorem trimmed_of_spells (hcfg : cfg.Writable) (h : Spells (cfg.get field) text) :
    Text.Trimmed isBlank text ∧ '\n' ∉ text := by
  by_cases hfield : field = .timeFormat
  · subst hfield
    cases hformat : cfg.timeFormat with
    | none =>
      rw [get, hformat] at h
      obtain rfl : text = [] := h
      exact ⟨Text.trimmed_of_isOrdinary (by simp), by simp⟩
    | some format =>
      rw [get, hformat] at h
      obtain rfl : text = format.toList := h
      exact (hcfg.timeFormat format hformat).2
  · have hbare := bare_of_spells hcfg hfield h
    exact ⟨hbare.trimmed, hbare.no_feed⟩

/-- A word is read as the boolean that it stands for. -/
theorem boolOfText_of_spells {b : Bool} (h : Spells (.bool b) text) : boolOfText text = b := by
  rw [boolOfText]
  cases b with
  | true => exact if_pos h
  | false =>
    have hword : String.ofList (Text.lower text) ∈ ["0", "false", "no", "off"] := h
    have hapart : ∀ word ∈ ["0", "false", "no", "off"], word ∉ ["1", "true", "yes", "on"] := by
      decide
    simp only [if_neg (hapart _ hword), if_pos hword]

/-- Digits are read as the number that they stand for, if it has at most 53 bits. -/
theorem numberOfText_of_spells {n : Int} (h : Spells (.int n) text) (hn : n ≤ twoPow 53) :
    numberOfText text = .ok (.int n) := by
  obtain ⟨hdigits, hvalue⟩ := h
  have hle : Text.natOfDigits text ≤ twoPow 53 := by omega
  have hwhole := Binary64.truncate_ofDecimal hle
    (by simp : (Text.natOfDigits text * 10 ^ (0 : Int) : ℚ) = Text.natOfDigits text) false
  rw [numberOfText, Text.readFloat?_of_isDigits hdigits]
  simp only [hwhole, Binary64.signed, Bool.false_eq_true, if_false, hvalue]

/-- What stands for the value of a field is read as the value. -/
theorem valueOfText_of_spells (hcfg : cfg.Writable) (h : Spells (cfg.get field) text) :
    valueOfText field text = .ok (cfg.get field) := by
  cases field with
  | device | mode | logDir =>
    rw [valueOfText, show text = _ from h, String.ofList_toList]
    rfl
  | startTime | debug =>
    rw [valueOfText, boolOfText_of_spells h]
    rfl
  | baudrate =>
    refine numberOfText_of_spells h ?_
    have hspeed : ∀ n ∈ supportedBaudrates, n ≤ twoPow 53 := by decide
    exact hspeed _ hcfg.valid.1
  | delayUs => exact numberOfText_of_spells h hcfg.delayUs_le
  | timeFormat =>
    cases hformat : cfg.timeFormat with
    | none =>
      rw [get, hformat] at h ⊢
      obtain rfl : text = [] := h
      rfl
    | some format =>
      rw [get, hformat] at h ⊢
      obtain rfl : text = format.toList := h
      have hne := (hcfg.timeFormat format hformat).1
      rw [valueOfText, if_neg (by simpa using hne), String.ofList_toList]
      rfl

end Values

section Lines

variable {cfg : Config} {field : Field} {line : List Char} {lines : List (List Char)}

private theorem textFor_strip (hcfg : cfg.Writable) {front text behind : List Char}
    (hfront : Blank front) (h : Spells (cfg.get field) text)
    (hbehind : Blank behind ∨ field ≠ .timeFormat ∧ Remark behind ∧ '\n' ∉ behind) :
    textFor field (Text.strip (front ++ (text ++ behind))) = text := by
  rw [textFor]
  split
  · next hfield =>
    have hblank : Blank behind := hbehind.resolve_right fun hr => hr.1 hfield
    have htrimmed := (trimmed_of_spells hcfg h).1
    rw [Text.strip, Text.strip, Text.trim_padded hfront hblank, htrimmed.trim_eq, htrimmed.trim_eq]
  · next hfield =>
    have hbare := bare_of_spells hcfg hfield h
    rw [withoutComment_strip]
    rcases hbehind with hblank | ⟨_, hremark, _⟩
    · exact withoutComment_of_blank hbare hfront hblank
    · exact withoutComment_of_remark hbare hfront hremark

private theorem not_mem_strip (hcfg : cfg.Writable) {front text behind : List Char}
    (hfront : Blank front) (h : Spells (cfg.get field) text)
    (hbehind : Blank behind ∨ field ≠ .timeFormat ∧ Remark behind ∧ '\n' ∉ behind) :
    '\n' ∉ Text.strip (front ++ (text ++ behind)) := by
  obtain ⟨htrimmed, hfeed⟩ := trimmed_of_spells hcfg h
  rcases hbehind with hblank | ⟨_, _, hnone⟩
  · rwa [Text.strip, Text.trim_padded hfront hblank, htrimmed.trim_eq]
  · intro hmem
    rw [Text.strip, Text.trim_append hfront] at hmem
    rcases List.mem_append.mp (Text.mem_of_mem_trim hmem) with htext | hcomment
    · exact hfeed htext
    · exact hnone hcomment

/-- What is read of a line on which a field is written is the value of the field. -/
theorem readLine_of_writes (hcfg : cfg.Writable) (h : Writes cfg field line) :
    readLine line = .ok (some (field, cfg.get field)) := by
  obtain ⟨lead, key, gap, front, text, behind, hlead, hkey, hgap, hfront, htext, hbehind, rfl⟩ := h
  have hgives : Gives (lead ++ '[' :: (key ++ ']' :: (gap ++ '=' :: (front ++ (text ++ behind)))))
      key (Text.strip (front ++ (text ++ behind))) :=
    ⟨lead, gap, _, hlead, hgap, hkey.ne_nil, hkey.not_mem, not_mem_strip hcfg hfront htext hbehind,
      rfl, rfl⟩
  rw [readLine_of_gives hgives hkey, textFor_strip hcfg hfront htext hbehind,
    valueOfText_of_spells hcfg htext]
  rfl

/-- The lines on which a configuration is written can be read. -/
theorem exists_readLines_of_written (hcfg : cfg.Writable) (h : Written cfg lines) :
    ∃ layer, readLines lines = .ok layer := by
  cases hr : readLines lines with
  | ok layer => exact ⟨layer, rfl⟩
  | error cause =>
    obtain ⟨_, line, hline, hinfinite⟩ := readLines_eq_error_iff.mp hr
    obtain ⟨field, hwrites⟩ := h.readable line hline hinfinite
    have herror := readLine_eq_error_iff.mpr ⟨rfl, hinfinite⟩
    rw [readLine_of_writes hcfg hwrites] at herror
    cases herror

end Lines

section Canonical

variable {cfg : Config} {field : Field}

/-- A value as it is written where nothing else is asked for. -/
def spelling : Value → List Char
  | .bool b => if b then ['1'] else ['0']
  | .int n => Numeral.digits n.toNat
  | .text s => s.toList
  | .null | .float _ | .composite => []

/-- The line of a field without blanks or a comment. -/
def lineOf (cfg : Config) (field : Field) : List Char :=
  '[' :: ((field.aliases.headD "").toList ++ ']' :: '=' :: spelling (cfg.get field))

/-- The lines of all fields, in order. -/
def linesOf (cfg : Config) : List (List Char) := Field.all.map (lineOf cfg)

/-- A number that is not negative is spelled in decimal. -/
theorem spells_int {n : Int} (h : 0 ≤ n) : Spells (.int n) (spelling (.int n)) := by
  refine ⟨Text.isDigits_digits n.toNat, ?_⟩
  rw [spelling, Text.natOfDigits_digits, Int.toNat_of_nonneg h]

/-- The values of a configuration that may be used can be spelled. -/
theorem spells_spelling (hcfg : cfg.Valid) (field : Field) :
    Spells (cfg.get field) (spelling (cfg.get field)) := by
  cases field with
  | device | mode | logDir => rfl
  | baudrate =>
    have hspeed : ∀ n ∈ supportedBaudrates, 0 ≤ n := by decide
    exact spells_int (hspeed _ hcfg.1)
  | delayUs => exact spells_int hcfg.2
  | timeFormat =>
    rw [get]
    cases cfg.timeFormat <;> rfl
  | startTime =>
    rw [get]
    cases cfg.startTime <;> decide
  | debug =>
    rw [get]
    cases cfg.debug <;> decide

/-- On its line a field is written. -/
theorem writes_lineOf (hcfg : cfg.Valid) (field : Field) : Writes cfg field (lineOf cfg field) := by
  have hkey : Names field (field.aliases.headD "").toList := by cases field <;> decide
  refine ⟨[], _, [], [], _, [], by decide, hkey, by decide, by decide, spells_spelling hcfg field,
    .inl (by decide), ?_⟩
  rw [lineOf, List.append_nil]
  rfl

/-- A line on which a field is written gives no other field a value. -/
theorem eq_of_assigns_of_writes {other : Field} {line : List Char} (hcfg : cfg.Writable)
    (h : Writes cfg field line) (hother : Assigns other line) : other = field := by
  obtain ⟨key, value, hline, hkey⟩ := hother
  have hread := readLine_of_gives hline hkey
  rw [readLine_of_writes hcfg h] at hread
  obtain ⟨_, _, he⟩ := exists_ok_of_map hread.symm
  exact (Prod.mk.inj (Option.some.inj he)).1

/-- Every configuration that lines can hold is written on some. -/
theorem written_linesOf (hcfg : cfg.Writable) : Written cfg (linesOf cfg) where
  last := by
    intro field
    have hall : field ∈ Field.all := by cases field <;> decide
    have honce : Field.all.Nodup := by decide
    obtain ⟨earlier, later, hsplit⟩ := List.append_of_mem hall
    rw [hsplit, List.nodup_append] at honce
    have hlater : field ∉ later := (List.nodup_cons.mp honce.2.1).1
    refine ⟨earlier.map (lineOf cfg), lineOf cfg field, later.map (lineOf cfg), ?_,
      writes_lineOf hcfg.valid field, fun line hline hassigns => ?_⟩
    · rw [linesOf, hsplit, List.map_append, List.map_cons]
    · obtain ⟨other, hother, rfl⟩ := List.mem_map.mp hline
      obtain rfl := eq_of_assigns_of_writes hcfg (writes_lineOf hcfg.valid other) hassigns
      exact hlater hother
  readable := by
    intro line hline _
    obtain ⟨field, _, rfl⟩ := List.mem_map.mp hline
    exact ⟨field, writes_lineOf hcfg.valid field⟩

end Canonical

end File

/-- A configuration that is written on lines is read back from them. -/
theorem configOfLines_of_written {cfg : Config} {lines : List (List Char)} (hcfg : cfg.Writable)
    (h : File.Written cfg lines) : configOfLines lines = .ok cfg := by
  obtain ⟨layer, hlayer⟩ := File.exists_readLines_of_written hcfg h
  have hbuild : build layer {} = .ok cfg := by
    refine build_eq_ok_iff.mpr fun field => ?_
    obtain ⟨earlier, line, later, rfl, hwrites, hlater⟩ := h.last field
    have hget := File.get?_readLines_of_last hlayer (File.readLine_of_writes hcfg hwrites) hlater
    rw [overlay_of_eq_some hget]
    exact valid_iff.mp hcfg.valid field
  rw [configOfLines_of_readLines hlayer, hbuild]
  rfl

/-- The marks of comments in a time format, the greatest delay, a field that comes twice and lines
that say nothing. -/
theorem configOfLines_of_written_among_others :
    configOfLines
      ["# settings".toList,
       "[delay] = -7.5".toList,
       "[baudrate] = as usual".toList,
       " [ SerialPort ]\t= /dev/tty USB0 // the port # by the door".toList,
       "[unknown] = inf".toList,
       "[DELAY]=09007199254740992 // 2 ^ 53".toList,
       "[TimeFormat] = %H // #%S ".toList,
       "[BaudRate]=9600".toList,
       "".toList,
       "[mode] = hex".toList,
       "[startTime] = YES".toList,
       "[logpath] = # none".toList,
       "[debug".toList,
       "[debug] = oFF".toList] =
      .ok
        { device := "/dev/tty USB0", baudrate := 9600, mode := .hex, delayUs := 9007199254740992,
          timeFormat := some "%H // #%S", startTime := true, logDir := "", debug := false } := by
  apply configOfLines_of_written
  · exact
      { valid := ⟨by decide, by decide⟩
        delayUs_le := by
          unfold twoPow
          decide
        device := ⟨⟨by simp; decide, by simp; decide⟩, by decide, by decide,
          by simp [List.infix_cons_iff]⟩
        logDir := File.bare_of_isOrdinary (by simp)
        timeFormat := by
          rintro _ ⟨⟩
          exact ⟨by decide, ⟨by simp; decide, by simp; decide⟩, by decide⟩ }
  constructor
  · intro field
    cases field with
    | device =>
      refine ⟨[_, _, _], _, _, rfl, ?_, by decide⟩
      exact ⟨[' '], " SerialPort ".toList, ['\t'], [' '], "/dev/tty USB0".toList,
        " // the port # by the door".toList, by decide, by decide, by decide, by decide, rfl,
        .inr ⟨by decide, ⟨[' '], _, " the port # by the door".toList, by decide, by decide,
          .inr rfl, rfl⟩, by decide⟩, rfl⟩
    | baudrate =>
      refine ⟨[_, _, _, _, _, _, _], _, _, rfl, ?_, by decide⟩
      exact ⟨[], "BaudRate".toList, [], [], "9600".toList,
        [], by decide, by decide, by decide, by decide, ⟨by decide, rfl⟩,
        .inl (by decide), rfl⟩
    | mode =>
      refine ⟨[_, _, _, _, _, _, _, _, _], _, _, rfl, ?_, by decide⟩
      exact ⟨[], "mode".toList, [' '], [' '], "hex".toList,
        [], by decide, by decide, by decide, by decide, rfl, .inl (by decide), rfl⟩
    | delayUs =>
      refine ⟨[_, _, _, _, _], _, _, rfl, ?_, by decide⟩
      exact ⟨[], "DELAY".toList, [], [], "09007199254740992".toList,
        " // 2 ^ 53".toList, by decide, by decide, by decide, by decide, ⟨by decide, rfl⟩,
        .inr ⟨by decide, ⟨[' '], _, " 2 ^ 53".toList, by decide, by decide, .inr rfl, rfl⟩,
          by decide⟩, rfl⟩
    | timeFormat =>
      refine ⟨[_, _, _, _, _, _], _, _, rfl, ?_, by decide⟩
      exact ⟨[], "TimeFormat".toList, [' '], [' '], "%H // #%S".toList,
        [' '], by decide, by decide, by decide, by decide, rfl, .inl (by decide), rfl⟩
    | startTime =>
      refine ⟨[_, _, _, _, _, _, _, _, _, _], _, _, rfl, ?_, by decide⟩
      exact ⟨[], "startTime".toList, [' '], [' '], "YES".toList,
        [], by decide, by decide, by decide, by decide, by decide, .inl (by decide),
        rfl⟩
    | logDir =>
      refine ⟨[_, _, _, _, _, _, _, _, _, _, _], _, _, rfl, ?_, by decide⟩
      exact ⟨[], "logpath".toList, [' '], [], [],
        " # none".toList, by decide, by decide, by decide, by decide, rfl,
        .inr ⟨by decide, ⟨[' '], _, " none".toList, by decide, by decide, .inl rfl, rfl⟩,
          by decide⟩, rfl⟩
    | debug =>
      refine ⟨[_, _, _, _, _, _, _, _, _, _, _, _, _], _, _, rfl, ?_, by decide⟩
      exact ⟨[], "debug".toList, [' '], [' '], "oFF".toList,
        [], by decide, by decide, by decide, by decide, by decide, .inl (by decide),
        rfl⟩
  · intro line hline hinfinite
    refine absurd hinfinite ?_
    clear hinfinite
    revert line
    decide +kernel

end SerialTerminal.Config
