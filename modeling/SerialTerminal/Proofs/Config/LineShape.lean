import SerialTerminal.Config.File
import SerialTerminal.Proofs.Config.Field
import SerialTerminal.Proofs.Text.Trimming

/-!
# Shape of a configuration line

Which lines of a file give a field a value, said without reading them: a key in brackets that names
the field, an equals sign and the value, with blanks in between (`Gives`, `Names`). They are the
lines that the reading of a file takes notice of (`splitLine?_eq_some_iff`,
`fieldOfKey?_eq_some_iff`), and of all lines for a field the last one decides
(`get?_readLines_of_last`).

A comment behind a value is not part of it, if a blank comes before the comment and the value has no
mark of a comment in it (`withoutComment_of_remark`).
-/

namespace SerialTerminal

namespace Text

/-- Holds of the characters that are no blanks and have no meaning on a line of a file. -/
def isOrdinary (c : Char) : Bool := !isBlank c && c ∉ ['#', '/', ']']

/-- Digits and capital letters are ordinary, and so is what stands between them in ASCII. -/
theorem isOrdinary_of_toNat {c : Char} (hlow : 48 ≤ c.toNat) (hhigh : c.toNat ≤ 90) :
    isOrdinary c := by
  have hblank : isBlank c = false := by
    simp only [isBlank, isWhiteSpace, Bool.or_eq_false_iff, Bool.and_eq_false_iff,
      decide_eq_false_iff_not]
    omega
  have hmark : c ∉ ['#', '/', ']'] := by
    intro hmem
    have hcode : c.toNat ∈ [35, 47, 93] := List.mem_map_of_mem (f := Char.toNat) hmem
    simp only [List.mem_cons, List.not_mem_nil, or_false] at hcode
    omega
  rw [isOrdinary, hblank, decide_eq_true hmark]
  rfl

private theorem toLower_of_not_isOrdinary {c : Char} (h : isOrdinary c = false) :
    c.toLower = c := by
  refine toLower_of_not_capital ?_
  rintro ⟨hlow, hhigh⟩
  rw [isOrdinary_of_toNat (Nat.le_trans (by decide) hlow) hhigh] at h
  cases h

/-- A text is of ordinary characters if it is so in small letters. -/
theorem isOrdinary_of_lower {text : List Char} (h : ∀ c ∈ lower text, isOrdinary c) :
    ∀ c ∈ text, isOrdinary c := by
  intro c hc
  cases hord : isOrdinary c with
  | true => rfl
  | false =>
    have hsmall : c ∈ lower text := List.mem_map.mpr ⟨c, hc, toLower_of_not_isOrdinary hord⟩
    rw [h c hsmall] at hord
    cases hord

/-- Ordinary characters are no blanks. -/
theorem not_isBlank_of_isOrdinary {c : Char} (h : isOrdinary c) : ¬ isBlank c := by
  rw [isOrdinary, Bool.and_eq_true, Bool.not_eq_true'] at h
  simp [h.1]

/-- Ordinary characters have no blanks at their ends. -/
theorem trimmed_of_isOrdinary {text : List Char} (h : ∀ c ∈ text, isOrdinary c) :
    Trimmed isBlank text :=
  ⟨fun c hc => not_isBlank_of_isOrdinary (h c (List.mem_of_mem_head? hc)),
    fun c hc => not_isBlank_of_isOrdinary (h c (List.mem_of_mem_getLast? hc))⟩

/-- The characters of a word are ordinary if they are so in every word of a list. -/
theorem isOrdinary_of_mem_words {words : List String}
    (hwords : ∀ word ∈ words, word.toList.all isOrdinary) {text : List Char}
    (h : String.ofList (lower text) ∈ words) : ∀ c ∈ text, isOrdinary c := by
  refine isOrdinary_of_lower fun c hc => List.all_eq_true.mp (hwords _ h) c ?_
  rwa [String.toList_ofList]

end Text

namespace Config

/-- The words that name a field in a file, in small letters. -/
def Field.aliases : Field → List String
  | .device => ["device", "serialport"]
  | .baudrate => ["baudrate"]
  | .mode => ["mode"]
  | .delayUs => ["delay"]
  | .timeFormat => ["timeformat"]
  | .startTime => ["starttime"]
  | .logDir => ["logpath"]
  | .debug => ["debug"]

namespace File

open Text (Blank isBlank)

section Keys

variable {field : Field} {key : List Char}

/-- Holds of the keys that name a field: one of its words, in any case and between blanks. -/
def Names (field : Field) (key : List Char) : Prop :=
  ∃ lead name behind, Blank lead ∧ Blank behind ∧ String.ofList (Text.lower name) ∈ field.aliases ∧
    key = lead ++ (name ++ behind)

private theorem isOrdinary_name {name : List Char}
    (h : String.ofList (Text.lower name) ∈ field.aliases) : ∀ c ∈ name, Text.isOrdinary c :=
  Text.isOrdinary_of_mem_words (by cases field <;> decide) h

private theorem fieldOfKey?_eq_some_iff_mem :
    fieldOfKey? key = some field ↔
      String.ofList (Text.lower (Text.strip key)) ∈ field.aliases := by
  rw [fieldOfKey?]
  generalize String.ofList (Text.lower (Text.strip key)) = word
  split <;> cases field <;> simp_all [Field.aliases]

/-- A key stands for the field that it names. -/
theorem fieldOfKey?_eq_some_iff : fieldOfKey? key = some field ↔ Names field key := by
  rw [fieldOfKey?_eq_some_iff_mem]
  constructor
  · intro h
    obtain ⟨lead, behind, hkey, hlead, hbehind⟩ := Text.exists_trim isBlank key
    exact ⟨lead, Text.strip key, behind, hlead, hbehind, h, hkey⟩
  · rintro ⟨lead, name, behind, hlead, hbehind, hname, rfl⟩
    rw [Text.strip, Text.trim_padded hlead hbehind,
      (Text.trimmed_of_isOrdinary (isOrdinary_name hname)).trim_eq]
    exact hname

instance (field : Field) (key : List Char) : Decidable (Names field key) :=
  decidable_of_iff _ fieldOfKey?_eq_some_iff

/-- A key that names a field is not empty. -/
theorem Names.ne_nil (h : Names field key) : key ≠ [] := by
  obtain ⟨lead, name, behind, _, _, hname, rfl⟩ := h
  intro hnil
  obtain ⟨_, hrest⟩ := List.append_eq_nil_iff.mp hnil
  obtain ⟨rfl, _⟩ := List.append_eq_nil_iff.mp hrest
  revert hname
  cases field <;> decide

/-- A key that names a field has no bracket in it. -/
theorem Names.not_mem (h : Names field key) : ']' ∉ key := by
  obtain ⟨lead, name, behind, hlead, hbehind, hname, rfl⟩ := h
  have hin : ']' ∉ name := fun hmem => absurd (isOrdinary_name hname ']' hmem) (by decide)
  simp [hlead.not_mem (c := ']') (by decide), hbehind.not_mem (c := ']') (by decide), hin]

end Keys

section Shape

variable {line key value : List Char}

/-- Holds of a line that gives a key a value: the key in brackets, an equals sign and the value,
with blanks in between and around. -/
def Gives (line key value : List Char) : Prop :=
  ∃ lead gap rest, Blank lead ∧ Blank gap ∧ key ≠ [] ∧ ']' ∉ key ∧ '\n' ∉ value ∧
    value = Text.strip rest ∧ line = lead ++ '[' :: (key ++ ']' :: (gap ++ '=' :: rest))

private theorem drop_close (key rest : List Char) :
    (key ++ ']' :: rest).drop (key.length + 1) = rest := by
  rw [← List.drop_drop, List.drop_left, List.drop_one, List.tail_cons]

private theorem splitLine?_of_shape {lead gap rest : List Char} (hlead : Blank lead)
    (hgap : Blank gap) (hkey : key ≠ []) (hbracket : ']' ∉ key) :
    splitLine? (lead ++ '[' :: (key ++ ']' :: (gap ++ '=' :: rest))) =
      if '\n' ∈ Text.strip rest then none else some (key, Text.strip rest) := by
  have hequals : ¬ isBlank '=' := by decide
  have hstrip : Text.strip (lead ++ '[' :: (key ++ ']' :: (gap ++ '=' :: rest))) =
      '[' :: (key ++ ']' :: (gap ++ '=' :: Text.trimEnd isBlank rest)) := by
    have hlead' : lead.dropWhile isBlank = [] := List.dropWhile_eq_nil_iff.mpr hlead
    have hopen : ¬ isBlank '[' := by decide
    have hclose : ¬ isBlank ']' := by decide
    rw [Text.strip, Text.trim_append_cons hopen, hlead', List.nil_append,
      Text.trimEnd_append_cons hclose, Text.trimEnd_append_cons hequals]
  have htake : (key ++ ']' :: (gap ++ '=' :: Text.trimEnd isBlank rest)).takeWhile (· ≠ ']') =
      key := by
    have hall : ∀ c ∈ key, decide (c ≠ ']') = true := fun c hc =>
      decide_eq_true fun he => hbracket (he ▸ hc)
    rw [List.takeWhile_append_of_pos hall]
    simp
  have hdrop : ((key ++ ']' :: (gap ++ '=' :: Text.trimEnd isBlank rest)).drop
      (key.length + 1)).dropWhile isBlank = '=' :: Text.trimEnd isBlank rest := by
    rw [drop_close, List.dropWhile_append_of_pos hgap, List.dropWhile_cons_of_neg hequals]
  have hne : key.isEmpty = false := List.isEmpty_eq_false_iff.mpr hkey
  rw [splitLine?, hstrip]
  simp only [htake, hne, hdrop, Text.dropWhile_trimEnd]
  rfl

private theorem eq_append_close {inner key rest : List Char}
    (hkey : inner.takeWhile (· ≠ ']') = key) (hrest : inner.drop (key.length + 1) = rest)
    (hne : rest ≠ []) : inner = key ++ ']' :: rest := by
  have hsplit : key ++ inner.dropWhile (· ≠ ']') = inner := by
    rw [← hkey, List.takeWhile_append_dropWhile]
  cases hclose : inner.dropWhile (· ≠ ']') with
  | nil =>
    rw [hclose, List.append_nil] at hsplit
    refine absurd ?_ hne
    rw [← hrest, hsplit, List.drop_eq_nil_of_le (Nat.le_succ _)]
  | cons c others =>
    have hc : c = ']' := by
      have hhead := List.head?_dropWhile_not (· ≠ ']') inner
      rw [hclose] at hhead
      simpa using hhead
    rw [hclose, hc] at hsplit
    rw [← hsplit, drop_close] at hrest
    rw [← hsplit, hrest]

private theorem exists_shape_of_splitLine? (h : splitLine? line = some (key, value)) :
    ∃ lead gap rest, Blank lead ∧ Blank gap ∧ key ≠ [] ∧ ']' ∉ key ∧
      line = lead ++ '[' :: (key ++ ']' :: (gap ++ '=' :: rest)) := by
  obtain ⟨lead, others, hline, hlead, _⟩ := Text.exists_trim isBlank line
  rw [splitLine?] at h
  split at h
  · next inner hinner =>
    simp only at h
    generalize hkey : inner.takeWhile (· ≠ ']') = taken at h
    generalize hrest : inner.drop (taken.length + 1) = rest at h
    split at h
    · cases h
    · next hne =>
      split at h
      · next behind hequals =>
        split at h
        · cases h
        · obtain ⟨rfl, _⟩ := Prod.mk.inj (Option.some.inj h)
          have hsome : rest ≠ [] := by
            rintro rfl
            cases hequals
          have hgap : rest = rest.takeWhile isBlank ++ '=' :: behind := by
            rw [← hequals, List.takeWhile_append_dropWhile]
          refine ⟨lead, rest.takeWhile isBlank, behind ++ others, hlead,
            fun c hc => List.mem_takeWhile_imp hc, ?_, ?_, ?_⟩
          · simpa using hne
          · intro hmem
            rw [← hkey] at hmem
            simpa using List.mem_takeWhile_imp hmem
          · have hinner' : inner = taken ++ ']' :: (rest.takeWhile isBlank ++ '=' :: behind) := by
              rw [← hgap, eq_append_close hkey hrest hsome]
            rw [hline, ← Text.strip, hinner, hinner']
            simp
      · cases h
  · cases h

/-- A line is split into a key and a value just if it gives the one the other. -/
theorem splitLine?_eq_some_iff : splitLine? line = some (key, value) ↔ Gives line key value := by
  constructor
  · intro h
    obtain ⟨lead, gap, rest, hlead, hgap, hkey, hbracket, rfl⟩ := exists_shape_of_splitLine? h
    rw [splitLine?_of_shape hlead hgap hkey hbracket] at h
    split at h
    · cases h
    · next hfeed =>
      obtain ⟨_, rfl⟩ := Prod.mk.inj (Option.some.inj h)
      exact ⟨lead, gap, rest, hlead, hgap, hkey, hbracket, hfeed, rfl, rfl⟩
  · rintro ⟨lead, gap, rest, hlead, hgap, hkey, hbracket, hfeed, rfl, rfl⟩
    rw [splitLine?_of_shape hlead hgap hkey hbracket, if_neg hfeed]

end Shape

section Reading

variable {field : Field} {line : List Char} {lines : List (List Char)} {layer final : Layer}

/-- Holds of the lines that give a field a value. -/
def Assigns (field : Field) (line : List Char) : Prop :=
  ∃ key value, Gives line key value ∧ Names field key

private theorem assigns_iff_bind :
    (splitLine? line).bind (fun entry => fieldOfKey? entry.1) = some field ↔
      Assigns field line := by
  rw [Option.bind_eq_some_iff]
  constructor
  · rintro ⟨⟨key, value⟩, hsplit, hkey⟩
    exact ⟨key, value, splitLine?_eq_some_iff.mp hsplit, fieldOfKey?_eq_some_iff.mp hkey⟩
  · rintro ⟨key, value, hline, hkey⟩
    exact ⟨(key, value), splitLine?_eq_some_iff.mpr hline, fieldOfKey?_eq_some_iff.mpr hkey⟩

instance (field : Field) (line : List Char) : Decidable (Assigns field line) :=
  decidable_of_iff _ assigns_iff_bind

/-- What is read on a line that gives a field a value. -/
theorem readLine_of_gives {key value : List Char} (hline : Gives line key value)
    (hkey : Names field key) :
    readLine line = (valueOfText field (textFor field value)).map fun v => some (field, v) := by
  rw [readLine, splitLine?_eq_some_iff.mpr hline]
  simp only [fieldOfKey?_eq_some_iff.mpr hkey]

/-- A line on which a value is read for a field gives the field one. -/
theorem assigns_of_readLine {v : Value} (h : readLine line = .ok (some (field, v))) :
    Assigns field line := by
  rw [readLine] at h
  split at h
  · cases h
  · next key value hsplit =>
    split at h
    · cases h
    · next hkey =>
      obtain ⟨_, _, he⟩ := exists_ok_of_map h
      obtain ⟨rfl, _⟩ := Prod.mk.inj (Option.some.inj he)
      exact ⟨key, value, splitLine?_eq_some_iff.mp hsplit, fieldOfKey?_eq_some_iff.mp hkey⟩

/-- A layer with what a line supplies. -/
def supply (layer : Layer) : Option (Field × Value) → Layer
  | none => layer
  | some (field, v) => layer.set field v

private theorem exists_of_readLinesOnto_cons
    (h : readLinesOnto layer (line :: lines) = .ok final) :
    ∃ supplied, readLine line = .ok supplied ∧
      readLinesOnto (supply layer supplied) lines = .ok final := by
  rw [readLinesOnto] at h
  cases hl : readLine line with
  | error cause =>
    rw [hl] at h
    cases h
  | ok supplied =>
    rw [hl] at h
    refine ⟨supplied, rfl, ?_⟩
    cases supplied with
    | none => exact h
    | some entry => exact h

/-- A field keeps its value at the lines that give it none. -/
theorem get?_supply_of_not_assigns {supplied : Option (Field × Value)}
    (h : readLine line = .ok supplied) (hline : ¬ Assigns field line) (layer : Layer) :
    (supply layer supplied).get? field = layer.get? field := by
  cases supplied with
  | none => rfl
  | some entry =>
    obtain ⟨other, v⟩ := entry
    refine Layer.get?_set_of_ne layer ?_ v
    rintro rfl
    exact hline (assigns_of_readLine h)

private theorem get?_readLinesOnto_of_not_assigns (h : readLinesOnto layer lines = .ok final)
    (hlines : ∀ line ∈ lines, ¬ Assigns field line) : final.get? field = layer.get? field := by
  induction lines generalizing layer with
  | nil =>
    obtain rfl := Except.ok.inj h
    rfl
  | cons line rest ih =>
    obtain ⟨hline, hrest⟩ := List.forall_mem_cons.mp hlines
    obtain ⟨supplied, hsupplied, hfinal⟩ := exists_of_readLinesOnto_cons h
    rw [ih hfinal hrest, get?_supply_of_not_assigns hsupplied hline]

private theorem get?_readLinesOnto_of_last {front behind : List (List Char)} {v : Value}
    (h : readLinesOnto layer (front ++ line :: behind) = .ok final)
    (hline : readLine line = .ok (some (field, v)))
    (hbehind : ∀ later ∈ behind, ¬ Assigns field later) : final.get? field = some v := by
  induction front generalizing layer with
  | nil =>
    obtain ⟨supplied, hsupplied, hfinal⟩ := exists_of_readLinesOnto_cons h
    obtain rfl := Except.ok.inj (hsupplied.symm.trans hline)
    rw [get?_readLinesOnto_of_not_assigns hfinal hbehind]
    exact Layer.get?_set_self layer field v
  | cons earlier rest ih =>
    obtain ⟨supplied, _, hfinal⟩ := exists_of_readLinesOnto_cons h
    exact ih hfinal

/-- The last line that gives a field a value decides. -/
theorem get?_readLines_of_last {front behind : List (List Char)} {v : Value}
    (h : readLines (front ++ line :: behind) = .ok layer)
    (hline : readLine line = .ok (some (field, v)))
    (hbehind : ∀ later ∈ behind, ¬ Assigns field later) : layer.get? field = some v :=
  get?_readLinesOnto_of_last h hline hbehind

end Reading

section Comments

variable {text lead behind : List Char}

/-- Holds of the texts with no mark of a comment in them. -/
def Unmarked (text : List Char) : Prop := '#' ∉ text ∧ ¬ ['/', '/'] <:+: text

/-- Holds of the texts that a line can hold as the value of any field. -/
structure Bare (text : List Char) : Prop where
  trimmed : Text.Trimmed isBlank text
  no_feed : '\n' ∉ text
  unmarked : Unmarked text

/-- Ordinary characters can be held by a line. -/
theorem bare_of_isOrdinary (h : ∀ c ∈ text, Text.isOrdinary c) : Bare text where
  trimmed := Text.trimmed_of_isOrdinary h
  no_feed := fun hmem => absurd (h _ hmem) (by decide)
  unmarked :=
    ⟨fun hmem => absurd (h _ hmem) (by decide), fun hslashes =>
      absurd (h '/' (hslashes.subset List.mem_cons_self)) (by decide)⟩

/-- Holds of a comment as it may stand behind a value: a blank comes before the mark. -/
def Remark (text : List Char) : Prop :=
  ∃ gap mark comment, Blank gap ∧ gap ≠ [] ∧ (mark = ['#'] ∨ mark = ['/', '/']) ∧
    text = gap ++ (mark ++ comment)

private theorem not_isBlank_hash : ∀ c ∈ ['#'], ¬ isBlank c := by
  intro c hc
  rw [List.mem_singleton.mp hc]
  decide

private theorem not_isBlank_slashes : ∀ c ∈ ['/', '/'], ¬ isBlank c := by
  intro c hc
  have hslash : c = '/' := by simpa using hc
  rw [hslash]
  decide

/-- It makes no difference whether blanks are removed before a comment is. -/
theorem withoutComment_strip (value : List Char) :
    withoutComment (Text.strip value) = withoutComment value := by
  obtain ⟨lead, behind, hvalue, hlead, hbehind⟩ := Text.exists_trim isBlank value
  -- Each of the two cuts leaves blanks at most of what is around the value.
  obtain ⟨left, hslashes, hleft⟩ :=
    Text.exists_before_padded not_isBlank_slashes hlead hbehind (Text.strip value)
  obtain ⟨left', hhash, hleft'⟩ := Text.exists_before_padded not_isBlank_hash hlead hleft
    (Text.before ['/', '/'] (Text.strip value))
  have hcut : Text.before ['#'] (Text.before ['/', '/'] value) = lead ++
      (Text.before ['#'] (Text.before ['/', '/'] (Text.strip value)) ++ left') := by
    rw [← hhash, ← hslashes, Text.strip, ← hvalue]
  rw [withoutComment, withoutComment, hcut]
  exact (Text.trim_padded hlead hleft' _).symm

private theorem withoutComment_eq (htext : Bare text) (hlead : Blank lead) {gap : List Char}
    (hgap : Blank gap) (rest : List Char) (hrest : gap ≠ [] ∨ rest = [])
    (hcut : Text.before ['#'] (Text.before ['/', '/'] rest) = []) :
    withoutComment (lead ++ (text ++ (gap ++ rest))) = text := by
  -- A slash at the end of the value does not meet one at the beginning of a comment.
  have hhead : (gap ++ rest).head? ≠ some '/' := by
    cases gap with
    | nil => simp [hrest.resolve_left (fun h => h rfl)]
    | cons c others =>
      intro hc
      obtain rfl := Option.some.inj hc
      exact absurd (hgap _ List.mem_cons_self) (by decide)
  have hslashes : Text.before ['/', '/'] (lead ++ (text ++ (gap ++ rest))) =
      lead ++ (text ++ (gap ++ Text.before ['/', '/'] rest)) := by
    rw [Text.before_append_of_not_mem (hlead.not_mem (by decide)),
      Text.before_slashes_append htext.unmarked.2 hhead,
      Text.before_append_of_not_mem (hgap.not_mem (by decide))]
  have hhash : Text.before ['#'] (lead ++ (text ++ (gap ++ Text.before ['/', '/'] rest))) =
      lead ++ (text ++ gap) := by
    rw [Text.before_append_of_not_mem (hlead.not_mem (by decide)),
      Text.before_append_of_not_mem htext.unmarked.1,
      Text.before_append_of_not_mem (hgap.not_mem (by decide)), hcut, List.append_nil]
  rw [withoutComment, hslashes, hhash, Text.strip, Text.trim_padded hlead hgap,
    htext.trimmed.trim_eq]

/-- Blanks around a value are not part of it. -/
theorem withoutComment_of_blank (htext : Bare text) (hlead : Blank lead) (hbehind : Blank behind) :
    withoutComment (lead ++ (text ++ behind)) = text := by
  have h := withoutComment_eq htext hlead hbehind [] (.inr rfl) rfl
  rwa [List.append_nil] at h

/-- A comment behind a value is not part of it. -/
theorem withoutComment_of_remark (htext : Bare text) (hlead : Blank lead)
    (hbehind : Remark behind) :
    withoutComment (lead ++ (text ++ behind)) = text := by
  obtain ⟨gap, mark, comment, hgap, hne, hmark, rfl⟩ := hbehind
  refine withoutComment_eq htext hlead hgap _ (.inl hne) ?_
  rcases hmark with rfl | rfl
  · rw [Text.before_append_of_not_mem (by decide), Text.before_mark (by decide)]
  · rw [Text.before_mark (by decide)]
    rfl

end Comments

end File

end Config

end SerialTerminal
