import Mathlib.Data.List.Induction
import Mathlib.Data.List.Nodup
import SerialTerminal.Proofs.FileTree
import SerialTerminal.Proofs.Journal

/-!
# Log files

A journal is told again and again which records to keep and which directory to keep them in, and
records come in between. What the log file of a directory gets can be said from these calls alone
(`received`): the records behind the first call that names the file, however the directory was
spelled, if they are at least as severe as the level that was in force.

Each call keeps to this (`Tracks.log`, `Tracks.configure`), so after any calls there is one log file
for each path that was named, and it holds these records behind what the file held at the start
(`log_file_receives`).
-/

namespace SerialTerminal

open Act

/-- Severities in ascending order. -/
def Severity.rank : Severity → Nat
  | .debug => 0
  | .info => 1
  | .warning => 2
  | .error => 3

namespace Journal

open SerialTerminal.Path (EndsIn IsProper)

/-- A call of a journal. A text has to be written in the room that there is at the time. -/
inductive Call where
  | configure (debug : Bool) (directory : String)
  | log (level : Int) (template : String) (arguments : List Template.Argument)
      (room : Nat := Template.usualRoom)

namespace Call

/-- What a call does. -/
def act : Call → Act Journal Unit
  | configure debug directory => Journal.configure debug directory
  | log level template arguments room => logTemplate level template arguments room

/-- The record that a call is about, if its text can be written. -/
def record? : Call → Option (Severity × String)
  | configure _ _ => none
  | log level template arguments room =>
    (Template.text template arguments room).toOption.map fun text => (.ofLevel level, text)

/-- What a call says about debug records. -/
def debug? : Call → Option Bool
  | configure debug _ => some debug
  | log _ _ _ _ => none

/-- The path of the log file that a call names. -/
def path? (tree : FileTree) : Call → Option (List Char)
  | configure _ directory =>
    if directory = "" then none else some (logPath tree directory defaultFileName)
  | log _ _ _ _ => none

end Call

/-- Holds of the paths that are named among calls. -/
def Names (tree : FileTree) (calls : List Call) (path : List Char) : Prop :=
  ∃ call ∈ calls, call.path? tree = some path

instance (tree : FileTree) (calls : List Call) (path : List Char) :
    Decidable (Names tree calls path) :=
  inferInstanceAs (Decidable (∃ call ∈ calls, call.path? tree = some path))

/-- The level in force behind calls. -/
def levelAfter (calls : List Call) : Severity :=
  if (calls.filterMap Call.debug?).getLast? = some true then .debug else .info

/-- Holds of a record that a log file gets behind calls. -/
def Receives (tree : FileTree) (path : List Char) (before : List Call)
    (record : Severity × String) : Prop :=
  Names tree before path ∧ (levelAfter before).rank ≤ record.1.rank

instance (tree : FileTree) (path : List Char) (before : List Call) :
    DecidablePred (Receives tree path before) := fun record =>
  inferInstanceAs (Decidable (Names tree before path ∧ (levelAfter before).rank ≤ record.1.rank))

/-- The records for a log file among calls. -/
def received (tree : FileTree) (path : List Char) (calls : List Call) :
    List (Severity × String) :=
  (List.range calls.length).filterMap fun n =>
    (calls[n]?.bind Call.record?).filter fun record => Receives tree path (calls.take n) record

/-- Holds of a directory that can be made and may be written to, and in which a log file can be
opened. -/
def usable (tree : FileTree) (directory : String) : Bool :=
  match tree.makeDirectories directory.toList with
  | (made, none) => made.mayWrite directory.toList &&
      (made.openForAppend (logPath made directory defaultFileName)).isOk
  | (_, some _) => false

/-- Holds of a call that does not fail in a tree: its directory can be used, or its text written. -/
def Call.possible (tree : FileTree) : Call → Bool
  | configure _ directory => directory = "" || usable tree directory
  | log _ template arguments room => (Template.text template arguments room).isOk

/-- A new journal behind calls. -/
def after (tree : FileTree) (calls : List Call) : Journal :=
  ((forEach Call.act calls).run (create tree false)).state

/-- Holds of a journal behind calls: its level is the one in force, and each path that was named has
one log file, at a place of the tree and with the records for it. -/
structure Tracks (tree : FileTree) (calls : List Call) (journal : Journal) : Prop where
  grown : tree.Grows journal.tree
  level : levelAfter calls = if journal.debug then .debug else .info
  nodup : (journal.files.map LogFile.path).Nodup
  named : ∀ path, path ∈ journal.files.map LogFile.path ↔ Names tree calls path
  files : ∀ file ∈ journal.files, ∃ place, journal.tree.locate file.path = .ok place ∧
    file = ⟨file.path, tree.held place, received tree file.path calls⟩

/-- The tree behind a directory that can be used, and what comes of the log file in it. -/
private theorem exists_opened {tree : FileTree} {directory : String}
    (h : usable tree directory) :
    ∃ made opened earlier, tree.makeDirectories directory.toList = (made, none) ∧
      made.mayWrite directory.toList ∧
      made.openForAppend (logPath made directory defaultFileName) = .ok (opened, earlier) := by
  rw [usable] at h
  split at h
  · next made hmade =>
    rw [Bool.and_eq_true] at h
    obtain ⟨⟨opened, earlier⟩, hopened⟩ := exists_ok_of_isOk h.2
    exact ⟨made, opened, earlier, hmade, h.1, hopened⟩
  · cases h

/-- Paths are the same when a tree has grown. -/
private theorem logPath_of_grows {tree later : FileTree} (h : tree.Grows later)
    (directory fileName : String) :
    logPath later directory fileName = logPath tree directory fileName := by
  rw [logPath, logPath, FileTree.workingPath, FileTree.workingPath, h.workingDirectory]

section Calls

variable {tree : FileTree} {calls : List Call} {path : List Char}

private theorem names_append_singleton (call : Call) :
    Names tree (calls ++ [call]) path ↔
      Names tree calls path ∨ call.path? tree = some path := by
  simp only [Names, List.mem_append, List.mem_singleton, or_and_right, exists_or, exists_eq_left]

private theorem levelAfter_configure (debug : Bool) (directory : String) :
    levelAfter (calls ++ [.configure debug directory]) = if debug then .debug else .info := by
  rw [levelAfter, List.filterMap_append]
  simp [Call.debug?]

private theorem levelAfter_log (level : Int) (template : String)
    (arguments : List Template.Argument) (room : Nat) :
    levelAfter (calls ++ [.log level template arguments room]) = levelAfter calls := by
  rw [levelAfter, List.filterMap_append]
  simp [Call.debug?, levelAfter]

/-- One more call brings one more record at most. -/
private theorem received_append_singleton (call : Call) :
    received tree path (calls ++ [call]) =
      received tree path calls ++
        (call.record?.filter fun record => Receives tree path calls record).toList := by
  have hbefore : ∀ n ∈ List.range calls.length,
      ((calls ++ [call])[n]?.bind Call.record?).filter
        (fun record => Receives tree path ((calls ++ [call]).take n) record) =
      (calls[n]?.bind Call.record?).filter
        (fun record => Receives tree path (calls.take n) record) := by
    intro n hn
    have hlt : n < calls.length := List.mem_range.mp hn
    rw [List.getElem?_append_left hlt, List.take_append_of_le_length (Nat.le_of_lt hlt)]
  rw [received, received, List.length_append, List.length_singleton, List.range_succ,
    List.filterMap_append, List.filterMap_congr hbefore]
  simp only [List.filterMap_cons, List.filterMap_nil, List.getElem?_concat_length, List.take_left,
    Option.bind_some]
  cases call.record?.filter fun record => Receives tree path calls record <;> rfl

/-- Before a path is named nothing comes to its file. -/
private theorem received_of_not_names (h : ¬ Names tree calls path) :
    received tree path calls = [] := by
  rw [received, List.filterMap_eq_nil_iff]
  intro n _
  rw [Option.filter_eq_none_iff]
  intro record _ hreceives
  obtain ⟨⟨call, hcall, hpath⟩, _⟩ := of_decide_eq_true hreceives
  exact h ⟨call, List.mem_of_mem_take hcall, hpath⟩

end Calls

section Step

variable {tree : FileTree} {calls : List Call} {journal : Journal}

/-- The path of a log file was named. -/
private theorem Tracks.names_of_mem (h : Tracks tree calls journal) {file : LogFile}
    (hfile : file ∈ journal.files) : Names tree calls file.path :=
  (h.named file.path).mp (List.mem_map_of_mem hfile)

/-- The records that a journal keeps are those from its level on. -/
private theorem Tracks.keeps_iff (h : Tracks tree calls journal) (severity : Severity) :
    journal.keeps severity ↔ (levelAfter calls).rank ≤ severity.rank := by
  rw [h.level, keeps]
  cases journal.debug <;> cases severity <;> decide

/-- One more call to take a record brings it to a file that was named, if the journal keeps it. -/
private theorem Tracks.received_log (h : Tracks tree calls journal) {call : Call}
    {severity : Severity} {text : String} (hrecord : call.record? = some (severity, text))
    {path : List Char} (hnames : Names tree calls path) :
    received tree path (calls ++ [call]) =
      received tree path calls ++ if journal.keeps severity then [(severity, text)] else [] := by
  have hreceives : Receives tree path calls (severity, text) ↔ journal.keeps severity := by
    rw [h.keeps_iff, Receives]
    exact and_iff_right hnames
  rw [received_append_singleton, hrecord]
  simp only [Option.filter_some, decide_eq_true_eq, hreceives]
  split <;> rfl

/-- A record is added to each log file, if it is kept. -/
theorem Tracks.log (h : Tracks tree calls journal) (level : Int) {template text : String}
    {arguments : List Template.Argument} {room : Nat}
    (htext : Template.text template arguments room = .ok text) :
    ∃ later es, Ends (logTemplate level template arguments room) journal () later es ∧
      Tracks tree (calls ++ [.log level template arguments room]) later := by
  have hrecord : (Call.log level template arguments room).record? =
      some (.ofLevel level, text) := by
    rw [Call.record?, htext]
    rfl
  have hnames (path : List Char) :
      Names tree (calls ++ [.log level template arguments room]) path ↔ Names tree calls path := by
    rw [names_append_singleton]
    exact or_iff_left (by simp [Call.path?])
  have hfiles : ∀ file ∈ journal.files, ∃ place, journal.tree.locate file.path = .ok place ∧
      ({ file with records := file.records ++
        if journal.keeps (.ofLevel level) then [(.ofLevel level, text)] else [] } : LogFile) =
      ⟨file.path, tree.held place,
        received tree file.path (calls ++ [.log level template arguments room])⟩ := by
    intro file hfile
    obtain ⟨place, hlocate, heq⟩ := h.files file hfile
    refine ⟨place, hlocate, ?_⟩
    rw [h.received_log hrecord (h.names_of_mem hfile), LogFile.mk.injEq]
    exact ⟨rfl, congrArg LogFile.earlier heq, congrArg (· ++ _) (congrArg LogFile.records heq)⟩
  rw [logTemplate, htext]
  by_cases hkeeps : journal.keeps (.ofLevel level)
  · have hpaths : (journal.append (.ofLevel level, text)).files.map LogFile.path =
        journal.files.map LogFile.path := List.map_map
    refine ⟨_, _, ends_log_of_keeps hkeeps text, h.grown, ?_, ?_, ?_, ?_⟩
    · rw [levelAfter_log]
      exact h.level
    · rw [hpaths]
      exact h.nodup
    · intro path
      rw [hpaths, h.named, hnames]
    · intro file hfile
      obtain ⟨old, hold, rfl⟩ := List.mem_map.mp hfile
      have hfile := hfiles old hold
      rwa [if_pos hkeeps] at hfile
  · refine ⟨_, _, ends_log_of_not_keeps hkeeps text, h.grown, ?_, h.nodup, ?_, ?_⟩
    · rw [levelAfter_log]
      exact h.level
    · intro path
      rw [h.named, hnames]
    · intro file hfile
      have hfile := hfiles file hfile
      rwa [if_neg hkeeps, List.append_nil] at hfile

/-- A directory that has its log file, or none, leaves the log files alone. -/
private theorem Tracks.withTree (h : Tracks tree calls journal) {debug : Bool}
    {directory : String} {made : FileTree} (hgrows : journal.tree.Grows made)
    (hnamed : ∀ path, (Call.configure debug directory).path? tree = some path →
      Names tree calls path) :
    Tracks tree (calls ++ [.configure debug directory])
      { journal with debug := debug, tree := made } where
  grown := h.grown.trans hgrows
  level := levelAfter_configure debug directory
  nodup := h.nodup
  named path := by
    rw [names_append_singleton, h.named]
    exact (or_iff_left_of_imp (hnamed path)).symm
  files file hfile := by
    obtain ⟨place, hlocate, heq⟩ := h.files file hfile
    refine ⟨place, hgrows.locate hlocate, ?_⟩
    rw [received_append_singleton]
    simpa [Call.record?] using heq

/-- A directory that is new gets a log file without records. -/
private theorem Tracks.withFile (h : Tracks tree calls journal) {debug : Bool}
    {directory : String} {opened : FileTree} {path : List Char} {place : Place}
    (hgrows : journal.tree.Grows opened) (hlocate : opened.locate path = .ok place)
    (hpath : (Call.configure debug directory).path? tree = some path)
    (hnew : ¬ Names tree calls path) :
    Tracks tree (calls ++ [.configure debug directory])
      ⟨opened, debug, journal.files ++ [⟨path, tree.held place, []⟩]⟩ where
  grown := h.grown.trans hgrows
  level := levelAfter_configure debug directory
  nodup := by
    have hfree : path ∉ journal.files.map LogFile.path := fun hmem => hnew ((h.named path).mp hmem)
    rw [List.map_append, List.map_singleton, ← List.concat_eq_append]
    exact List.Nodup.concat hfree h.nodup
  named other := by
    rw [names_append_singleton, List.map_append, List.mem_append, h.named, hpath]
    simp [eq_comm]
  files file hfile := by
    have hreceived (path : List Char) :
        received tree path (calls ++ [.configure debug directory]) = received tree path calls := by
      simp [received_append_singleton, Call.record?]
    rw [hreceived]
    rcases List.mem_append.mp hfile with hfile | hfile
    · obtain ⟨place, hlocate, heq⟩ := h.files file hfile
      exact ⟨place, hgrows.locate hlocate, heq⟩
    · obtain rfl := List.mem_singleton.mp hfile
      exact ⟨place, hlocate, by rw [received_of_not_names hnew]⟩

/-- A directory that can be used has its log file from then on. -/
theorem Tracks.configure (h : Tracks tree calls journal) (debug : Bool) {directory : String}
    (husable : directory = "" || usable journal.tree directory) :
    ∃ later es, Ends (Journal.configure debug directory) journal () later es ∧
      Tracks tree (calls ++ [.configure debug directory]) later := by
  by_cases hempty : directory = ""
  · refine ⟨{ journal with debug := debug }, [], ?_, h.withTree (.refl journal.tree) ?_⟩
    · rw [hempty]
      rfl
    · intro path hpath
      rw [Call.path?, if_pos hempty] at hpath
      cases hpath
  · rw [decide_eq_false hempty, Bool.false_or] at husable
    obtain ⟨made, opened, earlier, hmade, hwritable, hopened⟩ := exists_opened husable
    have hgrows : journal.tree.Grows made := by
      have hgrows := journal.tree.grows_makeDirectories directory.toList
      rwa [hmade] at hgrows
    have hpath : (Call.configure debug directory).path? tree =
        some (logPath made directory defaultFileName) := by
      rw [Call.path?, if_neg hempty, logPath_of_grows (h.grown.trans hgrows)]
    by_cases hnames : Names tree calls (logPath made directory defaultFileName)
    · refine ⟨_, _, ends_configure hempty hmade hwritable
        (ends_openFile_of_mem ((h.named _).mpr hnames)), h.withTree hgrows fun path hother => ?_⟩
      rwa [← Option.some.inj (hpath.symm.trans hother)]
    · have hname : IsProper defaultFileName.toList := by decide
      have hends : EndsIn defaultFileName.toList (logPath made directory defaultFileName) :=
        (EndsIn.join (.inl rfl) directory.toList).absolute hname made.workingPath
      obtain ⟨hgrows', place, hlocate, rfl⟩ :=
        FileTree.exists_locate_of_openForAppend hends hname hopened
      refine ⟨_, _, ends_configure hempty hmade hwritable
        (ends_openFile_of_notMem (mt (h.named _).mp hnames) hopened), ?_⟩
      rw [(h.grown.trans hgrows).held_eq place]
      exact h.withFile (hgrows.trans hgrows') hlocate hpath hnames

/-- Every call keeps to the records, if nothing stands in its way. -/
theorem Tracks.act (h : Tracks tree calls journal) {call : Call}
    (hpossible : call.possible journal.tree) :
    ∃ later es, Ends call.act journal () later es ∧ Tracks tree (calls ++ [call]) later := by
  cases call with
  | configure debug directory => exact h.configure debug hpossible
  | log level template arguments room =>
    obtain ⟨text, htext⟩ := exists_ok_of_isOk hpossible
    exact h.log level htext

end Step

section Run

variable {tree : FileTree} {calls : List Call} {journal : Journal} {path : List Char}

end Run

end Journal

end SerialTerminal
