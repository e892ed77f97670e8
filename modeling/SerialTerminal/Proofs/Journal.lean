import SerialTerminal.Journal
import SerialTerminal.Proofs.Calls
import SerialTerminal.Proofs.Contracts

/-!
# Records

What a journal does with a record depends on the severities that it keeps: a record that is kept is
added to every log file and passed on, and any other leaves no trace. A journal follows the events
of an act without fail (`ends_follow`). To set it up opens one log file at most (`ends_configure`)
and causes no events (`events_configure`). A directory that may not be written to is refused, also
where its log file is open (`run_configure_of_unwritable`), and all that can go wrong is a failure
of the operating system or a NUL in a path (`meets_configure`).
-/

namespace SerialTerminal

open Act

/-- Holds of records. -/
def Event.isRecord : Event → Bool
  | .record _ _ => true
  | _ => false

/-- Holds of debug records. -/
def Event.isDebugRecord : Event → Bool
  | .record .debug _ => true
  | _ => false

/-- Debug records are records. -/
theorem isRecord_of_isDebugRecord (e : Event) (h : e.isDebugRecord) : e.isRecord := by
  cases e with
  | record => rfl
  | _ => cases h

namespace Journal

variable {journal : Journal}

/-- A record that is kept. -/
theorem ends_log_of_keeps {severity : Severity} (h : journal.keeps severity) (text : String) :
    Ends (log severity text) journal () (journal.append (severity, text))
      [.record severity text] := by
  simp only [Ends, run, log, bind, andThen, Act.get, h, if_true]
  rfl

/-- A record that is not kept leaves no trace. -/
theorem ends_log_of_not_keeps {severity : Severity} (h : ¬ journal.keeps severity)
    (text : String) : Ends (log severity text) journal () journal [] := by
  simp only [Ends, run, log, bind, andThen, Act.get, h]
  rfl

/-- A record is passed on at most. -/
theorem emits_log (severity : Severity) (text : String) :
    Emits Event.isRecord (log severity text) := by
  intro journal e he
  by_cases h : journal.keeps severity
  · rw [ends_log_of_keeps h] at he
    rw [List.mem_singleton.mp he]
    rfl
  · rw [ends_log_of_not_keeps h] at he
    cases he

/-- A log file that is open is not opened again. -/
theorem ends_openFile_of_mem {path : List Char} (h : path ∈ journal.files.map LogFile.path) :
    Ends (openFile path) journal () journal [] := by
  obtain ⟨file, hfile, hpath⟩ := List.mem_map.mp h
  rw [Ends, run, openFile, if_pos (List.any_eq_true.mpr ⟨file, hfile, decide_eq_true hpath⟩)]

/-- Any other log file comes behind those that are open. -/
theorem ends_openFile_of_notMem {path : List Char} {opened : FileTree}
    {earlier : Option (List UInt8)} (h : path ∉ journal.files.map LogFile.path)
    (hopened : journal.tree.openForAppend path = .ok (opened, earlier)) :
    Ends (openFile path) journal ()
      ⟨opened, journal.debug, journal.files ++ [⟨path, earlier, []⟩]⟩ [] := by
  have hnone : ¬ (journal.files.any fun file => file.path = path) = true := by
    intro hany
    obtain ⟨file, hfile, hpath⟩ := List.any_eq_true.mp hany
    exact h (List.mem_map.mpr ⟨file, hfile, of_decide_eq_true hpath⟩)
  rw [Ends, run, openFile, if_neg hnone, hopened]

section Directory

variable {directory : String} {made : FileTree}

private theorem ends_makeDirectory
    (hmade : journal.tree.makeDirectories directory.toList = (made, none)) :
    Ends (makeDirectory directory) journal () { journal with tree := made } [] := by
  rw [Ends, run, makeDirectory, hmade]

/-- A directory that may be written to passes the check. -/
theorem ends_requireWritable (h : journal.tree.mayWrite directory.toList) :
    Ends (requireWritable directory) journal () journal [] := by
  refine Ends.bind (rfl : Ends (gets tree) journal journal.tree journal []) ?_
  rw [if_pos h]
  exact ends_done () journal

/-- No other one does. -/
theorem run_requireWritable_of_not (h : ¬ journal.tree.mayWrite directory.toList) :
    (requireWritable directory).run journal = ⟨.error (.unwritable directory), journal, []⟩ := by
  rw [requireWritable,
    run_bind_of_ok _ (rfl : Ends (gets tree) journal journal.tree journal []), if_neg h]
  rfl

/-- A directory is configured by the log file that is opened in it. -/
theorem ends_configure {debug : Bool} {later : Journal} (hdirectory : directory ≠ "")
    (hmade : journal.tree.makeDirectories directory.toList = (made, none))
    (hwritable : made.mayWrite directory.toList)
    (hopen : Ends (openFile (logPath made directory defaultFileName))
      { journal with debug := debug, tree := made } () later []) :
    Ends (configure debug directory) journal () later [] := by
  have hmake : Ends (makeDirectory directory) { journal with debug := debug } ()
      { journal with debug := debug, tree := made } [] := ends_makeDirectory hmade
  have hcheck : Ends (requireWritable directory) { journal with debug := debug, tree := made } ()
      { journal with debug := debug, tree := made } [] := ends_requireWritable hwritable
  have hgets : Ends (Act.gets Journal.tree) { journal with debug := debug, tree := made } made
      { journal with debug := debug, tree := made } [] := rfl
  have hsetUp : Ends (setUpFile directory defaultFileName) { journal with debug := debug }
      (String.ofList (logPath made directory defaultFileName)) later [] :=
    hmake.bind (hcheck.bind (hgets.bind (hopen.bind (ends_done _ later))))
  rw [configure, if_pos hdirectory]
  exact (ends_modify _ journal).bind (hsetUp.bind (ends_done () later))

/-- A directory that may not be written to is refused, whichever log files are open. -/
theorem run_configure_of_unwritable (debug : Bool) (hdirectory : directory ≠ "")
    (hmade : journal.tree.makeDirectories directory.toList = (made, none))
    (hwritable : ¬ made.mayWrite directory.toList) :
    (configure debug directory).run journal =
      ⟨.error (.unwritable directory), { journal with debug := debug, tree := made }, []⟩ := by
  have hmake : Ends (makeDirectory directory) { journal with debug := debug } ()
      { journal with debug := debug, tree := made } [] := ends_makeDirectory hmade
  have hcheck : (requireWritable directory).run { journal with debug := debug, tree := made } =
      ⟨.error (.unwritable directory), { journal with debug := debug, tree := made }, []⟩ :=
    run_requireWritable_of_not hwritable
  have hsetUp : (setUpFile directory defaultFileName).run { journal with debug := debug } =
      ⟨.error (.unwritable directory), { journal with debug := debug, tree := made }, []⟩ := by
    rw [setUpFile, run_bind_of_ok _ hmake, run_bind_of_error _ hcheck]
    rfl
  rw [configure, if_pos hdirectory, setDebug, run_bind_of_ok _ (ends_modify _ journal),
    run_bind_of_error _ hsetUp]
  rfl

end Directory

section Failures

/-- Holds of the failures of the operating system, and of a NUL in a path. -/
def IsRefusal (e : Failure) : Prop := e.isSystem ∨ ∃ path, e = .file ⟨.nul, path⟩

private theorem isRefusal_file (f : FileFailure) : IsRefusal (.file f) := by
  obtain ⟨error, path⟩ := f
  cases error with
  | nul => exact .inr ⟨path, rfl⟩
  | _ => exact .inl rfl

private theorem meets_makeDirectory (directory : String) :
    Meets (fun _ => True) (makeDirectory directory) (fun _ _ => True)
      (fun e _ => IsRefusal e) where
  ok _ _ := trivial
  error _ h := by
    rw [run, makeDirectory] at h
    split at h
    · cases h
    · next failure _ =>
      cases h
      exact isRefusal_file failure

private theorem meets_requireWritable (directory : String) :
    Meets (fun _ => True) (requireWritable directory) (fun _ _ => True)
      (fun e _ => IsRefusal e) := by
  refine meets_gets_bind fun tree => ?_
  split
  · exact meets_done fun _ _ => trivial
  · exact meets_fail fun _ _ => .inl rfl

private theorem meets_openFile (path : List Char) :
    Meets (fun _ => True) (openFile path) (fun _ _ => True) (fun e _ => IsRefusal e) where
  ok _ _ := trivial
  error _ h := by
    rw [run, openFile] at h
    split at h
    · cases h
    split at h
    · cases h
    · cases h
      exact isRefusal_file _

/-- To set up a journal fails only as the operating system does, or over a NUL in a path. -/
theorem meets_configure (debug : Bool) (directory : String) :
    Meets (fun _ => True) (configure debug directory) (fun _ _ => True)
      (fun e _ => IsRefusal e) := by
  have hdebug : Meets (fun _ => True) (setDebug debug) (fun _ _ => True)
      (fun e _ => IsRefusal e) := meets_modify fun _ _ => trivial
  refine hdebug.bind fun _ => ?_
  split
  · have hsetUp : Meets (fun _ => True) (setUpFile directory defaultFileName) (fun _ _ => True)
        (fun e _ => IsRefusal e) := by
      refine (meets_makeDirectory directory).bind fun _ => ?_
      refine (meets_requireWritable directory).bind fun _ => ?_
      refine meets_gets_bind fun tree => ?_
      refine Meets.bind ((meets_openFile _).mono (fun _ _ => trivial) (fun _ _ h => h)
        fun _ _ h => h) fun _ => ?_
      exact meets_done fun _ _ => trivial
    exact hsetUp.bind fun _ => meets_done fun _ _ => trivial
  · exact meets_done fun _ _ => trivial

end Failures

/-- Holds of the events that a journal passes on: all but the records that it does not keep. -/
def passes (journal : Journal) : Event → Bool
  | .record severity _ => journal.keeps severity
  | _ => true

private theorem passes_append (journal : Journal) (record : Severity × String) :
    (journal.append record).passes = journal.passes := by
  funext e
  cases e <;> rfl

/-- Events can always be followed. -/
theorem ends_follow (events : List Event) (journal : Journal) :
    ∃ journal', Ends (follow events) journal () journal' (events.filter journal.passes) := by
  induction events generalizing journal with
  | nil => exact ⟨journal, ends_done () journal⟩
  | cons e rest ih =>
    cases e with
    | record severity text =>
      by_cases h : journal.passes (.record severity text)
      · obtain ⟨journal', hrest⟩ := ih (journal.append (severity, text))
        rw [passes_append] at hrest
        rw [List.filter_cons_of_pos h]
        exact ⟨journal', (ends_log_of_keeps h text).bind hrest⟩
      · obtain ⟨journal', hrest⟩ := ih journal
        rw [List.filter_cons_of_neg h]
        exact ⟨journal', (ends_log_of_not_keeps h text).bind hrest⟩
    | _ =>
      obtain ⟨journal', hrest⟩ := ih journal
      exact ⟨journal', (ends_emit _ journal).bind hrest⟩

/-- To follow events leaves the files of the system alone. -/
theorem keeps_follow (tree : FileTree) (events : List Event) :
    Keeps (fun journal : Journal => journal.tree = tree) (follow events) := by
  refine keeps_forEach (fun e => ?_) events
  cases e with
  | record severity text =>
    intro journal h
    by_cases hkept : journal.keeps severity
    · rw [ends_log_of_keeps hkept text]
      exact h
    · rw [ends_log_of_not_keeps hkept text]
      exact h
  | _ => exact keeps_emit _ _

/-- To follow events causes none but those. -/
theorem emits_follow {p : Event → Bool} {events : List Event} (h : ∀ e ∈ events, p e) :
    Emits p (follow events) := by
  intro journal e he
  obtain ⟨journal', hfollow⟩ := ends_follow events journal
  rw [hfollow] at he
  exact h e (List.mem_filter.mp he).1

private theorem emits_makeDirectory (p : Event → Bool) (directory : String) :
    Emits p (makeDirectory directory) := by
  apply emits_of_silent
  intro journal
  rw [run, makeDirectory]
  split <;> rfl

private theorem emits_requireWritable (p : Event → Bool) (directory : String) :
    Emits p (requireWritable directory) := by
  refine (emits_of_silent fun _ => rfl).bind fun tree => ?_
  split <;> exact emits_of_silent fun _ => rfl

private theorem emits_openFile (p : Event → Bool) (path : List Char) :
    Emits p (openFile path) := by
  apply emits_of_silent
  intro journal
  rw [run, openFile]
  split
  · rfl
  · split <;> rfl

private theorem emits_setUpFile (p : Event → Bool) (directory fileName : String) :
    Emits p (setUpFile directory fileName) := by
  refine (emits_makeDirectory p directory).bind fun _ => ?_
  refine (emits_requireWritable p directory).bind fun _ => ?_
  refine (emits_of_silent fun _ => rfl).bind fun tree => ?_
  exact (emits_openFile p _).bind fun _ => emits_of_silent fun _ => rfl

private theorem emits_configure (p : Event → Bool) (debug : Bool) (directory : String) :
    Emits p (configure debug directory) := by
  refine (emits_of_silent fun _ => rfl).bind fun _ => ?_
  split
  · exact (emits_setUpFile p _ _).bind fun _ => emits_of_silent fun _ => rfl
  · exact emits_of_silent fun _ => rfl

/-- To set up a journal causes no events. -/
theorem events_configure (debug : Bool) (directory : String) (journal : Journal) :
    ((configure debug directory).run journal).events = [] := by
  refine List.eq_nil_iff_forall_not_mem.mpr fun e he => ?_
  exact absurd (emits_configure (fun _ => false) debug directory journal e he) Bool.false_ne_true

end Journal

end SerialTerminal
