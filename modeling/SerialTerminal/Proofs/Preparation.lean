import SerialTerminal.Program
import SerialTerminal.Proofs.Calls
import SerialTerminal.Proofs.CommandLine.Precedence
import SerialTerminal.Proofs.Config.FileLines
import SerialTerminal.Proofs.Journal

/-!
# Preparation of a program

What a program does before it runs a session. It hands records to the journal and does nothing else
(`emits_prepare`), so whatever is wrong with a command line, an environment or a file leaves the
line, the keyboard and the screen alone. A problem of the configuration is recorded, and makes the
exit status 1 (`run_of_misconfigured`).

The lines of a file come to a problem of the configuration or to a configuration that may be used,
with one exception: an infinite number where a field of integers gets its value ends the program as
it is (`file_contained`, `run_infinite_delay`).
-/

namespace SerialTerminal

open Act

private theorem emits_ofExcept {σ α : Type} (r : Except Failure α) :
    Emits Event.isDebugRecord (ofExcept r : Act σ α) := by
  apply emits_of_silent
  intro s
  rw [run_ofExcept]

private theorem emits_readFile (path : String) (base : Option String) :
    Emits Event.isDebugRecord (Config.readFile path base) := by
  refine (emits_of_silent fun _ => rfl).bind fun tree => (emits_ofExcept _).bind fun contents => ?_
  cases contents with
  | none => exact emits_of_silent fun _ => rfl
  | some bytes =>
    refine (emits_ofExcept _).bind fun layer => ?_
    exact (emits_emit rfl).bind fun _ => emits_of_silent fun _ => rfl

private theorem emits_load (env : Config.Environment) (path base : Option String) :
    Emits Event.isDebugRecord (Config.load env path base) := by
  cases path with
  | none =>
    apply emits_of_silent
    intro tree
    exact congrArg Step.events (run_ofExcept _ tree)
  | some path => exact (emits_readFile path base).bind fun layer => emits_ofExcept _

/-- To put a configuration together leads to debug records only. -/
theorem CommandLine.Options.emits_resolve (options : CommandLine.Options)
    (env : Config.Environment) : Emits Event.isDebugRecord (options.resolve env) := by
  rw [CommandLine.Options.resolve]
  cases options.objection? with
  | some e => exact emits_of_silent fun _ => rfl
  | none => exact (emits_load env options.path? none).bind fun cfg => emits_ofExcept _

namespace Program

private theorem emits_setUp (cfg : Config) : Emits Event.isRecord (setUp cfg) := by
  refine (emits_of_silent fun journal => ?_).attempt.bind fun r => ?_
  · exact Journal.events_configure cfg.debug cfg.logDir journal
  cases r with
  | ok => exact emits_of_silent fun _ => rfl
  | error e =>
    simp only
    split
    · exact (Journal.emits_log _ _).bind fun _ => emits_of_silent fun _ => rfl
    · exact emits_of_silent fun _ => rfl

private theorem emits_refuse (e : Failure) : Emits Event.isRecord (refuse e) := by
  cases e with
  | misconfigured problem =>
    exact (Journal.emits_log _ _).bind fun _ => emits_of_silent fun _ => rfl
  | _ => exact emits_of_silent fun _ => rfl

private theorem emits_resolve (options : CommandLine.Options) (env : Config.Environment) :
    Emits Event.isRecord (resolve options env) := by
  refine (emits_of_silent fun _ => rfl).bind fun tree => ?_
  have hnotes := (options.emits_resolve env).mono isRecord_of_isDebugRecord
  refine (Journal.emits_follow (hnotes tree)).bind fun _ => ?_
  cases ((options.resolve env).run tree).outcome with
  | ok cfg => exact emits_setUp cfg
  | error e => exact emits_refuse e

/-- Before a session there are no events but records. -/
theorem emits_prepare (arguments : List String) (env : Config.Environment) :
    Emits Event.isRecord (prepare arguments env) := by
  rw [prepare]
  split
  · exact emits_resolve _ env
  · exact emits_of_silent fun _ => rfl
  · exact emits_of_silent fun _ => rfl

/-- What a program does about a problem of its configuration. -/
structure Reports (problem : Config.Problem) (step : Step Journal Report) : Prop where
  /-- The exit status is 1, and the usage is printed. -/
  outcome : step.outcome = .ok ⟨.status 1, none, "", CommandLine.usage⟩
  /-- The problem is recorded at last. -/
  recorded : step.events.getLast? = some (.record .error problem.message)
  /-- There are no events but records. -/
  recordsOnly : ∀ e ∈ step.events, e.isRecord

section Refusal

variable {arguments : List String} {options : CommandLine.Options} {world : World}
  {journal : Journal}

private theorem exists_ends_run {e : Failure} {report : Report} {es : List Event}
    (hparse : CommandLine.parse arguments = .ok options)
    (h : ((options.resolve world.environment).run journal.tree).outcome = .error e)
    (hrefuse : ∀ between, ∃ left, Ends (refuse e) between (.over report) left es) :
    ∃ left notes, Ends (run arguments world) journal report left (notes ++ es) ∧
      ∀ e ∈ notes ++ es, e.isRecord := by
  obtain ⟨between, hfollow⟩ := Journal.ends_follow
    ((options.resolve world.environment).run journal.tree).events journal
  generalize List.filter journal.passes _ = notes at hfollow
  obtain ⟨left, hleft⟩ := hrefuse between
  have hresolve : Ends (resolve options world.environment) journal (.over report) left
      (notes ++ es) := by
    have htree : Ends (gets Journal.tree) journal journal.tree journal [] := rfl
    refine htree.bind (hfollow.bind ?_)
    rw [h]
    exact hleft
  have hprepare : Ends (prepare arguments world.environment) journal (.over report) left
      (notes ++ es) := by
    rw [prepare, hparse]
    exact hresolve
  refine ⟨left, notes, ?_, (emits_prepare arguments world.environment).all hprepare⟩
  rw [← List.append_nil (notes ++ es)]
  exact hprepare.bind (ends_done report left)

/-- A problem of the configuration is reported. -/
theorem run_of_misconfigured {problem : Config.Problem}
    (hparse : CommandLine.parse arguments = .ok options)
    (h : ((options.resolve world.environment).run journal.tree).outcome =
      .error (.misconfigured problem)) :
    Reports problem ((run arguments world).run journal) := by
  have hrefuse (between : Journal) : Ends (refuse (.misconfigured problem)) between
      (.over ⟨.status 1, none, "", CommandLine.usage⟩)
      (between.append (.error, problem.message)) [.record .error problem.message] :=
    (Journal.ends_log_of_keeps (by simp [Journal.keeps]) _).bind (ends_done _ _)
  obtain ⟨left, notes, hrun, hrecords⟩ :=
    exists_ends_run hparse h fun between => ⟨_, hrefuse between⟩
  refine ⟨congrArg Step.outcome hrun, ?_, ?_⟩
  · rw [congrArg Step.events hrun, List.getLast?_append]
    rfl
  · rwa [congrArg Step.events hrun]

/-- Any other failure ends the program as it is. -/
theorem run_of_failed {e : Failure} (hparse : CommandLine.parse arguments = .ok options)
    (h : ((options.resolve world.environment).run journal.tree).outcome = .error e)
    (he : ∀ problem, e ≠ .misconfigured problem) :
    ((run arguments world).run journal).outcome = .ok (quiet (.failed e) none) := by
  have hrefuse (between : Journal) :
      Ends (refuse e) between (.over (quiet (.failed e) none)) between [] := by
    cases e with
    | misconfigured problem => exact absurd rfl (he problem)
    | _ => exact ends_done _ between
  obtain ⟨left, notes, hrun, _⟩ :=
    exists_ends_run hparse h fun between => ⟨_, hrefuse between⟩
  exact congrArg Step.outcome hrun

end Refusal

section Files

variable {lines : List (List Char)}

/-- Holds of a command line with options that are not objected to, and a file with some lines. -/
def ReadsLines (arguments : List String) (tree : FileTree) (lines : List (List Char)) : Prop :=
  ∃ options path, CommandLine.parse arguments = .ok options ∧ options.objection? = none ∧
    options.configPath = .text path ∧ Config.HasLines tree path lines

/-- What the lines of a configuration file come to, and what a program does with a file of them. -/
structure Contained (lines : List (List Char)) : Prop where
  /-- A configuration may be used. -/
  valid : ∀ cfg, Config.configOfLines lines = .ok cfg → cfg.Valid
  /-- Otherwise a number is infinite or the configuration is at fault. -/
  failure : ∀ e, Config.configOfLines lines = .error e →
    e = .number .infinite ∨ ∃ problem, e = .misconfigured problem
  /-- A number is infinite just if a line supplies it for a field of integers. -/
  infinite_iff : Config.configOfLines lines = .error (.number .infinite) ↔
    ∃ line ∈ lines, Config.File.SuppliesInfinity line
  /-- A program reports what is at fault. -/
  reported : ∀ problem, Config.configOfLines lines = .error (.misconfigured problem) →
    ∀ arguments world journal, ReadsLines arguments journal.tree lines →
      Reports problem ((run arguments world).run journal)
  /-- An infinite number ends a program as it is. -/
  escaped : Config.configOfLines lines = .error (.number .infinite) →
    ∀ arguments world journal, ReadsLines arguments journal.tree lines →
      ((run arguments world).run journal).outcome = .ok (quiet (.failed (.number .infinite)) none)

private theorem run_escaped (h : Config.configOfLines lines = .error (.number .infinite))
    {arguments : List String} (world : World) {journal : Journal}
    (hreads : ReadsLines arguments journal.tree lines) :
    ((run arguments world).run journal).outcome =
      .ok (quiet (.failed (.number .infinite)) none) := by
  obtain ⟨options, path, hparse, hobjection, hpath, hlines⟩ := hreads
  have hread : Config.File.readLines lines = .error .infinite := by
    rcases Config.configOfLines_eq_error_iff.mp h with ⟨_, hline⟩ | ⟨_, _, _, _, he⟩
    · exact Config.File.readLines_eq_error_iff.mpr ⟨rfl, hline⟩
    · cases he
  have hfile : Config.fileLayer journal.tree path = .error (.number .infinite) := by
    rw [Config.fileLayer_of_hasLines hlines, hread]
    rfl
  refine run_of_failed hparse ?_ (by simp)
  exact CommandLine.outcome_of_fileLayer_error hobjection hpath hfile

private theorem run_reported {problem : Config.Problem}
    (h : Config.configOfLines lines = .error (.misconfigured problem))
    {arguments : List String} (world : World) {journal : Journal}
    (hreads : ReadsLines arguments journal.tree lines) :
    Reports problem ((run arguments world).run journal) := by
  obtain ⟨options, path, hparse, hobjection, hpath, hlines⟩ := hreads
  rcases Config.configOfLines_eq_error_iff.mp h with ⟨he, _⟩ | ⟨layer, found, hread, hbuild, he⟩
  · cases he
  · obtain rfl : problem = .faults found := Failure.misconfigured.inj he
    let directory := Config.directoryOf journal.tree path.toList
    have hfile : Config.fileLayer journal.tree path =
        .ok (Config.withLogDirFrom directory layer) := by
      rw [Config.fileLayer_of_hasLines hlines, hread]
      rfl
    refine run_of_misconfigured hparse (CommandLine.outcome_of_error hobjection hpath hfile ?_)
    rw [Config.underEnvironment, Config.build_withLogDirFrom_eq_error_iff.mpr hbuild]
    rfl

/-- No file content but an infinite number leads to anything else than a configuration that may be
used or a problem that is reported. -/
theorem file_contained (lines : List (List Char)) : Contained lines where
  valid _ := Config.valid_of_configOfLines
  failure e he := by
    rcases Config.configOfLines_eq_error_iff.mp he with ⟨he, _⟩ | ⟨_, found, _, _, he⟩
    · exact .inl he
    · exact .inr ⟨.faults found, he⟩
  infinite_iff := by
    rw [Config.configOfLines_eq_error_iff]
    simp
  reported _ h _ world _ := run_reported h world
  escaped h _ world _ := run_escaped h world

end Files

/-- The number in this file is infinite. What comes of it is no problem of the configuration, and no
exit status. -/
theorem run_infinite_delay :
    let lines := ["[delay]=inf".toList]
    let tree : FileTree :=
      ⟨[], [(["serialdump.cfg".toList], .file "[delay]=inf\n".toUTF8.toList)]⟩
    let session : Session :=
      { port := .ofLine ⟨[], ⟨[], []⟩, [], []⟩
        typed := []
        clock := .ofReadings []
        output := .willing
        watchSet := .ofRegistrations []
        waits := [] }
    (Config.configOfLines lines = .error (.number .infinite) ∧ ReadsLines [] tree lines) ∧
      ((run [] ⟨[], session⟩).run (.create tree false)).outcome =
          .ok (quiet (.failed (.number .infinite)) none) ∧
        Failure.kind (.number .infinite) ≠ .configuration := by
  intro lines tree session
  have hlines : Config.configOfLines lines = .error (.number .infinite) := rfl
  have hreads : ReadsLines [] tree lines :=
    ⟨{}, "serialdump.cfg", rfl, rfl, rfl, "[delay]=inf\n".toUTF8.toList, "[delay]=inf\n".toList,
      rfl, by decide +kernel, by decide +kernel⟩
  exact ⟨⟨hlines, hreads⟩, run_escaped hlines ⟨[], session⟩ hreads, by decide⟩

end Program

end SerialTerminal
