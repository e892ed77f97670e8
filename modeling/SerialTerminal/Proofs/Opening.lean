import SerialTerminal.Proofs.Preparation
import SerialTerminal.Proofs.Terminal.Events

/-!
# Opening of the line

A program opens its line at most once, with a configuration that may be used, and before that it
does nothing but hand records to the journal. A program that runs no session does nothing else at
all. If its configuration is at fault, or its log directory is refused, it records one error and no
more (`run_orderly`); so it is, above all, where the directory may not be written to
(`run_of_unwritable`).

A session opens its port before anything else (`Session.events_run`), and a program runs a session
only if its preparation comes to a configuration (`exists_ends_prepare`).
-/

namespace SerialTerminal

open Act

namespace Event

/-- Holds of the opening of a line. -/
def isOpening : Event → Bool
  | .opened _ _ => true
  | _ => false

/-- Holds of error records. -/
def isErrorRecord : Event → Bool
  | .record .error _ => true
  | _ => false

/-- Holds of the events that do not open a line. -/
def isNoOpening (e : Event) : Bool := !e.isOpening

private theorem isNoOpening_of_isTalk (e : Event) (h : e.isTalk) : e.isNoOpening := by
  cases e with
  | opened => cases h
  | _ => rfl

private theorem not_isErrorRecord_of_isDebugRecord {e : Event} (h : e.isDebugRecord) :
    ¬ e.isErrorRecord := by
  cases e with
  | record severity => cases severity <;> first | exact Bool.false_ne_true | cases h
  | _ => cases h

end Event

namespace Session

private theorem events_open (name : String) (baudrate : Int) (port : SerialPort) :
    ((SerialPort.open name baudrate).run port).events =
      if port.isOpen then [] else [.opened name baudrate] := by
  rcases port with ⟨⟨incoming, output, _ | ⟨_ | _, _⟩, closings⟩, _ | _, last⟩ <;> rfl

private theorem emits_close : Emits Event.isNoOpening SerialPort.close := by
  refine (emits_of_silent fun _ => rfl).bind fun wasOpen => ?_
  split
  · refine (emits_emit rfl).bind fun _ => ?_
    refine ((emits_next _ ()).on _ _).attempt.bind fun reply => ?_
    refine (emits_of_silent fun _ => rfl).bind fun name => ?_
    refine (emits_of_silent fun _ => rfl).bind fun _ => ?_
    cases reply with
    | ok => exact emits_of_silent fun _ => rfl
    | error e =>
      simp only
      split
      · exact emits_emit rfl
      · exact emits_of_silent fun _ => rfl
  · exact emits_of_silent fun _ => rfl

private theorem emits_verdict (cfg : Config) (ending : Except Failure Unit) :
    Emits Event.isNoOpening (verdict cfg ending) := by
  cases ending with
  | ok => exact emits_of_silent fun _ => rfl
  | error e =>
    rw [verdict]
    split
    · exact (emits_emit rfl).bind fun _ => emits_of_silent fun _ => rfl
    · split
      · exact (emits_emit rfl).bind fun _ => emits_of_silent fun _ => rfl
      · exact emits_of_silent fun _ => rfl

private theorem emits_finish (cfg : Config) (ending : Except Failure Unit) :
    Emits Event.isNoOpening (finish cfg ending) := by
  refine (emits_verdict cfg ending).bind fun status => (emits_emit rfl).bind fun _ => ?_
  refine (emits_close.on _ _).bind fun _ => emits_of_silent fun s => ?_
  rw [run_ofExcept]

private theorem emits_converse (cfg : Config) : Emits Event.isNoOpening (converse cfg) := by
  intro s
  simp only [Act.run, converse]
  cases terminal cfg s with
  | error e => exact fun _ he => absurd he List.not_mem_nil
  | ok t =>
    have htalk := Terminal.emits_watchBoth.bind fun _ => Terminal.emits_pollAll s.waits
    exact htalk.mono Event.isNoOpening_of_isTalk t

/-- A session opens its port before anything else, and does so once. A port that is open already
stays so. -/
theorem events_run (cfg : Config) (s : Session) :
    ∃ later, ((run cfg).run s).events =
        (if s.port.isOpen then [] else [.opened cfg.device cfg.baudrate]) ++ later ∧
      ∀ e ∈ later, e.isNoOpening := by
  have hconnect : ∃ es, ((connect cfg).run s).events =
      (if s.port.isOpen then [] else [.opened cfg.device cfg.baudrate]) ++ es ∧
        ∀ e ∈ es, e.isNoOpening := by
    rw [← events_open]
    refine exists_events_bind (attempt (onPort _)) (fun reply => ?_) s
    cases reply with
    | ok => exact (emits_emit rfl).bind fun _ => emits_of_silent fun _ => rfl
    | error e =>
      simp only
      split
      · exact (emits_emit rfl).bind fun _ => emits_of_silent fun _ => rfl
      · exact emits_of_silent fun _ => rfl
  have hrest : ∃ es, ((run cfg).run s).events = ((connect cfg).run s).events ++ es ∧
      ∀ e ∈ es, e.isNoOpening := by
    refine exists_events_bind (connect cfg) (fun status => ?_) s
    cases status with
    | some status => exact emits_of_silent fun _ => rfl
    | none => exact (emits_converse cfg).attempt.bind fun ending => emits_finish cfg ending
  obtain ⟨es, hes, hkind⟩ := hconnect
  obtain ⟨fs, hfs, hkind'⟩ := hrest
  refine ⟨es ++ fs, ?_, List.forall_mem_append.mpr ⟨hkind, hkind'⟩⟩
  rw [hfs, hes, List.append_assoc]

end Session

/-- Options lead only to configurations that may be used. -/
theorem CommandLine.Options.valid_of_resolve {options : CommandLine.Options} {tree : FileTree}
    {env : Config.Environment} {cfg : Config}
    (h : ((options.resolve env).run tree).outcome = .ok cfg) : cfg.Valid := by
  cases ho : options.objection? with
  | some e =>
    rw [CommandLine.outcome_of_objection ho] at h
    cases h
  | none =>
    have hpath : ∃ path, options.configPath = .text path := by
      cases hp : options.configPath with
      | text path => exact ⟨path, rfl⟩
      | _ => simp [objection?, pathObjection?, hp] at ho
    obtain ⟨path, hp⟩ := hpath
    cases hf : Config.fileLayer tree path with
    | error e =>
      rw [CommandLine.outcome_of_fileLayer_error ho hp hf] at h
      cases h
    | ok file => exact (CommandLine.readFrom_of_resolve ho hp hf h).valid

namespace Program

/-- Holds of what a preparation comes to: a configuration that the options of the command line lead
to, or a report of a program that ran no session. -/
def Preparation.From (arguments : List String) (env : Config.Environment) (tree : FileTree) :
    Preparation → Prop
  | .ready cfg => ∃ options, CommandLine.parse arguments = .ok options ∧
      ((options.resolve env).run tree).outcome = .ok cfg
  | .over report => report.config = none

/-- The journal when a configuration has been put together, or has not come about. -/
def noted (options : CommandLine.Options) (env : Config.Environment) (journal : Journal) :
    Journal :=
  ((Journal.follow ((options.resolve env).run journal.tree).events).run journal).state

section Steps

variable {arguments : List String} {options : CommandLine.Options} {env : Config.Environment}
  {journal : Journal}

private theorem ends_log_error (text : String) (journal : Journal) :
    Ends (Journal.log .error text) journal () (journal.append (.error, text))
      [.record .error text] :=
  Journal.ends_log_of_keeps (by simp [Journal.keeps]) text

private theorem exists_ends_noted (options : CommandLine.Options) (env : Config.Environment)
    (journal : Journal) :
    ∃ notes, Ends (Journal.follow ((options.resolve env).run journal.tree).events) journal ()
        (noted options env journal) notes ∧ ∀ e ∈ notes, e.isDebugRecord := by
  obtain ⟨left, hfollow⟩ :=
    Journal.ends_follow ((options.resolve env).run journal.tree).events journal
  have hnoted : noted options env journal = left := congrArg Step.state hfollow
  rw [hnoted]
  refine ⟨_, hfollow, fun e he => ?_⟩
  exact options.emits_resolve env journal.tree e (List.mem_filter.mp he).1

private theorem tree_noted (options : CommandLine.Options) (env : Config.Environment)
    (journal : Journal) : (noted options env journal).tree = journal.tree :=
  Journal.keeps_follow journal.tree _ journal rfl

private theorem exists_run_configure (cfg : Config) (journal : Journal) :
    ∃ left, (Journal.configure cfg.debug cfg.logDir).run journal =
      ⟨((Journal.configure cfg.debug cfg.logDir).run journal).outcome, left, []⟩ := by
  have hevents := Journal.events_configure cfg.debug cfg.logDir journal
  rcases hrun : (Journal.configure cfg.debug cfg.logDir).run journal with ⟨outcome, left, es⟩
  rw [hrun] at hevents
  exact ⟨left, congrArg _ hevents⟩

/-- A log directory that the operating system refuses is recorded. -/
private theorem exists_ends_setUp_refused {cfg : Config} {e : Failure}
    (h : ((Journal.configure cfg.debug cfg.logDir).run journal).outcome = .error e)
    (he : e.isSystem) :
    ∃ left, Ends (setUp cfg) journal (.over (quiet (.status 1) none)) left
      [.record .error s!"Cannot log to {cfg.logDir}: {e.message}"] := by
  obtain ⟨left, hrun⟩ := exists_run_configure cfg journal
  rw [h] at hrun
  refine ⟨left.append (.error, s!"Cannot log to {cfg.logDir}: {e.message}"), ?_⟩
  refine Ends.bind (ends_attempt hrun) ?_
  simp only [he, if_true]
  exact (ends_log_error _ left).bind (ends_done _ _)

/-- To set up the journal leads to a session, or to a report of a program without one. -/
private theorem exists_ends_setUp (cfg : Config) (journal : Journal) :
    ∃ prep left es, Ends (setUp cfg) journal prep left es ∧
      (prep = .ready cfg ∨ ∃ report, prep = .over report ∧ report.config = none) := by
  obtain ⟨left, hrun⟩ := exists_run_configure cfg journal
  cases h : ((Journal.configure cfg.debug cfg.logDir).run journal).outcome with
  | ok =>
    rw [h] at hrun
    exact ⟨.ready cfg, left, [], Ends.bind (ends_attempt hrun) (ends_done _ left), .inl rfl⟩
  | error e =>
    by_cases he : e.isSystem
    · obtain ⟨after, hsetUp⟩ := exists_ends_setUp_refused h he
      exact ⟨_, after, _, hsetUp, .inr ⟨_, rfl, rfl⟩⟩
    · rw [h] at hrun
      refine ⟨.over (quiet (.failed e) none), left, [], Ends.bind (ends_attempt hrun) ?_,
        .inr ⟨_, rfl, rfl⟩⟩
      simp only [he]
      exact ends_done _ left

private theorem ends_refuse_misconfigured (problem : Config.Problem) (journal : Journal) :
    Ends (refuse (.misconfigured problem)) journal
      (.over ⟨.status 1, none, "", CommandLine.usage⟩) (journal.append (.error, problem.message))
      [.record .error problem.message] :=
  (ends_log_error _ journal).bind (ends_done _ _)

private theorem exists_ends_refuse (e : Failure) (journal : Journal) :
    ∃ report left es, Ends (refuse e) journal (.over report) left es ∧ report.config = none := by
  cases e with
  | misconfigured problem => exact ⟨_, _, _, ends_refuse_misconfigured problem journal, rfl⟩
  | _ => exact ⟨_, journal, [], ends_done _ journal, rfl⟩

section Resolve

variable {prep : Preparation} {left : Journal} {notes es : List Event}

private theorem ends_resolve_of_ok {cfg : Config}
    (h : ((options.resolve env).run journal.tree).outcome = .ok cfg)
    (hnotes : Ends (Journal.follow ((options.resolve env).run journal.tree).events) journal ()
      (noted options env journal) notes)
    (hsetUp : Ends (setUp cfg) (noted options env journal) prep left es) :
    Ends (resolve options env) journal prep left (notes ++ es) := by
  have htree : Ends (gets Journal.tree) journal journal.tree journal [] := rfl
  refine htree.bind (hnotes.bind ?_)
  rw [h]
  exact hsetUp

private theorem ends_resolve_of_error {e : Failure}
    (h : ((options.resolve env).run journal.tree).outcome = .error e)
    (hnotes : Ends (Journal.follow ((options.resolve env).run journal.tree).events) journal ()
      (noted options env journal) notes)
    (hrefuse : Ends (refuse e) (noted options env journal) prep left es) :
    Ends (resolve options env) journal prep left (notes ++ es) := by
  have htree : Ends (gets Journal.tree) journal journal.tree journal [] := rfl
  refine htree.bind (hnotes.bind ?_)
  rw [h]
  exact hrefuse

end Resolve

private theorem ends_prepare_of_parse {prep : Preparation} {left : Journal} {es : List Event}
    (hparse : CommandLine.parse arguments = .ok options)
    (h : Ends (resolve options env) journal prep left es) :
    Ends (prepare arguments env) journal prep left es := by
  rw [prepare, hparse]
  exact h

/-- A preparation comes to a configuration that the options of the command line lead to, or to a
report of a program that runs no session. -/
theorem exists_ends_prepare (arguments : List String) (env : Config.Environment)
    (journal : Journal) :
    ∃ prep left es, Ends (prepare arguments env) journal prep left es ∧
      prep.From arguments env journal.tree := by
  cases hparse : CommandLine.parse arguments with
  | error notice =>
    cases notice with
    | help =>
      refine ⟨.over ⟨.exit 0, none, CommandLine.help, ""⟩, journal, [], ?_, rfl⟩
      rw [prepare, hparse]
      exact ends_done _ journal
    | misuse e =>
      refine ⟨.over ⟨.exit 2, none, "", CommandLine.report e⟩, journal, [], ?_, rfl⟩
      rw [prepare, hparse]
      exact ends_done _ journal
  | ok options =>
    obtain ⟨notes, hnotes, _⟩ := exists_ends_noted options env journal
    cases h : ((options.resolve env).run journal.tree).outcome with
    | ok cfg =>
      obtain ⟨prep, left, es, hsetUp, hprep⟩ := exists_ends_setUp cfg (noted options env journal)
      refine ⟨prep, left, notes ++ es,
        ends_prepare_of_parse hparse (ends_resolve_of_ok h hnotes hsetUp), ?_⟩
      rcases hprep with rfl | ⟨report, rfl, hreport⟩
      · exact ⟨options, hparse, h⟩
      · exact hreport
    | error e =>
      obtain ⟨report, left, es, hrefuse, hreport⟩ :=
        exists_ends_refuse e (noted options env journal)
      exact ⟨.over report, left, notes ++ es,
        ends_prepare_of_parse hparse (ends_resolve_of_error h hnotes hrefuse), hreport⟩

/-- A conversation ends with a report of its configuration. It opens the line first, if it is not
open, and does so once. -/
private theorem exists_ends_converse (cfg : Config) (session : Session) (journal : Journal) :
    ∃ ending left later, Ends (converse cfg session) journal (quiet ending (some cfg)) left
        ((if session.port.isOpen then [] else [.opened cfg.device cfg.baudrate]) ++ later) ∧
      ∀ e ∈ later, e.isNoOpening := by
  obtain ⟨later, hlater, hkind⟩ := Session.events_run cfg session
  obtain ⟨left, hfollow⟩ := Journal.ends_follow ((Session.run cfg).run session).events journal
  have hpassed : List.filter journal.passes
      (if session.port.isOpen then [] else [.opened cfg.device cfg.baudrate]) =
        if session.port.isOpen then [] else [.opened cfg.device cfg.baudrate] := by
    split <;> rfl
  have hevents : ((Session.run cfg).run session).events.filter journal.passes =
      (if session.port.isOpen then [] else [.opened cfg.device cfg.baudrate])
        ++ later.filter journal.passes := by
    rw [hlater, List.filter_append, hpassed]
  rw [hevents] at hfollow
  have hkept : ∀ e ∈ later.filter journal.passes, e.isNoOpening :=
    fun e he => hkind e (List.mem_filter.mp he).1
  cases h : ((Session.run cfg).run session).outcome with
  | ok code =>
    refine ⟨.status code, left, _, ?_, hkept⟩
    rw [← List.append_nil (_ ++ _)]
    refine hfollow.bind ?_
    rw [h]
    exact ends_done _ left
  | error e =>
    refine ⟨.failed e, left, _, ?_, hkept⟩
    rw [← List.append_nil (_ ++ _)]
    refine hfollow.bind ?_
    rw [h]
    exact ends_done _ left

end Steps

/-- What a program has done when it ends, and how it ends before there is a session. -/
structure Orderly (arguments : List String) (world : World) (journal : Journal)
    (step : Step Journal Report) : Prop where
  /-- Whatever happens, there is a report. -/
  reported : ∃ report, step.outcome = .ok report
  /-- Without a session there are no events but records. -/
  idle : ∀ report, step.outcome = .ok report → report.config = none → ∀ e ∈ step.events, e.isRecord
  /-- A problem of the configuration is the only error that is recorded. The usage is printed. -/
  misconfigured : ∀ options problem, CommandLine.parse arguments = .ok options →
    ((options.resolve world.environment).run journal.tree).outcome =
      .error (.misconfigured problem) →
    step.outcome = .ok ⟨.status 1, none, "", CommandLine.usage⟩ ∧
      step.events.filter Event.isErrorRecord = [.record .error problem.message]
  /-- So is a log directory that the operating system refuses. Nothing is printed. -/
  unloggable : ∀ options cfg e, CommandLine.parse arguments = .ok options →
    ((options.resolve world.environment).run journal.tree).outcome = .ok cfg →
    ((Journal.configure cfg.debug cfg.logDir).run
      (noted options world.environment journal)).outcome = .error e → e.isSystem →
    step.outcome = .ok ⟨.status 1, none, "", ""⟩ ∧
      step.events.filter Event.isErrorRecord =
        [.record .error s!"Cannot log to {cfg.logDir}: {e.message}"]
  /-- A session is run with a configuration that the options lead to, and it opens its port. -/
  session : ∀ report cfg, step.outcome = .ok report → report.config = some cfg →
    (∃ options, CommandLine.parse arguments = .ok options ∧
      ((options.resolve world.environment).run journal.tree).outcome = .ok cfg) ∧
      (¬ world.session.port.isOpen → .opened cfg.device cfg.baudrate ∈ step.events)
  /-- A line is opened with a configuration that may be used, after nothing but records, and no
  other one is. -/
  opened : ∀ port baudrate, .opened port baudrate ∈ step.events →
    ∃ report cfg earlier later, step.outcome = .ok report ∧ report.config = some cfg ∧ cfg.Valid ∧
      port = cfg.device ∧ baudrate = cfg.baudrate ∧
      step.events = earlier ++ .opened port baudrate :: later ∧
      (∀ e ∈ earlier, e.isRecord) ∧ ∀ e ∈ later, e.isNoOpening

section Run

variable {arguments : List String} {world : World} {journal : Journal}

private theorem opened_not_mem_of_isNoOpening {es : List Event} (h : ∀ e ∈ es, e.isNoOpening)
    (port : String) (baudrate : Int) : .opened port baudrate ∉ es :=
  fun hmem => absurd (h _ hmem) Bool.false_ne_true

private theorem isNoOpening_of_isRecord {e : Event} (h : e.isRecord) : e.isNoOpening := by
  cases e with
  | record => rfl
  | _ => cases h

private theorem ends_run_over {report : Report} {left : Journal} {es : List Event}
    (h : Ends (prepare arguments world.environment) journal (.over report) left es) :
    Ends (run arguments world) journal report left es := by
  rw [← List.append_nil es]
  exact h.bind (ends_done report left)

private theorem filter_isErrorRecord_append {notes : List Event}
    (h : ∀ e ∈ notes, e.isDebugRecord) (text : String) :
    (notes ++ [Event.record .error text]).filter Event.isErrorRecord = [.record .error text] := by
  rw [List.filter_append, List.filter_eq_nil_iff.mpr fun e he =>
    Event.not_isErrorRecord_of_isDebugRecord (h e he)]
  rfl

/-- What is told of a program that stops before a session. -/
private theorem of_over {options : CommandLine.Options} {report : Report} {text : String}
    {left : Journal} {notes : List Event} (hparse : CommandLine.parse arguments = .ok options)
    (hnotes : ∀ e ∈ notes, e.isDebugRecord)
    (h : Ends (resolve options world.environment) journal (.over report) left
      (notes ++ [.record .error text])) :
    ((run arguments world).run journal).outcome = .ok report ∧
      ((run arguments world).run journal).events.filter Event.isErrorRecord =
        [.record .error text] := by
  have hrun : Ends (run arguments world) journal report left (notes ++ [.record .error text]) :=
    ends_run_over (ends_prepare_of_parse hparse h)
  rw [hrun]
  exact ⟨rfl, filter_isErrorRecord_append hnotes text⟩

/-- The courses that a program can take, with its report and its events. -/
private inductive Course (arguments : List String) (world : World) (tree : FileTree) :
    Report → List Event → Prop where
  | idle {report : Report} {notes : List Event} (hreport : report.config = none)
      (hnotes : ∀ e ∈ notes, e.isRecord) : Course arguments world tree report notes
  | session {cfg : Config} {options : CommandLine.Options} {ending : Ending}
      {notes later : List Event} (hparse : CommandLine.parse arguments = .ok options)
      (hresolve : ((options.resolve world.environment).run tree).outcome = .ok cfg)
      (hnotes : ∀ e ∈ notes, e.isRecord) (hlater : ∀ e ∈ later, e.isNoOpening) :
      Course arguments world tree (quiet ending (some cfg))
        (notes ++ ((if world.session.port.isOpen then [] else [.opened cfg.device cfg.baudrate])
          ++ later))

private theorem exists_course (arguments : List String) (world : World) (journal : Journal) :
    ∃ report left es, Ends (run arguments world) journal report left es ∧
      Course arguments world journal.tree report es := by
  obtain ⟨prep, between, notes, hprepare, hfrom⟩ :=
    exists_ends_prepare arguments world.environment journal
  have hnotes := (emits_prepare arguments world.environment).all hprepare
  rcases prep with cfg | report
  · obtain ⟨options, hparse, hresolve⟩ := hfrom
    obtain ⟨ending, left, later, hconverse, hlater⟩ :=
      exists_ends_converse cfg world.session between
    exact ⟨_, left, _, hprepare.bind hconverse, .session hparse hresolve hnotes hlater⟩
  · exact ⟨report, between, notes, ends_run_over hprepare, .idle hfrom hnotes⟩

section Course

variable {tree : FileTree} {report : Report} {es : List Event}

private theorem Course.isRecord (h : Course arguments world tree report es)
    (hconfig : report.config = none) : ∀ e ∈ es, e.isRecord := by
  cases h with
  | idle _ hnotes => exact hnotes
  | session => cases hconfig

private theorem Course.resolved {cfg : Config} (h : Course arguments world tree report es)
    (hconfig : report.config = some cfg) :
    (∃ options, CommandLine.parse arguments = .ok options ∧
      ((options.resolve world.environment).run tree).outcome = .ok cfg) ∧
      (¬ world.session.port.isOpen → .opened cfg.device cfg.baudrate ∈ es) := by
  cases h with
  | idle hreport =>
    rw [hreport] at hconfig
    cases hconfig
  | session hparse hresolve _ _ =>
    obtain rfl := Option.some.inj hconfig
    refine ⟨⟨_, hparse, hresolve⟩, fun hclosed => ?_⟩
    rw [if_neg hclosed]
    exact List.mem_append_right _ List.mem_cons_self

private theorem Course.opened {port : String} {baudrate : Int}
    (h : Course arguments world tree report es) (hmem : .opened port baudrate ∈ es) :
    ∃ cfg earlier later, report.config = some cfg ∧ cfg.Valid ∧
      port = cfg.device ∧ baudrate = cfg.baudrate ∧
      es = earlier ++ .opened port baudrate :: later ∧
      (∀ e ∈ earlier, e.isRecord) ∧ ∀ e ∈ later, e.isNoOpening := by
  cases h with
  | idle _ hnotes =>
    refine absurd hmem (opened_not_mem_of_isNoOpening (fun e he => ?_) port baudrate)
    exact isNoOpening_of_isRecord (hnotes e he)
  | session hparse hresolve hnotes hlater =>
    have hmem' := (List.mem_append.mp hmem).resolve_left
      (opened_not_mem_of_isNoOpening (fun e he => isNoOpening_of_isRecord (hnotes e he)) _ _)
    have hfirst := (List.mem_append.mp hmem').resolve_right
      (opened_not_mem_of_isNoOpening hlater _ _)
    split at hfirst
    · cases hfirst
    · next hclosed =>
      obtain ⟨rfl, rfl⟩ := Event.opened.inj (List.mem_singleton.mp hfirst)
      rw [if_neg hclosed]
      exact ⟨_, _, _, rfl, CommandLine.Options.valid_of_resolve hresolve, rfl, rfl, rfl, hnotes,
        hlater⟩

end Course

/-- A program opens its line only with a configuration that may be used and before it does anything
else but record. Without a session it does nothing else at all. -/
theorem run_orderly (arguments : List String) (world : World) (journal : Journal) :
    Orderly arguments world journal ((run arguments world).run journal) := by
  obtain ⟨report, left, es, hrun, hcourse⟩ := exists_course arguments world journal
  refine ⟨?reported, ?idle, ?misconfigured, ?unloggable, ?session, ?opened⟩
  case misconfigured =>
    intro options problem hparse h
    obtain ⟨notes, hnotes, hkind⟩ := exists_ends_noted options world.environment journal
    exact of_over hparse hkind
      (ends_resolve_of_error h hnotes (ends_refuse_misconfigured problem _))
  case unloggable =>
    intro options cfg e hparse hresolve h he
    obtain ⟨notes, hnotes, hkind⟩ := exists_ends_noted options world.environment journal
    obtain ⟨_, hsetUp⟩ := exists_ends_setUp_refused h he
    exact of_over hparse hkind (ends_resolve_of_ok hresolve hnotes hsetUp)
  case reported => exact ⟨report, congrArg Step.outcome hrun⟩
  all_goals rw [hrun]
  case idle =>
    rintro _ ⟨⟩ hconfig
    exact hcourse.isRecord hconfig
  case session =>
    rintro _ cfg ⟨⟩ hconfig
    exact hcourse.resolved hconfig
  case opened =>
    intro port baudrate hmem
    obtain ⟨cfg, earlier, later, hopened⟩ := hcourse.opened hmem
    exact ⟨report, cfg, earlier, later, rfl, hopened⟩

/-- A log directory that may not be written to ends the program. Nothing happens but records, of
which the last one tells the directory. -/
theorem run_of_unwritable {options : CommandLine.Options} {cfg : Config} {made : FileTree}
    (hparse : CommandLine.parse arguments = .ok options)
    (hresolve : ((options.resolve world.environment).run journal.tree).outcome = .ok cfg)
    (hdirectory : cfg.logDir ≠ "")
    (hmade : journal.tree.makeDirectories cfg.logDir.toList = (made, none))
    (hwritable : ¬ made.mayWrite cfg.logDir.toList) :
    ∃ left notes, Ends (run arguments world) journal (quiet (.status 1) none) left
        (notes ++ [.record .error
          s!"Cannot log to {cfg.logDir}: {(Failure.unwritable cfg.logDir).message}"]) ∧
      ∀ e ∈ notes, e.isDebugRecord := by
  obtain ⟨notes, hnotes, hkind⟩ := exists_ends_noted options world.environment journal
  rw [← tree_noted options world.environment journal] at hmade
  have hrefused := Journal.run_configure_of_unwritable cfg.debug hdirectory hmade hwritable
  obtain ⟨left, hsetUp⟩ := exists_ends_setUp_refused (congrArg Step.outcome hrefused) rfl
  have hresolved := ends_resolve_of_ok hresolve hnotes hsetUp
  exact ⟨left, notes, ends_run_over (ends_prepare_of_parse hparse hresolved), hkind⟩

/-- A directory that is there already, without the right to write to it. -/
example :
    let tree : FileTree :=
      ⟨[['w']], [([['w']], .directory), ([['l'], ['w']], .directory { write := false })]⟩
    let session : Session :=
      ⟨.ofLine ⟨[], ⟨[], []⟩, [], []⟩, [], .ofReadings [], .willing, .ofRegistrations [], [], .none⟩
    ((run ["--logdir", "l"] ⟨[], session⟩).run (.create tree false)).events =
      [.record .error "Cannot log to l: Cannot write to log directory: l"] := by
  decide +kernel

end Run

end Program

end SerialTerminal
