import SerialTerminal.Keyboard
import SerialTerminal.Proofs.Act
import SerialTerminal.SerialPort

/-!
# Ports in use

A session hands its terminal the two halves of its port and what is left of the keyboard, with the
failures as the terminal is to see them (`SPEC_FULL.md` §11). `answers_onPort` says that nothing is
lost by that: calls of an open port, in whatever order and however they end, are answered as the
calls of its halves are, and with the same events. `answers_read_guarded` says so of the keyboard.

Each is a simulation: one call keeps the two sides alike, and so does a run of calls.
-/

namespace SerialTerminal

open Act

/-- Holds of two steps that end alike, with the same events and in states that are related. -/
structure StepsAlike {σ τ α : Type} (R : σ → τ → Prop) (x : Step σ α) (y : Step τ α) : Prop where
  outcome : x.outcome = y.outcome
  events : x.events = y.events
  state : R x.state y.state

section Answers

variable {ι σ τ α : Type}

/-- The answers to calls one after another, with the events of each. A call that fails does not end
them. -/
def answers (f : ι → Act σ α) (s : σ) : List ι → List (Except Failure α × List Event)
  | [] => []
  | call :: rest =>
    let step := (f call).run s
    (step.outcome, step.events) :: answers f step.state rest

/-- Calls that are alike each are answered alike. -/
theorem answers_eq {R : σ → τ → Prop} {f : ι → Act σ α} {g : ι → Act τ α}
    (h : ∀ s t, R s t → ∀ call, StepsAlike R ((f call).run s) ((g call).run t)) {s : σ} {t : τ}
    (hst : R s t) (calls : List ι) : answers f s calls = answers g t calls := by
  induction calls generalizing s t with
  | nil => rfl
  | cons call rest ih =>
    have hcall := h s t hst call
    rw [answers, answers, hcall.outcome, hcall.events, ih hcall.state]

end Answers

section Scripts

variable (f : Failure → Failure)

/-- Bytes that are read from a script whose failures were changed. -/
theorem run_readChunk_mapFailures (source : Handle) (limit : Nat) (script : Script (List UInt8)) :
    (readChunk source limit).run (script.mapFailures f) =
      ⟨((readChunk source limit).run script).outcome.mapError f,
        ((readChunk source limit).run script).state.mapFailures f,
        ((readChunk source limit).run script).events⟩ := by
  rcases script with _ | ⟨_ | chunk, rest⟩
  · rfl
  · rfl
  · have hleft : (if (chunk.drop limit).isEmpty then Script.mapFailures f rest
        else .ok (chunk.drop limit) :: Script.mapFailures f rest) =
          Script.mapFailures f (if (chunk.drop limit).isEmpty then rest
            else .ok (chunk.drop limit) :: rest) := by
      split <;> rfl
    exact congrArg (Step.mk (.ok (chunk.take limit)) · [.read source limit]) hleft

end Scripts

namespace SerialPort

/-- A call of a port. -/
inductive Call where
  | read (limit : Nat)
  | write (bytes : List UInt8)
  | flush

/-- What a call of a port gives. -/
inductive Answer where
  | bytes (data : List UInt8)
  | count (n : Int)
  | done

/-- The two halves of an open port, as a terminal has them. -/
structure Halves where
  incoming : Script (List UInt8)
  output : LineOutput

/-- The halves of a port. -/
def halves (port : SerialPort) : Halves := ⟨port.incoming, port.output⟩

namespace Call

/-- A call of the port itself. -/
def onPort : Call → Act SerialPort Answer
  | read limit => do return .bytes (← SerialPort.read limit)
  | write bytes => do return .count (← SerialPort.write bytes)
  | flush => do
    SerialPort.flush
    return .done

/-- The same call of its halves. -/
def onHalves : Call → Act Halves Answer
  | read limit => do
    let data ← Act.on Halves.incoming (fun incoming h => { h with incoming := incoming })
      (readChunk .line limit)
    return .bytes data
  | write bytes => do
    let count ← Act.on Halves.output (fun output h => { h with output := output })
      (LineOutput.write bytes)
    return .count (count.getD 0)
  | flush => do
    Act.on Halves.output (fun output h => { h with output := output }) LineOutput.flush
    return .done

end Call

/-- Holds of an open port that has some halves. -/
def OpenWith (port : SerialPort) (halves : Halves) : Prop := port.isOpen ∧ port.halves = halves

section Open

variable {port : SerialPort}

private theorem ends_requireOpen (h : port.isOpen) : Ends requireOpen port () port [] := by
  refine Ends.bind (rfl : Ends (gets isOpen) port port.isOpen port []) ?_
  rw [if_pos h]
  exact ends_done () port

/-- What an open port reads is what its receiving half reads. -/
theorem stepsAlike_read (h : port.isOpen) (limit : Nat) :
    StepsAlike OpenWith ((Call.read limit).onPort.run port)
      ((Call.read limit).onHalves.run port.halves) := by
  have hread : (SerialPort.read limit).run port =
      ⟨((readChunk .line limit).run port.line.incoming).outcome.mapError readFailure,
        { port with
          line.incoming := ((readChunk .line limit).run port.line.incoming).state },
        ((readChunk .line limit).run port.line.incoming).events⟩ := by
    rw [SerialPort.read, run_bind_of_ok _ (ends_requireOpen h)]
    rfl
  have hhalf := run_readChunk_mapFailures readFailure .line limit port.line.incoming
  generalize (readChunk .line limit).run port.line.incoming = step at hread hhalf
  have hon : (Act.on Halves.incoming (fun incoming h => { h with incoming := incoming })
      (readChunk .line limit)).run port.halves =
        ⟨step.outcome.mapError readFailure,
          { port.halves with incoming := step.state.mapFailures readFailure }, step.events⟩ :=
    run_on hhalf
  rw [Call.onPort, Call.onHalves]
  rcases step with ⟨cause | data, rest, es⟩
  · rw [run_bind_of_error _ hread, run_bind_of_error _ hon]
    exact ⟨rfl, rfl, h, rfl⟩
  · rw [run_bind_of_ok _ hread, run_bind_of_ok _ hon]
    exact ⟨rfl, rfl, h, rfl⟩

/-- What an open port writes is what its sending half writes. A device without a count takes
nothing, as the port reports it. -/
theorem stepsAlike_write (h : port.isOpen) (bytes : List UInt8) :
    StepsAlike OpenWith ((Call.write bytes).onPort.run port)
      ((Call.write bytes).onHalves.run port.halves) := by
  rcases port with ⟨⟨incoming, ⟨acceptances, flushes⟩, openings, closings⟩, isOpen, name⟩
  obtain rfl : isOpen = true := h
  rcases acceptances with _ | ⟨_ | acceptance, rest⟩
  · exact ⟨rfl, rfl, rfl, rfl⟩
  · exact ⟨rfl, rfl, rfl, rfl⟩
  · cases acceptance <;> exact ⟨rfl, rfl, rfl, rfl⟩

/-- What an open port flushes is what its sending half flushes. -/
theorem stepsAlike_flush (h : port.isOpen) :
    StepsAlike OpenWith (Call.flush.onPort.run port) (Call.flush.onHalves.run port.halves) := by
  rcases port with ⟨⟨incoming, ⟨acceptances, flushes⟩, openings, closings⟩, isOpen, name⟩
  obtain rfl : isOpen = true := h
  rcases flushes with _ | ⟨_ | _, rest⟩ <;> exact ⟨rfl, rfl, rfl, rfl⟩

/-- Calls of an open port are answered as the calls of its halves are. -/
theorem answers_onPort (h : port.isOpen) (calls : List Call) :
    answers Call.onPort port calls = answers Call.onHalves port.halves calls := by
  refine answers_eq (R := OpenWith) ?_ ⟨h, rfl⟩ calls
  rintro port _ ⟨hopen, rfl⟩ call
  cases call with
  | read limit => exact stepsAlike_read hopen limit
  | write bytes => exact stepsAlike_write hopen bytes
  | flush => exact stepsAlike_flush hopen

/-- A port that is not open refuses every call, and nothing happens. -/
theorem run_onPort_of_closed (h : ¬ port.isOpen) (call : Call) :
    call.onPort.run port = ⟨.error (.fatal .portNotOpen), port, []⟩ := by
  rcases port with ⟨line, isOpen, name⟩
  obtain rfl : isOpen = false := Bool.eq_false_iff.mpr h
  cases call <;> rfl

end Open

end SerialPort

namespace Keyboard

/-- What is read of the keyboard is read of what its readers see. -/
theorem answers_read_guarded (typed : Script (List UInt8)) (limits : List Nat) :
    answers read typed limits = answers (readChunk .keyboard) (guarded typed) limits := by
  refine answers_eq (R := fun typed seen => guarded typed = seen) ?_ rfl limits
  rintro typed _ rfl limit
  rw [guarded, run_readChunk_mapFailures]
  exact ⟨rfl, rfl, rfl⟩

end Keyboard

end SerialTerminal
