import SerialTerminal.Event
import SerialTerminal.Failure

/-!
# Acts

An act is a step that may fail. It runs on a state and tells how it ended, the state that it left
and the events that it caused, in order. A failure undoes nothing: the state and the events up to it
stay. Acts run one after another by `>>=`; the events of the first come before those of the second.

The state is always a value of the domain. Where an act works on a part of a state, `Act.on` says
which part.
-/

namespace SerialTerminal

/-- What an act leaves behind. -/
structure Step (σ α : Type) where
  outcome : Except Failure α
  state : σ
  events : List Event

/-- A step on states of type `σ` with results of type `α`. -/
def Act (σ α : Type) : Type := σ → Step σ α

namespace Act

variable {σ τ α β : Type}

/-- Runs an act. -/
def run (x : Act σ α) (s : σ) : Step σ α := x s

/-- The act that does nothing and gives a result. -/
def done (a : α) : Act σ α := fun s => ⟨.ok a, s, []⟩

/-- One act after another. The second is left out if the first fails. -/
def andThen (x : Act σ α) (f : α → Act σ β) : Act σ β := fun s =>
  match x s with
  | ⟨.ok a, s', es⟩ =>
    let next := f a s'
    ⟨next.outcome, next.state, es ++ next.events⟩
  | ⟨.error e, s', es⟩ => ⟨.error e, s', es⟩

instance : Monad (Act σ) where
  pure := done
  bind := andThen

/-- The state. -/
def get : Act σ σ := fun s => ⟨.ok s, s, []⟩

/-- A part of the state. -/
def gets (f : σ → α) : Act σ α := fun s => ⟨.ok (f s), s, []⟩

/-- Changes the state. -/
def modify (f : σ → σ) : Act σ Unit := fun s => ⟨.ok (), f s, []⟩

/-- Fails. -/
def fail (e : Failure) : Act σ α := fun s => ⟨.error e, s, []⟩

/-- Causes an event. -/
def emit (e : Event) : Act σ Unit := fun s => ⟨.ok (), s, [e]⟩

/-- Hands a record to the journal. -/
def log (severity : Severity) (text : String) : Act σ Unit := emit (.record severity text)

/-- Gives a result or fails. -/
def ofExcept : Except Failure α → Act σ α
  | .ok a => done a
  | .error e => fail e

/-- Runs an act and tells how it ended instead of failing. -/
def attempt (x : Act σ α) : Act σ (Except Failure α) := fun s =>
  let step := x s
  ⟨.ok step.outcome, step.state, step.events⟩

/-- Changes the failure of an act. -/
def mapFailure (f : Failure → Failure) (x : Act σ α) : Act σ α := fun s =>
  let step := x s
  ⟨step.outcome.mapError f, step.state, step.events⟩

/-- Runs an act on a part of the state. -/
def on (part : σ → τ) (put : τ → σ → σ) (x : Act τ α) : Act σ α := fun s =>
  let step := x (part s)
  ⟨step.outcome, put step.state s, step.events⟩

/-- Runs an act for each element of a list, in order. -/
def forEach (f : α → Act σ Unit) : List α → Act σ Unit
  | [] => done ()
  | a :: rest => f a >>= fun _ => forEach f rest

@[simp] theorem run_pure (a : α) (s : σ) : (pure a : Act σ α).run s = ⟨.ok a, s, []⟩ := rfl

/-- A bind of a step that ended well goes on from its state. -/
theorem run_bind_of_ok {x : Act σ α} {s s' : σ} {a : α} {es : List Event} (f : α → Act σ β)
    (h : x.run s = ⟨.ok a, s', es⟩) :
    (x >>= f).run s =
      ⟨((f a).run s').outcome, ((f a).run s').state, es ++ ((f a).run s').events⟩ := by
  simp only [run] at h ⊢
  simp only [bind, andThen, h]

/-- A bind of a step that failed stops there. -/
theorem run_bind_of_error {x : Act σ α} {s s' : σ} {e : Failure} {es : List Event}
    (f : α → Act σ β) (h : x.run s = ⟨.error e, s', es⟩) :
    (x >>= f).run s = ⟨.error e, s', es⟩ := by
  simp only [run] at h ⊢
  simp only [bind, andThen, h]

end Act

end SerialTerminal
