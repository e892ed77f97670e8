import SerialTerminal.Proofs.Calls
import SerialTerminal.Transmitter

/-!
# Sending

What a transmitter does with a chunk when nothing fails: the events are known beforehand
(`causes_send`), and what they write is the chunk, between delimiters where chunks are framed
(`sentBytes_trace`). The answers of the device count only by whether they let it go on, and a pause
by whether it can be made.
-/

namespace SerialTerminal

/-- The bytes that an event sends to the device. -/
def Event.sentBytes : Event → List UInt8
  | .written bytes => bytes
  | _ => []

/-- Holds of the events that sending causes. -/
def Event.isSending : Event → Bool
  | .written _ | .flushed | .slept _ | .record .debug _ => true
  | _ => false

/-- Holds of the answers with which a device takes nothing. -/
def Acceptance.isRefusal : Acceptance → Bool
  | .everything => false
  | .count n => n ≤ 0
  | .nothing => true

/-- The failure that an answer to a write leads to. To take nothing is one. -/
def Acceptance.refusal? : Except Failure Acceptance → Option Failure
  | .error e => some e
  | .ok acceptance => if acceptance.isRefusal then some (.fatal .nothingAccepted) else none

/-- Holds of a device that takes something of every write and fails no flush. -/
def LineOutput.Accepts (l : LineOutput) : Prop :=
  (∀ reply ∈ l.acceptances, Acceptance.refusal? reply = none) ∧
    ∀ reply ∈ l.flushes, reply = .ok ()

namespace Transmitter

open Act

/-- The events of a byte that is sent. -/
def byteTrace (t : Transmitter) (b : UInt8) : List Event :=
  [.written [b], .flushed] ++ if t.pause.isPositive then [.slept t.pause] else []

/-- The events of a chunk that is sent. -/
def trace (t : Transmitter) (data : List UInt8) : List Event :=
  [.record .debug s!"SEND {data.length} bytes"]
    ++ ((if t.framed then [.written [Slip.frameEnd]] else [])
      ++ (data.flatMap t.byteTrace
        ++ if t.framed then [.written [Slip.frameEnd], .flushed] else []))

/-- The bytes that a chunk is sent as. -/
def wireBytes (t : Transmitter) (data : List UInt8) : List UInt8 :=
  if t.framed then Slip.frameEnd :: data ++ [Slip.frameEnd] else data

private theorem causes_put (bytes : List UInt8) : Causes (put bytes) [.written bytes] := by
  have hw : Causes (LineOutput.write bytes) [.written bytes] :=
    (causes_emit _).bind fun _ =>
      ((causes_next _).on LineOutput.acceptances _).bind fun _ => causes_done _
  rw [← List.append_nil [Event.written bytes]]
  refine hw.bind fun count => ?_
  cases count with
  | none => exact causes_fail _ _
  | some n =>
    simp only
    split
    · exact causes_fail _ _
    · exact causes_done _

private theorem causes_flush : Causes LineOutput.flush [.flushed] :=
  (causes_emit _).bind fun _ => (causes_next _).on LineOutput.flushes _

private theorem causes_takePause (t : Transmitter) : Causes t.takePause [.slept t.pause] := by
  rw [← List.append_nil [Event.slept t.pause]]
  refine (causes_emit _).bind fun _ => ?_
  split
  · exact causes_fail _ _
  · exact causes_done _

private theorem causes_sendByte (t : Transmitter) (b : UInt8) :
    Causes (t.sendByte b) (t.byteTrace b) := by
  refine (causes_put [b]).bind fun _ => causes_flush.bind fun _ => ?_
  split
  · exact causes_takePause t
  · exact causes_done _

/-- A chunk that is sent causes the events of its bytes, one after another. -/
theorem causes_send (t : Transmitter) (data : List UInt8) :
    Causes (t.send data) (t.trace data) := by
  refine (causes_emit _).bind fun _ => ?_
  by_cases hf : t.framed
  · simp only [hf, ↓reduceIte]
    refine (causes_put _).bind fun _ => (causes_forEach (causes_sendByte t) data).bind fun _ => ?_
    exact (causes_put _).bind fun _ => causes_flush
  · simp only [hf, Bool.false_eq_true, ↓reduceIte]
    refine (causes_done ()).bind fun _ => (causes_forEach (causes_sendByte t) data).bind fun _ => ?_
    exact causes_done ()

/-- They write the chunk, between delimiters where chunks are framed. -/
theorem sentBytes_trace (t : Transmitter) (data : List UInt8) :
    (t.trace data).flatMap Event.sentBytes = t.wireBytes data := by
  have hbyte (b : UInt8) : (t.byteTrace b).flatMap Event.sentBytes = [b] := by
    rw [byteTrace]
    split <;> rfl
  have hdata : (data.flatMap t.byteTrace).flatMap Event.sentBytes = data := by
    rw [List.flatMap_assoc]
    simp only [hbyte, List.flatMap_singleton']
  rw [trace, wireBytes, List.flatMap_append, List.flatMap_append, List.flatMap_append, hdata]
  split <;> simp [Event.sentBytes]

/-- A byte is written, and the answer to that tells whether it can go on. -/
theorem run_put (b : UInt8) (l : LineOutput) :
    (put [b]).run l =
      ⟨match l.acceptances.head?.bind Acceptance.refusal? with
        | some e => .error e
        | none => .ok (), { l with acceptances := l.acceptances.tail }, [.written [b]]⟩ := by
  rcases l with ⟨_ | ⟨_ | acceptance, rest⟩, flushes⟩
  · rfl
  · rfl
  · cases acceptance with
    | everything | nothing => rfl
    | count n =>
      by_cases hn : n ≤ 0
      · simp [put, LineOutput.write, run, bind, andThen, emit, Act.on, Script.next,
          Acceptance.reported, Acceptance.refusal?, Acceptance.isRefusal, hn, pure, done, fail]
      · simp [put, LineOutput.write, run, bind, andThen, emit, Act.on, Script.next,
          Acceptance.reported, Acceptance.refusal?, Acceptance.isRefusal, hn, pure, done]

/-- A pause is made, or is too long. -/
theorem run_takePause (t : Transmitter) (l : LineOutput) :
    t.takePause.run l =
      ⟨if t.tooLong then .error .pauseTooLong else .ok (), l, [.slept t.pause]⟩ := by
  rw [takePause, run_bind_of_ok _ (ends_emit _ l)]
  split <;> rfl

/-- The calls that sending is made of. -/
inductive IsCall (t : Transmitter) : (α : Type) → Act LineOutput α → Prop where
  | put (b : UInt8) : IsCall t Unit (put [b])
  | flush : IsCall t Unit LineOutput.flush
  | sleep : IsCall t Unit t.takePause
  | note (text : String) : IsCall t Unit (Act.log .debug text)

private theorem madeOf_sendByte (t : Transmitter) (b : UInt8) :
    MadeOf t.IsCall Unit (t.sendByte b) := by
  refine (MadeOf.call (.put b)).bind fun _ => (MadeOf.call .flush).bind fun _ => ?_
  split
  · exact .call .sleep
  · exact .done ()

/-- A chunk is sent by calls. -/
theorem madeOf_send (t : Transmitter) (data : List UInt8) :
    MadeOf t.IsCall Unit (t.send data) := by
  have hbytes := madeOf_forEach (madeOf_sendByte t) data
  refine (MadeOf.call (.note _)).bind fun _ => ?_
  split
  · refine (MadeOf.call (.put _)).bind fun _ => hbytes.bind fun _ => ?_
    exact (MadeOf.call (.put _)).bind fun _ => .call .flush
  · exact hbytes.bind fun _ => .done ()

/-- A pause that is not too long is made. -/
theorem ends_takePause {t : Transmitter} (h : ¬ t.tooLong) (l : LineOutput) :
    Ends t.takePause l () l [.slept t.pause] := by
  rw [Ends, run_takePause, if_neg h]

private theorem accepts_put {l : LineOutput} (h : l.Accepts) (b : UInt8) :
    ∃ l' es, Ends (put [b]) l () l' es ∧ l'.Accepts := by
  have ha : l.acceptances.head?.bind Acceptance.refusal? = none := by
    cases hl : l.acceptances with
    | nil => rfl
    | cons reply rest => exact h.1 reply (hl ▸ List.mem_cons_self)
  have hr := run_put b l
  rw [ha] at hr
  exact ⟨_, _, hr, fun reply hm => h.1 reply (List.mem_of_mem_tail hm), h.2⟩

private theorem accepts_flush {l : LineOutput} (h : l.Accepts) :
    ∃ l' es, Ends LineOutput.flush l () l' es ∧ l'.Accepts := by
  rcases l with ⟨acceptances, _ | ⟨reply, rest⟩⟩
  · exact ⟨_, _, rfl, h⟩
  · obtain rfl := h.2 reply List.mem_cons_self
    exact ⟨_, _, rfl, h.1, fun reply hm => h.2 reply (List.mem_cons_of_mem _ hm)⟩

/-- Over a line that refuses nothing chunks are sent one after another, with the events that are
known, if the pauses can be made. -/
theorem exists_ends_sendAll {t : Transmitter} (ht : ¬ t.tooLong) {l : LineOutput} (h : l.Accepts)
    (chunks : List (List UInt8)) :
    ∃ l', Ends (forEach t.send chunks) l () l' (chunks.flatMap t.trace) := by
  have hcall (β : Type) (y : Act LineOutput β) (hy : t.IsCall β y) (l : LineOutput)
      (hl : l.Accepts) : ∃ b l' es, Ends y l b l' es ∧ l'.Accepts := by
    cases hy with
    | put b => exact ⟨(), accepts_put hl b⟩
    | flush => exact ⟨(), accepts_flush hl⟩
    | sleep => exact ⟨(), l, _, ends_takePause ht l, hl⟩
    | note text => exact ⟨(), l, _, ends_emit (.record .debug text) l, hl⟩
  have hall : MadeOf t.IsCall Unit (forEach t.send chunks) := madeOf_forEach t.madeOf_send chunks
  obtain ⟨_, l', es, he, _⟩ := hall.exists_ends_keeping hcall l h
  rw [causes_forEach t.causes_send chunks _ _ _ _ he] at he
  exact ⟨l', he⟩

private theorem emits_put (bytes : List UInt8) : Emits Event.isSending (put bytes) := by
  have hw : Emits Event.isSending (LineOutput.write bytes) :=
    (emits_emit rfl).bind fun _ =>
      ((emits_next _ _).on _ _).bind fun _ => emits_of_silent fun _ => rfl
  refine hw.bind fun count => emits_of_silent fun l => ?_
  cases count with
  | none => rfl
  | some n =>
    simp only
    split <;> rfl

/-- However it ends, sending does nothing else. -/
theorem emits_of_madeOf {t : Transmitter} {α : Type} {x : Act LineOutput α}
    (h : MadeOf t.IsCall α x) :
    Emits Event.isSending x := by
  refine h.emits fun β y hy => ?_
  cases hy with
  | put b => exact emits_put [b]
  | flush => exact (emits_emit rfl).bind fun _ => (emits_next _ _).on _ _
  | sleep =>
    refine (emits_emit rfl).bind fun _ => ?_
    split <;> exact emits_of_silent fun _ => rfl
  | note text => exact emits_emit rfl

end Transmitter

end SerialTerminal
