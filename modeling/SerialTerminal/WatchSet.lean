import SerialTerminal.Script

/-!
# Watch set

The handles that a terminal waits for, and what comes of a wait (`SPEC_FULL.md` §4.1, §6). Waits are
answered by a script, as those of the waiter of the test tooling are (§15).
-/

namespace SerialTerminal

/-- What a wait ends with: the handles that are ready, in some order, or a failure. -/
abbrev Wait : Type := Except Failure (List Handle)

/-- The watched handles, and the answers to requests to watch more. -/
structure WatchSet where
  registrations : Script Unit
  members : List Handle

namespace WatchSet

/-- A set that watches nothing yet. -/
def ofRegistrations (registrations : Script Unit) : WatchSet := ⟨registrations, []⟩

/-- Watches a handle (`SelectorWaiter.register`). -/
def watch (handle : Handle) : Act WatchSet Unit := do
  Act.mapFailure (Failure.fatalIfSystemOrValue (.cannotWatch handle.name))
    (Act.on registrations (fun replies w => { w with registrations := replies }) (Script.next ()))
  Act.emit (.watched handle)
  Act.modify fun w => { w with members := handle :: w.members.erase handle }

/-- Stops watching a handle. Nothing happens if it is not watched: this is the waiter of the test
tooling, whose answers may name any handle. The waiter of the system (`SPEC_FULL.md` §11) refuses
the request then, but it never reports a handle that it does not watch, and so is never asked. -/
def unwatch (handle : Handle) : Act WatchSet Unit := do
  if handle ∈ (← Act.gets members) then
    Act.emit (.unwatched handle)
    Act.modify fun w => { w with members := w.members.erase handle }

end WatchSet

end SerialTerminal
