import SerialTerminal.Act

/-!
# Scripts of replies

The answers that a collaborator will give, in order: each a value or a failure that it raises. After
the last one it goes on with a default.

Scripts take the place of the collaborators as those of the test tooling do (`SPEC_FULL.md` §15).
-/

namespace SerialTerminal

/-- The answers still to come. -/
abbrev Script (α : Type) : Type := List (Except Failure α)

namespace Script

variable {α : Type}

/-- Takes the next answer. -/
def next (default : α) : Act (Script α) α := fun script =>
  match script with
  | [] => ⟨.ok default, [], []⟩
  | reply :: rest => ⟨reply, rest, []⟩

/-- Takes at most `limit` bytes of the next answer. What is left of it stays for the next call. -/
def nextChunk (limit : Nat) : Act (Script (List UInt8)) (List UInt8) := fun script =>
  match script with
  | [] => ⟨.ok [], [], []⟩
  | .error e :: rest => ⟨.error e, rest, []⟩
  | .ok chunk :: rest =>
    ⟨.ok (chunk.take limit),
      if (chunk.drop limit).isEmpty then rest else .ok (chunk.drop limit) :: rest, []⟩

/-- A script with its failures changed. -/
def mapFailures (f : Failure → Failure) (script : Script α) : Script α :=
  script.map fun reply => reply.mapError f

end Script

end SerialTerminal
