import SerialTerminal.Proofs.Calls

/-!
# Chunks

What comes of reading a source chunk by chunk. Reads of limited size cut long chunks into pieces,
but nothing is lost and nothing changes places (`supply_of_ends`).
-/

namespace SerialTerminal.Script

/-- The bytes that a source holds before its first failure. -/
def supply : Script (List UInt8) → List UInt8
  | .ok chunk :: rest => chunk ++ supply rest
  | _ => []

/-- The chunks that a number of reads take, each of at most `limit` bytes. A failed read is the
last. -/
def chunks (limit : Nat) : Nat → Script (List UInt8) → List (List UInt8)
  | 0, _ => []
  | n + 1, script =>
    match (nextChunk limit).run script with
    | ⟨.ok chunk, rest, _⟩ => chunk :: chunks limit n rest
    | ⟨.error _, _, _⟩ => []

/-- Chunks come without events. -/
theorem causes_nextChunk (limit : Nat) : Act.Causes (nextChunk limit) [] := by
  intro script a rest es h
  rcases script with _ | ⟨_ | held, later⟩ <;> cases h <;> rfl

variable {limit n : Nat} {script rest : Script (List UInt8)} {chunk : List UInt8}
  {es : List Event}

/-- A read that succeeds takes the first chunk. -/
theorem chunks_of_ends (h : Act.Ends (nextChunk limit) script chunk rest es) :
    chunks limit (n + 1) script = chunk :: chunks limit n rest := by
  rw [chunks, h]

/-- What it takes is the front of the supply, and the rest stays. -/
theorem supply_of_ends (h : Act.Ends (nextChunk limit) script chunk rest es) :
    script.supply = chunk ++ rest.supply := by
  rcases script with _ | ⟨_ | held, later⟩
  · cases h
    rfl
  · cases h
  · cases h
    split
    · next hempty =>
      have hdrop : held.drop limit = [] := List.isEmpty_iff.mp hempty
      rw [supply, List.take_of_length_le (List.drop_eq_nil_iff.mp hdrop)]
    · rw [supply, supply, ← List.append_assoc, List.take_append_drop]

end SerialTerminal.Script
