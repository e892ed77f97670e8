/-!
# Bounded reception buffer

An ordered sequence of bytes with a capacity. Appending never drops a byte silently: a full buffer
refuses, and it is for the caller to look at `isFull` first.

This is the `ReceptionBuffer` of `SPEC_FULL.md` §3.
-/

namespace SerialTerminal

/-- A byte sequence with the number of bytes that it may hold. -/
structure ReceptionBuffer where
  capacity : Nat
  bytes : Array UInt8
deriving DecidableEq, Repr

namespace ReceptionBuffer

/-- Why a buffer could not be made or extended. -/
inductive Error where
  | noCapacity
  | full (capacity : Nat)
  | notAByte
deriving DecidableEq, Repr

/-- The wording of a buffer error. -/
def Error.message : Error → String
  | .noCapacity => "capacity must be positive"
  | .full capacity => s!"reception buffer full ({capacity} bytes)"
  | .notAByte => "byte must be in range(0, 256)"

/-- An empty buffer. -/
def empty (capacity : Nat) : ReceptionBuffer := ⟨capacity, #[]⟩

/-- An empty buffer of a positive capacity. -/
def create (capacity : Int) : Except Error ReceptionBuffer :=
  if capacity ≤ 0 then .error .noCapacity else .ok (empty capacity.toNat)

/-- The bytes in the order of their arrival. -/
def toList (b : ReceptionBuffer) : List UInt8 := b.bytes.toList

/-- Number of bytes held. -/
def size (b : ReceptionBuffer) : Nat := b.bytes.size

/-- Holds once the capacity is used up. -/
def isFull (b : ReceptionBuffer) : Bool := b.capacity ≤ b.size

/-- Holds of a buffer without bytes. -/
def isEmpty (b : ReceptionBuffer) : Bool := b.size = 0

/-- The buffer with one more byte, whatever its capacity. -/
def push (b : ReceptionBuffer) (value : UInt8) : ReceptionBuffer :=
  { b with bytes := b.bytes.push value }

/-- The buffer with one more byte, unless it is full. -/
def append (b : ReceptionBuffer) (value : UInt8) : Except Error ReceptionBuffer :=
  if b.isFull then .error (.full b.capacity) else .ok (b.push value)

/-- Appends a number as a byte. A full buffer is reported before a number that is no byte. -/
def appendNumber (b : ReceptionBuffer) (value : Int) : Except Error ReceptionBuffer :=
  if b.isFull then .error (.full b.capacity)
  else if 0 ≤ value ∧ value < 256 then .ok (b.push (UInt8.ofNat value.toNat))
  else .error .notAByte

/-- The buffer without its bytes. -/
def clear (b : ReceptionBuffer) : ReceptionBuffer := { b with bytes := #[] }

@[simp] theorem toList_empty (capacity : Nat) : (empty capacity).toList = [] := rfl

@[simp] theorem toList_push (b : ReceptionBuffer) (value : UInt8) :
    (b.push value).toList = b.toList ++ [value] := by
  simp [toList, push]

@[simp] theorem toList_clear (b : ReceptionBuffer) : b.clear.toList = [] := rfl

@[simp] theorem capacity_push (b : ReceptionBuffer) (value : UInt8) :
    (b.push value).capacity = b.capacity := rfl

@[simp] theorem capacity_clear (b : ReceptionBuffer) : b.clear.capacity = b.capacity := rfl

/-- The size counts the bytes of the list view. -/
theorem length_toList (b : ReceptionBuffer) : b.toList.length = b.size := by
  simp [toList, size]

end ReceptionBuffer

end SerialTerminal
