/-!
# Powers

Powers of two and of ten, and the bounds of signed words.
-/

namespace SerialTerminal

/-- A power of two. -/
def twoPow (n : Nat) : Nat := Nat.pow 2 n

/-- A power of ten. -/
def tenPow (n : Nat) : Nat := Nat.pow 10 n

/-- One more than the greatest signed number of 32 bits. -/
def bound32 : Int := twoPow 31

/-- One more than the greatest signed number of 64 bits. -/
def bound64 : Int := twoPow 63

/-- A power of two is positive. -/
theorem twoPow_pos (n : Nat) : 0 < twoPow n := Nat.pow_pos (by decide)

/-- A power of ten is positive. -/
theorem tenPow_pos (n : Nat) : 0 < tenPow n := Nat.pow_pos (by decide)

end SerialTerminal
