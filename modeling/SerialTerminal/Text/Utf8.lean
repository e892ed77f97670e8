import SerialTerminal.Text.Quoted

/-!
# UTF-8 text

Bytes are decoded in blocks. A sequence that a block cuts is kept for the next one, so an error is
located in the block that shows it, behind what was kept.

The well-formed sequences are those of the Unicode standard: no overlong forms, no surrogates,
nothing past U+10FFFF.

Configuration files (`SPEC_FULL.md` §10) and log files (§13) are texts of this kind.
-/

namespace SerialTerminal.Utf8

/-- What is wrong with a sequence of bytes. -/
inductive Problem where
  | startByte
  | continuationByte
  | endOfData
deriving DecidableEq, Repr

/-- A malformed sequence: where it starts, how many bytes it has and the first of them. -/
structure Error where
  position : Nat
  length : Nat
  first : UInt8
  problem : Problem
deriving DecidableEq, Repr

/-- The wording of a problem. -/
def Problem.message : Problem → String
  | .startByte => "invalid start byte"
  | .continuationByte => "invalid continuation byte"
  | .endOfData => "unexpected end of data"

/-- The wording of a decoding error. -/
def Error.message (e : Error) : String :=
  let place := if e.length = 1 then
      "byte 0x" ++ String.ofList (Text.lowerHex 2 e.first.toNat) ++ s!" in position {e.position}"
    else s!"bytes in position {e.position}-{e.position + e.length - 1}"
  s!"'utf-8' codec can't decode {place}: {e.problem.message}"

/-- What stands at the front of a sequence of bytes. -/
inductive Front where
  | char (c : Char) (length : Nat)
  | bad (problem : Problem) (length : Nat)
  | incomplete
deriving DecidableEq, Repr

/-- Holds of the bytes that continue a sequence. -/
def isContinuation (b : UInt8) : Bool := 0x80 ≤ b && b < 0xC0

/-- The six payload bits of a continuation byte. -/
def payload (b : UInt8) : Nat := b.toNat % 64

/-- Holds of the second bytes that may follow a first byte of a sequence of three or four. -/
def allowsSecond (first second : UInt8) : Bool :=
  isContinuation second
    && (first != 0xE0 || 0xA0 ≤ second) && (first != 0xED || second < 0xA0)
    && (first != 0xF0 || 0x90 ≤ second) && (first != 0xF4 || second < 0x90)

/-- Reads a sequence of two bytes. -/
def front2 (first : UInt8) : List UInt8 → Front
  | [] => .incomplete
  | b :: _ =>
    if isContinuation b then .char (Char.ofNat (first.toNat % 32 * 64 + payload b)) 2
    else .bad .continuationByte 1

/-- Reads a sequence of three bytes. Two bytes that could be the start of a surrogate are not
refused before the third one is there. -/
def front3 (final : Bool) (first : UInt8) : List UInt8 → Front
  | [] => .incomplete
  | [b] =>
    if allowsSecond first b then .incomplete
    else if !final && first = 0xED && isContinuation b then .incomplete
    else .bad .continuationByte 1
  | b :: c :: _ =>
    if !allowsSecond first b then .bad .continuationByte 1
    else if !isContinuation c then .bad .continuationByte 2
    else .char (Char.ofNat (first.toNat % 16 * 4096 + payload b * 64 + payload c)) 3

/-- Reads a sequence of four bytes. -/
def front4 (first : UInt8) : List UInt8 → Front
  | [] => .incomplete
  | [b] => if allowsSecond first b then .incomplete else .bad .continuationByte 1
  | [b, c] =>
    if !allowsSecond first b then .bad .continuationByte 1
    else if !isContinuation c then .bad .continuationByte 2
    else .incomplete
  | b :: c :: d :: _ =>
    if !allowsSecond first b then .bad .continuationByte 1
    else if !isContinuation c then .bad .continuationByte 2
    else if !isContinuation d then .bad .continuationByte 3
    else .char (Char.ofNat
      (first.toNat % 8 * 262144 + payload b * 4096 + payload c * 64 + payload d)) 4

/-- Reads the sequence that a byte starts. -/
def front (final : Bool) (first : UInt8) (rest : List UInt8) : Front :=
  if first < 0x80 then .char (Char.ofNat first.toNat) 1
  else if first < 0xC2 then .bad .startByte 1
  else if first < 0xE0 then front2 first rest
  else if first < 0xF0 then front3 final first rest
  else if first < 0xF5 then front4 first rest
  else .bad .startByte 1

/-- The outcome of decoding a block: its text and the bytes kept for the next block, or an error. -/
abbrev Block := Except Error (List Char × List UInt8)

/-- Decodes a block from a position in it. In the last block nothing may be left over. -/
def decodeFrom (final : Bool) (position : Nat) (bytes : List UInt8) : Block :=
  match bytes with
  | [] => .ok ([], [])
  | first :: rest =>
    match front final first rest with
    | .char c length =>
      (decodeFrom final (position + length) (rest.drop (length - 1))).map
        fun (text, kept) => (c :: text, kept)
    | .bad problem length => .error ⟨position, length, first, problem⟩
    | .incomplete =>
      if final then .error ⟨position, rest.length + 1, first, .endOfData⟩
      else .ok ([], first :: rest)
termination_by bytes.length
decreasing_by simp only [List.length_drop, List.length_cons]; omega

/-- Decodes a whole block. -/
def decodeBlock (final : Bool) (bytes : List UInt8) : Block := decodeFrom final 0 bytes

/-- Number of bytes read from a file at a time. -/
def blockSize : Nat := 8192

/-- Decodes bytes block by block, starting with the bytes kept so far. Gives the text before the
first error, and the error. -/
def decodeBlocks (kept bytes : List UInt8) : List Char × Option Error :=
  match bytes with
  | [] =>
    match decodeBlock true kept with
    | .ok (text, _) => (text, none)
    | .error e => ([], some e)
  | b :: rest =>
    match decodeBlock false (kept ++ (b :: rest).take blockSize) with
    | .ok (text, left) =>
      let (others, error) := decodeBlocks left ((b :: rest).drop blockSize)
      (text ++ others, error)
    | .error e => ([], some e)
termination_by bytes.length
decreasing_by simp only [blockSize, List.length_drop, List.length_cons]; omega

/-- Decodes the contents of a file. -/
def decode (bytes : List UInt8) : List Char × Option Error := decodeBlocks [] bytes

/-- The text of a file, or the first error in it. -/
def read (bytes : List UInt8) : Except Error (List Char) :=
  match decode bytes with
  | (text, none) => .ok text
  | (_, some e) => .error e

end SerialTerminal.Utf8
