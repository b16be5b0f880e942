import LockRelay.Bytes

/-! Text as UTF-8. Reading goes byte by byte: after the first byte of a character it is known how
many more belong to it and between which bounds the next one lies. -/
namespace LockRelay.Utf8

/-- The bytes of a text. -/
def encode (text : List Char) : Bytes := text.flatMap String.utf8EncodeChar

/-- What is still to come of a character. -/
structure Tail where
  /-- Bytes missing after the next one. -/
  more : Nat
  low : UInt8
  high : UInt8
  /-- The bits read so far. -/
  value : Nat

inductive Lead where
  /-- The byte is a character of its own. -/
  | single (c : Char)
  | opens (tail : Tail)
  | invalid

/-- What a byte means at the start of a character. -/
def lead (b : UInt8) : Lead :=
  let n := b.toNat
  if n < 0x80 then .single (Char.ofNat n)
  else if n < 0xC2 then .invalid
  else if n < 0xE0 then .opens ⟨0, 0x80, 0xBF, n % 32⟩
  else if n = 0xE0 then .opens ⟨1, 0xA0, 0xBF, 0⟩
  else if n = 0xED then .opens ⟨1, 0x80, 0x9F, 13⟩
  else if n < 0xF0 then .opens ⟨1, 0x80, 0xBF, n % 16⟩
  else if n = 0xF0 then .opens ⟨2, 0x90, 0xBF, 0⟩
  else if n < 0xF4 then .opens ⟨2, 0x80, 0xBF, n % 8⟩
  else if n = 0xF4 then .opens ⟨2, 0x80, 0x8F, 4⟩
  else .invalid

/-- Takes one more byte of a character: the character when it is complete, or what remains. -/
def Tail.take (t : Tail) (b : UInt8) : Option (Char ⊕ Tail) :=
  if t.low ≤ b ∧ b ≤ t.high then
    let value := 64 * t.value + b.toNat % 64
    match t.more with
    | 0 => some (.inl (Char.ofNat value))
    | more + 1 => some (.inr ⟨more, 0x80, 0xBF, value⟩)
  else none

/-- Reads in the middle of a character, or between characters. -/
def decodeFrom : Option Tail → Bytes → Option (List Char)
  | none, [] => some []
  | some _, [] => none
  | none, b :: rest =>
      match lead b with
      | .single c => (decodeFrom none rest).map (c :: ·)
      | .opens tail => decodeFrom (some tail) rest
      | .invalid => none
  | some tail, b :: rest =>
      match tail.take b with
      | some (.inl c) => (decodeFrom none rest).map (c :: ·)
      | some (.inr tail) => decodeFrom (some tail) rest
      | none => none

/-- The text that the bytes are, if they are one. -/
def decode? (data : Bytes) : Option (List Char) := decodeFrom none data

/-- Stands for bytes that are no character. -/
def replacement : Char := '\uFFFD'

/-- Reads like `decodeFrom`, but a sequence that breaks off gives one replacement character, and
the byte that breaks it is read again. -/
def decodeLossyFrom : Option Tail → Bytes → List Char
  | none, [] => []
  | some _, [] => [replacement]
  | state, b :: rest =>
      let fresh : List Char :=
        match lead b with
        | .single c => c :: decodeLossyFrom none rest
        | .opens tail => decodeLossyFrom (some tail) rest
        | .invalid => replacement :: decodeLossyFrom none rest
      match state with
      | none => fresh
      | some tail =>
          match tail.take b with
          | some (.inl c) => c :: decodeLossyFrom none rest
          | some (.inr tail) => decodeLossyFrom (some tail) rest
          | none => replacement :: fresh

/-- A text for any bytes. -/
def decodeLossy (data : Bytes) : List Char := decodeLossyFrom none data

end LockRelay.Utf8
