import LockRelay.Bytes

/-! Hexadecimal text. Writing uses one letter case throughout; reading takes both and reports
the place of the first fault. An odd number of digits is a fault of the whole text and is
reported before any digit is looked at. -/
namespace LockRelay.Hex

def lowerDigits : List Char :=
  ['0', '1', '2', '3', '4', '5', '6', '7', '8', '9', 'a', 'b', 'c', 'd', 'e', 'f']

def upperDigits : List Char :=
  ['0', '1', '2', '3', '4', '5', '6', '7', '8', '9', 'A', 'B', 'C', 'D', 'E', 'F']

/-- Two digits for every byte, the high half first. -/
def encodeWith (digits : List Char) (data : Bytes) : List Char :=
  data.flatMap fun b => [digits.getD (b.toNat / 16) '0', digits.getD (b.toNat % 16) '0']

def encode (data : Bytes) : String := String.ofList (encodeWith lowerDigits data)

def encodeUpper (data : Bytes) : String := String.ofList (encodeWith upperDigits data)

inductive Fault where
  /-- The number of digits is odd; the last one has no partner. -/
  | length (position : Nat)
  /-- The byte at this position is no digit. -/
  | symbol (position : Nat)
  deriving DecidableEq, Repr

def Fault.message : Fault → String
  | .length position => s!"invalid length at {position}"
  | .symbol position => s!"invalid symbol at {position}"

/-- The value of an ASCII digit of either letter case. -/
def digit? (b : UInt8) : Option Nat :=
  if 0x30 ≤ b ∧ b ≤ 0x39 then some (b.toNat - 0x30)
  else if 0x61 ≤ b ∧ b ≤ 0x66 then some (b.toNat - 0x57)
  else if 0x41 ≤ b ∧ b ≤ 0x46 then some (b.toNat - 0x37)
  else none

/-- Reads pairs of digits; `position` is the place of the first byte in the whole text. -/
def decodePairs (position : Nat) : Bytes → Except Fault Bytes
  | [] => .ok []
  | [_] => .error (.length position)
  | high :: low :: rest =>
      match digit? high, digit? low with
      | none, _ => .error (.symbol position)
      | some _, none => .error (.symbol (position + 1))
      | some h, some l =>
          match decodePairs (position + 2) rest with
          | .ok data => .ok (UInt8.ofNat (16 * h + l) :: data)
          | .error fault => .error fault

def decode (text : Bytes) : Except Fault Bytes :=
  if text.length % 2 = 1 then .error (.length (text.length - 1)) else decodePairs 0 text

end LockRelay.Hex
