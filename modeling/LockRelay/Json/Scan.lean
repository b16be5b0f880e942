import LockRelay.Json.Fault
import LockRelay.Text.Utf8

/-! The leaves of JSON text: white space, words, strings and numbers. Every reader takes the bytes
that are left and gives back those after what it read. -/
namespace LockRelay.Json

/-- A value and the bytes after it. -/
abbrev Reading (α : Type) := Except Fault (α × Bytes)

/-! Bytes with a meaning in the grammar. -/

@[match_pattern] abbrev quoteMark : UInt8 := 0x22
@[match_pattern] abbrev backslash : UInt8 := 0x5C
@[match_pattern] abbrev openBracket : UInt8 := 0x5B
@[match_pattern] abbrev closeBracket : UInt8 := 0x5D
@[match_pattern] abbrev openBrace : UInt8 := 0x7B
@[match_pattern] abbrev closeBrace : UInt8 := 0x7D
@[match_pattern] abbrev comma : UInt8 := 0x2C
@[match_pattern] abbrev colon : UInt8 := 0x3A
@[match_pattern] abbrev minus : UInt8 := 0x2D
@[match_pattern] abbrev plus : UInt8 := 0x2B
@[match_pattern] abbrev point : UInt8 := 0x2E
@[match_pattern] abbrev letterU : UInt8 := 0x75

def isBlankByte (b : UInt8) : Bool := b == 0x20 || b == 0x0A || b == 0x0D || b == 0x09

def skipBlank : Bytes → Bytes
  | [] => []
  | b :: rest => if isBlankByte b then skipBlank rest else b :: rest

/-- Reads the given bytes. -/
def readWord : (word text : Bytes) → Except Fault Bytes
  | [], text => .ok text
  | _ :: _, [] => .error (.ended .value)
  | w :: word, b :: text => if b = w then readWord word text else .error (.breach .expectedWord)

/-! Strings -/

/-- The character that a one-letter escape stands for. -/
def simpleEscape? (b : UInt8) : Option UInt8 :=
  if b = quoteMark ∨ b = backslash ∨ b = 0x2F then some b
  else if b = 0x62 then some 0x08
  else if b = 0x66 then some 0x0C
  else if b = 0x6E then some 0x0A
  else if b = 0x72 then some 0x0D
  else if b = 0x74 then some 0x09
  else none

def hexDigit? (b : UInt8) : Option Nat :=
  if 0x30 ≤ b ∧ b ≤ 0x39 then some (b.toNat - 0x30)
  else if 0x61 ≤ b ∧ b ≤ 0x66 then some (b.toNat - 0x57)
  else if 0x41 ≤ b ∧ b ≤ 0x46 then some (b.toNat - 0x37)
  else none

/-- The number that four hexadecimal digits write. -/
def hexUnit? (a b c d : UInt8) : Option Nat := do
  return 4096 * (← hexDigit? a) + 256 * (← hexDigit? b) + 16 * (← hexDigit? c) + (← hexDigit? d)

def isLowSurrogate (n : Nat) : Bool := 0xDC00 ≤ n && n ≤ 0xDFFF

def isHighSurrogate (n : Nat) : Bool := 0xD800 ≤ n && n ≤ 0xDBFF

/-- The character that a pair of surrogates stands for. -/
def surrogatePair (high low : Nat) : Char :=
  Char.ofNat (0x10000 + 1024 * (high - 0xD800) + (low - 0xDC00))

/-- Puts bytes in front of what a reader found. -/
def prepend (bytes : Bytes) : Reading Bytes → Reading Bytes
  | .ok (found, rest) => .ok (bytes ++ found, rest)
  | .error fault => .error fault

/-- The bytes of a string up to its closing quote, with escapes resolved. -/
def readRaw : Bytes → Reading Bytes
  | [] => .error (.ended .string)
  | quoteMark :: rest => .ok ([], rest)
  | backslash :: [] => .error (.ended .string)
  | backslash :: letterU :: a :: b :: c :: d :: rest =>
      match hexUnit? a b c d with
      | none => .error (.breach .invalidEscape)
      | some unit =>
          if isLowSurrogate unit then .error (.breach .loneSurrogate)
          else if isHighSurrogate unit then
            match rest with
            | [] => .error (.ended .string)
            | backslash :: [] => .error (.ended .string)
            | backslash :: letterU :: e :: f :: g :: h :: rest =>
                match hexUnit? e f g h with
                | none => .error (.breach .invalidEscape)
                | some low =>
                    if isLowSurrogate low then
                      prepend (String.utf8EncodeChar (surrogatePair unit low)) (readRaw rest)
                    else .error (.breach .loneSurrogate)
            | backslash :: letterU :: _ => .error (.ended .string)
            | _ => .error (.breach .brokenSurrogatePair)
          else prepend (String.utf8EncodeChar (Char.ofNat unit)) (readRaw rest)
  | backslash :: letterU :: _ => .error (.ended .string)
  | backslash :: b :: rest =>
      match simpleEscape? b with
      | some c => prepend [c] (readRaw rest)
      | none => .error (.breach .invalidEscape)
  | b :: rest =>
      if b < 0x20 then .error (.breach .controlCharacter) else prepend [b] (readRaw rest)

/-- A string after its opening quote. Whether it is text is judged when it is complete. -/
def readString (text : Bytes) : Reading String :=
  match readRaw text with
  | .error fault => .error fault
  | .ok (raw, rest) =>
      match Utf8.decode? raw with
      | some chars => .ok (String.ofList chars, rest)
      | none => .error (.breach .invalidCodePoint)

/-- Passes over a string after its opening quote. Only its escapes are looked at, and surrogates
need no partner. -/
def skipString : Bytes → Except Fault Bytes
  | [] => .error (.ended .string)
  | quoteMark :: rest => .ok rest
  | backslash :: [] => .error (.ended .string)
  | backslash :: letterU :: a :: b :: c :: d :: rest =>
      match hexUnit? a b c d with
      | none => .error (.breach .invalidEscape)
      | some _ => skipString rest
  | backslash :: letterU :: _ => .error (.ended .string)
  | backslash :: b :: rest =>
      match simpleEscape? b with
      | some _ => skipString rest
      | none => .error (.breach .invalidEscape)
  | b :: rest => if b < 0x20 then .error (.breach .controlCharacter) else skipString rest

/-! Numbers -/

def isDigit (b : UInt8) : Bool := 0x30 ≤ b && b ≤ 0x39

def digitValue (b : UInt8) : Nat := b.toNat - 0x30

/-- The digits at the front, and what follows them. -/
def splitDigits : Bytes → Bytes × Bytes
  | [] => ([], [])
  | b :: rest =>
      if isDigit b then
        let (digits, after) := splitDigits rest
        (b :: digits, after)
      else ([], b :: rest)

/-- Value of a row of digits, most significant first. -/
def valueOf (digits : Bytes) : Nat := digits.foldl (fun n b => 10 * n + digitValue b) 0

/-- A number as it is read: exact within 64 bits, and a double otherwise. -/
inductive Number where
  | natural (n : Nat)
  /-- The number `-n`, for `n` from 1 to `2 ^ 63`. -/
  | negative (n : Nat)
  | float (negative : Bool) (magnitude : Binary64)
  deriving DecidableEq, Repr

def Number.found : Number → Found
  | .natural n => .integer n
  | .negative n => .integer (-n)
  | .float below magnitude => .float below magnitude

/-- Appends digits to a significand as long as it fits into 64 bits; the count of digits taken. -/
def extend (significand : Nat) : Bytes → Nat × Nat
  | [] => (significand, 0)
  | b :: rest =>
      let next := 10 * significand + digitValue b
      if next < UInt64.size then
        let (final, count) := extend next rest
        (final, count + 1)
      else (significand, 0)

/-- Exponents from here on are treated as endless. -/
def exponentLimit : Nat := Nat.pow 2 31

def scaledNumber (negative : Bool) (significand : Nat) (exponent : Int) : Except Fault Number :=
  match Binary64.scaled significand exponent with
  | some magnitude => .ok (.float negative magnitude)
  | none => .error (.breach .numberOutOfRange)

/-- The sign of an exponent and what follows it. -/
def readExponentSign : Bytes → Bool × Bytes
  | minus :: rest => (true, rest)
  | plus :: rest => (false, rest)
  | text => (false, text)

/-- The digits of an exponent, after the letter that opens it. -/
def readExponent (negative : Bool) (significand : Nat) (exponent : Int) (text : Bytes) :
    Reading Number :=
  let (down, text) := readExponentSign text
  match splitDigits text with
  | ([], []) => .error (.ended .value)
  | ([], _ :: _) => .error (.breach .invalidNumber)
  | (digits, rest) =>
      let n := valueOf digits
      let number : Except Fault Number :=
        if n < exponentLimit then
          scaledNumber negative significand (if down then exponent - n else exponent + n)
        else if significand ≠ 0 ∧ ¬down then .error (.breach .numberOutOfRange)
        else .ok (.float negative Binary64.zero)
      match number with
      | .ok number => .ok (number, rest)
      | .error fault => .error fault

def isExponentLetter (b : UInt8) : Bool := b == 0x65 || b == 0x45

/-- An exponent if there is one, and otherwise the number as it stands. -/
def readScale (negative : Bool) (significand : Nat) (exponent : Int) (text : Bytes) :
    Reading Number :=
  let plain : Reading Number :=
    match scaledNumber negative significand exponent with
    | .ok number => .ok (number, text)
    | .error fault => .error fault
  match text with
  | b :: rest =>
      if isExponentLetter b then readExponent negative significand exponent rest else plain
  | [] => plain

/-- The digits after the point. Those that no longer fit into the significand are dropped. -/
def readFraction (negative : Bool) (significand : Nat) (exponent : Int) (text : Bytes) :
    Reading Number :=
  match splitDigits text with
  | ([], []) => .error (.ended .value)
  | ([], _ :: _) => .error (.breach .invalidNumber)
  | (digits, rest) =>
      let (significand, count) := extend significand digits
      readScale negative significand (exponent - count) rest

/-- An integer of at most 64 bits. Minus zero and integers below `-2 ^ 63` become doubles. -/
def wholeNumber (negative : Bool) (n : Nat) : Except Fault Number :=
  if !negative then .ok (.natural n)
  else if n = 0 ∨ Nat.pow 2 63 < n then scaledNumber true n 0
  else .ok (.negative n)

/-- A number after its sign. -/
def readNumber (negative : Bool) (text : Bytes) : Reading Number :=
  match splitDigits text with
  | ([], []) => .error (.ended .value)
  | ([], _ :: _) => .error (.breach .invalidNumber)
  | (digits, rest) =>
      if digits.length > 1 ∧ digits.head? = some 0x30 then .error (.breach .invalidNumber)
      else
        let (significand, count) := extend 0 digits
        let dropped : Int := digits.length - count
        match rest with
        | point :: rest => readFraction negative significand dropped rest
        | rest =>
            if rest.head?.any isExponentLetter ∨ count < digits.length then
              readScale negative significand dropped rest
            else
              match wholeNumber negative significand with
              | .ok number => .ok (number, rest)
              | .error fault => .error fault

/-- Passes over digits, of which there has to be one. -/
def skipDigits (text : Bytes) : Except Fault Bytes :=
  match splitDigits text with
  | ([], _) => .error (.breach .invalidNumber)
  | (_, rest) => .ok rest

def skipScale (text : Bytes) : Except Fault Bytes :=
  match text with
  | b :: rest => if isExponentLetter b then skipDigits (readExponentSign rest).2 else .ok text
  | [] => .ok text

/-- Passes over a number after its sign. Its size does not matter. -/
def skipNumber (text : Bytes) : Except Fault Bytes :=
  match splitDigits text with
  | ([], _) => .error (.breach .invalidNumber)
  | (digits, rest) =>
      if digits.length > 1 ∧ digits.head? = some 0x30 then .error (.breach .invalidNumber)
      else
        match rest with
        | point :: rest =>
            match skipDigits rest with
            | .ok rest => skipScale rest
            | .error fault => .error fault
        | rest => skipScale rest

end LockRelay.Json
