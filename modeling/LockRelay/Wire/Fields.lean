import LockRelay.Json.Value

/-! Readers for the fields of a message. Each exists twice: one reads text, the other takes a value
that was read before its shape was known. -/
namespace LockRelay.Json

/-- Takes a number that has to be a natural one below `bound`. -/
def fitNatural (bound : Nat) (expected : String) : Number → Except Fault Nat
  | .natural n => if n < bound then .ok n else .error (.misfit (.invalidValue n expected))
  | .negative n => .error (.misfit (.invalidValue (-n) expected))
  | .float below magnitude => .error (.misfit (.invalidType (.float below magnitude) expected))

def readNatural (bound : Nat) (expected : String) (text : Bytes) : Reading Nat :=
  let fit (result : Reading Number) : Reading Nat :=
    match result with
    | .error fault => .error fault
    | .ok (number, rest) =>
        match fitNatural bound expected number with
        | .ok n => .ok (n, rest)
        | .error fault => .error fault
  match skipBlank text with
  | [] => .error (.ended .value)
  | b :: rest =>
      if b = minus then fit (readNumber true rest)
      else if isDigit b then fit (readNumber false (b :: rest))
      else .error (wrongType (b :: rest) expected)

def Value.natural (bound : Nat) (expected : String) : Value → Except Fault Nat
  | .number n => fitNatural bound expected n
  | value => .error (.misfit (.invalidType value.found expected))

/-- A string, where one is wanted; `expected` names what the string stands for. -/
def readText (expected : String) (text : Bytes) : Reading String :=
  match skipBlank text with
  | [] => .error (.ended .value)
  | b :: rest =>
      if b = quoteMark then readString rest else .error (wrongType (b :: rest) expected)

/-- The rest of a list of bytes, up to its bracket. -/
def readByteItems : (fuel : Nat) → (first : Bool) → Bytes → Reading Bytes
  | 0, _, _ => .error (.ended .list)
  | fuel + 1, first, text =>
      match nextItem first text with
      | .error fault => .error fault
      | .ok none =>
          match closeList text with
          | .ok rest => .ok ([], rest)
          | .error fault => .error fault
      | .ok (some text) =>
          match readNatural 256 "u8" text with
          | .error fault => .error fault
          | .ok (n, text) =>
              match readByteItems fuel false text with
              | .ok (data, rest) => .ok (UInt8.ofNat n :: data, rest)
              | .error fault => .error fault

/-- A byte string as a list of numbers. -/
def readBytes (text : Bytes) : Reading Bytes :=
  match skipBlank text with
  | [] => .error (.ended .value)
  | b :: rest =>
      if b = openBracket then readByteItems (rest.length + 1) true rest
      else .error (wrongType (b :: rest) "a sequence")

def byteItems : List Value → Except Fault Bytes
  | [] => .ok []
  | item :: items =>
      match item.natural 256 "u8" with
      | .error fault => .error fault
      | .ok n =>
          match byteItems items with
          | .ok data => .ok (UInt8.ofNat n :: data)
          | .error fault => .error fault

def Value.bytes : Value → Except Fault Bytes
  | .array items => byteItems items
  | value => .error (.misfit (.invalidType value.found "a sequence"))

/-! Objects with known fields -/

/-- A field that a record takes, if it takes one of this name: how its value is read from text or
taken from a value, and put into the record. -/
structure Field (σ : Type) where
  read : Bytes → Reading σ
  take : Value → Except Fault σ

/-- Looks up a field. An error means that the record already has it. -/
abbrev Fields (σ : Type) := σ → (name : String) → Except Fault (Option (Field σ))

/-- A field that can be set once. -/
def Field.once {σ α : Type} (name : String) (isSet : Bool) (set : α → σ)
    (read : Bytes → Reading α) (take : Value → Except Fault α) : Except Fault (Option (Field σ)) :=
  if isSet then .error (.misfit (.duplicateField name))
  else .ok (some {
    read := fun text =>
      match read text with
      | .ok (value, rest) => .ok (set value, rest)
      | .error fault => .error fault
    take := fun value =>
      match take value with
      | .ok value => .ok (set value)
      | .error fault => .error fault })

/-- Reads the rest of an object, with its brace. Members of unknown names are passed over. -/
def readFields {σ : Type} (fields : Fields σ) :
    (fuel : Nat) → (first : Bool) → σ → Bytes → Reading σ
  | 0, _, _, _ => .error (.ended .object)
  | fuel + 1, first, record, text =>
      match nextKey first text with
      | .error fault => .error fault
      | .ok none =>
          match closeObject text with
          | .ok rest => .ok (record, rest)
          | .error fault => .error fault
      | .ok (some (name, text)) =>
          match fields record name with
          | .error fault => .error fault
          | .ok field =>
              match readColon text with
              | .error fault => .error fault
              | .ok text =>
                  let value : Reading σ :=
                    match field with
                    | some field => field.read text
                    | none =>
                        match skipValue text with
                        | .ok rest => .ok (record, rest)
                        | .error fault => .error fault
                  match value with
                  | .ok (record, text) => readFields fields fuel false record text
                  | .error fault => .error fault

/-- Takes the members of an object one after another. -/
def takeFields {σ : Type} (fields : Fields σ) : List (String × Value) → σ → Except Fault σ
  | [], record => .ok record
  | (name, value) :: members, record =>
      match fields record name with
      | .error fault => .error fault
      | .ok none => takeFields fields members record
      | .ok (some field) =>
          match field.take value with
          | .ok record => takeFields fields members record
          | .error fault => .error fault

/-- A field that has to be there. -/
def required {α : Type} (name : String) : Option α → Except Fault α
  | some value => .ok value
  | none => .error (.misfit (.missingField name))

end LockRelay.Json
