import LockRelay.Json.Structure

/-! Values of any shape, for a part of a text whose shape is not known yet. Members keep their order
and may repeat. -/
namespace LockRelay.Json

inductive Value where
  | null
  | boolean (b : Bool)
  | number (n : Number)
  | string (text : String)
  | array (items : List Value)
  | object (members : List (String × Value))

/-- A value as an error message names it. -/
def Value.found : Value → Found
  | .null => .null
  | .boolean b => .boolean b
  | .number n => n.found
  | .string text => .string text
  | .array _ => .sequence
  | .object _ => .map

/-- Levels of lists and objects that may stand inside each other where values are read. -/
def nestingLimit : Nat := 127

mutual

/-- Reads a value; `levels` lists and objects may still be opened. -/
def readLevels : (fuel levels : Nat) → Bytes → Reading Value
  | 0, _, _ => .error (.ended .value)
  | fuel + 1, levels, text =>
      let word (word rest : Bytes) (value : Value) : Reading Value :=
        match readWord word rest with
        | .ok rest => .ok (value, rest)
        | .error fault => .error fault
      let number (result : Reading Number) : Reading Value :=
        match result with
        | .ok (n, rest) => .ok (.number n, rest)
        | .error fault => .error fault
      match skipBlank text with
      | [] => .error (.ended .value)
      | b :: rest =>
          if b = 0x6E then word restOfNull rest .null
          else if b = 0x74 then word restOfTrue rest (.boolean true)
          else if b = 0x66 then word restOfFalse rest (.boolean false)
          else if b = minus then number (readNumber true rest)
          else if isDigit b then number (readNumber false (b :: rest))
          else if b = quoteMark then
            match readString rest with
            | .ok (text, rest) => .ok (.string text, rest)
            | .error fault => .error fault
          else if b = openBracket then
            match levels with
            | 0 => .error (.breach .nestingTooDeep)
            | levels + 1 =>
                match readItems fuel levels true rest with
                | .ok (items, rest) => .ok (.array items, rest)
                | .error fault => .error fault
          else if b = openBrace then
            match levels with
            | 0 => .error (.breach .nestingTooDeep)
            | levels + 1 =>
                match readMembers fuel levels true rest with
                | .ok (members, rest) => .ok (.object members, rest)
                | .error fault => .error fault
          else .error (.breach .expectedValue)

/-- Reads the rest of a list, with its bracket. -/
def readItems : (fuel levels : Nat) → (first : Bool) → Bytes → Reading (List Value)
  | 0, _, _, _ => .error (.ended .list)
  | fuel + 1, levels, first, text =>
      match nextItem first text with
      | .error fault => .error fault
      | .ok none =>
          match closeList text with
          | .ok rest => .ok ([], rest)
          | .error fault => .error fault
      | .ok (some text) =>
          match readLevels fuel levels text with
          | .error fault => .error fault
          | .ok (item, text) =>
              match readItems fuel levels false text with
              | .ok (items, rest) => .ok (item :: items, rest)
              | .error fault => .error fault

/-- Reads the rest of an object, with its brace. -/
def readMembers : (fuel levels : Nat) → (first : Bool) → Bytes → Reading (List (String × Value))
  | 0, _, _, _ => .error (.ended .object)
  | fuel + 1, levels, first, text =>
      match nextKey first text with
      | .error fault => .error fault
      | .ok none =>
          match closeObject text with
          | .ok rest => .ok ([], rest)
          | .error fault => .error fault
      | .ok (some (key, text)) =>
          match readColon text with
          | .error fault => .error fault
          | .ok text =>
              match readLevels fuel levels text with
              | .error fault => .error fault
              | .ok (value, text) =>
                  match readMembers fuel levels false text with
                  | .ok (members, rest) => .ok ((key, value) :: members, rest)
                  | .error fault => .error fault

end

/-- Reads one value at a place where `levels` lists and objects may still be opened. -/
def readValue (levels : Nat) (text : Bytes) : Reading Value :=
  readLevels (2 * text.length + 2) levels text

end LockRelay.Json
