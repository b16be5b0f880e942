import LockRelay.Json.Scan

/-! Lists and objects while they are read: what stands between the items, how they end, and how
values that nobody wants are passed over. -/
namespace LockRelay.Json

/-- The bytes of the next item of a list; none when the closing bracket comes next. -/
def nextItem (first : Bool) (text : Bytes) : Except Fault (Option Bytes) :=
  match skipBlank text with
  | [] => .error (.ended .list)
  | b :: rest =>
      if b = closeBracket then .ok none
      else if first then .ok (some (b :: rest))
      else if b = comma then
        match skipBlank rest with
        | [] => .error (.ended .value)
        | c :: rest =>
            if c = closeBracket then .error (.breach .trailingComma) else .ok (some (c :: rest))
      else .error (.breach .expectedCommaOrBracket)

/-- Passes over the bracket that ends a list. -/
def closeList (text : Bytes) : Except Fault Bytes :=
  match skipBlank text with
  | [] => .error (.ended .list)
  | b :: rest =>
      if b = closeBracket then .ok rest
      else if b = comma ∧ (skipBlank rest).head? = some closeBracket then
        .error (.breach .trailingComma)
      else .error (.breach .trailingCharacters)

/-- The next key of an object and the bytes after it; none when the closing brace comes next. -/
def nextKey (first : Bool) (text : Bytes) : Except Fault (Option (String × Bytes)) :=
  let key (text : Bytes) : Except Fault (Option (String × Bytes)) :=
    match readString text with
    | .ok found => .ok (some found)
    | .error fault => .error fault
  match skipBlank text with
  | [] => .error (.ended .object)
  | b :: rest =>
      if b = closeBrace then .ok none
      else if first then
        if b = quoteMark then key rest else .error (.breach .keyMustBeString)
      else if b = comma then
        match skipBlank rest with
        | [] => .error (.ended .value)
        | c :: rest =>
            if c = quoteMark then key rest
            else if c = closeBrace then .error (.breach .trailingComma)
            else .error (.breach .keyMustBeString)
      else .error (.breach .expectedCommaOrBrace)

/-- Passes over the brace that ends an object. -/
def closeObject (text : Bytes) : Except Fault Bytes :=
  match skipBlank text with
  | [] => .error (.ended .object)
  | b :: rest =>
      if b = closeBrace then .ok rest
      else if b = comma then .error (.breach .trailingComma)
      else .error (.breach .trailingCharacters)

/-- Passes over the colon between a key and its value. -/
def readColon (text : Bytes) : Except Fault Bytes :=
  match skipBlank text with
  | [] => .error (.ended .object)
  | b :: rest => if b = colon then .ok rest else .error (.breach .expectedColon)

/-- Requires that nothing but white space is left. -/
def finish (text : Bytes) : Except Fault Unit :=
  if skipBlank text = [] then .ok () else .error (.breach .trailingCharacters)

/-! Words, and values of the wrong shape -/

def restOfNull : Bytes := [0x75, 0x6C, 0x6C]
def restOfTrue : Bytes := [0x72, 0x75, 0x65]
def restOfFalse : Bytes := [0x61, 0x6C, 0x73, 0x65]

/-- The fault of a value that is not of the shape wanted. To name it, its text is read as far as
needed, and a fault in that text comes first. -/
def wrongType (text : Bytes) (expected : String) : Fault :=
  let misfit (found : Found) : Fault := .misfit (.invalidType found expected)
  let word (word rest : Bytes) (found : Found) : Fault :=
    match readWord word rest with
    | .ok _ => misfit found
    | .error fault => fault
  let number (result : Reading Number) : Fault :=
    match result with
    | .ok (number, _) => misfit number.found
    | .error fault => fault
  match text with
  | [] => .ended .value
  | b :: rest =>
      if b = 0x6E then word restOfNull rest .null
      else if b = 0x74 then word restOfTrue rest (.boolean true)
      else if b = 0x66 then word restOfFalse rest (.boolean false)
      else if b = minus then number (readNumber true rest)
      else if isDigit b then number (readNumber false (b :: rest))
      else if b = quoteMark then
        match readString rest with
        | .ok (found, _) => misfit (.string found)
        | .error fault => fault
      else if b = openBracket then misfit .sequence
      else if b = openBrace then misfit .map
      else .breach .expectedValue

/-! Passing over values -/

inductive Frame where
  | list
  | object
  deriving DecidableEq, Repr

/-- Passes over one word, string or number. -/
def skipLeaf (b : UInt8) (rest : Bytes) : Except Fault Bytes :=
  if b = 0x6E then readWord restOfNull rest
  else if b = 0x74 then readWord restOfTrue rest
  else if b = 0x66 then readWord restOfFalse rest
  else if b = minus then skipNumber rest
  else if isDigit b then skipNumber (b :: rest)
  else if b = quoteMark then skipString rest
  else .error (.breach .expectedValue)

/-- Passes over a key and its colon when the frame is an object. -/
def skipKey (frame : Frame) (text : Bytes) : Except Fault Bytes :=
  match frame with
  | .list => .ok text
  | .object =>
      match skipBlank text with
      | [] => .error (.ended .object)
      | b :: rest =>
          if b = quoteMark then
            match skipString rest with
            | .ok rest => readColon rest
            | .error fault => .error fault
          else .error (.breach .keyMustBeString)

mutual

/-- Passes over a value inside the open frames, and then over all that they still hold. Nesting
has no limit. -/
def skipOpen : (fuel : Nat) → List Frame → Bytes → Except Fault Bytes
  | 0, _, _ => .error (.ended .value)
  | fuel + 1, frames, text =>
      match skipBlank text with
      | [] => .error (.ended .value)
      | b :: rest =>
          if b = openBracket then skipRest fuel false (.list :: frames) rest
          else if b = openBrace then skipRest fuel false (.object :: frames) rest
          else
            match skipLeaf b rest with
            | .ok rest => skipRest fuel true frames rest
            | .error fault => .error fault

/-- Passes over the rest of the open frames; `started` tells whether the innermost one already
holds an item. -/
def skipRest : (fuel : Nat) → (started : Bool) → List Frame → Bytes → Except Fault Bytes
  | _, _, [], text => .ok text
  | 0, _, _ :: _, _ => .error (.ended .value)
  | fuel + 1, started, frame :: frames, text =>
      let more (text : Bytes) : Except Fault Bytes :=
        match skipKey frame text with
        | .ok text => skipOpen fuel (frame :: frames) text
        | .error fault => .error fault
      match skipBlank text with
      | [] => .error (.ended (match frame with | .list => .list | .object => .object))
      | b :: rest =>
          if b = (match frame with | .list => closeBracket | .object => closeBrace) then
            skipRest fuel true frames rest
          else if started then
            if b = comma then more rest
            else .error (.breach (match frame with
              | .list => .expectedCommaOrBracket
              | .object => .expectedCommaOrBrace))
          else more (b :: rest)

end

/-- Passes over one value. -/
def skipValue (text : Bytes) : Except Fault Bytes := skipOpen (2 * text.length + 2) [] text

end LockRelay.Json
