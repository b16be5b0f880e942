import LockRelay.Wire.Fields
import LockRelay.Wire.Message

/-! Reading messages. A command's content is read according to its tag. When the content stands
before the tag it is kept as a value until the tag is known. -/
namespace LockRelay

open Json

namespace Command

/-- A tag written as a string. -/
def Tag.readName (text : Bytes) : Reading Tag :=
  match readText "variant identifier" text with
  | .error fault => .error fault
  | .ok (name, rest) =>
      match Tag.ofVariant? name with
      | some tag => .ok (tag, rest)
      | none => .error (.misfit (.unknownVariant name (Tag.all.map Tag.variant)))

/-- The word null. -/
def readNull (expected : String) (text : Bytes) : Except Fault Bytes :=
  match skipBlank text with
  | [] => .error (.ended .value)
  | b :: rest =>
      if b = 0x6E then readWord restOfNull rest else .error (wrongType (b :: rest) expected)

/-- The tag of a command that is an object: its name, or an object with null under its name. -/
def Tag.read (text : Bytes) : Reading Tag :=
  match skipBlank text with
  | [] => .error (.ended .value)
  | b :: rest =>
      if b = quoteMark then Tag.readName (b :: rest)
      else if b = openBrace then
        match Tag.readName rest with
        | .error fault => .error fault
        | .ok (tag, text) =>
            match readColon text with
            | .error fault => .error fault
            | .ok text =>
                match readNull "unit" text with
                | .error fault => .error fault
                | .ok text =>
                    match skipBlank text with
                    | [] => .error (.ended .object)
                    | b :: rest =>
                        if b = closeBrace then .ok (tag, rest)
                        else .error (.breach .expectedValue)
      else .error (.breach .expectedValue)

/-- The content of an open command while it is read. -/
structure Opening where
  serial : Option UInt64 := none
  message : Option Bytes := none

namespace Opening

def fields : Fields Opening := fun o name =>
  if name = "serial" then
    Field.once name o.serial.isSome (fun n => { o with serial := some (UInt64.ofNat n) })
      (readNatural UInt64.size "u64") (Value.natural UInt64.size "u64")
  else if name = "message" then
    Field.once name o.message.isSome (fun data => { o with message := some data })
      readBytes Value.bytes
  else .ok none

/-- The command, once the content is complete. A missing message is an empty one. -/
def command (o : Opening) : Except Fault Command :=
  match required "serial" o.serial with
  | .ok serial => .ok (.openChannel serial (o.message.getD []))
  | .error fault => .error fault

end Opening

def openingName : String := "struct variant Command::OpenChannel"

def closingName : String := "unit variant Command::CloseChannel"

/-- Reads the content of a command whose tag is known. -/
def readContent (tag : Tag) (text : Bytes) : Reading Command :=
  match tag with
  | .openChannel =>
      match skipBlank text with
      | [] => .error (.ended .value)
      | b :: rest =>
          if b = openBrace then
            match readFields Opening.fields (rest.length + 1) true {} rest with
            | .error fault => .error fault
            | .ok (opening, rest) =>
                match opening.command with
                | .ok command => .ok (command, rest)
                | .error fault => .error fault
          else .error (wrongType (b :: rest) openingName)
  | .sendPayload =>
      match readBytes text with
      | .ok (payload, rest) => .ok (.sendPayload payload, rest)
      | .error fault => .error fault
  | .closeChannel =>
      match readNull closingName text with
      | .ok rest => .ok (.closeChannel, rest)
      | .error fault => .error fault

/-- Makes a command of a tag and content that was read before it. -/
def ofValue (tag : Tag) (value : Value) : Except Fault Command :=
  let misfit (expected : String) : Except Fault Command :=
    .error (.misfit (.invalidType value.found expected))
  match tag, value with
  | .openChannel, .object members =>
      match takeFields Opening.fields members {} with
      | .ok opening => opening.command
      | .error fault => .error fault
  | .openChannel, _ => misfit openingName
  | .sendPayload, value =>
      match value.bytes with
      | .ok payload => .ok (.sendPayload payload)
      | .error fault => .error fault
  | .closeChannel, .null => .ok .closeChannel
  | .closeChannel, _ => misfit closingName

/-- The two members of a command that matter. -/
inductive Member where
  | tag
  | data
  deriving DecidableEq, Repr

def Member.name : Member → String
  | .tag => "tag"
  | .data => "data"

/-- The next member that matters, and the bytes after its colon; others are passed over. None, and
the bytes from the brace on, when there is no further one. A member in `seen` is an error as soon
as its key is read. -/
def nextMemberOf (seen : List Member) :
    (fuel : Nat) → (first : Bool) → Bytes → Reading (Option Member)
  | 0, _, _ => .error (.ended .object)
  | fuel + 1, first, text =>
      match nextKey first text with
      | .error fault => .error fault
      | .ok none => .ok (none, text)
      | .ok (some (name, rest)) =>
          let known (member : Member) : Reading (Option Member) :=
            if member ∈ seen then .error (.misfit (.duplicateField member.name))
            else
              match readColon rest with
              | .ok rest => .ok (some member, rest)
              | .error fault => .error fault
          if name = Member.tag.name then known .tag
          else if name = Member.data.name then known .data
          else
            match readColon rest with
            | .error fault => .error fault
            | .ok rest =>
                match skipValue rest with
                | .error fault => .error fault
                | .ok rest => nextMemberOf seen fuel false rest

/-- Every member takes bytes, so the length of the text is fuel enough. -/
def nextMember (seen : List Member) (first : Bool) (text : Bytes) : Reading (Option Member) :=
  nextMemberOf seen (text.length + 1) first text

def missing {α : Type} (member : Member) : Except Fault α :=
  .error (.misfit (.missingField member.name))

/-- Passes over the rest of an object, with its brace, once tag and content are known. -/
def closeMembers (command : Command) (text : Bytes) : Except Fault (Command × Bytes) := do
  let (_, text) ← nextMember [.tag, .data] false text
  return (command, ← closeObject text)

/-- Reads the rest of an object that starts with the tag, from the tag's value on. Only a command
without content can do without `data`. -/
def readTagFirst (text : Bytes) : Except Fault (Command × Bytes) := do
  let (tag, text) ← Tag.read text
  match ← nextMember [.tag] false text with
  | (some _, text) =>
      let (command, text) ← readContent tag text
      closeMembers command text
  | (none, text) =>
      if tag = .closeChannel then return (.closeChannel, ← closeObject text) else missing .data

/-- Reads the rest of an object that starts with the content, from the content on. -/
def readDataFirst (text : Bytes) : Except Fault (Command × Bytes) := do
  let (value, text) ← readValue (nestingLimit - 1) text
  match ← nextMember [.data] false text with
  | (some _, text) =>
      let (tag, text) ← Tag.read text
      let command ← ofValue tag value
      closeMembers command text
  | (none, _) => missing .tag

/-- Reads the rest of an object, with its brace. -/
def readObject (text : Bytes) : Except Fault (Command × Bytes) := do
  match ← nextMember [] true text with
  | (some .tag, text) => readTagFirst text
  | (some .data, text) => readDataFirst text
  | (none, _) => missing .tag

def expectation : String := "adjacently tagged enum Command"

/-- Reads the rest of a list of tag and content, with its bracket. -/
def readPair (text : Bytes) : Except Fault (Command × Bytes) := do
  let some text ← nextItem true text
    | .error (.misfit (.invalidLength 0 expectation))
  let (tag, text) ← Tag.readName text
  let some text ← nextItem false text
    | .error (.misfit (.invalidLength 1 expectation))
  let (command, text) ← readContent tag text
  return (command, ← closeList text)

end Command

/-- Reads a record from a whole text, where it may be a list or an object. -/
def readWhole {α : Type} (expected : String) (list object : Bytes → Reading α) (text : Bytes) :
    Except Fault α := do
  let (value, rest) ←
    match skipBlank text with
    | [] => .error (.ended .value)
    | b :: rest =>
        if b = openBracket then list rest
        else if b = openBrace then object rest
        else .error (wrongType (b :: rest) expected)
  finish rest
  return value

/-- The command that a text is. -/
def Command.read (text : Bytes) : Except Fault Command :=
  readWhole expectation readPair readObject text

namespace RelayRequest

/-- A request while it is read. -/
structure Draft where
  serial : Option UInt32 := none
  message : Option Bytes := none

def fields : Fields Draft := fun d name =>
  if name = "serial" then
    Field.once name d.serial.isSome (fun n => { d with serial := some (UInt32.ofNat n) })
      (readNatural UInt32.size "u32") (Value.natural UInt32.size "u32")
  else if name = "message" then
    Field.once name d.message.isSome (fun data => { d with message := some data })
      readBytes Value.bytes
  else .ok none

def readObject (text : Bytes) : Except Fault (RelayRequest × Bytes) := do
  let (draft, rest) ← readFields fields (text.length + 1) true {} text
  return (⟨← required "serial" draft.serial, ← required "message" draft.message⟩, rest)

def readList (text : Bytes) : Except Fault (RelayRequest × Bytes) := do
  let short (length : Nat) : Fault :=
    .misfit (.invalidLength length "struct RelayRequest with 2 elements")
  let some text ← nextItem true text | .error (short 0)
  let (serial, text) ← readNatural UInt32.size "u32" text
  let some text ← nextItem false text | .error (short 1)
  let (message, text) ← readBytes text
  return (⟨UInt32.ofNat serial, message⟩, ← closeList text)

/-- The request that a text is. -/
def read (text : Bytes) : Except Fault RelayRequest :=
  readWhole "struct RelayRequest" readList readObject text

end RelayRequest

namespace ActivationRequest

def fields : Fields (Option String) := fun endpointId name =>
  if name = "endpointId" then
    Field.once name endpointId.isSome some (readText "a string")
      fun
        | .string text => .ok text
        | value => .error (.misfit (.invalidType value.found "a string"))
  else .ok none

def readObject (text : Bytes) : Except Fault (ActivationRequest × Bytes) := do
  let (endpointId, rest) ← readFields fields (text.length + 1) true none text
  return (⟨← required "endpointId" endpointId⟩, rest)

def readList (text : Bytes) : Except Fault (ActivationRequest × Bytes) := do
  let some text ← nextItem true text
    | .error (.misfit (.invalidLength 0 "struct ActivationRequest with 1 element"))
  let (endpointId, text) ← readText "a string" text
  return (⟨endpointId⟩, ← closeList text)

/-- The request that a text is. -/
def read (text : Bytes) : Except Fault ActivationRequest :=
  readWhole "struct ActivationRequest" readList readObject text

end ActivationRequest

end LockRelay
