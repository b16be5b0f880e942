import LockRelay.Json.Printer

/-! The messages between the bridge and its controller, and their JSON texts. A command is an object
with its name under `tag` and its content, if it has one, under `data`. -/
namespace LockRelay

/-- What the controller asks for. -/
inductive Command where
  /-- Find and bind the lock with this serial number, then write the message unless it is empty. -/
  | openChannel (serial : UInt64) (message : Bytes)
  /-- Write a payload on the open channel. -/
  | sendPayload (payload : Bytes)
  /-- Tear the channel down. -/
  | closeChannel
  deriving DecidableEq, Repr

/-- A frame of the lock on its way to the controller. -/
structure RelayRequest where
  serial : UInt32
  message : Bytes
  deriving DecidableEq, Repr

/-- The question which lock to open for an endpoint. -/
structure ActivationRequest where
  endpointId : String
  deriving DecidableEq, Repr

namespace Command

/-- The kinds of commands. -/
inductive Tag where
  | openChannel
  | sendPayload
  | closeChannel
  deriving DecidableEq, Repr

namespace Tag

/-- The name of a kind in texts. -/
def variant : Tag → String
  | .openChannel => "initiate_bluetooth_connection"
  | .sendPayload => "send_bluetooth_message"
  | .closeChannel => "close_bluetooth_connection"

def all : List Tag := [.openChannel, .sendPayload, .closeChannel]

def ofVariant? (name : String) : Option Tag := all.find? (·.variant == name)

/-- The name of a kind as a command gives it when it is asked for its tag. It is kept apart from the
names in texts, which are made and read without it. -/
def name : Tag → String
  | .openChannel => "initiate_bluetooth_connection"
  | .sendPayload => "send_bluetooth_message"
  | .closeChannel => "close_bluetooth_connection"

end Tag

def tag : Command → Tag
  | .openChannel .. => .openChannel
  | .sendPayload _ => .sendPayload
  | .closeChannel => .closeChannel

end Command

open Json in
/-- A byte string as a list of numbers. -/
def printBytes (data : Bytes) : Bytes := printArray (data.map fun b => printNatural b.toNat)

open Json in
def Command.print (c : Command) : Bytes :=
  let tag := ("tag", printString c.tag.variant)
  match c with
  | .openChannel serial message =>
      printObject [tag, ("data", printObject
        [("serial", printNatural serial.toNat), ("message", printBytes message)])]
  | .sendPayload payload => printObject [tag, ("data", printBytes payload)]
  | .closeChannel => printObject [tag]

open Json in
def RelayRequest.print (r : RelayRequest) : Bytes :=
  printObject [("serial", printNatural r.serial.toNat), ("message", printBytes r.message)]

open Json in
def ActivationRequest.print (r : ActivationRequest) : Bytes :=
  printObject [("endpointId", printString r.endpointId)]

end LockRelay
