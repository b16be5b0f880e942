import LockRelay.Advert

/-! Devices in range and what a link to one of them can be asked. A device keeps counts of what
reached it, so that a history of calls can be compared with what it has seen. Any call can be
made to fail for a while, and the answer to a connection check can be held back. -/
namespace LockRelay

inductive LinkError where
  | noAdapter
  | unavailable (reason : String)
  deriving DecidableEq, Repr

def LinkError.message : LinkError → String
  | .noAdapter => "no Bluetooth adapter found"
  | .unavailable reason => s!"link unavailable: {reason}"

/-- The calls that a link takes. -/
inductive LinkCall where
  | connect
  | isConnected
  | resolve
  | subscribe
  | write
  | disconnect
  | drops
  deriving DecidableEq, Repr

/-- A failure that calls meet before they reach the device. -/
structure CallFault where
  error : LinkError
  /-- How many calls still fail; all of them when absent. -/
  remaining : Option Nat
  deriving DecidableEq, Repr

namespace CallFault

/-- A fault for so many calls, which is no fault when there are none. -/
def make (error : LinkError) : Option Nat → Option CallFault
  | some 0 => none
  | remaining => some ⟨error, remaining⟩

/-- What is left of a fault after one call failed. -/
def spend (fault : CallFault) : Option CallFault :=
  make fault.error (fault.remaining.map (· - 1))

end CallFault

/-- The characteristics that a lock is written to and notifies on. -/
structure Endpoints where
  outbound : Uuid
  inbound : Uuid
  deriving DecidableEq, Repr

structure Device where
  adverts : List Advert := []
  hasService : Bool := true
  connected : Bool := false
  /-- Number of connections made. -/
  connects : Nat := 0
  /-- Number of subscriptions to notifications made. -/
  subscriptions : Nat := 0
  refusesWrites : Bool := false
  /-- Acknowledged payloads, oldest first. -/
  written : List Bytes := []
  faults : LinkCall → Option CallFault := fun _ => none
  /-- How many of the coming connection checks have their answers held back. -/
  holds : Nat := 0

namespace Device

def setFault (d : Device) (call : LinkCall) (fault : Option CallFault) : Device :=
  { d with faults := fun other => if other = call then fault else d.faults other }

def connect (d : Device) : Device := { d with connects := d.connects + 1, connected := true }

def disconnect (d : Device) : Device := { d with connected := false }

/-- The endpoints under a service, or none when the device does not offer it. -/
def resolve (d : Device) (service : Uuid) : Except LinkError (Option Endpoints) :=
  if !d.connected then .error (.unavailable "not connected")
  else if service != lockService || !d.hasService then .ok none
  else .ok (some ⟨outboundCharacteristic, inboundCharacteristic⟩)

def subscribe (d : Device) (inbound : Uuid) : Except LinkError Device :=
  if inbound != inboundCharacteristic then .error (.unavailable "not a notify characteristic")
  else .ok { d with subscriptions := d.subscriptions + 1 }

/-- Acknowledges one payload. -/
def write (d : Device) (outbound : Uuid) (data : Bytes) : Except LinkError Device :=
  if !d.connected || d.refusesWrites then .error (.unavailable "write failed")
  else if outbound != outboundCharacteristic then .error (.unavailable "not a write characteristic")
  else .ok { d with written := d.written ++ [data] }

end Device

end LockRelay
