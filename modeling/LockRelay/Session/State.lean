import LockRelay.Link.Device

/-! The state of a session with one lock, and of everything that acts on it: the devices in
range, two kinds of background task, and the operation that a caller has in progress. One thread
runs them all; whoever can go on stands in a queue, in the order in which it became able to. -/
namespace LockRelay

/-- Devices are numbered in the order in which they came into range. -/
abbrev DeviceId := Nat

/-- Connections are numbered by the call that asked for them, successful or not. -/
abbrev ConnectionId := Nat

abbrev TaskId := Nat

inductive LinkState where
  | idle
  | connecting
  | bound
  | disconnected
  deriving DecidableEq, Repr

inductive ConnectError where
  | serial (error : SerialOutOfRange)
  /-- Discovery ended without a device. -/
  | deviceSelectionCancelled
  /-- The device found does not offer the lock service. -/
  | incorrectDeviceSelected
  | link (error : LinkError)
  deriving DecidableEq, Repr

def ConnectError.message : ConnectError → String
  | .serial error => error.message
  | .deviceSelectionCancelled => "device selection cancelled"
  | .incorrectDeviceSelected => "incorrect device selected"
  | .link error => error.message

inductive SendError where
  | notConnected
  /-- The lock service was gone when the link was bound again. -/
  | incorrectDeviceSelected
  | link (error : LinkError)
  deriving DecidableEq, Repr

def SendError.message : SendError → String
  | .notConnected => "not connected"
  | .incorrectDeviceSelected => "incorrect device selected"
  | .link error => error.message

/-- How an operation of the session ended. -/
inductive Outcome where
  | connect (result : Except ConnectError Unit)
  | send (result : Except SendError Unit)
  | disconnect (result : Except LinkError Unit)

/-- A call with its arguments, as it was put to discovery or to a device. -/
inductive Call where
  | discover (filter : DiscoveryFilter)
  | connect (device : DeviceId)
  | isConnected (device : DeviceId)
  | resolve (device : DeviceId) (service : Uuid)
  | subscribe (device : DeviceId) (inbound : Uuid)
  | write (device : DeviceId) (outbound : Uuid) (data : Bytes)
  | disconnect (device : DeviceId)
  | drops (device : DeviceId)
  deriving DecidableEq

/-- What can be seen of a session from outside, in the order in which it happens. -/
inductive Effect where
  /-- A call was made. -/
  | call (call : Call) (succeeded : Bool)
  /-- The state was assigned, perhaps the one it had. -/
  | assigned (state : LinkState)
  /-- A payload was handed to the notification callback of a connection. -/
  | frame (connection : ConnectionId) (payload : Bytes)
  /-- The disconnect callback of a connection was invoked. -/
  | dropReported (connection : ConnectionId)
  /-- An operation ended. -/
  | returned (outcome : Outcome)

/-- A session's own fields. A link comes with endpoints, a filter, a callback and two tasks. -/
structure Session where
  link : Option DeviceId := none
  endpoints : Option Endpoints := none
  filter : Option DiscoveryFilter := none
  onNotify : Option ConnectionId := none
  notifyTask : Option TaskId := none
  dropTask : Option TaskId := none
  state : LinkState := .idle
  /-- Number of times the link was bound or the callback was taken away. -/
  generation : Nat := 0
  onDisconnect : Option ConnectionId := none

namespace Session

/-- The serial number of the lock that the session is bound to. -/
def serial (s : Session) : Option UInt32 := s.filter.map DiscoveryFilter.serial

end Session

/-- The check that a drop watcher waits for: the generation it saw, and the answer held back. -/
structure Check where
  generation : Nat
  answer : Bool
  deriving DecidableEq, Repr

inductive Task where
  /-- Hands the payloads of a subscription to a connection's callback. -/
  | notifications (device : DeviceId) (connection : ConnectionId) (queue : List Bytes)
  /-- Handles reported drops of a device, one after another. -/
  | drops (device : DeviceId) (pending : Nat) (check : Option Check)

namespace Task

/-- Payloads that a subscription keeps; older ones are lost. -/
def notificationCapacity : Nat := 64

/-- Drops that a watcher's queue keeps. -/
def dropCapacity : Nat := 8

end Task

/-- Who can wait for a turn: a background task, or the caller of the session. -/
inductive Participant where
  | task (id : TaskId)
  | caller
  deriving DecidableEq, Repr

structure ConnectRequest where
  connection : ConnectionId
  filter : DiscoveryFilter
  /-- The state to return to when no device is selected. -/
  fallback : LinkState

/-- Where an operation waits for the answer to a connection check. -/
inductive Point where
  /-- Connecting: the earlier link is being torn down. -/
  | replacing (request : ConnectRequest) (link : DeviceId)
  /-- Connecting: the device found is about to be bound. -/
  | binding (request : ConnectRequest) (link : DeviceId)
  /-- Sending: the link may have to be bound again. -/
  | sending (data : Bytes)
  /-- Sending: the link is about to be bound again. -/
  | rebinding (data : Bytes)
  /-- Disconnecting: the link may already be down. -/
  | disconnecting (link : DeviceId)

/-- An operation in progress that waits, with the answer it is going to get. -/
structure Suspended where
  answer : Bool
  point : Point

/-- All that takes part: the devices in radio range, the session, its tasks, and who waits. -/
structure Radio where
  devices : List Device := []
  /-- Number of discoveries run. -/
  scans : Nat := 0
  discoverFault : Option CallFault := none
  session : Session := {}
  /-- Live tasks, oldest first. -/
  tasks : List (TaskId × Task) := []
  nextTask : TaskId := 0
  /-- Who can go on, in turn. -/
  ready : List Participant := []
  /-- Who waits for a held answer, and on which device. -/
  waiting : List (DeviceId × Participant) := []
  operation : Option Suspended := none
  /-- Number of connections asked for so far. -/
  connections : Nat := 0
  /-- All that has happened, oldest first. -/
  trace : List Effect := []

namespace Radio

def record (s : Radio) (effect : Effect) : Radio := { s with trace := s.trace ++ [effect] }

def device (s : Radio) (d : DeviceId) : Device := s.devices.getD d {}

def setDevice (s : Radio) (d : DeviceId) (device : Device) : Radio :=
  { s with devices := s.devices.set d device }

def task? (s : Radio) (id : TaskId) : Option Task := s.tasks.lookup id

def setTask (s : Radio) (id : TaskId) (task : Task) : Radio :=
  { s with tasks := s.tasks.map fun (other, t) => (other, if other = id then task else t) }

/-- Gives a participant a turn unless it already has one coming. -/
def wake (s : Radio) (p : Participant) : Radio :=
  if p ∈ s.ready then s else { s with ready := s.ready ++ [p] }

def spawn (s : Radio) (task : Task) : Radio × TaskId :=
  ({ s with
      tasks := s.tasks ++ [(s.nextTask, task)]
      nextTask := s.nextTask + 1
      ready := s.ready ++ [.task s.nextTask] }, s.nextTask)

/-- Takes a participant out of every queue. -/
def forget (s : Radio) (p : Participant) : Radio :=
  { s with
    ready := s.ready.filter (· != p)
    waiting := s.waiting.filter (·.2 != p) }

/-- Ends a task, with all that its queue still holds. -/
def abort (s : Radio) : Option TaskId → Radio
  | none => s
  | some id => { s.forget (.task id) with tasks := s.tasks.filter (·.1 != id) }

def assign (s : Radio) (state : LinkState) : Radio :=
  { s with session := { s.session with state } }.record (.assigned state)

/-- Enters the bound state for a fresh binding; a callback given replaces the one there was. -/
def bound (s : Radio) (callback : Option ConnectionId) : Radio :=
  { s with session := { s.session with
      generation := s.session.generation + 1
      onDisconnect := callback.or s.session.onDisconnect } }.assign .bound

/-- Forgets the disconnect callback, and makes drops seen so far stale. -/
def disarm (s : Radio) : Radio :=
  { s with session := { s.session with
      generation := s.session.generation + 1, onDisconnect := none } }

/-- Leaves the bound state because of a drop and invokes the disconnect callback, once. A drop
seen under an earlier generation is stale and changes nothing. -/
def dropped (s : Radio) (seen : Option Nat) : Radio :=
  if seen.any (· != s.session.generation) then s
  else if s.session.state = .bound then
    let next := { s with session := { s.session with onDisconnect := none } }.assign .disconnected
    match s.session.onDisconnect with
    | some connection => next.record (.dropReported connection)
    | none => next
  else s

end Radio

end LockRelay
