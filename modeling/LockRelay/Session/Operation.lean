import LockRelay.Session.Calls

/-! The operations of a session: connect, send and disconnect. Each is a chain of steps between
connection checks, the only calls that can keep an operation waiting. What an operation did before
it waits stays done, also when it is abandoned there. -/
namespace LockRelay.Radio

/-- How far an operation got. -/
inductive Progress where
  | done (outcome : Outcome)
  | waiting (device : DeviceId) (answer : Bool) (point : Point)

/-- Checks the connection and goes on with the answer, or waits at `point`. -/
def ask (s : Radio) (d : DeviceId) (point : Point)
    (next : Radio → Except LinkError Bool → Radio × Progress) : Radio × Progress :=
  match s.isConnected d with
  | (s, .ready answer) => next s answer
  | (s, .held answer) => (s, .waiting d answer point)

/-- Looks up the endpoints and subscribes to notifications. -/
def resolveEndpoints (s : Radio) (d : DeviceId) (filter : DiscoveryFilter) :
    Radio × Except LinkError (Option Endpoints) :=
  match s.resolve d (Uuid.ofShort filter.serviceId) with
  | (s, .error error) => (s, .error error)
  | (s, .ok none) => (s, .ok none)
  | (s, .ok (some endpoints)) =>
      match s.subscribe d endpoints.inbound with
      | (s, .error error) => (s, .error error)
      | (s, .ok ()) => (s, .ok (some endpoints))

/-- Binds a link: connects it unless it is connected, then resolves and subscribes. -/
def bindLink (s : Radio) (d : DeviceId) (filter : DiscoveryFilter)
    (connected : Except LinkError Bool) : Radio × Except LinkError (Option Endpoints) :=
  match connected with
  | .error error => (s, .error error)
  | .ok true => s.resolveEndpoints d filter
  | .ok false =>
      match s.connectLink d with
      | (s, .error error) => (s, .error error)
      | (s, .ok ()) => s.resolveEndpoints d filter

/-- Gives up a device that was found but could not be bound. -/
def rejectDevice (s : Radio) (d : DeviceId) (error : ConnectError) : Radio × Progress :=
  let (s, _) := s.disconnectLink d
  (s.assign .disconnected, .done (.connect (.error error)))

/-- Hands the bound link over to the session and its two tasks. -/
def adopt (s : Radio) (request : ConnectRequest) (d : DeviceId) (endpoints : Endpoints) :
    Radio :=
  let (s, notifyTask) := s.spawn (.notifications d request.connection [])
  let (s, dropTask) := s.spawn (.drops d 0 none)
  let s := { s with session := { s.session with
      notifyTask := some notifyTask, dropTask := some dropTask
      onNotify := some request.connection, endpoints := some endpoints } }
  let s := s.bound (some request.connection)
  { s with session := { s.session with filter := some request.filter, link := some d } }

/-- Connecting, once the device found has told whether it is connected. -/
def bindFound (s : Radio) (request : ConnectRequest) (d : DeviceId)
    (connected : Except LinkError Bool) : Radio × Progress :=
  match s.bindLink d request.filter connected with
  | (s, .error error) => s.rejectDevice d (.link error)
  | (s, .ok none) => s.rejectDevice d .incorrectDeviceSelected
  | (s, .ok (some endpoints)) =>
      match s.drops d with
      | (s, .error error) => s.rejectDevice d (.link error)
      | (s, .ok ()) => (s.adopt request d endpoints, .done (.connect (.ok ())))

/-- Connecting, once no earlier link is held. -/
def search (s : Radio) (request : ConnectRequest) : Radio × Progress :=
  match (s.assign .connecting).discover request.filter with
  | (s, .error error) => (s.assign request.fallback, .done (.connect (.error (.link error))))
  | (s, .ok none) =>
      (s.assign request.fallback, .done (.connect (.error .deviceSelectionCancelled)))
  | (s, .ok (some d)) => s.ask d (.binding request d) fun s answer => s.bindFound request d answer

/-- Ends both tasks and clears every field of the session. -/
def clear (s : Radio) : Radio :=
  let s := ((s.abort s.session.dropTask).abort s.session.notifyTask).disarm
  { s with session := { s.session with
      dropTask := none, notifyTask := none, onNotify := none, endpoints := none
      filter := none, link := none } }.assign .disconnected

/-- Takes a link down that has told whether it is connected. -/
def takeDown (s : Radio) (d : DeviceId) (connected : Except LinkError Bool) :
    Radio × Except LinkError Unit :=
  match connected with
  | .error error => (s, .error error)
  | .ok true => s.disconnectLink d
  | .ok false => (s, .ok ())

/-- Connecting, once the earlier link has told whether it is connected. -/
def replace (s : Radio) (request : ConnectRequest) (d : DeviceId)
    (connected : Except LinkError Bool) : Radio × Progress :=
  match s.takeDown d connected with
  | (s, .error error) => (s, .done (.connect (.error (.link error))))
  | (s, .ok ()) => s.search request

/-- Finds the lock with a serial number and binds it. A link held before is torn down first. -/
def connect (s : Radio) (serial : UInt64) : Radio × Progress :=
  let connection := s.connections
  let s := { s with connections := connection + 1 }
  match DiscoveryFilter.forSerial serial with
  | .error error => (s, .done (.connect (.error (.serial error))))
  | .ok filter =>
      match s.session.link with
      | none => s.search ⟨connection, filter, .idle⟩
      | some d =>
          let request : ConnectRequest := ⟨connection, filter, .disconnected⟩
          s.clear.ask d (.replacing request d) fun s answer => s.replace request d answer

/-- Writes to a link that is bound. -/
def writeOut (s : Radio) (data : Bytes) : Radio × Progress :=
  match s.session.link, s.session.endpoints with
  | some d, some endpoints =>
      match s.write d endpoints.outbound data with
      | (s, .error error) => (s, .done (.send (.error (.link error))))
      | (s, .ok ()) => (s, .done (.send (.ok ())))
  | _, _ => (s, .done (.send (.error .notConnected)))

/-- Replaces the notification task and endpoints after the link was bound again. -/
def readopt (s : Radio) (d : DeviceId) (endpoints : Endpoints) : Radio :=
  let s := s.abort s.session.notifyTask
  let s := { s with session := { s.session with notifyTask := none } }
  let s := match s.session.onNotify with
    | none => s
    | some connection =>
        let (s, task) := s.spawn (.notifications d connection [])
        { s with session := { s.session with notifyTask := some task } }
  { s with session := { s.session with endpoints := some endpoints } }.bound none

/-- Sending, once the dropped link has told whether it is connected by now. -/
def rebind (s : Radio) (data : Bytes) (connected : Except LinkError Bool) : Radio × Progress :=
  match s.session.link, s.session.filter with
  | some d, some filter =>
      match s.bindLink d filter connected with
      | (s, .error error) => (s, .done (.send (.error (.link error))))
      | (s, .ok none) =>
          let (s, _) := s.disconnectLink d
          (s, .done (.send (.error .incorrectDeviceSelected)))
      | (s, .ok (some endpoints)) => (s.readopt d endpoints).writeOut data
  | _, _ => (s, .done (.send (.error .notConnected)))

/-- Sending, once the link has told whether it is connected. A link that is down counts as
dropped, even when no drop has been reported yet. -/
def sendChecked (s : Radio) (data : Bytes) (connected : Except LinkError Bool) :
    Radio × Progress :=
  match connected with
  | .error error => (s, .done (.send (.error (.link error))))
  | .ok true => s.writeOut data
  | .ok false =>
      match s.session.link, s.session.filter with
      | some d, some _ =>
          (s.dropped none).ask d (.rebinding data) fun s answer => s.rebind data answer
      | _, _ => (s, .done (.send (.error .notConnected)))

/-- Writes a payload to the lock, binding the link again first if it is down. -/
def send (s : Radio) (data : Bytes) : Radio × Progress :=
  match s.session.link, s.session.endpoints with
  | some d, some _ => s.ask d (.sending data) fun s answer => s.sendChecked data answer
  | _, _ => (s, .done (.send (.error .notConnected)))

/-- Disconnecting, once the link has told whether it is connected. -/
def finishDisconnect (s : Radio) (d : DeviceId) (connected : Except LinkError Bool) :
    Radio × Progress :=
  let (s, result) := s.takeDown d connected
  (s, .done (.disconnect result))

/-- Tears the session down. Neither callback is invoked by it or after it. -/
def disconnect (s : Radio) : Radio × Progress :=
  match s.session.link with
  | none => (s.clear, .done (.disconnect (.ok ())))
  | some d => s.clear.ask d (.disconnecting d) fun s answer => s.finishDisconnect d answer

/-- Goes on from a point with the answer that was waited for. -/
def continueAt (s : Radio) (point : Point) (answer : Except LinkError Bool) :
    Radio × Progress :=
  match point with
  | .replacing request d => s.replace request d answer
  | .binding request d => s.bindFound request d answer
  | .sending data => s.sendChecked data answer
  | .rebinding data => s.rebind data answer
  | .disconnecting d => s.finishDisconnect d answer

/-- Notes where an operation stands: its outcome, or that the caller waits. -/
def note : Radio × Progress → Radio × Option Outcome
  | (s, .done outcome) => (s.record (.returned outcome), some outcome)
  | (s, .waiting d answer point) =>
      ({ s with
          operation := some ⟨answer, point⟩
          waiting := s.waiting ++ [(d, .caller)] }, none)

inductive Operation where
  | connect (serial : UInt64)
  | send (data : Bytes)
  | disconnect

/-- Starts an operation. While another one is in progress nothing can be started. -/
def start (s : Radio) (operation : Operation) : Radio × Option Outcome :=
  if s.operation.isSome then (s, none)
  else note <| match operation with
    | .connect serial => s.connect serial
    | .send data => s.send data
    | .disconnect => s.disconnect

/-- Gives the operation in progress the answer it waited for. -/
def resume (s : Radio) : Radio × Option Outcome :=
  match s.operation with
  | none => (s, none)
  | some suspended =>
      note ({ s with operation := none }.continueAt suspended.point (.ok suspended.answer))

/-- Drops the operation in progress where it waits. -/
def abandon (s : Radio) : Radio := { s.forget .caller with operation := none }

end LockRelay.Radio
