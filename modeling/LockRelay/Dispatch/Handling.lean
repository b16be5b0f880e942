import LockRelay.Dispatch.State

/-! Handling one command. A command makes one or two operations of the session, and its payload
passes through the outbound cipher before the session is asked. -/
namespace LockRelay.Dispatcher

/-- Where a command stands: its result, or nothing while the session waits. -/
abbrev Handled := Dispatcher × Option (Except DispatchError Unit)

/-- Puts an operation to the session; `message` is to follow it. -/
def operate (d : Dispatcher) (operation : Radio.Operation) (message : Bytes) : Handled :=
  match d.radio.start operation with
  | (radio, some outcome) => ({ d with radio }, some outcome.result)
  | (radio, none) => ({ d with radio, waiting := some (.operation message) }, none)

/-- The form of a payload on the wire. -/
def sealPayload (d : Dispatcher) (payload : Bytes) : Dispatcher × Except CipherError Bytes :=
  match d.cipher with
  | none => (d, .ok payload)
  | some cipher =>
      let (cipher, result) := cipher.sealFrame Aes.encrypt payload
      ({ d with cipher := some cipher }, result)

/-- The payload of a frame on the wire. -/
def openFrame (d : Dispatcher) (frame : Bytes) : Dispatcher × Except CipherError Bytes :=
  match d.cipher with
  | none => (d, .ok frame)
  | some cipher =>
      let (cipher, result) := cipher.openFrame Aes.encrypt frame
      ({ d with cipher := some cipher }, result)

def sendPayload (d : Dispatcher) (payload : Bytes) : Handled :=
  match d.sealPayload payload with
  | (d, .error error) => (d, some (.error (.cipher error)))
  | (d, .ok frame) => (d.record (.sending frame)).operate (.send frame) []

/-- Sends the message that comes with opening a channel, unless it is empty. -/
def sendMessage (d : Dispatcher) (message : Bytes) : Handled :=
  if message = [] then (d, some (.ok ())) else d.sendPayload message

/-- Goes on with a message when what precedes it has succeeded. -/
def followWith (message : Bytes) : Handled → Handled
  | (d, some (.ok ())) => d.sendMessage message
  | (d, other) => (d, other)

/-- Whether the session is bound to the lock with a serial number. -/
def isBoundTo (d : Dispatcher) (serial : UInt64) : Bool :=
  d.radio.session.serial.any (·.toUInt64 == serial)

/-- Asks for a connection and listens to its queue from then on, whatever comes of it. -/
def openConnection (d : Dispatcher) (serial : UInt64) (message : Bytes) : Handled :=
  { d with channel := some d.radio.connections, taken := 0 }.operate (.connect serial) message

/-- Carries out a command. A lock that is bound already is not connected again. -/
def perform (d : Dispatcher) (command : Command) : Handled :=
  let d := d.record (.handling command)
  match command with
  | .openChannel serial message =>
      if d.isBoundTo serial then (d.record (.reused serial)).sendMessage message
      else followWith message (d.openConnection serial message)
  | .sendPayload payload => d.sendPayload payload
  | .closeChannel => d.operate .disconnect []

end LockRelay.Dispatcher
