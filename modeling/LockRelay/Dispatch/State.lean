import LockRelay.Cipher.Aes
import LockRelay.Cipher.Channel
import LockRelay.Controller.RelayError
import LockRelay.Session.Background
import LockRelay.Wire.Message

/-! The state of a dispatcher: a session with one lock, the ciphers of its channel if it has some,
and a controller that answers relayed frames. What the session reports is queued per connection,
and the dispatcher listens to the queue of the connection that it asked for last. -/
namespace LockRelay

inductive DispatchError where
  | connect (error : ConnectError)
  | send (error : SendError)
  | disconnect (error : LinkError)
  | cipher (error : CipherError)
  deriving DecidableEq, Repr

def DispatchError.message : DispatchError → String
  | .connect error => s!"connect failed: {error.message}"
  | .send error => s!"send failed: {error.message}"
  | .disconnect error => s!"disconnect failed: {error.message}"
  | .cipher error => s!"cipher failed: {error.message}"

/-- How a command ended that the session carried out. -/
def Outcome.result : Outcome → Except DispatchError Unit
  | .connect (.error error) => .error (.connect error)
  | .send (.error error) => .error (.send error)
  | .disconnect (.error error) => .error (.disconnect error)
  | .connect (.ok ()) | .send (.ok ()) | .disconnect (.ok ()) => .ok ()

/-- What a session reports about its connection. -/
inductive ChannelEvent where
  | frame (payload : Bytes)
  | dropped
  deriving DecidableEq, Repr

/-- What an effect reports to the queue of a connection. -/
def Effect.event? (connection : ConnectionId) : Effect → Option ChannelEvent
  | .frame k payload => if k = connection then some (.frame payload) else none
  | .dropReported k => if k = connection then some .dropped else none
  | _ => none

/-- What the controller makes of a frame. -/
abbrev Reply := Except RelayError Command

/-- What a dispatcher does, as far as it can be seen. -/
inductive Act where
  | handling (command : Command)
  /-- A command asked for the lock that is bound already. -/
  | reused (serial : UInt64)
  /-- A frame goes to the lock, as it is on the wire. -/
  | sending (frame : Bytes)
  /-- A frame came from the lock, as it was on the wire. -/
  | received (frame : Bytes)
  | dropSeen
  /-- A payload was put to the controller. -/
  | relayed (serial : UInt32) (payload : Bytes)
  /-- A relayed frame had no consequence. -/
  | discarded (error : RelayError)
  /-- Handling a command, or relaying from a first command on, came to an end. -/
  | returned (result : Except DispatchError Unit)

/-- What a dispatcher waits for. -/
inductive Wait where
  /-- An operation of the session. When it has succeeded the message is sent, unless it is empty. -/
  | operation (message : Bytes)
  | event
  | reply
  deriving DecidableEq, Repr

structure Dispatcher where
  radio : Radio
  cipher : Option ChannelCipher := none
  /-- The connection whose events are listened to. -/
  channel : Option ConnectionId := none
  /-- Number of events taken from the queue of that connection. -/
  taken : Nat := 0
  /-- Replies that the controller has ready. -/
  replies : List Reply := []
  /-- Whether frames are relayed after the command that is handled. -/
  relaying : Bool := false
  /-- What the command or the relaying in progress waits for; nothing is in progress without. -/
  waiting : Option Wait := none
  /-- All that was done, oldest first. -/
  acts : List Act := []

namespace Dispatcher

def record (d : Dispatcher) (act : Act) : Dispatcher := { d with acts := d.acts ++ [act] }

/-- Events that have not been taken, oldest first. -/
def inbox (d : Dispatcher) : List ChannelEvent :=
  match d.channel with
  | none => []
  | some k => (d.radio.trace.filterMap (Effect.event? k)).drop d.taken

/-- Whether events can still come: the session has to hold the callbacks of the connection. -/
def listening (d : Dispatcher) : Bool := d.channel.isSome && d.radio.session.onNotify == d.channel

/-- A dispatcher that has done nothing yet. -/
def initial (devices : List Device) (cipher : Option ChannelCipher) : Dispatcher :=
  { radio := Radio.initial devices, cipher }

end Dispatcher

end LockRelay
