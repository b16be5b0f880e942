import LockRelay.Dispatch.Handling

/-! Relaying: frames of the lock go to the controller one at a time, and its reply is obeyed before
the next frame is taken. A drop of the link does not end it, since the next send binds the link
again. A frame that the controller has no use for is dropped alone; a failure of the channel ends
the relaying. -/
namespace LockRelay.Dispatcher

/-- What was found in the queue. -/
inductive Next where
  /-- A frame was put to the controller. -/
  | relayed
  | empty
  /-- Relaying is over. -/
  | ended (result : Except DispatchError Unit)

/-- Takes the drops at the front of the queue. -/
def passDrops (d : Dispatcher) : Dispatcher :=
  let count := (d.inbox.takeWhile (· = .dropped)).length
  { d with
    taken := d.taken + count
    acts := d.acts ++ List.replicate count .dropSeen }

/-- Puts a frame to the controller. -/
def relayFrame (d : Dispatcher) (serial : UInt32) (frame : Bytes) : Dispatcher × Next :=
  match (d.record (.received frame)).openFrame frame with
  | (d, .error error) => (d, .ended (.error (.cipher error)))
  | (d, .ok payload) => (d.record (.relayed serial payload), .relayed)

/-- Takes events up to the next frame. Without a session, or when nothing can come any more,
relaying is over. -/
def takeFrame (d : Dispatcher) : Dispatcher × Next :=
  match d.radio.session.serial with
  | none => (d, .ended (.ok ()))
  | some serial =>
      let d := d.passDrops
      match d.inbox with
      | .frame frame :: _ => { d with taken := d.taken + 1 }.relayFrame serial frame
      | _ => (d, if d.listening then .empty else .ended (.ok ()))

/-- Does what the controller replied. It cannot ask for another channel here. -/
def obey (d : Dispatcher) : Reply → Handled
  | .ok (.openChannel ..) => (d.record (.discarded .unexpectedCommand), some (.ok ()))
  | .ok command => d.perform command
  | .error error => (d.record (.discarded error), some (.ok ()))

/-- Notes the result of what was in progress. -/
def conclude (d : Dispatcher) (result : Except DispatchError Unit) : Dispatcher :=
  { d.record (.returned result) with waiting := none, relaying := false }

/-- Relays as long as there are frames and replies to them. -/
def relay (replies : List Reply) (d : Dispatcher) : Dispatcher :=
  match { d with replies }.takeFrame with
  | (d, .ended result) => d.conclude result
  | (d, .empty) => { d with waiting := some .event }
  | (d, .relayed) =>
      match replies with
      | [] => { d with waiting := some .reply }
      | reply :: replies =>
          match { d with replies }.obey reply with
          | (d, some (.ok ())) => relay replies d
          | (d, some (.error error)) => d.conclude (.error error)
          | (d, none) => d

/-- Goes on after a command. -/
def proceed : Handled → Dispatcher
  | (d, some (.ok ())) => if d.relaying then d.relay d.replies else d.conclude (.ok ())
  | (d, some (.error error)) => d.conclude (.error error)
  | (d, none) => d

/-- Handles a command, and relays frames after it if asked to. Nothing can be started while
something is in progress. -/
def start (d : Dispatcher) (relaying : Bool) (command : Command) : Dispatcher :=
  if d.waiting.isSome then d else proceed ({ d with relaying }.perform command)

/-- Goes on with what is in progress, if what it waits for is there. -/
def resume (d : Dispatcher) : Dispatcher :=
  match d.waiting with
  | none => d
  | some (.operation message) =>
      match d.radio.resume with
      | (radio, none) => { d with radio }
      | (radio, some outcome) =>
          proceed (followWith message ({ d with radio, waiting := none }, some outcome.result))
  | some .event => { d with waiting := none }.relay d.replies
  | some .reply =>
      match d.replies with
      | [] => d
      | reply :: replies => proceed ({ d with replies, waiting := none }.obey reply)

/-- Drops what is in progress where it waits. -/
def abandon (d : Dispatcher) : Dispatcher :=
  { d with radio := d.radio.abandon, waiting := none, relaying := false }

/-! Turns. The dispatcher takes its turns as the caller of the session. -/

def wake (d : Dispatcher) : Dispatcher := { d with radio := d.radio.wake .caller }

/-- Gives the first in the queue its turn. -/
def poll (d : Dispatcher) : Dispatcher :=
  match d.radio.ready with
  | .caller :: ready => { d with radio := { d.radio with ready } }.resume
  | _ =>
      let d := { d with radio := d.radio.poll }
      if d.waiting = some .event ∧ d.inbox ≠ [] then d.wake else d

def pollTimes : Nat → Dispatcher → Dispatcher
  | 0, d => d
  | n + 1, d => if d.radio.ready.isEmpty then d else pollTimes n d.poll

/-- Lets everyone go on who can. A background task wakes the dispatcher at most once, and the
dispatcher starts at most two tasks for its command and one for every reply. -/
def settle (d : Dispatcher) : Dispatcher :=
  pollTimes (2 * (d.radio.ready.length + d.replies.length) + 5) d

/-- The controller has one more reply ready. -/
def addReply (d : Dispatcher) (reply : Reply) : Dispatcher :=
  let d := { d with replies := d.replies ++ [reply] }
  if d.waiting = some .reply then d.wake else d

/-- What happens to a dispatcher. -/
inductive Event where
  | handle (command : Command)
  /-- A command, after which frames are relayed. -/
  | run (command : Command)
  | abandon
  | turn
  | settle
  | reply (reply : Reply)
  | device (event : Radio.DeviceEvent)

def step (d : Dispatcher) : Event → Dispatcher
  | .handle command => d.start false command
  | .run command => d.start true command
  | .abandon => d.abandon
  | .turn => d.poll
  | .settle => d.settle
  | .reply reply => d.addReply reply
  | .device event => { d with radio := d.radio.react event }

/-- The state after a history. -/
def after (d : Dispatcher) (history : List Event) : Dispatcher := history.foldl step d

end LockRelay.Dispatcher
