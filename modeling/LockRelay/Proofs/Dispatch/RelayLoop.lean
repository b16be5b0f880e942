import LockRelay.Dispatch.Relay

/-! The relay loop by itself: a command, and then frames, replies and what the session makes of its
operations, each read off a list in turn. The loop knows no session, no queue and no turns, and nothing
of drops. It ends, or stands where a list has come to its end. -/
namespace LockRelay

/-- How an operation of the session ended, or a command. -/
abbrev Result := Except DispatchError Unit

/-- What is needed to go on. -/
inductive Standing where
  /-- The session has not ended an operation yet. -/
  | operation
  | frame
  | reply
  /-- Nothing: it is over. -/
  | ended
  deriving DecidableEq, Repr

/-- What was done, and where that has led. -/
structure Course where
  acts : List Act := []
  cipher : Option ChannelCipher
  standing : Standing

namespace Course

/-- Something else was done before. -/
def after (acts : List Act) (c : Course) : Course := { c with acts := acts ++ c.acts }

@[simp] theorem after_nil (c : Course) : c.after [] = c := rfl

@[simp] theorem after_after (acts later : List Act) (c : Course) :
    (c.after later).after acts = c.after (acts ++ later) := by
  simp [after]

/-- The result is returned. -/
def ended (cipher : Option ChannelCipher) (result : Result) : Course :=
  { acts := [.returned result], cipher, standing := .ended }

/-- The form of a payload on the wire, with the cipher after it. -/
def sealed (cipher : Option ChannelCipher) (payload : Bytes) :
    Option ChannelCipher × Except CipherError Bytes :=
  match cipher with
  | none => (none, .ok payload)
  | some cipher =>
      let (cipher, result) := cipher.sealFrame Aes.encrypt payload
      (some cipher, result)

/-- The payload of a frame on the wire, with the cipher after it. -/
def opened (cipher : Option ChannelCipher) (frame : Bytes) :
    Option ChannelCipher × Except CipherError Bytes :=
  match cipher with
  | none => (none, .ok frame)
  | some cipher =>
      let (cipher, result) := cipher.openFrame Aes.encrypt frame
      (some cipher, result)

/-- The session ends an operation; a failure ends everything. -/
def await (cipher : Option ChannelCipher) (results : List Result)
    (next : List Result → Course) : Course :=
  match results with
  | [] => { cipher, standing := .operation }
  | .error error :: _ => ended cipher (.error error)
  | .ok () :: results => next results

/-- A payload goes to the lock. -/
def send (cipher : Option ChannelCipher) (payload : Bytes) (results : List Result)
    (next : Option ChannelCipher → List Result → Course) : Course :=
  match sealed cipher payload with
  | (cipher, .error error) => ended cipher (.error (.cipher error))
  | (cipher, .ok frame) => (await cipher results (next cipher)).after [.sending frame]

/-- The message that comes with an open goes to the lock, unless it is empty. -/
def sendMessage (cipher : Option ChannelCipher) (message : Bytes) (results : List Result)
    (next : Option ChannelCipher → List Result → Course) : Course :=
  if message = [] then next cipher results else send cipher message results next

/-- The controller replies. Neither an error nor an open has any consequence. -/
def answer (next : Option UInt32 → Option ChannelCipher → List Reply → List Result → Course)
    (serial : Option UInt32) (cipher : Option ChannelCipher) (replies : List Reply)
    (results : List Result) : Course :=
  match replies with
  | [] => { cipher, standing := .reply }
  | .error error :: replies => (next serial cipher replies results).after [.discarded error]
  | .ok (.openChannel ..) :: replies =>
      (next serial cipher replies results).after [.discarded .unexpectedCommand]
  | .ok (.sendPayload payload) :: replies =>
      (send cipher payload results fun cipher results =>
        next serial cipher replies results).after [.handling (.sendPayload payload)]
  | .ok .closeChannel :: replies =>
      (await cipher results fun results => next none cipher replies results).after
        [.handling .closeChannel]

/-- The loop. Each frame is put to the controller, and its reply obeyed before the next one is taken. It
ends once there is no session. -/
def loop : List Bytes → Option UInt32 → Option ChannelCipher → List Reply → List Result → Course
  | _, none, cipher, _, _ => ended cipher (.ok ())
  | [], some _, cipher, _, _ => { cipher, standing := .frame }
  | frame :: frames, some serial, cipher, replies, results =>
      match opened cipher frame with
      | (cipher, .error error) => (ended cipher (.error (.cipher error))).after [.received frame]
      | (cipher, .ok payload) =>
          (answer (loop frames) (some serial) cipher replies results).after
            [.received frame, .relayed serial payload]

/-- The first command, with the session that there is, and then the loop. -/
def run (serial : Option UInt32) (cipher : Option ChannelCipher) (first : Command)
    (frames : List Bytes) (replies : List Reply) (results : List Result) : Course :=
  after [.handling first] <| match first with
  | .openChannel asked message =>
      if serial.any (·.toUInt64 == asked) then
        (sendMessage cipher message results fun cipher results =>
          loop frames serial cipher replies results).after [.reused asked]
      else
        await cipher results fun results =>
          sendMessage cipher message results fun cipher results =>
            loop frames (some asked.toUInt32) cipher replies results
  | .sendPayload payload =>
      send cipher payload results fun cipher results => loop frames serial cipher replies results
  | .closeChannel => await cipher results fun results => loop frames none cipher replies results

theorem loop_none (frames : List Bytes) (cipher : Option ChannelCipher) (replies : List Reply)
    (results : List Result) : loop frames none cipher replies results = ended cipher (.ok ()) := by
  cases frames <;> rfl

end Course

end LockRelay
