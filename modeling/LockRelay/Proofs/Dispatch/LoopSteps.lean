import LockRelay.Proofs.Dispatch.Aims
import LockRelay.Proofs.Dispatch.Attempts
import LockRelay.Proofs.Dispatch.RelayLoop
import LockRelay.Proofs.Dispatch.RelayedFrames
import LockRelay.Proofs.Dispatch.SentPayloads

/-! What is left of the relay loop where a dispatcher stands. Each part of handling a command, and of
relaying after it, takes from the frames, from the replies and from what the session tells just what the
loop takes, does what the loop does, and leaves what is left of the loop. -/
namespace LockRelay

/-- Whether the loop knows of an act. -/
def Act.shown : Act → Bool
  | .dropSeen => false
  | _ => true

namespace Dispatcher

/-- All that was done, but for the drops that were seen. -/
def shown (d : Dispatcher) : List Act := d.acts.filter Act.shown

/-- The frames that were taken from the queue. -/
def consumed (d : Dispatcher) : List Bytes :=
  (d.arrived.take d.taken).filterMap ChannelEvent.payload?

/-- The frames that are in the queue. -/
def backlog (d : Dispatcher) : List Bytes := d.inbox.filterMap ChannelEvent.payload?

def Event.reply? : Event → Option Reply
  | .reply answer => some answer
  | _ => none

/-- What is left of a loop, given the frames, the replies and the results that are to come. -/
abbrev Rest := List Bytes → List Reply → List Result → Course

/-- The loop itself, with the session and the ciphers that there are. -/
def looping (d : Dispatcher) : Rest := fun frames replies results =>
  Course.loop frames d.radio.session.serial d.cipher replies results

/-- A reply is obeyed, and the loop goes on. -/
def answering (d : Dispatcher) : Rest := fun frames replies results =>
  Course.answer (Course.loop frames) d.radio.session.serial d.cipher replies results

/-- A message is sent to whoever is going to have the session, and the loop goes on. -/
def messaging (d : Dispatcher) (message : Bytes) (serial : Option UInt32) : Rest :=
  fun frames replies results =>
    Course.sendMessage d.cipher message results fun cipher results =>
      Course.loop frames serial cipher replies results

/-- What is left where a dispatcher waits. -/
def rest (d : Dispatcher) : Rest := fun frames replies results =>
  match d.waiting with
  | none => { cipher := d.cipher, standing := .ended }
  | some (.operation message) =>
      Course.await d.cipher results fun results =>
        d.messaging message d.radio.aim frames replies results
  | some .event => d.looping frames replies results
  | some .reply => d.answering frames replies results

/-- What is left of a command that a message is still to follow. -/
def restOf (message : Bytes) : Handled → Rest
  | (d, none) => d.rest
  | (d, some (.error error)) => fun _ _ _ => Course.ended d.cipher (.error error)
  | (d, some (.ok ())) => d.messaging message d.radio.session.serial

theorem messaging_nil (d : Dispatcher) (serial : Option UInt32) :
    d.messaging [] serial =
      fun frames replies results => Course.loop frames serial d.cipher replies results := by
  funext frames replies results
  simp [messaging, Course.sendMessage]

theorem restOf_nil (d : Dispatcher) : restOf [] (d, some (.ok ())) = d.looping :=
  messaging_nil d _

/-- What a dispatcher took and did on its way, and how its session was prompted. -/
structure Takes (events : List Event) (d : Dispatcher) (prompts : List Radio.Prompt)
    (frames : List Bytes) (replies : List Reply) (acts : List Act) (e : Dispatcher) : Prop where
  prompted : Prompted (events.filterMap Event.device?) d prompts e
  channel : e.channel = d.channel
  consumed : e.consumed = d.consumed ++ frames
  replies : replies ++ e.replies = d.replies ++ events.filterMap Event.reply?
  shown : e.shown = d.shown ++ acts

/-- A dispatcher goes some way, and the loop goes along with it. -/
def Goes (events : List Event) (d : Dispatcher) (P : Rest) (e : Dispatcher) (Q : Rest) : Prop :=
  ∃ prompts frames replies acts, Takes events d prompts frames replies acts e ∧
    ∀ more others results, P (frames ++ more) (replies ++ others)
      ((d.radio.tells prompts).map Outcome.result ++ results) = (Q more others results).after acts

variable {d e f : Dispatcher} {P Q R : Rest} {events others : List Event}

theorem Goes.trans (h : Goes events d P e Q) (h' : Goes others e Q f R) :
    Goes (events ++ others) d P f R := by
  obtain ⟨prompts, frames, replies, acts, hTakes, hGoes⟩ := h
  obtain ⟨prompts', frames', replies', acts', hTakes', hGoes'⟩ := h'
  refine ⟨prompts ++ prompts', frames ++ frames', replies ++ replies', acts ++ acts',
    ⟨?_, hTakes'.channel.trans hTakes.channel, ?_, ?_, ?_⟩, fun more others results => ?_⟩
  · rw [List.filterMap_append]
    exact hTakes.prompted.trans hTakes'.prompted
  · rw [hTakes'.consumed, hTakes.consumed, List.append_assoc]
  · rw [List.append_assoc, hTakes'.replies, ← List.append_assoc, hTakes.replies,
      List.filterMap_append, List.append_assoc]
  · rw [hTakes'.shown, hTakes.shown, List.append_assoc]
  · rw [Radio.tells_append, ← hTakes.prompted.radio, List.map_append]
    simp only [List.append_assoc]
    rw [hGoes, hGoes', Course.after_after]

/-- The way begins with a step that takes nothing and leaves the session alone. -/
theorem Goes.noted (h : Goes events e P f Q) {acts : List Act} (hRadio : e.radio = d.radio)
    (hChannel : e.channel = d.channel) (hTaken : e.taken = d.taken) (hReplies : e.replies = d.replies)
    (hOperations : e.operations = d.operations) (hShown : e.shown = d.shown ++ acts) :
    Goes events d (fun frames replies results => (P frames replies results).after acts) f Q := by
  have hFirst : Goes [] d (fun frames replies results => (P frames replies results).after acts) e P := by
    refine ⟨[], [], [], acts, ⟨.of_same hRadio hOperations, hChannel, ?_, ?_, hShown⟩,
      fun _ _ _ => rfl⟩
    · simp only [consumed, arrived, hRadio, hChannel, hTaken, List.append_nil]
    · simpa using hReplies
  exact hFirst.trans h

/-- The way begins with a step of which nothing is seen. -/
theorem Goes.of_same (h : Goes events e P f Q) (hRadio : e.radio = d.radio)
    (hChannel : e.channel = d.channel) (hTaken : e.taken = d.taken) (hReplies : e.replies = d.replies)
    (hActs : e.acts = d.acts) : Goes events d P f Q := by
  have hShown : e.shown = d.shown ++ [] :=
    (congrArg (List.filter Act.shown) hActs).trans (List.append_nil _).symm
  exact h.noted hRadio hChannel hTaken hReplies (congrArg (List.foldl addOperation []) hActs) hShown

theorem Goes.refl (d : Dispatcher) (P : Rest) : Goes [] d P d P :=
  ⟨[], [], [], [], ⟨.of_same rfl rfl, rfl, by simp, by simp, by simp⟩, fun _ _ _ => rfl⟩

/-- What the dispatcher waits for takes nothing from the loop. -/
theorem Goes.waits (d : Dispatcher) (waiting : Option Wait) (P : Rest) :
    Goes [] d P { d with waiting } P :=
  (Goes.refl _ P).of_same rfl rfl rfl rfl rfl

theorem shown_record (d : Dispatcher) {act : Act} (hShown : act.shown = true) :
    (d.record act).shown = d.shown ++ [act] := by
  simp [shown, record, hShown]

theorem conclude_goes (d : Dispatcher) (result : Result) :
    Goes [] d (fun _ _ _ => Course.ended d.cipher result) (d.conclude result)
      (d.conclude result).rest :=
  (Goes.refl (d.conclude result) (d.conclude result).rest).noted (d := d) rfl rfl rfl rfl
    (operations_record d (.returned result)) (shown_record d rfl)

/-- The frames that were taken stay the same while the session goes on. -/
theorem consumed_of_grows (hGrows : d.radio.Grows e.radio) (hBound : d.taken ≤ d.arrived.length)
    (hChannel : e.channel = d.channel) (hTaken : e.taken = d.taken) : e.consumed = d.consumed := by
  obtain ⟨later, hArrived⟩ := arrived_of_grows hGrows hChannel
  unfold consumed
  rw [hTaken, ← hArrived, List.take_append_of_le_length hBound]

/-- Where a command stands whose operation the session was brought along with. -/
def awaiting (d : Dispatcher) (message : Bytes) : Radio × Option Outcome → Handled
  | (radio, some outcome) => ({ d with radio }, some outcome.result)
  | (radio, none) => ({ d with radio, waiting := some (.operation message) }, none)

/-- A prompt brings an operation along, once it was noted. -/
theorem awaiting_goes (e : Dispatcher) (prompt : Radio.Prompt) {serial : Option UInt32}
    {acts : List Act}
    (hAims : Radio.Aims serial (d.radio.prompted prompt))
    (hGrows : d.radio.Grows (d.radio.prompted prompt).1) (hBound : d.taken ≤ d.arrived.length)
    (hInner : prompt.event? = none) (hCipher : e.cipher = d.cipher)
    (hChannel : e.channel = d.channel) (hTaken : e.taken = d.taken) (hReplies : e.replies = d.replies)
    (hOperations : e.operations = d.operations ++ prompt.operation?.toList)
    (hShown : e.shown = d.shown ++ acts) (message : Bytes) :
    Goes [] d (fun frames replies results =>
        (Course.await d.cipher results fun results =>
          d.messaging message serial frames replies results).after acts)
      (e.awaiting message (d.radio.prompted prompt)).1
      (restOf message (e.awaiting message (d.radio.prompted prompt))) := by
  have hTells : d.radio.tells [prompt] = (d.radio.prompted prompt).2.toList := List.append_nil _
  have hTakes {f : Dispatcher} (hAfter : f.radio = (d.radio.prompted prompt).1)
      (hChannel' : f.channel = e.channel) (hTaken' : f.taken = e.taken)
      (hReplies' : f.replies = e.replies) (hActs : f.acts = e.acts) :
      Takes [] d [prompt] [] [] acts f := by
    refine ⟨?_, hChannel'.trans hChannel, ?_, ?_, ?_⟩
    · have hSame := (congrArg (List.foldl addOperation []) hActs).trans hOperations
      have hSingle := Prompted.single prompt hAfter hSame
      rw [hInner] at hSingle
      exact hSingle
    · rw [List.append_nil]
      exact consumed_of_grows (hAfter ▸ hGrows) hBound (hChannel'.trans hChannel)
        (hTaken'.trans hTaken)
    · simpa using hReplies'.trans hReplies
    · exact (congrArg (List.filter Act.shown) hActs).trans hShown
  rcases hResult : d.radio.prompted prompt with ⟨radio, _ | outcome⟩
  all_goals rw [hResult] at hAims hTakes hTells
  · refine ⟨_, _, _, _, hTakes rfl rfl rfl rfl rfl, fun more others results => ?_⟩
    have hAim : radio.aim = serial := hAims
    rw [hTells]
    simp only [awaiting, restOf, rest, messaging, hAim, hCipher]
    rfl
  · refine ⟨_, _, _, _, hTakes rfl rfl rfl rfl rfl, fun more others results => ?_⟩
    have hSerial : outcome.result = .ok () → radio.session.serial = serial := hAims
    rw [hTells]
    rcases hEnd : outcome.result with error | ⟨⟩
    · simp only [awaiting, restOf, hEnd, Option.toList_some, List.map_cons, List.map_nil, hCipher]
      rfl
    · simp only [awaiting, restOf, hEnd, Option.toList_some, List.map_cons, List.map_nil, messaging,
        hSerial hEnd, hCipher]
      rfl

theorem operate_eq (d : Dispatcher) (operation : Radio.Operation) (message : Bytes) :
    d.operate operation message = d.awaiting message (d.radio.start operation) := by
  unfold operate awaiting
  rcases d.radio.start operation with ⟨radio, _ | outcome⟩ <;> rfl

/-- An operation that an act tells of is put to the session. -/
theorem operate_goes (hRegular : d.radio.Regular) (hIdle : d.radio.operation = none)
    (hBound : d.taken ≤ d.arrived.length) (act : Act) (operation : Radio.Operation)
    (hShown : act.shown = true)
    (hOperations : addOperation d.operations act = d.operations ++ [operation])
    (message : Bytes) :
    Goes [] d (fun frames replies results =>
        (Course.await d.cipher results fun results =>
          d.messaging message (operation.aim d.radio.session.serial) frames replies
            results).after [act])
      ((d.record act).operate operation message).1
      (restOf message ((d.record act).operate operation message)) := by
  have hAims := hRegular.start_aims hIdle operation
  have hGrows := Radio.grows_of_moves (Radio.start_concludes operation hIdle).moves
  rw [operate_eq]
  exact awaiting_goes (d.record act) (.start operation) hAims hGrows hBound rfl rfl rfl rfl rfl
    ((operations_record d act).trans hOperations) (shown_record d hShown) message

/-- The session is free for an operation, and nobody has it but the connection that is listened to. -/
structure Free (d : Dispatcher) : Prop where
  coherent : d.Coherent
  tuned : d.Tuned
  idle : d.radio.operation = none
  held : d.radio.HeldSince d.radio.connections

/-- Where a step of a command has led: its session is free, or waited for, and has gone to nobody else
unless the step has failed. -/
structure Manned (h : Handled) : Prop where
  answered : Answered h
  coherent : h.1.Coherent
  held : (∀ error, h.2 ≠ some (.error error)) → h.1.radio.HeldSince h.1.radio.connections

theorem Manned.free (h : Manned (d, some (.ok ()))) : d.Free :=
  ⟨h.coherent, h.answered.tuned, h.answered.stands, h.held (by simp)⟩

theorem Free.manned (h : d.Free) {p : Handled} (hStrides : d.Strides p.1)
    (hAnswered : Answered p) : Manned p :=
  ⟨hAnswered, h.coherent.strides hStrides, fun _ => h.coherent.held_strides h.held hStrides⟩

/-- Only the acts and the ciphers have changed. -/
theorem Free.noted (h : d.Free) (hRadio : e.radio = d.radio) (hChannel : e.channel = d.channel)
    (hTaken : e.taken = d.taken) (hAsked : e.asked = d.asked) : e.Free :=
  ⟨h.coherent.of_same hRadio hAsked hChannel, h.tuned.of_same hRadio hChannel hTaken,
    (congrArg Radio.operation hRadio).trans h.idle, hRadio ▸ h.held⟩

theorem sealPayload_eq (d : Dispatcher) (payload : Bytes) :
    d.sealPayload payload =
      ({ d with cipher := (Course.sealed d.cipher payload).1 },
        (Course.sealed d.cipher payload).2) := by
  rcases d with ⟨radio, _ | cipher⟩
  · rfl
  · rfl

theorem sendPayload_goes (h : d.Free) (payload : Bytes) :
    Goes [] d (fun frames replies results =>
        Course.send d.cipher payload results fun cipher results =>
          Course.loop frames d.radio.session.serial cipher replies results)
      (d.sendPayload payload).1 (restOf [] (d.sendPayload payload)) := by
  unfold sendPayload Course.send
  rw [sealPayload_eq]
  rcases Course.sealed d.cipher payload with ⟨cipher, error | frame⟩
  · exact (Goes.refl _ _).of_same rfl rfl rfl rfl rfl
  · have hSent := operate_goes (d := { d with cipher }) h.coherent.proper.regular h.idle
      h.tuned.taken (.sending frame) (.send frame) rfl rfl []
    simp only [messaging_nil] at hSent
    exact hSent.of_same rfl rfl rfl rfl rfl

theorem sendMessage_goes (h : d.Free) (message : Bytes) :
    Goes [] d (d.messaging message d.radio.session.serial) (d.sendMessage message).1
      (restOf [] (d.sendMessage message)) := by
  unfold sendMessage messaging Course.sendMessage
  split_ifs
  · rw [restOf_nil]
    exact .refl d _
  · exact sendPayload_goes h message

theorem followWith_goes {p : Handled} (h : Manned p) (message : Bytes) :
    Goes [] p.1 (restOf message p) (followWith message p).1 (restOf [] (followWith message p)) := by
  rcases p with ⟨e, _ | (error | ⟨⟩)⟩
  · exact .refl e _
  · exact .refl e _
  · exact sendMessage_goes h.free message

theorem Manned.followWith {p : Handled} (h : Manned p) (message : Bytes) :
    Manned (followWith message p) := by
  have hStrides := followWith_strides message p
  have hAnswered := h.answered.followWith message
  rcases p with ⟨e, _ | (error | ⟨⟩)⟩
  · exact h
  · exact h
  · exact h.free.manned hStrides hAnswered

/-- The session goes to nobody but the connection that is asked for, unless that is refused. -/
theorem openConnection_manned (h : d.Free) (hFree : d.waiting = none) (serial : UInt64)
    (message : Bytes) :
    Manned ((d.record (.handling (.openChannel serial message))).openConnection serial message) := by
  have hAsks := openConnection_asks hFree serial message
  have hCoherent := h.coherent.asks hAsks h.idle
  have hConnections := (Radio.start_concludes (.connect serial) h.idle).connections
  refine ⟨openConnection_answered (d := d.record (.handling (.openChannel serial message)))
    h.idle serial message, hCoherent, fun hSucceeds => ?_⟩
  rw [hAsks.radio, hConnections]
  refine ⟨hConnections.ge, fun k hHeld => ?_⟩
  cases hFilter : DiscoveryFilter.forSerial serial with
  | error error =>
      refine absurd ?_ (hSucceeds (.connect (.serial error)))
      have hRefused := Radio.start_refused h.idle hFilter
      have hRadio : (d.record (.handling (.openChannel serial message))).radio = d.radio := rfl
      unfold openConnection operate
      simp only [hRadio]
      rcases hResult : d.radio.start (.connect serial) with ⟨radio, outcome⟩
      rw [hResult] at hRefused
      obtain rfl := hRefused
      rfl
  | ok filter =>
      obtain rfl := h.coherent.proper.regular.connect_held h.idle hFilter hHeld
      rfl

/-- A command for the lock that is bound asks for no connection. -/
theorem reused_noted (d : Dispatcher) (serial : UInt64) (message : Bytes) :
    ((d.record (.handling (.openChannel serial message))).record (.reused serial)).asked =
        d.asked ∧
      ((d.record (.handling (.openChannel serial message))).record (.reused serial)).operations =
        d.operations ∧
      ((d.record (.handling (.openChannel serial message))).record (.reused serial)).shown =
        d.shown ++ [.handling (.openChannel serial message), .reused serial] := by
  refine ⟨?_, ?_, ?_⟩
  · simp [asked, ledger_record, Ledger.add]
  · simp [operations_record, addOperation]
  · rw [shown_record _ rfl, shown_record _ rfl, List.append_assoc]
    rfl

/-- Which queue is listened to once a command has been begun: a new one if a connection is asked for. -/
def tunedFor (d : Dispatcher) : Command → Dispatcher
  | .openChannel serial _ =>
      if d.isBoundTo serial then d else { d with channel := some d.radio.connections, taken := 0 }
  | .sendPayload _ | .closeChannel => d

/-- An open of the lock that is bound. -/
theorem reuse_goes (h : d.Free) {serial : UInt64} (hBound : d.isBoundTo serial = true)
    (message : Bytes) :
    Goes [] (d.tunedFor (.openChannel serial message))
      (Course.run d.radio.session.serial d.cipher (.openChannel serial message))
      (d.perform (.openChannel serial message)).1
      (restOf [] (d.perform (.openChannel serial message))) := by
  obtain ⟨hAsked, hOperations, hShown⟩ := reused_noted d serial message
  have hReused : ((d.record (.handling (.openChannel serial message))).record
      (.reused serial)).Free := h.noted rfl rfl rfl hAsked
  have hRun : Course.run d.radio.session.serial d.cipher (.openChannel serial message) =
      fun frames replies results =>
        (d.messaging message d.radio.session.serial frames replies results).after
          [.handling (.openChannel serial message), .reused serial] := by
    funext frames replies results
    exact congrArg (Course.after _) (if_pos hBound)
  have hTuned : d.tunedFor (.openChannel serial message) = d := if_pos hBound
  have hPerformed : d.perform (.openChannel serial message) =
      ((d.record (.handling (.openChannel serial message))).record
        (.reused serial)).sendMessage message := if_pos hBound
  rw [hRun, hTuned, hPerformed]
  exact (sendMessage_goes hReused message).noted rfl rfl rfl rfl hOperations hShown

/-- An open of another lock. -/
theorem connect_goes (h : d.Free) (hFree : d.waiting = none) {serial : UInt64}
    (hOther : ¬d.isBoundTo serial = true) (message : Bytes) :
    Goes [] (d.tunedFor (.openChannel serial message))
      (Course.run d.radio.session.serial d.cipher (.openChannel serial message))
      (d.perform (.openChannel serial message)).1
      (restOf [] (d.perform (.openChannel serial message))) := by
  have hRun : Course.run d.radio.session.serial d.cipher (.openChannel serial message) =
      fun frames replies results => (Course.await d.cipher results fun results =>
        d.messaging message (some serial.toUInt32) frames replies results).after
          [.handling (.openChannel serial message)] := by
    funext frames replies results
    exact congrArg (Course.after _) (if_neg hOther)
  have hTuned : d.tunedFor (.openChannel serial message) =
      { d with channel := some d.radio.connections, taken := 0 } := if_neg hOther
  have hPerformed : d.perform (.openChannel serial message) = followWith message
      ((d.record (.handling (.openChannel serial message))).openConnection serial message) :=
    if_neg hOther
  have hAsked := operate_goes (d := { d with channel := some d.radio.connections, taken := 0 })
    h.coherent.proper.regular h.idle (Nat.zero_le _) (.handling (.openChannel serial message))
    (.connect serial) rfl rfl message
  rw [hRun, hTuned, hPerformed]
  exact hAsked.trans (followWith_goes (openConnection_manned h hFree serial message) message)

theorem perform_goes (h : d.Free) (command : Command)
    (hFree : ∀ serial message, command = .openChannel serial message → d.waiting = none) :
    Goes [] (d.tunedFor command) (Course.run d.radio.session.serial d.cipher command)
      (d.perform command).1 (restOf [] (d.perform command)) := by
  cases command with
  | openChannel serial message =>
      by_cases hBound : d.isBoundTo serial = true
      · exact reuse_goes h hBound message
      · exact connect_goes h (hFree serial message rfl) hBound message
  | sendPayload payload =>
      have hAsked := congrArg Ledger.asked (ledger_record d (.handling (.sendPayload payload)))
      have hSent := sendPayload_goes (d := d.record (.handling (.sendPayload payload)))
        (h.noted rfl rfl rfl hAsked) payload
      exact hSent.noted rfl rfl rfl rfl (operations_record d _) (shown_record d rfl)
  | closeChannel =>
      have hDisconnect := operate_goes h.coherent.proper.regular h.idle h.tuned.taken
        (.handling .closeChannel) .disconnect rfl rfl []
      simp only [messaging_nil] at hDisconnect
      exact hDisconnect

end Dispatcher

end LockRelay
