import LockRelay.Proofs.Dispatch.RadioMoves
import LockRelay.Proofs.Session.Numbers

/-! Which queue a dispatcher listens to: that of the connection it asked for last, whether or not
the session holds the callbacks of that connection. It takes no more events than have arrived. -/
namespace LockRelay.Dispatcher

/-- Everything that has been queued for the connection that is listened to. -/
def arrived (d : Dispatcher) : List ChannelEvent :=
  match d.channel with
  | none => []
  | some k => d.radio.trace.filterMap (Effect.event? k)

theorem inbox_eq_drop (d : Dispatcher) : d.inbox = d.arrived.drop d.taken := by
  unfold inbox arrived
  cases d.channel <;> simp

structure Tuned (d : Dispatcher) : Prop where
  first : d.channel = none → d.radio.connections = 0
  last : ∀ k, d.channel = some k → k + 1 = d.radio.connections
  taken : d.taken ≤ d.arrived.length

variable {d e : Dispatcher}

/-- What has been queued stays queued. -/
theorem arrived_of_grows (hGrows : d.radio.Grows e.radio) (hChannel : e.channel = d.channel) :
    d.arrived <+: e.arrived := by
  unfold arrived
  rw [hChannel]
  cases d.channel with
  | none => exact List.prefix_rfl
  | some k => exact hGrows.trace.filterMap _

theorem Tuned.of_grows (h : d.Tuned) (hGrows : d.radio.Grows e.radio)
    (hConnections : e.radio.connections = d.radio.connections) (hChannel : e.channel = d.channel)
    (hTaken : e.taken = d.taken) : e.Tuned := by
  refine ⟨fun hNone => ?_, fun k hListens => ?_, ?_⟩
  · rw [hConnections]
    exact h.first (hChannel ▸ hNone)
  · rw [hConnections]
    exact h.last k (hChannel ▸ hListens)
  · rw [hTaken]
    exact h.taken.trans (arrived_of_grows hGrows hChannel).length_le

/-- A change that leaves the session, the channel and what was taken alone. -/
theorem Tuned.of_same (h : d.Tuned) (hRadio : e.radio = d.radio) (hChannel : e.channel = d.channel)
    (hTaken : e.taken = d.taken) : e.Tuned :=
  h.of_grows (hRadio ▸ .of_eq rfl rfl rfl)
    (congrArg Radio.connections hRadio) hChannel hTaken

/-- A step of the caller keeps the session idle or leaves an operation of it waiting. -/
structure Answered (h : Handled) : Prop where
  tuned : h.1.Tuned
  stands : match h.2 with
    | some _ => h.1.radio.operation = none
    | none => ∃ message, h.1.waiting = some (.operation message)

theorem operate_answered (h : d.Tuned) (hIdle : d.radio.operation = none)
    {operation : Radio.Operation} (hAsked : operation.asked = 0) (message : Bytes) :
    Answered (d.operate operation message) := by
  have hStart := Radio.start_concludes operation hIdle
  rw [hAsked] at hStart
  unfold operate
  rcases hResult : d.radio.start operation with ⟨radio, _ | outcome⟩
  all_goals
    rw [hResult] at hStart
    have hGrows := Radio.grows_of_moves hStart.moves
  · exact ⟨h.of_grows hGrows hStart.connections rfl rfl, message, rfl⟩
  · exact ⟨h.of_grows hGrows hStart.connections rfl rfl, hStart.stands.1⟩

theorem openConnection_answered (hIdle : d.radio.operation = none) (serial : UInt64)
    (message : Bytes) : Answered (d.openConnection serial message) := by
  have hStart := Radio.start_concludes (.connect serial) hIdle
  have hTuned (radio : Radio) (waiting : Option Wait)
      (hConnections : radio.connections = d.radio.connections + 1) :
      ({ d with channel := some d.radio.connections, taken := 0, radio, waiting } :
        Dispatcher).Tuned := by
    refine ⟨nofun, ?_, Nat.zero_le _⟩
    rintro k ⟨⟩
    exact hConnections.symm
  unfold openConnection operate
  rcases hResult : d.radio.start (.connect serial) with ⟨radio, _ | outcome⟩
  all_goals
    rw [hResult] at hStart
    simp only
  · exact ⟨hTuned radio _ hStart.connections, message, rfl⟩
  · exact ⟨hTuned radio _ hStart.connections, hStart.stands.1⟩

theorem sendPayload_answered (h : d.Tuned) (hIdle : d.radio.operation = none) (payload : Bytes) :
    Answered (d.sendPayload payload) := by
  obtain ⟨cipher, -, ⟨error, hSend⟩ | ⟨frame, hSend⟩⟩ := sendPayload_cases d payload
  all_goals rw [hSend]
  · exact ⟨h.of_same rfl rfl rfl, hIdle⟩
  · have hRecorded : ({ d with cipher }.record (.sending frame)).Tuned := h.of_same rfl rfl rfl
    exact operate_answered hRecorded hIdle rfl []

theorem sendMessage_answered (h : d.Tuned) (hIdle : d.radio.operation = none) (message : Bytes) :
    Answered (d.sendMessage message) := by
  unfold sendMessage
  split_ifs
  · exact ⟨h, hIdle⟩
  · exact sendPayload_answered h hIdle message

theorem Answered.followWith {h : Handled} (hAnswered : Answered h) (message : Bytes) :
    Answered (followWith message h) := by
  rcases h with ⟨e, _ | (error | ⟨⟩)⟩
  · exact hAnswered
  · exact hAnswered
  · exact sendMessage_answered hAnswered.tuned hAnswered.stands message

theorem perform_answered (h : d.Tuned) (hIdle : d.radio.operation = none) (command : Command) :
    Answered (d.perform command) := by
  have hHandling : (d.record (.handling command)).Tuned := h.of_same rfl rfl rfl
  unfold perform
  cases command with
  | openChannel serial message =>
      simp only
      split_ifs
      · have hReused : ((d.record (.handling (.openChannel serial message))).record
            (.reused serial)).Tuned := hHandling.of_same rfl rfl rfl
        exact sendMessage_answered hReused hIdle message
      · exact (openConnection_answered (d := d.record (.handling (.openChannel serial message)))
          hIdle serial message).followWith message
  | sendPayload payload => exact sendPayload_answered hHandling hIdle payload
  | closeChannel => exact operate_answered hHandling hIdle rfl []

theorem obey_answered (h : d.Tuned) (hIdle : d.radio.operation = none) (reply : Reply) :
    Answered (d.obey reply) := by
  unfold obey
  rcases reply with error | ⟨serial, message⟩ | payload | _
  · exact ⟨h.of_same rfl rfl rfl, hIdle⟩
  · exact ⟨h.of_same rfl rfl rfl, hIdle⟩
  · exact perform_answered h hIdle _
  · exact perform_answered h hIdle _

theorem passDrops_tuned (h : d.Tuned) : d.passDrops.Tuned := by
  refine ⟨h.first, h.last, ?_⟩
  have hCount := (List.takeWhile_prefix (· = ChannelEvent.dropped) (l := d.inbox)).length_le
  have hLength : d.inbox.length = d.arrived.length - d.taken := by
    rw [inbox_eq_drop, List.length_drop]
  have hTaken := h.taken
  change d.taken + _ ≤ d.arrived.length
  omega

theorem relayFrame_tuned (h : d.Tuned) (serial : UInt32) (frame : Bytes) :
    (d.relayFrame serial frame).1.Tuned := by
  obtain ⟨cipher, -, hRelayed⟩ := relayFrame_eq d serial frame
  rw [hRelayed]
  exact h.of_same rfl rfl rfl

theorem takeFrame_tuned (h : d.Tuned) : d.takeFrame.1.Tuned := by
  have hPassed := passDrops_tuned h
  unfold takeFrame
  cases d.radio.session.serial with
  | none => exact h
  | some serial =>
      simp only
      split
      · rename_i frame rest hInbox
        apply relayFrame_tuned
        refine ⟨hPassed.first, hPassed.last, ?_⟩
        have hLength : d.passDrops.inbox.length = d.passDrops.arrived.length - d.passDrops.taken := by
          rw [inbox_eq_drop, List.length_drop]
        rw [hInbox, List.length_cons] at hLength
        change d.passDrops.taken + 1 ≤ d.passDrops.arrived.length
        omega
      · exact hPassed

/-- Between turns the session is idle, unless an operation of it is waited for, and frames are
relayed only while something is in progress. -/
structure Steady (d : Dispatcher) : Prop where
  tuned : d.Tuned
  idle : (∀ message, d.waiting ≠ some (.operation message)) → d.radio.operation = none
  relaying : d.waiting = none → d.relaying = false

theorem conclude_steady (h : d.Tuned) (hIdle : d.radio.operation = none)
    (result : Except DispatchError Unit) : (d.conclude result).Steady :=
  ⟨h.of_same rfl rfl rfl, fun _ => hIdle, fun _ => rfl⟩

theorem Steady.of_operation {message : Bytes} (h : d.Tuned)
    (hWaiting : d.waiting = some (.operation message)) : d.Steady := by
  refine ⟨h, fun hOther => absurd hWaiting (hOther message), ?_⟩
  rw [hWaiting]
  exact nofun

theorem takeFrame_steady {replies : List Reply} {next : Next} (h : d.Tuned)
    (hIdle : d.radio.operation = none) (hTaken : { d with replies }.takeFrame = (e, next)) :
    e.Tuned ∧ e.radio.operation = none := by
  have hReplies : ({ d with replies } : Dispatcher).Tuned := h.of_same rfl rfl rfl
  have hTuned := takeFrame_tuned hReplies
  rw [hTaken] at hTuned
  rw [← radio_of_takeFrame d hTaken] at hIdle
  exact ⟨hTuned, hIdle⟩

theorem relay_steady (h : d.Tuned) (hIdle : d.radio.operation = none) (replies : List Reply) :
    (relay replies d).Steady := by
  have hObeys {f : Dispatcher} (hTaken : f.Tuned ∧ f.radio.operation = none) (reply : Reply)
      (replies : List Reply) : Answered ({ f with replies }.obey reply) := by
    have hReplies : ({ f with replies } : Dispatcher).Tuned := hTaken.1.of_same rfl rfl rfl
    exact obey_answered hReplies hTaken.2 reply
  fun_induction relay replies d with
  | case1 replies d e result hTaken =>
      obtain ⟨hTuned, hIdle⟩ := takeFrame_steady h hIdle hTaken
      exact conclude_steady hTuned hIdle result
  | case2 replies d e hTaken =>
      obtain ⟨hTuned, hIdle⟩ := takeFrame_steady h hIdle hTaken
      exact ⟨hTuned.of_same rfl rfl rfl, fun _ => hIdle, by simp⟩
  | case3 d e hTaken =>
      obtain ⟨hTuned, hIdle⟩ := takeFrame_steady h hIdle hTaken
      exact ⟨hTuned.of_same rfl rfl rfl, fun _ => hIdle, by simp⟩
  | case4 d e reply replies f hObeyed hTaken ih =>
      have hAnswered := hObeys (takeFrame_steady h hIdle hTaken) reply replies
      rw [hObeyed] at hAnswered
      exact ih hAnswered.tuned hAnswered.stands
  | case5 d e reply replies f error hObeyed hTaken =>
      have hAnswered := hObeys (takeFrame_steady h hIdle hTaken) reply replies
      rw [hObeyed] at hAnswered
      exact conclude_steady hAnswered.tuned hAnswered.stands _
  | case6 d e reply replies f hObeyed hTaken =>
      have hAnswered := hObeys (takeFrame_steady h hIdle hTaken) reply replies
      rw [hObeyed] at hAnswered
      obtain ⟨message, hWaiting⟩ := hAnswered.stands
      exact Steady.of_operation hAnswered.tuned hWaiting

theorem Answered.proceed {h : Handled} (hAnswered : Answered h) : (proceed h).Steady := by
  rcases h with ⟨e, _ | (error | ⟨⟩)⟩
  · obtain ⟨message, hWaiting⟩ := hAnswered.stands
    exact Steady.of_operation hAnswered.tuned hWaiting
  · exact conclude_steady hAnswered.tuned hAnswered.stands _
  · unfold Dispatcher.proceed
    simp only
    split_ifs
    · exact relay_steady hAnswered.tuned hAnswered.stands e.replies
    · exact conclude_steady hAnswered.tuned hAnswered.stands _

/-- A command that is started while nothing is in progress. -/
theorem Steady.answered (h : d.Steady) (hFree : d.waiting = none) (relaying : Bool)
    (command : Command) : Answered ({ d with relaying }.perform command) := by
  have hTuned : ({ d with relaying } : Dispatcher).Tuned := h.tuned.of_same rfl rfl rfl
  have hIdle : d.radio.operation = none := h.idle (by simp [hFree])
  exact perform_answered hTuned hIdle command

theorem Steady.start (h : d.Steady) (relaying : Bool) (command : Command) :
    (d.start relaying command).Steady := by
  unfold Dispatcher.start
  split_ifs with hBusy
  · exact h
  · exact (h.answered (Option.not_isSome_iff_eq_none.mp hBusy) relaying command).proceed

/-- The session goes on with its operation, if one waits. -/
theorem Tuned.resumed (h : d.Tuned) (hSound : d.radio.Sound) {radio : Radio}
    {outcome : Option Outcome} (hResult : d.radio.resume = (radio, outcome))
    (waiting : Option Wait) :
    ({ d with radio, waiting } : Dispatcher).Tuned ∧
      (outcome.isSome → radio.operation = none) := by
  cases hOperation : d.radio.operation with
  | none =>
      obtain ⟨rfl, rfl⟩ := Prod.mk.inj ((Radio.resume_of_idle hOperation).symm.trans hResult)
      exact ⟨h.of_same rfl rfl rfl, nofun⟩
  | some suspended =>
      have hResumed := hSound.resume_concludes hOperation
      rw [hResult] at hResumed
      have hGrows := Radio.grows_of_moves (hResumed.moves.moves.head ⟨_, trivial, .resumed d.radio⟩)
      refine ⟨h.of_grows hGrows hResumed.connections rfl rfl, fun hEnded => ?_⟩
      obtain ⟨ended, rfl⟩ := Option.isSome_iff_exists.mp hEnded
      exact hResumed.stands.1

theorem Steady.resume (h : d.Steady) (hSound : d.radio.Sound) : d.resume.Steady := by
  unfold Dispatcher.resume
  cases hWaiting : d.waiting with
  | none => exact h
  | some wait =>
  cases wait with
  | operation message =>
      simp only
      rcases hResult : d.radio.resume with ⟨radio, _ | outcome⟩
      · obtain ⟨hTuned, -⟩ := h.tuned.resumed hSound hResult (some (.operation message))
        exact Steady.of_operation hTuned rfl
      · obtain ⟨hTuned, hIdle⟩ := h.tuned.resumed hSound hResult none
        have hAnswered : Answered ({ d with radio, waiting := none }, some outcome.result) :=
          ⟨hTuned, hIdle rfl⟩
        exact (hAnswered.followWith message).proceed
  | event =>
      have hTuned : ({ d with waiting := none } : Dispatcher).Tuned := h.tuned.of_same rfl rfl rfl
      exact relay_steady hTuned (h.idle (by simp [hWaiting])) d.replies
  | reply =>
      simp only
      split
      · exact h
      · rename_i reply replies hReplies
        have hTuned : ({ d with replies, waiting := none } : Dispatcher).Tuned :=
          h.tuned.of_same rfl rfl rfl
        exact (obey_answered hTuned (h.idle (by simp [hWaiting])) reply).proceed

theorem Steady.of_advances {who : Mover → Prop} (h : d.Steady) {radio : Radio}
    (hAdvances : d.radio.Advances who radio) :
    ({ d with radio } : Dispatcher).Steady := by
  refine ⟨h.tuned.of_grows (Radio.grows_of_moves hAdvances.moves) hAdvances.connections rfl rfl,
    ?_, h.relaying⟩
  exact fun hOther => hAdvances.operation.trans (h.idle hOther)

theorem Steady.poll (h : d.Steady) (hSound : d.radio.Sound) : d.poll.Steady := by
  unfold Dispatcher.poll
  split
  · rename_i ready hReady
    have hPolled := Radio.polled_advances hReady
    exact (h.of_advances hPolled).resume (hSound.moves hPolled.moves)
  · rename_i hReady
    have hPolled := h.of_advances (hSound.poll_advances fun rest hRest => hReady rest hRest)
    simp only
    split_ifs
    · exact hPolled.of_advances (Radio.wake_advances _ .caller)
    · exact hPolled

theorem Steady.pollTimes (n : Nat) (h : d.Steady) (hSound : d.radio.Sound) :
    (pollTimes n d).Steady := by
  induction n generalizing d with
  | zero => exact h
  | succ n ih =>
      unfold Dispatcher.pollTimes
      split_ifs
      · exact h
      · exact ih (h.poll hSound) (hSound.moves (poll_reaches hSound).moves)

theorem Steady.step (h : d.Steady) (hSound : d.radio.Sound) (event : Event) :
    (d.step event).Steady := by
  cases event with
  | handle command => exact h.start false command
  | run command => exact h.start true command
  | abandon => exact ⟨h.tuned.of_grows (.of_eq rfl rfl rfl) rfl rfl rfl, fun _ => rfl, fun _ => rfl⟩
  | turn => exact h.poll hSound
  | settle => exact h.pollTimes _ hSound
  | reply reply =>
      have hReplies : ({ d with replies := d.replies ++ [reply] } : Dispatcher).Steady :=
        ⟨h.tuned.of_same rfl rfl rfl, h.idle, h.relaying⟩
      unfold Dispatcher.step addReply
      simp only
      split_ifs
      · exact hReplies.of_advances (Radio.wake_advances _ .caller)
      · exact hReplies
  | device event =>
      obtain ⟨-, hOperation, hTrace, hCount, hConnections, -, -⟩ := Radio.react_frame d.radio event
      refine ⟨h.tuned.of_grows (.of_eq hTrace hConnections hCount) hConnections rfl rfl, ?_,
        h.relaying⟩
      exact fun hOther => hOperation.trans (h.idle hOther)

/-- Every dispatcher is steady, whatever has happened. -/
theorem after_steady (devices : List Device) (cipher : Option ChannelCipher)
    (history : List Event) : ((initial devices cipher).after history).Steady := by
  have hInitial : (initial devices cipher).Steady :=
    ⟨⟨fun _ => rfl, nofun, Nat.le_refl _⟩, fun _ => rfl, fun _ => rfl⟩
  have hSound : (initial devices cipher).radio.Sound := Radio.initial_sound devices
  generalize initial devices cipher = d at hInitial hSound ⊢
  induction history generalizing d with
  | nil => exact hInitial
  | cons event history ih =>
      exact ih _ (hInitial.step hSound event) (hSound.moves (step_moves hSound event))

theorem after_numbered (devices : List Device) (cipher : Option ChannelCipher)
    (history : List Event) : ((initial devices cipher).after history).radio.Numbered :=
  (Radio.initial_numbered devices).moves (Radio.initial_sound devices)
    (after_moves (d := initial devices cipher) (Radio.initial_sound devices) history)

end LockRelay.Dispatcher
