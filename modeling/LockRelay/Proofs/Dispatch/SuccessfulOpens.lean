import LockRelay.Proofs.Dispatch.Attempts
import LockRelay.Proofs.Dispatch.SentPayloads
import LockRelay.Proofs.Dispatch.RelayedFrames
import LockRelay.Proofs.Session.BoundSends
import LockRelay.Proofs.Session.Rebinding

/-! What the success of an open says of the channel. The session is bound to the lock that was asked
for, and its device is one that the filter for the serial number admits. It is connected, unless the
lock was bound already and no message was sent, and it is bound unless its record tells why it is not. -/
namespace LockRelay.Dispatcher

/-- The command that has ended, with its result, where nothing is in progress any more. -/
def ended (d : Dispatcher) : List (Command × Except DispatchError Unit × Dispatcher) :=
  match d.waiting, d.attempt.command, d.acts.getLast? with
  | none, some command, some (.returned result) => [(command, result, d)]
  | _, _, _ => []

/-- A command waits for the session, and no frames are relayed after it. -/
def handles (d : Dispatcher) : Bool :=
  match d.waiting with
  | some (.operation _) => !d.relaying
  | _ => false

/-- The commands handled that end in a turn, each with its result and with the dispatcher as it is
then. -/
def handledByTurn (d : Dispatcher) : List (Command × Except DispatchError Unit × Dispatcher) :=
  if d.handles then d.poll.ended else []

def handledByTurns : Nat → Dispatcher → List (Command × Except DispatchError Unit × Dispatcher)
  | 0, _ => []
  | n + 1, d => if d.radio.ready.isEmpty then [] else d.handledByTurn ++ handledByTurns n d.poll

def handledBy (d : Dispatcher) : Event → List (Command × Except DispatchError Unit × Dispatcher)
  | .handle command => if d.waiting.isSome then [] else (d.start false command).ended
  | .turn => d.handledByTurn
  | .settle => handledByTurns (2 * (d.radio.ready.length + d.replies.length) + 5) d
  | .run _ | .abandon | .reply _ | .device _ => []

variable {d e : Dispatcher} {serial : UInt64} {message : Bytes}

theorem mem_ended {command : Command} {result : Except DispatchError Unit}
    (h : (command, result, e) ∈ d.ended) :
    e = d ∧ d.waiting = none ∧ d.attempt.command = some command ∧
      d.acts.getLast? = some (.returned result) := by
  unfold ended at h
  split at h
  · rename_i hWaiting hCommand hActs
    obtain ⟨rfl, rfl, rfl⟩ := by simpa using h
    exact ⟨rfl, hWaiting, hCommand, hActs⟩
  · cases h

/-- A command has ended that was gone on with, and nothing is relayed after it. -/
theorem mem_ended_proceed {h : Handled} {command : Command} (hRelaying : h.1.relaying = false)
    (hEnded : (command, .ok (), e) ∈ (proceed h).ended) :
    h.1.attempt.command = some command ∧
      (h.2 = none ∧ h.1.waiting = none ∨ h.2 = some (.ok ()) ∧ e = h.1.conclude (.ok ())) := by
  obtain ⟨rfl, hWaiting, hCommand, hActs⟩ := mem_ended hEnded
  rcases h with ⟨e, _ | (error | ⟨⟩)⟩
  · exact ⟨hCommand, Or.inl ⟨rfl, hWaiting⟩⟩
  · simp [proceed, conclude, record] at hActs
  · have hRelaying : e.relaying = false := hRelaying
    have hConcluded : proceed (e, some (.ok ())) = e.conclude (.ok ()) := by
      simp [proceed, hRelaying]
    have hAttempt : (e.conclude (.ok ())).attempt = e.attempt := attempt_record e (.returned (.ok ()))
    rw [hConcluded] at hCommand ⊢
    exact ⟨hAttempt ▸ hCommand, Or.inr ⟨rfl, rfl⟩⟩

/-- A command ends in a turn if the session ends the operation that it waits for. -/
theorem mem_handledByTurn {command : Command} {result : Except DispatchError Unit}
    (hHandled : (command, result, e) ∈ d.handledByTurn) :
    ∃ ready waits radio outcome, d.radio.ready = .caller :: ready ∧
      d.waiting = some (.operation waits) ∧ d.relaying = false ∧
      ({ d.radio with ready } : Radio).resume = (radio, some outcome) ∧
      (command, result, e) ∈ (proceed
        (followWith waits ({ d with radio, waiting := none }, some outcome.result))).ended := by
  unfold handledByTurn at hHandled
  split_ifs at hHandled with hHandles
  swap
  · cases hHandled
  obtain ⟨waits, hWaiting, hRelaying⟩ : ∃ waits, d.waiting = some (.operation waits) ∧
      d.relaying = false := by
    unfold handles at hHandles
    split at hHandles
    · rename_i waits hWaiting
      exact ⟨waits, hWaiting, by simpa using hHandles⟩
    · cases hHandles
  have hNone := (mem_ended hHandled).2.1
  unfold Dispatcher.poll at hHandled hNone
  split at hHandled
  · rename_i ready hReady
    unfold Dispatcher.resume at hHandled
    simp only [hWaiting] at hHandled
    rcases hResult : ({ d.radio with ready } : Radio).resume with ⟨radio, _ | outcome⟩
    all_goals rw [hResult] at hHandled
    · cases (mem_ended hHandled).2.1
    · exact ⟨ready, waits, radio, outcome, hReady, hWaiting, hRelaying, hResult, hHandled⟩
  · have hWaits : d.waiting = none := by
      simp only at hNone
      split_ifs at hNone <;> exact hNone
    cases hWaits.symm.trans hWaiting

/-- Where an open of a channel waits. -/
inductive Opening (serial : UInt64) (message : Bytes) (d : Dispatcher) : Prop where
  /-- For the connection; the message is to follow. -/
  | connecting {suspended : Suspended} {k : ConnectionId}
      (hWaiting : d.waiting = some (.operation message))
      (hOperation : d.radio.operation = some suspended)
      (hConnects : suspended.point.mover = .connecting k) (hReused : d.attempt.reused = false)
      (hAsked : d.asked.getLast? = some serial)
  /-- For the message to be sent to the lock that is bound. -/
  | sending {suspended : Suspended} (hWaiting : d.waiting = some (.operation []))
      (hOperation : d.radio.operation = some suspended)
      (hSends : suspended.point.mover = .sending) (hMessage : message ≠ [])
      (hBound : d.isBoundTo serial = true)

/-- What holds where an open of a channel has succeeded. -/
structure Reached (serial : UInt64) (message : Bytes) (d : Dispatcher) : Prop where
  bound : d.isBoundTo serial = true
  connected : d.attempt.reused = true ∧ message = [] ∨
    ∃ device, d.radio.session.link = some device ∧ (d.radio.device device).connected = true

/-- How far an open of a channel has come. -/
def OpensTo (serial : UInt64) (message : Bytes) : Handled → Prop
  | (d, none) => d.Opening serial message
  | (d, some (.ok ())) => d.Reached serial message
  | (_, some (.error _)) => True

/-- A command that is an open of a channel comes as far as one. -/
def Honest (h : Handled) : Prop :=
  ∀ serial message, h.1.attempt.command = some (.openChannel serial message) →
    OpensTo serial message h

/-- Where an operation is waited for, an open of a channel does so as one. -/
def Poised (d : Dispatcher) : Prop :=
  ∀ serial message waits, d.attempt.command = some (.openChannel serial message) →
    d.waiting = some (.operation waits) → d.Opening serial message

theorem isBoundTo_of_binding {radio : Radio} (hBinding : radio.binding = d.radio.binding)
    (hBound : d.isBoundTo serial = true) (hRadio : e.radio = radio) :
    e.isBoundTo serial = true := by
  unfold isBoundTo
  rw [hRadio, Radio.serial_of_binding hBinding]
  exact hBound

/-- The message goes to the lock that is bound. -/
theorem operate_send_opens (hIdle : d.radio.operation = none) (hBound : d.isBoundTo serial = true)
    (hMessage : message ≠ []) (frame : Bytes) :
    OpensTo serial message (d.operate (.send frame) []) := by
  have hConcludes := Radio.start_concludes (.send frame) hIdle
  have hBinding := Radio.binding_of_moves rfl hConcludes.moves
  unfold operate
  rcases hResult : d.radio.start (.send frame) with ⟨radio, _ | outcome⟩
  all_goals rw [hResult] at hConcludes hBinding
  · obtain ⟨suspended, hOperation, -⟩ := hConcludes.stands
    have hSends := Radio.mover_of_moves hIdle hConcludes.moves hOperation
    exact .sending rfl hOperation hSends hMessage (isBoundTo_of_binding hBinding hBound rfl)
  · have hEnds := hConcludes.ends outcome rfl
    obtain ⟨-, -, hJustified⟩ := hConcludes.stands
    rcases outcome with result | (error | ⟨⟩) | result
    · exact hEnds.elim
    · trivial
    · exact ⟨isBoundTo_of_binding hBinding hBound rfl, Or.inr hJustified⟩
    · exact hEnds.elim

theorem sendPayload_opens (hIdle : d.radio.operation = none) (hBound : d.isBoundTo serial = true)
    (hMessage : message ≠ []) (payload : Bytes) :
    OpensTo serial message (d.sendPayload payload) := by
  obtain ⟨cipher, -, ⟨error, hSend⟩ | ⟨frame, hSend⟩⟩ := sendPayload_cases d payload
  · rw [hSend]
    trivial
  · rw [hSend]
    exact operate_send_opens (d := { d with cipher }.record (.sending frame)) hIdle hBound hMessage
      frame

theorem sendMessage_opens (hIdle : d.radio.operation = none) (hBound : d.isBoundTo serial = true)
    (hReached : message = [] → d.Reached serial message) :
    OpensTo serial message (d.sendMessage message) := by
  unfold sendMessage
  split_ifs with hEmpty
  · exact hReached hEmpty
  · exact sendPayload_opens hIdle hBound hEmpty message

/-- A connection that has just been made is one to the lock that was asked for last. -/
theorem Coherent.isBoundTo_of_opened (h : d.Coherent) {device : DeviceId} {k : ConnectionId}
    (hOpened : d.radio.Opened device k) (hAsked : d.asked.getLast? = some serial) :
    d.isBoundTo serial = true := by
  obtain ⟨filter, hFilter⟩ := h.proper.sound.filter_of_link hOpened.link
  obtain ⟨other, hOther, hMade⟩ := h.proper.requested.held k filter hOpened.onNotify hFilter
  have hLast : k = d.asked.length - 1 :=
    Nat.eq_sub_of_add_eq (hOpened.newest.trans h.asked.symm)
  rw [hLast, ← List.getLast?_eq_getElem?, hAsked] at hOther
  obtain rfl := Option.some.inj hOther
  simp [isBoundTo, Session.serial, hFilter, (DiscoveryFilter.forSerial_ok hMade).2]

/-- The connection is made, and the message follows. -/
theorem Coherent.connected_opens (h : d.Coherent) (hIdle : d.radio.operation = none)
    {device : DeviceId} {k : ConnectionId} (hOpened : d.radio.Opened device k)
    (hAsked : d.asked.getLast? = some serial) :
    OpensTo serial message (d.sendMessage message) := by
  have hBound := h.isBoundTo_of_opened hOpened hAsked
  refine sendMessage_opens hIdle hBound fun _ => ⟨hBound, Or.inr ⟨device, hOpened.link, hOpened.connected⟩⟩

theorem Point.connecting_of_asked {point : Point} {s : Radio}
    (h : point.mover = (Radio.Operation.connect serial).mover s) :
    ∃ k, point.mover = .connecting k := by
  simp only [Radio.Operation.mover] at h
  split at h
  · exact ⟨_, h⟩
  · cases point <;> cases h

theorem openConnection_opens (hCoherent : d.Coherent) (hIdle : d.radio.operation = none)
    (hFree : d.waiting = none) (serial : UInt64) (message : Bytes) :
    OpensTo serial message (followWith message
      ((d.record (.handling (.openChannel serial message))).openConnection serial message)) := by
  have hAsks := openConnection_asks hFree serial message
  have hAsked := hAsks.asked
  have hCoherent' := hCoherent.asks hAsks hIdle
  have hConcludes := Radio.start_concludes (.connect serial) hIdle
  have hSame := operate_sameAttempt
    { d.record (.handling (.openChannel serial message)) with
      channel := some d.radio.connections, taken := 0 } (.connect serial) message
  have hReused := congrArg Attempt.reused (hSame.attempt.trans (attempt_record d _))
  unfold openConnection at hAsked hCoherent' ⊢
  unfold operate at hAsked hCoherent' hReused ⊢
  rcases hResult : d.radio.start (.connect serial) with ⟨radio, _ | outcome⟩
  all_goals
    have hSame : (d.record (.handling (.openChannel serial message))).radio.start
        (.connect serial) = _ := hResult
    simp only [hSame] at hAsked hCoherent' hReused ⊢
    rw [hResult] at hConcludes
    have hLast : (d.asked ++ [serial]).getLast? = some serial := List.getLast?_concat
    rw [← hAsked] at hLast
  · obtain ⟨suspended, hOperation, -⟩ := hConcludes.stands
    obtain ⟨k, hConnects⟩ :=
      Point.connecting_of_asked (Radio.mover_of_moves hIdle hConcludes.moves hOperation)
    exact .connecting rfl hOperation hConnects hReused hLast
  · obtain ⟨result, rfl⟩ := Radio.Operation.connect_of_ends (hConcludes.ends outcome rfl)
    obtain ⟨hIdle', -, hJustified⟩ := hConcludes.stands
    rcases result with error | ⟨⟩
    · trivial
    · obtain ⟨device, k, hOpened⟩ := hJustified
      exact hCoherent'.connected_opens hIdle' hOpened hLast

theorem perform_honest (hCoherent : d.Coherent) (hIdle : d.radio.operation = none)
    (hFree : d.waiting = none) (command : Command) : Honest (d.perform command) := by
  intro serial message hCommand
  obtain rfl := Option.some.inj ((perform_attempt d command).1.symm.trans hCommand)
  unfold perform
  simp only
  split_ifs with hBound
  · generalize hReuse : (d.record (.handling (.openChannel serial message))).record
      (.reused serial) = e
    have hReused : e.attempt.reused = true := by
      rw [← hReuse, attempt_record]
      rfl
    have hRadio : e.radio = d.radio := by rw [← hReuse]; rfl
    have hBound' : e.isBoundTo serial = true := isBoundTo_of_binding rfl hBound hRadio
    exact sendMessage_opens (hRadio ▸ hIdle) hBound' fun hEmpty => ⟨hBound', Or.inl ⟨hReused, hEmpty⟩⟩
  · exact openConnection_opens hCoherent hIdle hFree serial message

/-- The session goes on with the operation that an open of a channel waits for. -/
theorem Opening.resumed (h : d.Opening serial message) (hCoherent : d.Coherent) {radio : Radio}
    {outcome : Option Outcome} (hResult : d.radio.resume = (radio, outcome)) {waits : Bytes}
    (hWaiting : d.waiting = some (.operation waits)) :
    match outcome with
    | none => ({ d with radio } : Dispatcher).Opening serial message
    | some outcome => OpensTo serial message
        (followWith waits ({ d with radio, waiting := none }, some outcome.result)) := by
  have hSound := hCoherent.proper.sound
  cases h with
  | connecting hWaits hOperation hConnects hReused hAsked =>
      obtain rfl : message = waits := by simpa using hWaits.symm.trans hWaiting
      have hConcludes := hSound.resume_concludes hOperation
      rw [hResult, hConnects] at hConcludes
      have hStirs := Radio.Stirs.resumed (s := d.radio)
      rw [hResult] at hStirs
      rcases outcome with _ | outcome
      · obtain ⟨suspended, hOperation', -⟩ := hConcludes.stands
        have hConnects' := Radio.mover_of_moves rfl hConcludes.moves hOperation'
        exact .connecting hWaits hOperation' hConnects' hReused hAsked
      · have hEnds := hConcludes.ends outcome rfl
        obtain ⟨hIdle, -, hJustified⟩ := hConcludes.stands
        rcases outcome with (error | ⟨⟩) | result | result
        · trivial
        · obtain ⟨device, k, hOpened⟩ := hJustified
          have hCoherent' : ({ d with radio, waiting := none } : Dispatcher).Coherent :=
            hCoherent.strides
              (stirred_strides d none hStirs .resume (congrArg Prod.fst hResult) rfl rfl)
          exact hCoherent'.connected_opens hIdle hOpened hAsked
        · exact hEnds.elim
        · exact hEnds.elim
  | sending hWaits hOperation hSends hMessage hBound =>
      obtain rfl : [] = waits := by simpa using hWaits.symm.trans hWaiting
      have hConcludes := hSound.resume_concludes hOperation
      rw [hResult, hSends] at hConcludes
      have hMoved := Radio.binding_of_moves (m := .sending) rfl hConcludes.moves
      have hBinding : radio.binding = d.radio.binding := hMoved
      rcases outcome with _ | outcome
      · obtain ⟨suspended, hOperation', -⟩ := hConcludes.stands
        have hSends' := Radio.mover_of_moves rfl hConcludes.moves hOperation'
        exact .sending hWaits hOperation' hSends' hMessage (isBoundTo_of_binding hBinding hBound rfl)
      · have hEnds := hConcludes.ends outcome rfl
        obtain ⟨-, -, hJustified⟩ := hConcludes.stands
        rcases outcome with result | (error | ⟨⟩) | result
        · exact hEnds.elim
        · trivial
        · exact ⟨isBoundTo_of_binding hBinding hBound rfl, Or.inr hJustified⟩
        · exact hEnds.elim

/-! Where nothing is waited for but events or replies, or the controller's command is handled, nothing
is to be said about an open. -/

theorem Poised.of_waiting (h : ∀ waits, d.waiting ≠ some (.operation waits)) : d.Poised :=
  fun _ _ waits _ hWaiting => absurd hWaiting (h waits)

theorem Poised.of_command {command : Command} (hCommand : d.attempt.command = some command)
    (hOther : ∀ serial message, command ≠ .openChannel serial message) : d.Poised := by
  intro serial message waits hOpen
  exact absurd (Option.some.inj (hCommand.symm.trans hOpen)) (hOther serial message)

theorem conclude_poised (d : Dispatcher) (result : Except DispatchError Unit) :
    (d.conclude result).Poised := .of_waiting nofun

/-- A command of the controller that is waited for is no open. -/
theorem obey_poised {reply : Reply} (hObeyed : d.obey reply = (e, none)) : e.Poised := by
  unfold obey at hObeyed
  rcases reply with error | ⟨serial, message⟩ | payload | _
  · cases hObeyed
  · cases hObeyed
  · have hPerformed : d.perform (.sendPayload payload) = (e, none) := hObeyed
    obtain ⟨hCommand, -⟩ := perform_attempt d (.sendPayload payload)
    rw [hPerformed] at hCommand
    exact .of_command hCommand nofun
  · have hPerformed : d.perform .closeChannel = (e, none) := hObeyed
    obtain ⟨hCommand, -⟩ := perform_attempt d .closeChannel
    rw [hPerformed] at hCommand
    exact .of_command hCommand nofun

theorem relay_poised (replies : List Reply) (d : Dispatcher) : (relay replies d).Poised := by
  fun_induction relay replies d with
  | case1 replies d e result => exact conclude_poised e result
  | case2 replies d e => exact .of_waiting (by simp)
  | case3 d e => exact .of_waiting (by simp)
  | case4 d e reply replies f hObeyed hTaken ih => exact ih
  | case5 d e reply replies f error => exact conclude_poised f _
  | case6 d e reply replies f hObeyed => exact obey_poised hObeyed

theorem proceed_poised {h : Handled} (hWaits : h.2 = none → h.1.Poised) : (proceed h).Poised := by
  rcases h with ⟨e, _ | (error | ⟨⟩)⟩
  · exact hWaits rfl
  · exact conclude_poised e _
  · unfold proceed
    simp only
    split_ifs
    · exact relay_poised e.replies e
    · exact conclude_poised e _

theorem Honest.poised {h : Handled} (hHonest : Honest h) (hWaits : h.2 = none) : h.1.Poised := by
  obtain ⟨e, result⟩ := h
  obtain rfl : result = none := hWaits
  exact fun serial message _ hCommand _ => hHonest serial message hCommand

/-- Where a command has ended that was an open, it was an honest one. -/
theorem Honest.ended {h : Handled} (hHonest : Honest h) (hRelaying : h.1.relaying = false)
    (hEnded : (.openChannel serial message, .ok (), e) ∈ (proceed h).ended) :
    e.Reached serial message := by
  obtain ⟨hCommand, hEnds⟩ := mem_ended_proceed hRelaying hEnded
  have hOpens := hHonest serial message hCommand
  obtain ⟨f, result⟩ := h
  rcases hEnds with ⟨rfl, hWaiting⟩ | ⟨rfl, rfl⟩
  · cases (hOpens : f.Opening serial message) with
    | connecting hWaits => cases hWaiting.symm.trans hWaits
    | sending hWaits => cases hWaiting.symm.trans hWaits
  · have hAttempt : (f.conclude (.ok ())).attempt = f.attempt := attempt_record f (.returned (.ok ()))
    obtain ⟨hBound, hConnected⟩ := hOpens
    exact ⟨hBound, hAttempt.symm ▸ hConnected⟩

theorem Poised.start (h : d.Poised) (hCoherent : d.Coherent) (hSteady : d.Steady) (relaying : Bool)
    (command : Command) : (d.start relaying command).Poised := by
  unfold Dispatcher.start
  split_ifs with hBusy
  · exact h
  · have hFree : d.waiting = none := Option.not_isSome_iff_eq_none.mp hBusy
    have hIdle := hSteady.idle (by simp [hFree])
    have hCoherent' : ({ d with relaying } : Dispatcher).Coherent := hCoherent.of_same rfl rfl rfl
    exact proceed_poised (perform_honest hCoherent' hIdle hFree command).poised

/-- A command that is waited for ends, or its message follows. -/
theorem Poised.resumed (h : d.Poised) (hCoherent : d.Coherent) {waits : Bytes}
    (hWaiting : d.waiting = some (.operation waits)) {radio : Radio} {outcome : Outcome}
    (hResult : d.radio.resume = (radio, some outcome)) :
    Honest (followWith waits ({ d with radio, waiting := none }, some outcome.result)) := by
  intro serial message hCommand
  have hSame :=
    followWith_sameAttempt waits ({ d with radio, waiting := none }, some outcome.result)
  rw [hSame.attempt] at hCommand
  exact (h serial message waits hCommand hWaiting).resumed hCoherent hResult hWaiting

theorem Poised.resume (h : d.Poised) (hCoherent : d.Coherent) : d.resume.Poised := by
  unfold Dispatcher.resume
  cases hWaiting : d.waiting with
  | none => exact h
  | some wait =>
  cases wait with
  | operation waits =>
      simp only
      rcases hResult : d.radio.resume with ⟨radio, _ | outcome⟩
      · intro serial message _ hCommand _
        have hOpening := (h serial message waits hCommand hWaiting).resumed hCoherent hResult hWaiting
        rw [hWaiting] at hOpening
        exact hOpening
      · exact proceed_poised (h.resumed hCoherent hWaiting hResult).poised
  | event => exact relay_poised d.replies _
  | reply =>
      simp only
      split
      · exact h
      · exact proceed_poised fun hWaits => obey_poised (Prod.ext rfl hWaits)

/-- A step that leaves the operation in progress and what the session is bound to alone. -/
theorem Poised.of_same (h : d.Poised) (hWaiting : e.waiting = d.waiting) (hActs : e.acts = d.acts)
    (hOperation : e.radio.operation = d.radio.operation)
    (hBinding : e.radio.binding = d.radio.binding) : e.Poised := by
  have hAttempt : e.attempt = d.attempt := congrArg (List.foldl Attempt.add {}) hActs
  have hAsked : e.asked = d.asked := congrArg (fun acts => (acts.foldl Ledger.add {}).asked) hActs
  intro serial message waits hCommand hWaits
  cases h serial message waits (hAttempt ▸ hCommand) (hWaiting ▸ hWaits) with
  | connecting hWaits' hBusy hConnects hReused hLast =>
      exact .connecting (hWaiting.trans hWaits') (hOperation.trans hBusy) hConnects
        (hAttempt ▸ hReused) (hAsked ▸ hLast)
  | sending hWaits' hBusy hSends hMessage hBound =>
      exact .sending (hWaiting.trans hWaits') (hOperation.trans hBusy) hSends hMessage
        (isBoundTo_of_binding hBinding hBound rfl)

/-- To be woken changes nothing for an open that waits. -/
theorem Poised.wake (h : d.Poised) : d.wake.Poised := by
  have hSame : (d.radio.wake .caller).operation = d.radio.operation ∧
      (d.radio.wake .caller).binding = d.radio.binding := by
    unfold Radio.wake
    split_ifs <;> exact ⟨rfl, rfl⟩
  exact h.of_same rfl rfl hSame.1 hSame.2

theorem Poised.poll (h : d.Poised) (hCoherent : d.Coherent) : d.poll.Poised := by
  have hSound := hCoherent.proper.sound
  unfold Dispatcher.poll
  split
  · rename_i ready hReady
    have hPolled : ({ d with radio := { d.radio with ready } } : Dispatcher).Poised :=
      h.of_same rfl rfl rfl rfl
    exact hPolled.resume (hCoherent.strides (dequeue_strides d hReady))
  · rename_i hReady
    have hOthers : ∀ rest, d.radio.ready ≠ .caller :: rest := fun rest hRest => hReady rest hRest
    have hPolled : ({ d with radio := d.radio.poll } : Dispatcher).Poised :=
      h.of_same rfl rfl (hSound.poll_advances hOthers).operation (hSound.poll_binding hOthers)
    simp only
    split_ifs
    · exact hPolled.wake
    · exact hPolled

theorem Poised.pollTimes (n : Nat) (h : d.Poised) (hCoherent : d.Coherent) :
    (pollTimes n d).Poised := by
  induction n generalizing d with
  | zero => exact h
  | succ n ih =>
      unfold Dispatcher.pollTimes
      split_ifs
      · exact h
      · exact ih (h.poll hCoherent) (hCoherent.strides (poll_strides d))

theorem Poised.step (h : d.Poised) (hCoherent : d.Coherent) (hSteady : d.Steady) (event : Event) :
    (d.step event).Poised := by
  cases event with
  | handle command => exact h.start hCoherent hSteady false command
  | run command => exact h.start hCoherent hSteady true command
  | abandon => exact .of_waiting nofun
  | turn => exact h.poll hCoherent
  | settle => exact h.pollTimes _ hCoherent
  | reply reply =>
      have hReplies : ({ d with replies := d.replies ++ [reply] } : Dispatcher).Poised :=
        h.of_same rfl rfl rfl rfl
      unfold Dispatcher.step addReply
      simp only
      split_ifs
      · exact hReplies.wake
      · exact hReplies
  | device event =>
      obtain ⟨hSession, hOperation, -⟩ := Radio.react_frame d.radio event
      refine h.of_same rfl rfl hOperation ?_
      unfold Dispatcher.step Radio.binding
      rw [hSession]

theorem after_poised (devices : List Device) (cipher : Option ChannelCipher)
    (history : List Event) : ((initial devices cipher).after history).Poised := by
  induction history using List.reverseRecOn with
  | nil => exact .of_waiting nofun
  | append_singleton history event ih =>
      rw [after_concat]
      exact ih.step (after_coherent devices cipher history) (after_steady devices cipher history) event

/-- Where a command has been started that is an open. -/
theorem reached_of_start (hCoherent : d.Coherent) (hSteady : d.Steady) {command : Command}
    (hFree : d.waiting = none)
    (hHandled : (.openChannel serial message, .ok (), e) ∈ (d.start false command).ended) :
    e.Reached serial message := by
  have hCoherent' : ({ d with relaying := false } : Dispatcher).Coherent :=
    hCoherent.of_same rfl rfl rfl
  have hIdle := hSteady.idle (by simp [hFree])
  have hHonest := perform_honest hCoherent' hIdle hFree command
  rw [start_of_free hFree] at hHandled
  exact hHonest.ended (perform_attempt { d with relaying := false } command).2.1 hHandled

/-- Where an open ends that was waited for. -/
theorem Poised.reached_of_turn (h : d.Poised) (hCoherent : d.Coherent)
    (hHandled : (.openChannel serial message, .ok (), e) ∈ d.handledByTurn) :
    e.Reached serial message ∧ e = d.poll := by
  have hTurn : e = d.poll := by
    unfold handledByTurn at hHandled
    split_ifs at hHandled
    · exact (mem_ended hHandled).1
    · cases hHandled
  obtain ⟨ready, waits, radio, outcome, hReady, hWaiting, hRelaying, hResult, hEnded⟩ :=
    mem_handledByTurn hHandled
  have hPolled : ({ d with radio := { d.radio with ready } } : Dispatcher).Poised :=
    h.of_same rfl rfl rfl rfl
  have hHonest := hPolled.resumed (hCoherent.strides (dequeue_strides d hReady)) hWaiting hResult
  have hSame := followWith_sameAttempt waits
    ({ d with radio := radio, waiting := none }, some outcome.result)
  exact ⟨hHonest.ended (hSame.relaying.trans hRelaying) hEnded, hTurn⟩

theorem Poised.reached_of_turns (n : Nat) (h : d.Poised) (hCoherent : d.Coherent)
    (hHandled : (.openChannel serial message, .ok (), e) ∈ handledByTurns n d) :
    e.Reached serial message ∧ ∃ turns, e = d.after turns := by
  induction n generalizing d with
  | zero => cases hHandled
  | succ n ih =>
      unfold handledByTurns at hHandled
      split_ifs at hHandled
      · cases hHandled
      · rcases List.mem_append.mp hHandled with hFirst | hLater
        · obtain ⟨hReached, hTurn⟩ := h.reached_of_turn hCoherent hFirst
          exact ⟨hReached, [.turn], hTurn⟩
        · obtain ⟨hReached, turns, rfl⟩ :=
            ih (h.poll hCoherent) (hCoherent.strides (poll_strides d)) hLater
          exact ⟨hReached, .turn :: turns, rfl⟩

theorem Poised.reached (h : d.Poised) (hCoherent : d.Coherent) (hSteady : d.Steady) {event : Event}
    (hHandled : (.openChannel serial message, .ok (), e) ∈ d.handledBy event) :
    e.Reached serial message ∧ ∃ later, e = d.after later := by
  cases event with
  | handle command =>
      unfold handledBy at hHandled
      split_ifs at hHandled with hBusy
      · cases hHandled
      · have hFree : d.waiting = none := Option.not_isSome_iff_eq_none.mp hBusy
        exact ⟨reached_of_start hCoherent hSteady hFree hHandled, [.handle command],
          (mem_ended hHandled).1⟩
  | turn =>
      obtain ⟨hReached, hTurn⟩ := h.reached_of_turn hCoherent hHandled
      exact ⟨hReached, [.turn], hTurn⟩
  | settle => exact h.reached_of_turns _ hCoherent hHandled
  | run command => cases hHandled
  | abandon => cases hHandled
  | reply reply => cases hHandled
  | device event => cases hHandled

/-- The device of a session that is bound to a lock is one that the filter for the lock admits. -/
theorem admitted_of_isBoundTo (hSound : d.radio.Sound) (hAdmitted : d.radio.Admitted)
    (hBound : d.isBoundTo serial = true) :
    ∃ bound filter device, d.radio.session.serial = some bound ∧ bound.toUInt64 = serial ∧
      DiscoveryFilter.forSerial serial = .ok filter ∧ d.radio.session.link = some device ∧
      filter.admits (d.radio.device device).adverts = true := by
  obtain ⟨bound, hSerial, rfl⟩ : ∃ bound, d.radio.session.serial = some bound ∧
      bound.toUInt64 = serial := by
    simpa [isBoundTo, Option.any_eq_true] using hBound
  obtain ⟨filter, hFilter, rfl⟩ := Option.map_eq_some_iff.mp hSerial
  rcases hSound.represented with hUnlinked | ⟨device, connection, notify, watch, queue, pending, check, hBy⟩
  · cases hUnlinked.filter.symm.trans hFilter
  · obtain ⟨-, ⟨other, hMade⟩, hAdmits⟩ := hAdmitted.held device filter hBy.link hFilter
    rw [← (DiscoveryFilter.forSerial_ok hMade).2] at hMade
    exact ⟨_, filter, device, hSerial, rfl, hMade, hBy.link, hAdmits⟩

/-- Whatever has happened: where an open of a channel is handled with success, the session is bound to
the lock that was asked for, and to a device that the filter for its serial number admits. The device
is connected, unless the lock was bound already and there was no message to send. The channel is open
exactly if the device is connected, and since it was bound last it has not been connected without being
bound, and no check that failed was taken for a drop. -/
theorem open_ok_boundUp_iff (devices : List Device) (cipher : Option ChannelCipher)
    (history : List Event) (event : Event) (serial : UInt64) (message : Bytes) (e : Dispatcher)
    (hHandled : (.openChannel serial message, .ok (), e) ∈
      ((initial devices cipher).after history).handledBy event) :
    ∃ bound filter device, e.radio.session.serial = some bound ∧ bound.toUInt64 = serial ∧
      DiscoveryFilter.forSerial serial = .ok filter ∧ e.radio.session.link = some device ∧
      filter.admits (e.radio.device device).adverts = true ∧
      (e.attempt.reused = true ∧ message = [] ∨ (e.radio.device device).connected = true) ∧
      (e.radio.BoundUp device ↔
        (e.radio.device device).connected = true ∧ ¬e.radio.Overlooked device) := by
  obtain ⟨⟨hBound, hConnected⟩, later, hLater⟩ :=
    (after_poised devices cipher history).reached (after_coherent devices cipher history)
      (after_steady devices cipher history) hHandled
  have hReached : e = (initial devices cipher).after (history ++ later) :=
    hLater.trans List.foldl_append.symm
  have hInitial := Radio.initial_sound devices
  have hMoves := after_moves (d := initial devices cipher) hInitial (history ++ later)
  rw [← hReached] at hMoves
  have hRecorded : e.radio.Recorded := by
    have hFirst : (Radio.initial devices).Recorded := .of_unlinked rfl nofun
    exact hFirst.moves hInitial hMoves
  have hAdmitted := after_admitted devices cipher (history ++ later)
  rw [← hReached] at hAdmitted
  obtain ⟨bound, filter, device, hSerial, hSame, hMade, hLink, hAdmits⟩ :=
    admitted_of_isBoundTo (hInitial.moves hMoves) hAdmitted hBound
  refine ⟨bound, filter, device, hSerial, hSame, hMade, hLink, hAdmits, ?_, ?_⟩
  · rcases hConnected with hReused | ⟨other, hOther, hConnected⟩
    · exact Or.inl hReused
    · obtain rfl : other = device := Option.some.inj (hOther.symm.trans hLink)
      exact Or.inr hConnected
  · constructor
    · rintro ⟨-, hState, hConnected⟩
      exact ⟨hConnected, (hRecorded.bound_iff hLink hConnected).mp hState⟩
    · rintro ⟨hConnected, hNot⟩
      exact ⟨hLink, (hRecorded.bound_iff hLink hConnected).mpr hNot, hConnected⟩

/-- A lock is opened with a message, and then once more. -/
theorem open_ok_boundUp_iff_reopened :
    ∃ e, (.openChannel 7 [2], .ok (), e) ∈ ((initial [.ofSerial 7] none).after
        [.handle (.openChannel 7 [1]), .device (.drop 0)]).handledBy (.handle (.openChannel 7 [2])) ∧
      (e.radio.device 0).written = [[1], [2]] ∧
      (e.radio.BoundUp 0 ↔ (e.radio.device 0).connected = true ∧ ¬e.radio.Overlooked 0) := by
  refine ⟨_, List.mem_singleton.mpr rfl, rfl, ?_⟩
  obtain ⟨bound, filter, device, -, -, -, hLink, -, -, hIff⟩ := open_ok_boundUp_iff [.ofSerial 7] none
    [.handle (.openChannel 7 [1]), .device (.drop 0)] (.handle (.openChannel 7 [2])) 7 [2] _
    (List.mem_singleton.mpr rfl)
  cases hLink
  exact hIff

/-- Without a message nothing finds out that the link is down, and the open succeeds. -/
theorem open_ok_of_dropped :
    ∃ e, (.openChannel 7 [], .ok (), e) ∈ ((initial [.ofSerial 7] none).after
        [.handle (.openChannel 7 []), .device (.drop 0), .settle]).handledBy
          (.handle (.openChannel 7 [])) ∧
      e.radio.session.serial = some 7 ∧ e.radio.session.link = some 0 ∧
      e.radio.session.state = .disconnected ∧ (e.radio.device 0).connected = false :=
  ⟨_, List.mem_singleton.mpr rfl, rfl, rfl, rfl, rfl⟩

end LockRelay.Dispatcher
