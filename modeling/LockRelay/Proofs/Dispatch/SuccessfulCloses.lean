import LockRelay.Proofs.Dispatch.SuccessfulOpens
import LockRelay.Proofs.Session.Teardown

/-! What the success of a close says of the device. A close that the caller asks for is a disconnect of
the session, and frees the device that the session was bound to last if the session still holds the link
when the close is handled. -/
namespace LockRelay.Dispatcher

/-! The last link that the session has held. A settling counts turn by turn, since a channel can be
opened and closed in one. -/

/-- The device of the last link after so many turns, given the one before. -/
def lastLinkOfTurns : Nat → Dispatcher → Option DeviceId → Option DeviceId
  | 0, _, last => last
  | n + 1, d, last =>
      if d.radio.ready.isEmpty then last
      else lastLinkOfTurns n d.poll (d.poll.radio.session.link.or last)

def lastLinkOf (d : Dispatcher) (last : Option DeviceId) : Event → Option DeviceId
  | .settle => lastLinkOfTurns (2 * (d.radio.ready.length + d.replies.length) + 5) d last
  | event => (d.step event).radio.session.link.or last

/-- The device of the last link after a history, given the one before. -/
def lastLink (d : Dispatcher) (last : Option DeviceId) : List Event → Option DeviceId
  | [] => last
  | event :: rest => (d.step event).lastLink (d.lastLinkOf last event) rest

variable {d e : Dispatcher} {last : Option DeviceId} {device : DeviceId}

theorem lastLink_concat (d : Dispatcher) (last : Option DeviceId) (history : List Event)
    (event : Event) : d.lastLink last (history ++ [event]) =
      (d.after history).lastLinkOf (d.lastLink last history) event := by
  induction history generalizing d last with
  | nil => rfl
  | cons first rest ih => exact ih (d.step first) (d.lastLinkOf last first)

/-- A link that is held after some turns is the last one. -/
theorem lastLinkOfTurns_of_link (n : Nat)
    (hHeld : ∀ i, d.radio.session.link = some i → last = some i)
    (hLink : (pollTimes n d).radio.session.link = some device) :
    lastLinkOfTurns n d last = some device := by
  induction n generalizing d last with
  | zero => exact hHeld device hLink
  | succ n ih =>
      unfold pollTimes at hLink
      unfold lastLinkOfTurns
      split_ifs at hLink ⊢
      · exact hHeld device hLink
      · refine ih (fun i hPolled => ?_) hLink
        rw [hPolled, Option.some_or]

/-- A link that is held is the last one. -/
theorem lastLink_of_link (devices : List Device) (cipher : Option ChannelCipher)
    {history : List Event}
    (hLink : ((initial devices cipher).after history).radio.session.link = some device) :
    (initial devices cipher).lastLink none history = some device := by
  induction history using List.reverseRecOn generalizing device with
  | nil => cases hLink
  | append_singleton history event ih =>
      rw [lastLink_concat]
      rw [after_concat] at hLink
      cases event with
      | settle => exact lastLinkOfTurns_of_link _ (fun i => ih) hLink
      | _ => exact (congrArg (Option.or · _) hLink).trans Option.some_or

/-- The disconnect that a close waits for, of the device of a link that it has let go of. -/
structure Closing (waits : Bytes) (device : DeviceId) (d : Dispatcher) : Prop where
  silent : waits = []
  operation : ∃ answer, d.radio.operation = some ⟨answer, .disconnecting device⟩
  parts : d.radio.Parts device

/-- Events and replies are waited for only while frames are relayed. A close that is waited for without
relaying is one of the device that the session was bound to last. -/
structure Orderly (last : Option DeviceId) (d : Dispatcher) : Prop where
  relays : d.waiting = some .event ∨ d.waiting = some .reply → d.relaying = true
  closes : d.attempt.command = some .closeChannel → d.relaying = false →
    ∀ waits, d.waiting = some (.operation waits) →
      ∃ device, last = some device ∧ d.Closing waits device

theorem Orderly.of_free (hFree : d.waiting = none) : d.Orderly last := by
  refine ⟨?_, fun _ _ waits hWaiting => ?_⟩
  · simp [hFree]
  · cases hFree.symm.trans hWaiting

theorem Orderly.of_relaying (hRelaying : d.relaying = true) : d.Orderly last := by
  refine ⟨fun _ => hRelaying, fun _ hOther => ?_⟩
  cases hRelaying.symm.trans hOther

theorem Orderly.of_command {waits : Bytes} (hWaiting : d.waiting = some (.operation waits))
    (hOther : d.attempt.command ≠ some .closeChannel) : d.Orderly last := by
  refine ⟨?_, fun hCommand => absurd hCommand hOther⟩
  simp [hWaiting]

theorem Closing.of_same {waits : Bytes} (h : d.Closing waits device)
    (hOperation : e.radio.operation = d.radio.operation) (hParts : e.radio.Parts device) :
    e.Closing waits device :=
  ⟨h.silent, hOperation ▸ h.operation, hParts⟩

/-- A step that leaves the operation in progress alone. -/
theorem Orderly.of_same (h : d.Orderly last) (hWaiting : e.waiting = d.waiting)
    (hRelaying : e.relaying = d.relaying) (hActs : e.acts = d.acts)
    (hOperation : e.radio.operation = d.radio.operation)
    (hParts : ∀ device, d.radio.Parts device → e.radio.Parts device) : e.Orderly last := by
  have hAttempt : e.attempt = d.attempt := congrArg (List.foldl Attempt.add {}) hActs
  refine ⟨fun hWaits => hRelaying.trans (h.relays (hWaiting ▸ hWaits)), ?_⟩
  intro hCommand hAlone waits hWaits
  obtain ⟨device, hLast, hCloses⟩ := h.closes (hAttempt ▸ hCommand) (hRelaying ▸ hAlone) waits
    (hWaiting ▸ hWaits)
  exact ⟨device, hLast, hCloses.of_same hOperation (hParts device hCloses.parts)⟩

/-- While a close is waited for, no other link is held. -/
theorem Orderly.noted (h : d.Orderly last) (hSound : d.radio.Sound) :
    d.Orderly (d.radio.session.link.or last) := by
  refine ⟨h.relays, fun hCommand hAlone waits hWaits => ?_⟩
  obtain ⟨device, hLast, hCloses⟩ := h.closes hCommand hAlone waits hWaits
  obtain ⟨answer, hOperation⟩ := hCloses.operation
  have hUnlinked : d.radio.session.link = none := hSound.suspended _ hOperation
  exact ⟨device, by rw [hUnlinked, Option.none_or, hLast], hCloses⟩

/-! Relaying stays relaying. -/

theorem relaying_takeFrame (d : Dispatcher) : d.takeFrame.1.relaying = d.relaying := by
  obtain ⟨cipher, taken, acts, hTaken⟩ := takeFrame_eq d
  rw [hTaken]

theorem relaying_obey (d : Dispatcher) (reply : Reply) :
    (d.obey reply).1.relaying = d.relaying := by
  unfold obey
  rcases reply with error | ⟨serial, message⟩ | payload | _
  · rfl
  · rfl
  · exact (perform_attempt d _).2.1
  · exact (perform_attempt d _).2.1

theorem relay_orderly (replies : List Reply) (d : Dispatcher) (hRelaying : d.relaying = true) :
    (relay replies d).Orderly last := by
  have hTakes {d e : Dispatcher} {replies : List Reply} {next : Next} (hRelaying : d.relaying = true)
      (hTaken : { d with replies }.takeFrame = (e, next)) : e.relaying = true := by
    have hKept := relaying_takeFrame { d with replies }
    rw [hTaken] at hKept
    exact hKept.trans hRelaying
  have hObeys {e f : Dispatcher} {reply : Reply} {replies : List Reply}
      {result : Option (Except DispatchError Unit)} (hRelaying : e.relaying = true)
      (hObeyed : { e with replies }.obey reply = (f, result)) : f.relaying = true := by
    have hKept := relaying_obey { e with replies } reply
    rw [hObeyed] at hKept
    exact hKept.trans hRelaying
  fun_induction relay replies d with
  | case1 replies d e result => exact .of_free rfl
  | case2 replies d e hTaken =>
      have hKept : e.relaying = true := hTakes hRelaying hTaken
      exact .of_relaying hKept
  | case3 d e hTaken =>
      have hKept : e.relaying = true := hTakes hRelaying hTaken
      exact .of_relaying hKept
  | case4 d e reply replies f hObeyed hTaken ih => exact ih (hObeys (hTakes hRelaying hTaken) hObeyed)
  | case5 d e reply replies f error => exact .of_free rfl
  | case6 d e reply replies f hObeyed hTaken =>
      exact .of_relaying (hObeys (hTakes hRelaying hTaken) hObeyed)

theorem proceed_orderly {h : Handled} (hWaits : h.2 = none → h.1.Orderly last) :
    (proceed h).Orderly last := by
  rcases h with ⟨e, _ | (error | ⟨⟩)⟩
  · exact hWaits rfl
  · exact .of_free rfl
  · unfold proceed
    simp only
    split_ifs with hRelaying
    · exact relay_orderly e.replies e hRelaying
    · exact .of_free rfl

/-- A close waits only for the link that it found. -/
theorem disconnect_orderly (hSound : d.radio.Sound) (hIdle : d.radio.operation = none)
    (hHeld : ∀ i, d.radio.session.link = some i → last = some i)
    (hWaits : (d.operate .disconnect []).2 = none) :
    (d.operate .disconnect []).1.Orderly last := by
  unfold operate at hWaits ⊢
  rw [Radio.start_disconnect hIdle] at hWaits ⊢
  cases hLink : d.radio.session.link with
  | none =>
      rw [Radio.disconnect_of_unlinked hLink] at hWaits
      cases hWaits
  | some i =>
      have hParts := Radio.disconnect_parts hSound hIdle hLink
      rcases Radio.disconnect_cases hSound hLink with ⟨u, connected, hEq, -⟩ | ⟨u, answer, hEq, -⟩
      all_goals rw [hEq] at hParts hWaits ⊢
      · cases hWaits
      · refine ⟨by simp [Radio.note], fun _ _ waits hWaiting => ?_⟩
        have hSilent : waits = [] := (Wait.operation.inj (Option.some.inj hWaiting)).symm
        exact ⟨i, hHeld i hLink, hSilent, ⟨answer, rfl⟩, hParts⟩

theorem Orderly.start (h : d.Orderly last) (hSteady : d.Steady) (hSound : d.radio.Sound)
    (hHeld : ∀ i, d.radio.session.link = some i → last = some i) (relaying : Bool)
    (command : Command) : (d.start relaying command).Orderly last := by
  unfold Dispatcher.start
  split_ifs with hBusy
  · exact h
  have hFree : d.waiting = none := Option.not_isSome_iff_eq_none.mp hBusy
  have hIdle := hSteady.idle (by simp [hFree])
  refine proceed_orderly fun hNone => ?_
  obtain ⟨hCommand, hKept, -⟩ := perform_attempt { d with relaying } command
  cases relaying with
  | true => exact .of_relaying hKept
  | false =>
      by_cases hClose : command = .closeChannel
      · subst hClose
        exact disconnect_orderly hSound hIdle hHeld hNone
      · have hStands := (hSteady.answered hFree false command).stands
        rw [hNone] at hStands
        obtain ⟨message, hWaiting⟩ := hStands
        exact .of_command hWaiting (by simp [hCommand, hClose])

/-- A close that goes on comes to its end. -/
theorem Closing.resumed {waits : Bytes} (h : d.Closing waits device) :
    ∃ (radio : Radio) (result : Except LinkError Unit),
      d.radio.resume = (radio, some (.disconnect result)) ∧
        (result = .ok () → (radio.device device).connected = false) := by
  obtain ⟨answer, hOperation⟩ := h.operation
  obtain ⟨-, hRange, hDown⟩ := h.parts answer device hOperation
  have hResume : d.radio.resume =
      Radio.note ({ d.radio with operation := none }.finishDisconnect device (.ok answer)) := by
    simp only [Radio.resume, hOperation, Radio.continueAt]
  have hFrees := Radio.takeDown_frees (s := { d.radio with operation := none }) (.ok answer) hRange
    fun hFalse => hDown (Except.ok.inj hFalse)
  rw [hResume]
  unfold Radio.finishDisconnect
  rcases hTaken : ({ d.radio with operation := none } : Radio).takeDown device (.ok answer) with
    ⟨u, result⟩
  rw [hTaken] at hFrees
  refine ⟨_, result, rfl, ?_⟩
  rintro rfl
  exact hFrees rfl

/-- A message that follows what was waited for is waited for in its turn. -/
theorem Orderly.followed (h : d.Orderly last) (hSteady : d.Steady) (hSound : d.radio.Sound)
    {waits : Bytes} (hWaiting : d.waiting = some (.operation waits)) {radio : Radio}
    {outcome : Outcome} (hResult : d.radio.resume = (radio, some outcome))
    (hNone : (followWith waits ({ d with radio, waiting := none }, some outcome.result)).2 = none) :
    (followWith waits ({ d with radio, waiting := none }, some outcome.result)).1.Orderly last := by
  obtain ⟨hTuned, hIdle⟩ := hSteady.tuned.resumed hSound hResult none
  have hAnswered : Answered ({ d with radio, waiting := none }, some outcome.result) :=
    ⟨hTuned, hIdle rfl⟩
  have hStands := (hAnswered.followWith waits).stands
  rw [hNone] at hStands
  obtain ⟨message, hWaits⟩ := hStands
  obtain ⟨hAttempt, hRelaying, -⟩ :=
    followWith_sameAttempt waits ({ d with radio, waiting := none }, some outcome.result)
  have hAttempt' : _ = d.attempt := hAttempt
  refine ⟨by simp [hWaits], fun hCommand hAlone _ _ => ?_⟩
  obtain ⟨device, -, hCloses⟩ := h.closes (hAttempt' ▸ hCommand) (hRelaying ▸ hAlone) waits hWaiting
  obtain rfl := hCloses.silent
  rw [followWith_nil] at hNone
  cases hNone

theorem Orderly.resume (h : d.Orderly last) (hSteady : d.Steady) (hSound : d.radio.Sound) :
    d.resume.Orderly last := by
  unfold Dispatcher.resume
  cases hWaiting : d.waiting with
  | none => exact h
  | some wait =>
  cases wait with
  | operation waits =>
      simp only
      rcases hResult : d.radio.resume with ⟨radio, _ | outcome⟩
      · refine ⟨by simp, fun hCommand hAlone _ _ => ?_⟩
        obtain ⟨device, -, hCloses⟩ := h.closes hCommand hAlone waits hWaiting
        obtain ⟨_, _, hResume, -⟩ := hCloses.resumed
        cases hResult.symm.trans hResume
      · exact proceed_orderly (h.followed hSteady hSound hWaiting hResult)
  | event => exact relay_orderly d.replies _ (h.relays (Or.inl hWaiting))
  | reply =>
      have hRelaying := h.relays (Or.inr hWaiting)
      simp only
      split
      · exact h
      · exact proceed_orderly fun _ => .of_relaying ((relaying_obey _ _).trans hRelaying)

theorem Orderly.wake (h : d.Orderly last) : d.wake.Orderly last := by
  have hAdvances := Radio.wake_advances d.radio .caller
  refine h.of_same rfl rfl rfl hAdvances.operation fun device hParts => ?_
  exact hParts.moves (by rintro _ rfl; exact nofun) hAdvances.moves

theorem Orderly.poll (h : d.Orderly last) (hSteady : d.Steady) (hSound : d.radio.Sound) :
    d.poll.Orderly last := by
  unfold Dispatcher.poll
  split
  · rename_i ready hReady
    have hPolled := Radio.polled_advances hReady
    have hOrderly : ({ d with radio := { d.radio with ready } } : Dispatcher).Orderly last :=
      h.of_same rfl rfl rfl rfl fun _ hParts => hParts
    exact hOrderly.resume (hSteady.of_advances hPolled) (hSound.moves hPolled.moves)
  · rename_i hReady
    have hOthers : ∀ rest, d.radio.ready ≠ .caller :: rest := fun rest hRest => hReady rest hRest
    have hPolled : ({ d with radio := d.radio.poll } : Dispatcher).Orderly last :=
      h.of_same rfl rfl rfl (hSound.poll_advances hOthers).operation
        fun _ hParts => hParts.poll hSound
    simp only
    split_ifs
    · exact hPolled.wake
    · exact hPolled

/-- So many turns leave the dispatcher in order, with the last link that was held after one of them. -/
theorem Orderly.pollTimes (n : Nat) (h : d.Orderly last) (hSteady : d.Steady)
    (hSound : d.radio.Sound) : (pollTimes n d).Orderly (lastLinkOfTurns n d last) := by
  induction n generalizing d last with
  | zero => exact h
  | succ n ih =>
      unfold Dispatcher.pollTimes lastLinkOfTurns
      split_ifs
      · exact h
      · have hSound' := hSound.moves (poll_reaches hSound).moves
        exact ih ((h.poll hSteady hSound).noted hSound') (hSteady.poll hSound) hSound'

theorem Orderly.step (h : d.Orderly last) (hSteady : d.Steady) (hSound : d.radio.Sound)
    (hHeld : ∀ i, d.radio.session.link = some i → last = some i) (event : Event) :
    (d.step event).Orderly (d.lastLinkOf last event) := by
  have hNoted (hStep : (d.step event).Orderly last) :
      (d.step event).Orderly ((d.step event).radio.session.link.or last) :=
    hStep.noted (hSound.moves (step_moves hSound event))
  cases event with
  | handle command => exact hNoted (h.start hSteady hSound hHeld false command)
  | run command => exact hNoted (h.start hSteady hSound hHeld true command)
  | abandon => exact hNoted (.of_free rfl)
  | turn => exact hNoted (h.poll hSteady hSound)
  | settle => exact h.pollTimes _ hSteady hSound
  | reply reply =>
      have hReplies : ({ d with replies := d.replies ++ [reply] } : Dispatcher).Orderly last :=
        h.of_same rfl rfl rfl rfl fun _ hParts => hParts
      refine hNoted ?_
      unfold Dispatcher.step addReply
      simp only
      split_ifs
      · exact hReplies.wake
      · exact hReplies
  | device event =>
      have hOperation := (Radio.react_frame d.radio event).2.1
      refine hNoted (h.of_same rfl rfl rfl hOperation fun device hParts => ?_)
      exact hParts.move (m := .device event) nofun (.reacted d.radio event)

theorem after_orderly (devices : List Device) (cipher : Option ChannelCipher)
    (history : List Event) : ((initial devices cipher).after history).Orderly
      ((initial devices cipher).lastLink none history) := by
  induction history using List.reverseRecOn with
  | nil => exact .of_free rfl
  | append_singleton history event ih =>
      rw [lastLink_concat, after_concat]
      exact ih.step (after_steady devices cipher history) (after_sound devices cipher history)
        (fun _ => lastLink_of_link devices cipher) event

/-- A disconnect that succeeds at once frees the device of the link that it found. Without one it leaves
all devices alone. -/
theorem freed_of_disconnect (hSound : d.radio.Sound) (hIdle : d.radio.operation = none)
    (hOk : (d.operate .disconnect []).2 = some (.ok ())) :
    (∃ i, d.radio.session.link = some i ∧
        ((d.operate .disconnect []).1.radio.device i).connected = false) ∨
      d.radio.session.link = none ∧
        ∀ i, (d.operate .disconnect []).1.radio.device i = d.radio.device i := by
  unfold operate at hOk ⊢
  have hEnds := (Radio.start_concludes .disconnect hIdle).ends
  rw [Radio.start_disconnect hIdle] at hOk hEnds ⊢
  rcases hResult : Radio.note d.radio.disconnect with ⟨radio, _ | outcome⟩
  all_goals
    rw [hResult] at hOk hEnds
  · cases hOk
  rcases outcome with result | result | (error | ⟨⟩)
  · exact (hEnds _ rfl).elim
  · exact (hEnds _ rfl).elim
  · cases hOk
  cases hLink : d.radio.session.link with
  | none =>
      rw [Radio.disconnect_of_unlinked hLink] at hResult
      obtain ⟨rfl, -⟩ := Prod.mk.inj hResult
      refine Or.inr ⟨rfl, fun i => ?_⟩
      rw [Radio.device_record, Radio.device, Radio.device, Radio.devices_clear]
  | some i => exact Or.inl ⟨i, rfl, Radio.disconnect_frees hSound hLink hResult⟩

theorem freed_of_start (hSteady : d.Steady) (hSound : d.radio.Sound) (hFree : d.waiting = none)
    {command : Command}
    (hHandled : (.closeChannel, .ok (), e) ∈ (d.start false command).ended) :
    command = .closeChannel ∧
      ((∃ i, d.radio.session.link = some i ∧ (e.radio.device i).connected = false) ∨
        d.radio.session.link = none ∧ ∀ i, e.radio.device i = d.radio.device i) := by
  have hIdle := hSteady.idle (by simp [hFree])
  obtain ⟨hCommand, hRelaying, -⟩ := perform_attempt { d with relaying := false } command
  rw [start_of_free hFree] at hHandled
  obtain ⟨hClose, hEnds⟩ := mem_ended_proceed hRelaying hHandled
  obtain rfl := Option.some.inj (hCommand.symm.trans hClose)
  refine ⟨rfl, ?_⟩
  rcases hEnds with ⟨hNone, hWaiting⟩ | ⟨hOk, rfl⟩
  · have hStands := (hSteady.answered hFree false .closeChannel).stands
    rw [hNone] at hStands
    obtain ⟨message, hWaits⟩ := hStands
    cases hWaiting.symm.trans hWaits
  · exact freed_of_disconnect
      (d := ({ d with relaying := false } : Dispatcher).record (.handling .closeChannel)) hSound
      hIdle hOk

/-- A close that was waited for frees the device that the session was bound to last. -/
theorem Orderly.freed_of_turn (h : d.Orderly last)
    (hHandled : (.closeChannel, .ok (), e) ∈ d.handledByTurn) :
    ∃ i, last = some i ∧ (e.radio.device i).connected = false := by
  obtain ⟨ready, waits, radio, outcome, hReady, hWaiting, hRelaying, hResult, hEnded⟩ :=
    mem_handledByTurn hHandled
  have hPolled := Radio.polled_advances hReady
  have hOrderly : ({ d with radio := { d.radio with ready } } : Dispatcher).Orderly last :=
    h.of_same rfl rfl rfl rfl fun _ hParts => hParts
  have hSame := followWith_sameAttempt waits
    ({ d with radio := radio, waiting := none }, some outcome.result)
  obtain ⟨hCommand, hEnds⟩ := mem_ended_proceed (hSame.relaying.trans hRelaying) hEnded
  obtain ⟨device, hLast, hCloses⟩ :=
    hOrderly.closes (hSame.attempt ▸ hCommand) hRelaying waits hWaiting
  obtain rfl := hCloses.silent
  obtain ⟨freed, result, hResume, hFrees⟩ := hCloses.resumed
  obtain ⟨rfl, hOutcome⟩ := Prod.mk.inj (hResult.symm.trans hResume)
  obtain rfl := Option.some.inj hOutcome
  rw [followWith_nil] at hEnds
  rcases hEnds with ⟨hNone, -⟩ | ⟨hOk, rfl⟩
  · cases hNone
  · refine ⟨device, hLast, hFrees ?_⟩
    rcases result with error | ⟨⟩
    · cases hOk
    · rfl

theorem Orderly.freed_of_turns (n : Nat) (h : d.Orderly last) (hSteady : d.Steady)
    (hSound : d.radio.Sound) (hHandled : (.closeChannel, .ok (), e) ∈ handledByTurns n d) :
    ∃ i, last = some i ∧ (e.radio.device i).connected = false := by
  induction n generalizing d with
  | zero => cases hHandled
  | succ n ih =>
      unfold handledByTurns at hHandled
      split_ifs at hHandled
      · cases hHandled
      · rcases List.mem_append.mp hHandled with hFirst | hLater
        · exact h.freed_of_turn hFirst
        · exact ih (h.poll hSteady hSound) (hSteady.poll hSound)
            (hSound.moves (poll_reaches hSound).moves) hLater

/-- Whatever has happened: where a close of the channel is handled with success, the device that the
session was bound to last is not connected, unless the session held no link any more when the close was
asked for: then the device is left alone. -/
theorem connected_after_close_iff (devices : List Device) (cipher : Option ChannelCipher)
    (history : List Event) (event : Event) (e : Dispatcher) (device : DeviceId)
    (hHandled : (.closeChannel, .ok (), e) ∈
      ((initial devices cipher).after history).handledBy event)
    (hLast : (initial devices cipher).lastLink none history = some device) :
    (e.radio.device device).connected = true ↔
      event = .handle .closeChannel ∧
        ((initial devices cipher).after history).radio.session.link = none ∧
        (((initial devices cipher).after history).radio.device device).connected = true := by
  have hOrderly := after_orderly devices cipher history
  have hSteady := after_steady devices cipher history
  have hSound := after_sound devices cipher history
  have hHeld (i : DeviceId)
      (hLink : ((initial devices cipher).after history).radio.session.link = some i) : i = device :=
    Option.some.inj ((lastLink_of_link devices cipher hLink).symm.trans hLast)
  rw [hLast] at hOrderly
  generalize (initial devices cipher).after history = d at hHandled hOrderly hSteady hSound hHeld ⊢
  have hFreed (hTurns : ∃ i, some device = some i ∧ (e.radio.device i).connected = false) :
      (e.radio.device device).connected = false := by
    obtain ⟨i, hSame, hDown⟩ := hTurns
    obtain rfl := Option.some.inj hSame
    exact hDown
  cases event with
  | handle command =>
      unfold handledBy at hHandled
      split_ifs at hHandled with hBusy
      · cases hHandled
      have hFree : d.waiting = none := Option.not_isSome_iff_eq_none.mp hBusy
      obtain ⟨rfl, ⟨i, hLink, hDown⟩ | ⟨hLink, hSame⟩⟩ := freed_of_start hSteady hSound hFree hHandled
      · obtain rfl := hHeld i hLink
        simp [hLink, hDown]
      · simp [hLink, hSame]
  | turn => simp [hFreed (hOrderly.freed_of_turn hHandled)]
  | settle => simp [hFreed (hOrderly.freed_of_turns _ hSteady hSound hHandled)]
  | run command => cases hHandled
  | abandon => cases hHandled
  | reply reply => cases hHandled
  | device event => cases hHandled

/-- A close that fails has let go of the link, so the next one succeeds and leaves the lock connected. -/
theorem connected_after_failed_close :
    let history : List Event := [.handle (.openChannel 7 []), .device (.fault 0 .disconnect
      (CallFault.make (.unavailable "busy") (some 1))), .handle .closeChannel]
    ∃ e, (.closeChannel, .ok (), e) ∈
        ((initial [.ofSerial 7] none).after history).handledBy (.handle .closeChannel) ∧
      (initial [.ofSerial 7] none).lastLink none history = some 0 ∧
      (e.radio.device 0).connected = true :=
  ⟨_, List.mem_singleton.mpr rfl, rfl, rfl⟩

end LockRelay.Dispatcher
