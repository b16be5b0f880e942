import LockRelay.Proofs.Dispatch.RelaySteps

/-! A run is the relay loop, whatever the lock and the controller do in the meantime. -/
namespace LockRelay

namespace Radio

variable {s t u : Radio} {m : Mover}

/-- The session goes on without its operation, and keeps its serial number. -/
structure Lingers (s t : Radio) : Prop where
  grows : s.Grows t
  operation : t.operation = s.operation
  serial : t.session.serial = s.session.serial

theorem Advances.lingers (h : s.Advances (· = m) t) (hMover : m.tearsDown = false) :
    s.Lingers t :=
  ⟨grows_of_moves h.moves, h.operation, serial_of_binding (binding_of_moves hMover h.moves)⟩

theorem Lingers.trans (h : s.Lingers t) (h' : t.Lingers u) : s.Lingers u :=
  ⟨h.grows.trans h'.grows, h'.operation.trans h.operation, h'.serial.trans h.serial⟩

theorem react_lingers (s : Radio) (event : DeviceEvent) : s.Lingers (s.react event) := by
  obtain ⟨hSession, hOperation, hTrace, hTasks, hConnections, -⟩ := react_frame s event
  exact ⟨.of_eq hTrace hConnections hTasks, hOperation, congrArg Session.serial hSession⟩

theorem HeldSince.react (h : s.HeldSince s.connections) (event : DeviceEvent) :
    (s.react event).HeldSince (s.react event).connections := by
  obtain ⟨hSession, -, -, -, hConnections, -⟩ := react_frame s event
  unfold HeldSince
  rw [hSession, hConnections]
  exact h

theorem mem_wake (s : Radio) (p q : Participant) : q ∈ (s.wake p).ready ↔ q ∈ s.ready ∨ q = p := by
  obtain ⟨ready, hState, -, hMember⟩ := wake_spec s p
  rw [hState]
  exact hMember q

/-- Nobody takes the caller's turn but the caller. -/
theorem poll_ready (hReady : ∀ rest, s.ready ≠ .caller :: rest) (hCaller : .caller ∈ s.ready) :
    .caller ∈ s.poll.ready := by
  unfold poll
  cases hQueue : s.ready with
  | nil =>
      rw [hQueue] at hCaller
      cases hCaller
  | cons p rest =>
  cases p with
  | caller => exact absurd hQueue (hReady rest)
  | task id =>
      rw [hQueue] at hCaller
      simp only
      rw [runTask_ready]
      simpa using hCaller

end Radio

namespace Dispatcher

variable {d e f : Dispatcher} {P Q : Rest} {events others : List Event}

theorem Goes.congr (h : Goes events d P e Q)
    (hDevices : others.filterMap Event.device? = events.filterMap Event.device?)
    (hReplies : others.filterMap Event.reply? = events.filterMap Event.reply?) :
    Goes others d P e Q := by
  obtain ⟨prompts, frames, replies, acts, hTakes, hGoes⟩ := h
  refine ⟨prompts, frames, replies, acts, ⟨?_, hTakes.channel, hTakes.consumed, ?_, hTakes.shown⟩,
    hGoes⟩
  · rw [hDevices]
    exact hTakes.prompted
  · rw [hReplies]
    exact hTakes.replies

/-- What is left of the loop stays while the session goes on without its operation. -/
theorem rest_of_lingers {radio : Radio} (h : d.radio.Lingers radio) :
    ({ d with radio } : Dispatcher).rest = d.rest := by
  have hAim : radio.aim = d.radio.aim := by
    unfold Radio.aim
    rw [h.operation, h.serial]
  funext frames replies results
  simp only [rest, messaging, looping, answering, hAim, h.serial]

/-- A prompt that the operation of the session has no part in. -/
theorem lingers_goes (prompt : Radio.Prompt) (hBound : d.taken ≤ d.arrived.length)
    (hLingers : d.radio.Lingers (d.radio.prompted prompt).1)
    (hOutcome : (d.radio.prompted prompt).2 = none) (hNone : prompt.operation? = none)
    (hDevices : events.filterMap Event.device? = prompt.event?.toList)
    (hReplies : events.filterMap Event.reply? = []) :
    Goes events d d.rest { d with radio := (d.radio.prompted prompt).1 }
      ({ d with radio := (d.radio.prompted prompt).1 } : Dispatcher).rest := by
  have hTells : d.radio.tells [prompt] = [] := by simp [Radio.tells, hOutcome]
  refine ⟨[prompt], [], [], [], ⟨?_, rfl, ?_, ?_, (List.append_nil _).symm⟩,
    fun more others results => ?_⟩
  · rw [hDevices]
    refine .single prompt rfl ?_
    rw [hNone]
    exact (List.append_nil _).symm
  · rw [List.append_nil]
    exact consumed_of_grows hLingers.grows hBound rfl rfl
  · rw [hReplies]
    exact (List.append_nil _).symm
  · rw [hTells, rest_of_lingers hLingers]
    rfl

theorem dequeue_goes (hBound : d.taken ≤ d.arrived.length) {p : Participant}
    {rest : List Participant} (hReady : d.radio.ready = p :: rest) :
    Goes [] d d.rest { d with radio := { d.radio with ready := rest } }
      ({ d with radio := { d.radio with ready := rest } } : Dispatcher).rest := by
  have hPrompted : (d.radio.prompted .dequeue).1 = { d.radio with ready := rest } := by
    simp only [Radio.prompted, hReady, List.tail_cons]
  have hLingers := (Radio.polled_advances hReady).lingers rfl
  rw [← hPrompted] at hLingers ⊢
  exact lingers_goes .dequeue hBound hLingers rfl rfl rfl rfl

theorem wake_goes (hBound : d.taken ≤ d.arrived.length) : Goes [] d d.rest d.wake d.wake.rest :=
  lingers_goes (.wake .caller) hBound ((Radio.wake_advances d.radio .caller).lingers rfl) rfl rfl rfl rfl

/-- The turn of a task, or of nobody. -/
theorem radio_poll_goes (hSteady : d.Steady) (hSound : d.radio.Sound)
    (hReady : ∀ rest, d.radio.ready ≠ .caller :: rest) :
    Goes [] d d.rest { d with radio := d.radio.poll }
      ({ d with radio := d.radio.poll } : Dispatcher).rest := by
  have hBound := hSteady.tuned.taken
  unfold Radio.poll
  cases hQueue : d.radio.ready with
  | nil => exact .refl d _
  | cons p rest =>
  cases p with
  | caller => exact absurd hQueue (hReady rest)
  | task id =>
      have hLingers := (Radio.runTask_advances (Radio.polled_sound hSound hQueue) id).lingers rfl
      exact (dequeue_goes hBound hQueue).trans (lingers_goes (.run id) hBound hLingers rfl rfl rfl rfl)

/-- What a run keeps to between events. -/
structure Running (d : Dispatcher) : Prop where
  coherent : d.Coherent
  steady : d.Steady
  held : d.waiting ≠ none → d.radio.HeldSince d.radio.connections
  attends : d.Attends (.caller ∈ d.radio.ready)

theorem Attends.mono {woken later : Prop} (h : d.Attends woken) (hMono : woken → later) :
    d.Attends later :=
  ⟨h.relaying, fun hEvent => (h.event hEvent).imp_right (Or.imp_left hMono),
    fun hReply => (h.reply hReply).imp_left hMono, h.ended⟩

/-- The session has gone on without its operation. If something has been queued, somebody is going to
wake the dispatcher. -/
theorem Attends.lingers {woken later : Prop} (h : d.Attends woken) {radio : Radio}
    (hLingers : d.radio.Lingers radio) (hLater : woken → later)
    (hQueue : d.waiting = some .event → later ∨ ({ d with radio } : Dispatcher).inbox = []) :
    ({ d with radio } : Dispatcher).Attends later := by
  refine ⟨h.relaying, fun hEvent => ⟨?_, hQueue hEvent⟩,
    fun hReply => (h.reply hReply).imp_left hLater, fun hNone => ?_⟩
  · rw [hLingers.serial]
    exact (h.event hEvent).1
  · rw [hLingers.serial]
    exact h.ended hNone

theorem Running.poll (h : d.Running) :
    d.poll.Running ∧ Goes [] d d.rest d.poll d.poll.rest := by
  have hSound := h.coherent.proper.sound
  have hStrides := poll_strides d
  have hWaits (hWaiting : d.poll.waiting ≠ none) : d.waiting ≠ none := by
    refine mt (fun hNone => ?_) hWaiting
    unfold Dispatcher.poll
    split
    · simp [resume, hNone]
    · simp [hNone]
  have hHeld (hWaiting : d.poll.waiting ≠ none) :=
    h.coherent.held_strides (h.held (hWaits hWaiting)) hStrides
  suffices hBoth : d.poll.Attends (.caller ∈ d.poll.radio.ready) ∧
      Goes [] d d.rest d.poll d.poll.rest from
    ⟨⟨h.coherent.strides hStrides, h.steady.poll hSound, hHeld, hBoth.1⟩, hBoth.2⟩
  clear hHeld hWaits hStrides
  unfold Dispatcher.poll
  split
  · rename_i ready hReady
    have hDequeued := Radio.polled_advances hReady
    have hBrings := resume_brings (d := { d with radio := { d.radio with ready } })
      (h.coherent.strides (dequeue_strides d hReady)) (h.steady.of_advances hDequeued) h.held
      ⟨h.attends.relaying, h.attends.event, h.attends.reply, h.attends.ended⟩
    exact ⟨hBrings.attends.mono (by simp),
      (dequeue_goes h.steady.tuned.taken hReady).trans hBrings.goes⟩
  · rename_i hReady
    have hOthers : ∀ rest, d.radio.ready ≠ .caller :: rest := fun rest hRest => hReady rest hRest
    have hPolled := radio_poll_goes h.steady hSound hOthers
    have hAdvances := hSound.poll_advances hOthers
    have hLingers : d.radio.Lingers d.radio.poll := ⟨Radio.grows_of_moves hAdvances.moves,
      hAdvances.operation, Radio.serial_of_binding (hSound.poll_binding hOthers)⟩
    simp only
    split_ifs with hWakes
    · have hWoken := (Radio.wake_advances d.radio.poll .caller).lingers rfl
      have hCaller : Participant.caller ∈ (d.radio.poll.wake .caller).ready :=
        (Radio.mem_wake _ _ _).mpr (Or.inr rfl)
      have hSteady := h.steady.of_advances hAdvances
      exact ⟨h.attends.lingers (hLingers.trans hWoken) (fun _ => hCaller) fun _ => Or.inl hCaller,
        hPolled.trans (wake_goes hSteady.tuned.taken)⟩
    · refine ⟨h.attends.lingers hLingers (Radio.poll_ready hOthers) fun hEvent => Or.inr ?_, hPolled⟩
      by_contra hQueued
      exact hWakes ⟨hEvent, hQueued⟩

theorem Running.pollTimes (n : Nat) (h : d.Running) :
    (pollTimes n d).Running ∧ Goes [] d d.rest (pollTimes n d) (pollTimes n d).rest := by
  induction n generalizing d with
  | zero => exact ⟨h, .refl d _⟩
  | succ n ih =>
      unfold Dispatcher.pollTimes
      split_ifs
      · exact ⟨h, .refl d _⟩
      · obtain ⟨hPolled, hGoes⟩ := h.poll
        obtain ⟨hRest, hGoes'⟩ := ih hPolled
        exact ⟨hRest, hGoes.trans hGoes'⟩

theorem Running.device (h : d.Running) (event : Radio.DeviceEvent) :
    (d.step (.device event)).Running ∧
      Goes [.device event] d d.rest (d.step (.device event)) (d.step (.device event)).rest := by
  have hLingers := Radio.react_lingers d.radio event
  obtain ⟨-, -, hTrace, -⟩ := Radio.react_frame d.radio event
  have hInbox : (d.step (.device event)).inbox = d.inbox := by
    unfold inbox
    simp only [step, hTrace]
  have hReady : .caller ∈ d.radio.ready → .caller ∈ (d.radio.react event).ready :=
    fun hCaller => Radio.ready_subset_react d.radio event hCaller
  refine ⟨⟨h.coherent.step h.steady _, h.steady.step h.coherent.proper.sound _,
    fun hWaiting => (h.held hWaiting).react event,
    h.attends.lingers hLingers hReady fun hEvent => ?_⟩,
    lingers_goes (.device event) h.steady.tuned.taken hLingers rfl rfl rfl rfl⟩
  obtain ⟨-, hQueue⟩ := h.attends.event hEvent
  exact hQueue.imp hReady hInbox.trans

theorem Running.addReply (h : d.Running) (reply : Reply) :
    (d.addReply reply).Running ∧
      Goes [.reply reply] d d.rest (d.addReply reply) (d.addReply reply).rest := by
  have hStrides := addReply_strides d reply
  have hSteady : (d.addReply reply).Steady := h.steady.step h.coherent.proper.sound (.reply reply)
  have hWaits : (d.addReply reply).waiting = d.waiting := by
    unfold Dispatcher.addReply
    simp only
    split_ifs <;> rfl
  have hHeld (hWaiting : (d.addReply reply).waiting ≠ none) :=
    h.coherent.held_strides (h.held (hWaits ▸ hWaiting)) hStrides
  have hAdded : Goes [.reply reply] d d.rest { d with replies := d.replies ++ [reply] } d.rest :=
    ⟨[], [], [], [], ⟨.of_same rfl rfl, rfl, (List.append_nil _).symm, rfl,
      (List.append_nil _).symm⟩, fun _ _ _ => rfl⟩
  suffices hBoth : (d.addReply reply).Attends (.caller ∈ (d.addReply reply).radio.ready) ∧
      Goes [.reply reply] d d.rest (d.addReply reply) (d.addReply reply).rest from
    ⟨⟨h.coherent.strides hStrides, hSteady, hHeld, hBoth.1⟩, hBoth.2⟩
  clear hHeld hWaits hSteady hStrides
  unfold Dispatcher.addReply
  simp only
  split_ifs with hWaiting
  · have hCaller : Participant.caller ∈ (d.radio.wake .caller).ready :=
      (Radio.mem_wake _ _ _).mpr (Or.inr rfl)
    refine ⟨⟨h.attends.relaying, ?_, fun _ => Or.inl hCaller, ?_⟩,
      hAdded.trans (wake_goes (d := { d with replies := d.replies ++ [reply] }) h.steady.tuned.taken)⟩
    · exact fun hEvent => absurd (hWaiting.symm.trans hEvent) (by simp)
    · exact fun hNone => absurd (hWaiting.symm.trans hNone) (by simp)
  · exact ⟨⟨h.attends.relaying, h.attends.event, fun hReply => absurd hReply hWaiting,
      h.attends.ended⟩, hAdded⟩

/-- Nobody starts another command or gives the run up. -/
def Event.Continues : Event → Prop
  | .turn | .settle | .reply _ | .device _ => True
  | .handle _ | .run _ | .abandon => False

theorem Running.step (h : d.Running) {event : Event} (hEvent : event.Continues) :
    (d.step event).Running ∧ Goes [event] d d.rest (d.step event) (d.step event).rest := by
  cases event with
  | turn =>
      obtain ⟨hRunning, hGoes⟩ := h.poll
      exact ⟨hRunning, hGoes.congr rfl rfl⟩
  | settle =>
      obtain ⟨hRunning, hGoes⟩ := h.pollTimes _
      exact ⟨hRunning, hGoes.congr rfl rfl⟩
  | reply reply => exact h.addReply reply
  | device event => exact h.device event
  | handle | run | abandon => exact hEvent.elim

theorem Running.after (h : d.Running) {events : List Event}
    (hEvents : ∀ event ∈ events, event.Continues) :
    (d.after events).Running ∧ Goes events d d.rest (d.after events) (d.after events).rest := by
  induction events generalizing d with
  | nil => exact ⟨h, .refl d _⟩
  | cons event events ih =>
      obtain ⟨hRunning, hGoes⟩ := h.step (hEvents event List.mem_cons_self)
      obtain ⟨hRest, hGoes'⟩ := ih hRunning fun later hLater =>
        hEvents later (List.mem_cons_of_mem _ hLater)
      exact ⟨hRest, hGoes.trans hGoes'⟩

theorem Steady.free (h : d.Steady) (hCoherent : d.Coherent) (hFree : d.waiting = none)
    (hHeld : d.radio.HeldSince d.radio.connections) : d.Free :=
  ⟨hCoherent, h.tuned, h.idle (by simp [hFree]), hHeld⟩

def standing (d : Dispatcher) : Standing :=
  match d.waiting with
  | none => .ended
  | some (.operation _) => .operation
  | some .event => .frame
  | some .reply => .reply

/-- The frames that were taken, and after them those that wait, are all that have arrived. -/
theorem Takes.frames {prompts : List Radio.Prompt} {frames : List Bytes} {replies : List Reply}
    {acts : List Act} (h : Takes events d prompts frames replies acts e)
    (hGrows : d.radio.Grows e.radio) (hBound : d.taken ≤ d.arrived.length) :
    frames ++ e.backlog = (e.arrived.drop d.taken).filterMap ChannelEvent.payload? := by
  obtain ⟨later, hArrived⟩ := arrived_of_grows hGrows h.channel
  have hAll : e.consumed ++ e.backlog = e.arrived.filterMap ChannelEvent.payload? := by
    unfold Dispatcher.consumed backlog
    rw [inbox_eq_drop, ← List.filterMap_append, List.take_append_drop]
  have hSplit : d.consumed ++ (e.arrived.drop d.taken).filterMap ChannelEvent.payload? =
      e.arrived.filterMap ChannelEvent.payload? := by
    unfold Dispatcher.consumed
    rw [← List.filterMap_append, ← hArrived, List.drop_append_of_le_length hBound,
      ← List.append_assoc, List.take_append_drop]
  rw [h.consumed, List.append_assoc, ← hSplit] at hAll
  exact List.append_cancel_left hAll

end Dispatcher

end LockRelay
