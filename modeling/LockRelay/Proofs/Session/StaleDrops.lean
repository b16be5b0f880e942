import LockRelay.Proofs.Session.Delivery
import LockRelay.Proofs.Session.Rebinding

/-! A link that a send has bound again while drops of it still wait to be looked at. The watcher reads
the generation only when it looks at a drop, so nothing but its own check tells it that the drop is
an old one, and the link stays bound until such a check fails. -/
namespace LockRelay.Radio

variable {s t : Radio} {d : DeviceId}

/-- The link to a device is held and up. If an operation waits, it is a send that has read so. -/
structure LinkUp (s : Radio) (d : DeviceId) : Prop where
  link : s.session.link = some d
  connected : (s.device d).connected = true
  waits : ∀ suspended, s.operation = some suspended →
    suspended.answer = true ∧ ∃ data, suspended.point = .sending data

/-- It is the turn of the device's watcher, which has a drop to look at, and its check is going to
fail. -/
def CheckFails (s : Radio) (d : DeviceId) : Prop :=
  ∃ id rest pending check, s.ready = .task id :: rest ∧
    s.task? id = some (.drops d pending check) ∧ pending ≠ 0 ∧
    (s.device d).faults .isConnected ≠ none

/-- In an event a check of the device's watcher fails. -/
def ChecksInVain (d : DeviceId) (s : Radio) : Event → Prop
  | .turn => s.CheckFails d
  | .settle => ∃ i, (s.run (turns i)).CheckFails d
  | .start _ | .abandon | .device _ => False

/-- A step that keeps the link, the operation and whether the device is connected. -/
theorem LinkUp.of_same (h : s.LinkUp d) (hLink : t.session.link = s.session.link)
    (hConnected : (t.device d).connected = (s.device d).connected)
    (hOperation : t.operation = s.operation) : t.LinkUp d := by
  refine ⟨hLink.trans h.link, hConnected.trans h.connected, ?_⟩
  rw [hOperation]
  exact h.waits

/-- The answer to a check of a link that is up. -/
theorem isConnected_of_up (hUp : (s.device d).connected = true) :
    ((s.device d).faults .isConnected ≠ none ∧
        ∃ error, (s.isConnected d).2 = .ready (.error error)) ∨
      ((s.device d).faults .isConnected = none ∧
        ((s.isConnected d).2 = .held true ∨ (s.isConnected d).2 = .ready (.ok true) ∧
          (s.isConnected d).1 = s.record (.call (.isConnected d) true))) := by
  unfold isConnected
  cases hFault : (s.device d).faults .isConnected with
  | some fault => exact Or.inl ⟨nofun, fault.error, by simp [hFault]⟩
  | none =>
      simp only [hFault, hUp]
      split_ifs
      · exact Or.inr ⟨trivial, Or.inr ⟨rfl, rfl⟩⟩
      · exact Or.inr ⟨trivial, Or.inl rfl⟩

/-- A watcher whose link is up demotes it exactly if it has a drop to look at and its check fails. -/
theorem watchDrops_up (s : Radio) (id : TaskId) (hUp : (s.device d).connected = true)
    (pending : Nat) :
    (s.watchDrops id d pending).session.link = s.session.link ∧
      (s.watchDrops id d pending).operation = s.operation ∧
      ((s.watchDrops id d pending).device d).connected = (s.device d).connected ∧
      ((s.watchDrops id d pending).session.state = .bound ↔
        s.session.state = .bound ∧
          ¬(pending ≠ 0 ∧ (s.device d).faults .isConnected ≠ none)) := by
  induction pending generalizing s with
  | zero => exact ⟨rfl, rfl, rfl, by simp [watchDrops, setTask]⟩
  | succ pending ih =>
  obtain ⟨-, device, hServed, hState⟩ := isConnected_served s d
  have hConnected := connected_of_served hServed hState rfl d
  have hAnswer := isConnected_of_up hUp
  unfold watchDrops
  rcases hResult : s.isConnected d with ⟨t, answer⟩
  rw [hResult] at hState hConnected hAnswer
  have hSession : t.session = s.session := (congrArg session hState).trans rfl
  have hOperation : t.operation = s.operation := (congrArg operation hState).trans rfl
  rcases hAnswer with ⟨hFault, error, rfl⟩ | ⟨hFault, rfl | ⟨rfl, hSame⟩⟩
  -- The drop is taken for a new one.
  · obtain ⟨hDevices, -, hOperation', -, hLink', -⟩ := dropped_frame t (some s.session.generation)
    have hDevice : (t.dropped (some s.session.generation)).device d = t.device d :=
      congrArg (·.getD d {}) hDevices
    have hDemoted : (t.dropped (some s.session.generation)).session.state ≠ .bound := by
      intro hBound
      refine stale_of_dropped_bound hBound ?_
      rw [generation_dropped, hSession]
      simp
    obtain ⟨hLink, hKept, hStays, hIff⟩ :=
      ih (t.dropped (some s.session.generation)) (by rw [hDevice, hConnected, hUp])
    refine ⟨?_, hKept.trans (hOperation'.trans hOperation), ?_, ?_⟩
    · exact hLink.trans (hLink'.trans (congrArg Session.link hSession))
    · exact hStays.trans ((congrArg Device.connected hDevice).trans hConnected)
    · simp [hIff, hDemoted, hFault]
  -- The watcher waits with the answer that the link is up.
  · have hKept : t.session.state = s.session.state := congrArg Session.state hSession
    exact ⟨congrArg Session.link hSession, hOperation, hConnected, by simp [hFault, setTask, hKept]⟩
  · obtain rfl : t = s.record (.call (.isConnected d) true) := hSame
    obtain ⟨hLink, hKept, hStays, hIff⟩ := ih (s.record (.call (.isConnected d) true)) hUp
    refine ⟨hLink, hKept, hStays, hIff.trans ?_⟩
    simp only [device_record, hFault]
    simp [record]

/-- A task has its turn while the link is up. -/
theorem LinkUp.ran (h : s.LinkUp d) (hSound : s.Sound) (id : TaskId) :
    (s.runTask id).LinkUp d ∧ ((s.runTask id).session.state = .bound ↔
      s.session.state = .bound ∧ ¬∃ pending check,
        s.task? id = some (.drops d pending check) ∧ pending ≠ 0 ∧
          (s.device d).faults .isConnected ≠ none) := by
  unfold runTask
  cases hTask : s.task? id with
  | none => exact ⟨h, by simp⟩
  | some task =>
  cases task with
  | notifications e connection queue =>
      simp only
      rw [foldl_frames]
      exact ⟨h.of_same rfl rfl rfl, by simp [setTask]⟩
  | drops e pending check =>
  obtain rfl : e = d :=
    Option.some.inj ((hSound.link_of_drops (mem_of_task? hTask)).symm.trans h.link)
  have hWatched := watchDrops_up s id h.connected pending
  have hFails : (∃ pending' check', some (Task.drops e pending check) =
      some (.drops e pending' check') ∧ pending' ≠ 0 ∧
        (s.device e).faults .isConnected ≠ none) ↔
      pending ≠ 0 ∧ (s.device e).faults .isConnected ≠ none := by
    constructor
    · rintro ⟨_, _, ⟨⟩, hFails⟩
      exact hFails
    · exact fun hFails => ⟨pending, check, rfl, hFails⟩
  rw [hFails]
  -- What the watcher waited for tells of no drop, or of one that is stale.
  have hStale : ∀ c, check = some c → (if c.answer then s else s.dropped (some c.generation)) = s := by
    rintro c rfl
    split_ifs with hAnswer
    · rfl
    · rcases dropped_cases s (some c.generation) with ⟨hSame, -⟩ | ⟨hSeen, hBound, -⟩
      · exact hSame
      · have hTrusts := (hSound.checks id e pending c (mem_of_task? hTask)).2 (by simpa using hAnswer)
        cases h.connected.symm.trans (hTrusts (by simpa using hSeen) hBound)
  obtain ⟨hLink, hOperation, hConnected, hIff⟩ := hWatched
  cases check with
  | none => exact ⟨h.of_same hLink hConnected hOperation, hIff⟩
  | some c =>
      simp only [hStale c rfl]
      exact ⟨h.of_same hLink hConnected hOperation, hIff⟩

/-- What an operation does while the link is up: it ends or waits with a send, and changes nothing of
the session. -/
structure Spares (s : Radio) (d : DeviceId) (p : Radio × Progress) : Prop where
  session : p.1.session = s.session
  connected : (p.1.device d).connected = (s.device d).connected
  idle : p.1.operation = none
  waits : ∀ i answer point, p.2 = .waiting i answer point →
    answer = true ∧ ∃ data, point = .sending data

theorem Spares.note {p : Radio × Progress} (hSpares : s.Spares d p) (h : s.LinkUp d) :
    (note p).1.LinkUp d ∧ (note p).1.session.state = s.session.state := by
  obtain ⟨t, outcome | ⟨i, answer, point⟩⟩ := p
  all_goals
    have hLink : t.session.link = some d := (congrArg Session.link hSpares.session).trans h.link
    have hConnected : (t.device d).connected = true := hSpares.connected.trans h.connected
    refine ⟨⟨hLink, hConnected, ?_⟩, congrArg Session.state hSpares.session⟩
    intro suspended hOperation
  · cases hSpares.idle.symm.trans hOperation
  · obtain rfl : ⟨answer, point⟩ = suspended := Option.some.inj hOperation
    exact hSpares.waits i answer point rfl

theorem writeOut_spares (d : DeviceId) (data : Bytes) (hIdle : s.operation = none) :
    s.Spares d (s.writeOut data) := by
  obtain ⟨hSession, hOperation, hConnected, result, hDone⟩ := writeOut_quiet s data
  refine ⟨hSession, hConnected d, hOperation.trans hIdle, ?_⟩
  rw [hDone]
  exact nofun

theorem send_spares (h : s.LinkUp d) (data : Bytes) (hIdle : s.operation = none) :
    s.Spares d (s.send data) := by
  unfold send
  rw [h.link]
  cases s.session.endpoints with
  | none => exact ⟨rfl, rfl, hIdle, nofun⟩
  | some endpoints =>
  simp only
  obtain ⟨-, device, hServed, hState⟩ := isConnected_served s d
  have hConnected := connected_of_served hServed hState rfl d
  have hAnswer := isConnected_of_up h.connected
  unfold ask
  rcases hResult : s.isConnected d with ⟨t, answer⟩
  rw [hResult] at hState hConnected hAnswer
  have hSession : t.session = s.session := (congrArg session hState).trans rfl
  have hOperation : t.operation = none := (congrArg operation hState).trans hIdle
  rcases hAnswer with ⟨-, error, rfl⟩ | ⟨-, rfl | ⟨rfl, -⟩⟩
  · exact ⟨hSession, hConnected, hOperation, nofun⟩
  · refine ⟨hSession, hConnected, hOperation, ?_⟩
    rintro _ _ _ ⟨⟩
    exact ⟨rfl, data, rfl⟩
  · have hWritten := writeOut_spares d data hOperation
    exact ⟨hWritten.session.trans hSession, hWritten.connected.trans hConnected, hWritten.idle,
      hWritten.waits⟩

theorem LinkUp.started (h : s.LinkUp d) {operation : Operation}
    (hEvent : ¬(Event.start operation).TearsDown) :
    (s.start operation).1.LinkUp d ∧ (s.start operation).1.session.state = s.session.state := by
  unfold start
  split_ifs with hWaits
  · exact ⟨h, rfl⟩
  · have hIdle : s.operation = none := by simpa using hWaits
    cases operation with
    | connect serial =>
        have hRefused : s.Spares d (s.connect serial) := by
          unfold connect
          cases hFilter : DiscoveryFilter.forSerial serial with
          | ok filter => exact absurd ⟨filter, hFilter⟩ hEvent
          | error error => exact ⟨rfl, rfl, hIdle, nofun⟩
        exact hRefused.note h
    | send data => exact (send_spares h data hIdle).note h
    | disconnect => exact absurd trivial hEvent

theorem LinkUp.resumed (h : s.LinkUp d) :
    s.resume.1.LinkUp d ∧ s.resume.1.session.state = s.session.state := by
  unfold resume
  cases hOperation : s.operation with
  | none => exact ⟨h, rfl⟩
  | some suspended =>
      obtain ⟨hAnswer, data, hPoint⟩ := h.waits suspended hOperation
      simp only [hPoint, hAnswer]
      have hUp : ({ s with operation := none } : Radio).LinkUp d := ⟨h.link, h.connected, nofun⟩
      exact (writeOut_spares d data rfl).note hUp

theorem LinkUp.turn (h : s.LinkUp d) (hSound : s.Sound) :
    s.poll.LinkUp d ∧
      (s.poll.session.state = .bound ↔ s.session.state = .bound ∧ ¬s.CheckFails d) := by
  unfold poll
  cases hReady : s.ready with
  | nil => exact ⟨h, by simp [CheckFails, hReady]⟩
  | cons p rest =>
  have hUp : ({ s with ready := rest } : Radio).LinkUp d := h.of_same rfl rfl rfl
  cases p with
  | caller =>
      obtain ⟨hAfter, hState⟩ := hUp.resumed
      refine ⟨hAfter, ?_⟩
      rw [hState]
      simp [CheckFails, hReady]
  | task id =>
      obtain ⟨hAfter, hIff⟩ := hUp.ran (polled_sound hSound hReady) id
      refine ⟨hAfter, hIff.trans (and_congr_right fun _ => not_congr ?_)⟩
      constructor
      · rintro ⟨pending, check, hTask, hFails⟩
        exact ⟨id, rest, pending, check, hReady, hTask, hFails⟩
      · rintro ⟨id', rest', pending, check, hReady', hTask, hFails⟩
        cases hReady.symm.trans hReady'
        exact ⟨pending, check, hTask, hFails⟩

theorem LinkUp.turned (h : s.LinkUp d) (hSound : s.Sound) (n : Nat) :
    (s.run (turns n)).LinkUp d ∧ ((s.run (turns n)).session.state = .bound ↔
      s.session.state = .bound ∧ ¬∃ i < n, (s.run (turns i)).CheckFails d) := by
  induction n with
  | zero => exact ⟨h, by simp [turns, run]⟩
  | succ n ih =>
      obtain ⟨hAfter, hIff⟩ := ih
      obtain ⟨hTurn, hTurnIff⟩ := hAfter.turn (hSound.moves (hSound.run_moves (turns n)))
      rw [turns, List.replicate_succ', run_concat, ← turns]
      refine ⟨hTurn, hTurnIff.trans ?_⟩
      rw [hIff, Nat.exists_lt_succ_right, not_or, and_assoc]

/-- No event changes that the link is up, and only a check that fails ends that it is bound. -/
theorem LinkUp.step (h : s.LinkUp d) (hUndisturbed : s.Undisturbed) {event : Event}
    (hEvent : ¬event.TearsDown) (hDrop : event ≠ .device (.drop d)) :
    (s.step event).LinkUp d ∧ ((s.step event).session.state = .bound ↔
      s.session.state = .bound ∧ ¬ChecksInVain d s event) := by
  have hSound := hUndisturbed.sound
  have hKeeps (hAfter : (s.step event).LinkUp d ∧
      (s.step event).session.state = s.session.state) (hNever : ¬ChecksInVain d s event) :
      (s.step event).LinkUp d ∧ ((s.step event).session.state = .bound ↔
        s.session.state = .bound ∧ ¬ChecksInVain d s event) :=
    ⟨hAfter.1, by rw [hAfter.2, and_iff_left hNever]⟩
  cases event with
  | start operation => exact hKeeps (h.started hEvent) id
  | abandon => exact hKeeps ⟨⟨h.link, h.connected, nofun⟩, rfl⟩ id
  | turn => exact h.turn hSound
  | settle =>
      have hReady := hUndisturbed.orderly.ready_settle hSound
      have hTurned := h.turned hSound (3 * s.ready.length)
      rw [← settle_eq_run] at hTurned
      refine ⟨hTurned.1, hTurned.2.trans (and_congr_right fun _ => not_congr ?_)⟩
      constructor
      · rintro ⟨i, -, hFails⟩
        exact ⟨i, hFails⟩
      · rintro ⟨i, hFails⟩
        refine ⟨i, Nat.lt_of_not_le fun hLe => ?_, hFails⟩
        obtain ⟨id, rest, -, -, hLater, -⟩ := hFails
        rw [settle_eq_run] at hReady
        rw [run_turns_of_le hReady hLe, hReady] at hLater
        cases hLater
  | device event =>
      obtain ⟨hSession, hOperation, -⟩ := react_frame s event
      have hRange := hSound.inRange d h.link
      have hUp := react_up s hRange (fun hSame => hDrop (congrArg Event.device hSame)) h.connected
      refine hKeeps ⟨?_, congrArg Session.state hSession⟩ id
      exact h.of_same (congrArg Session.link hSession) (hUp.trans h.connected.symm) hOperation

theorem LinkUp.run (h : s.LinkUp d) (hUndisturbed : s.Undisturbed) {after : List Event}
    (hAfter : ∀ event ∈ after, ¬event.TearsDown) (hDrop : Event.device (.drop d) ∉ after) :
    (s.run after).LinkUp d ∧ ((s.run after).session.state = .bound ↔
      s.session.state = .bound ∧ ¬s.Meets (ChecksInVain d) after) := by
  induction after using List.reverseRecOn with
  | nil =>
      refine ⟨h, ?_⟩
      rw [and_iff_left not_meets_nil]
      rfl
  | append_singleton after event ih =>
      have hEarlier : ∀ event ∈ after, ¬event.TearsDown := fun earlier hEvent =>
        hAfter earlier (List.mem_append_left _ hEvent)
      obtain ⟨hUp, hIff⟩ := ih hEarlier fun hEvent => hDrop (List.mem_append_left _ hEvent)
      have hLast : event ∈ after ++ [event] := List.mem_append_right _ (List.mem_singleton_self _)
      obtain ⟨hStep, hStepIff⟩ := hUp.step (hUndisturbed.run hEarlier) (hAfter event hLast)
        fun hSame => hDrop (hSame ▸ hLast)
      rw [run_concat]
      refine ⟨hStep, hStepIff.trans ?_⟩
      rw [hIff, meets_concat, not_or, and_assoc]

/-- Whenever a send has bound the link again, the link is bound and up. From then on, while nobody
takes it down and the device does not drop it, it is up, and it is bound exactly as long as no check
of its watcher has failed, whatever drops from before wait to be looked at. -/
theorem bound_after_rebind_iff (devices : List Device) (history : List Event) (event : Event)
    (result : Except SendError Unit) (t : Radio)
    (hTold : (Outcome.send result, t) ∈ ((initial devices).run history).toldBy event)
    (hAgain : ((initial devices).run history).session.generation < t.session.generation) :
    ∃ d, t.BoundUp d ∧ ∀ after : List Event, (∀ event ∈ after, ¬event.TearsDown) →
      Event.device (.drop d) ∉ after →
        ((t.run after).device d).connected = true ∧
          ((t.run after).session.state = .bound ↔ ¬t.Meets (ChecksInVain d) after) := by
  obtain ⟨hIdle, ⟨before, rfl⟩, d, hBound⟩ := boundUp_of_told hTold hAgain
  have hWaits (who : Mover → Prop) : ((initial devices).run before).InProgress who := by
    intro suspended hOperation
    cases hIdle.symm.trans hOperation
  have hUndisturbed : ((initial devices).run before).Undisturbed :=
    ⟨run_sound devices before, run_orderly devices before, hWaits _⟩
  have hUp : ((initial devices).run before).LinkUp d := by
    refine ⟨hBound.link, hBound.connected, ?_⟩
    intro suspended hOperation
    cases hIdle.symm.trans hOperation
  refine ⟨d, hBound, fun after hAfter hDrop => ?_⟩
  obtain ⟨hStays, hIff⟩ := hUp.run hUndisturbed hAfter hDrop
  exact ⟨hStays.connected, hIff.trans (and_iff_right hBound.state)⟩

/-- Two drops that the watcher has not looked at when the send returns. -/
theorem bound_after_rebind_iff_two_drops :
    ∃ t, (Outcome.send (.ok ()), t) ∈ ((initial [.ofSerial 7]).run
        [.start (.connect 7), .device (.drop 0), .device (.drop 0)]).toldBy (.start (.send [1])) ∧
      ((initial [.ofSerial 7]).run [.start (.connect 7), .device (.drop 0),
        .device (.drop 0)]).session.generation < t.session.generation ∧
      t.BoundUp 0 ∧ ((t.run [.settle]).device 0).connected = true ∧
      ((t.run [.settle]).session.state = .bound ↔ ¬t.Meets (ChecksInVain 0) [.settle]) := by
  have hTold : (Outcome.send (.ok ()), (initial [.ofSerial 7]).run [.start (.connect 7),
      .device (.drop 0), .device (.drop 0), .start (.send [1])]) ∈ ((initial [.ofSerial 7]).run
        [.start (.connect 7), .device (.drop 0), .device (.drop 0)]).toldBy (.start (.send [1])) :=
    List.mem_singleton.mpr rfl
  have hAgain : ((initial [.ofSerial 7]).run [.start (.connect 7), .device (.drop 0),
      .device (.drop 0)]).session.generation < ((initial [.ofSerial 7]).run [.start (.connect 7),
        .device (.drop 0), .device (.drop 0), .start (.send [1])]).session.generation := by decide
  obtain ⟨d, hBound, hAfter⟩ := bound_after_rebind_iff [.ofSerial 7] _ _ _ _ hTold hAgain
  cases hBound.link
  exact ⟨_, hTold, hAgain, hBound, hAfter [.settle] (by simp [Event.TearsDown]) (by simp)⟩

/-- A watcher whose own check fails takes a drop from before the link was bound again for a new
one. -/
theorem not_bound_after_failed_check :
    ∃ t, (Outcome.send (.ok ()), t) ∈ ((initial [.ofSerial 7]).run
        [.start (.connect 7), .device (.drop 0)]).toldBy (.start (.send [1])) ∧
      t.session.state = .bound ∧ (t.device 0).connected = true ∧
      (t.run [.device (.fault 0 .isConnected (CallFault.make .noAdapter (some 1))),
        .settle]).session.state = .disconnected ∧
      ((t.run [.device (.fault 0 .isConnected (CallFault.make .noAdapter (some 1))),
        .settle]).device 0).connected = true :=
  ⟨_, List.mem_singleton.mpr rfl, rfl, rfl, rfl, rfl⟩

end LockRelay.Radio
