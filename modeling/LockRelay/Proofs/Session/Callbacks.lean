import LockRelay.Proofs.Session.Numbers
import LockRelay.Proofs.Session.DropsNoticed

/-! When callbacks are invoked. Only a demotion and a notification task invoke one, and while a
connection is being made nobody does, so a connect that succeeds returns before its own callbacks
have heard anything. -/
namespace LockRelay.Radio

variable {s t : Radio} {m : Mover}

/-- The invocations of callbacks, oldest first. -/
def heard (s : Radio) : List Effect := s.trace.filter (·.connection?.isSome)

theorem heard_of_quiet (added : List Effect) (hTrace : t.trace = s.trace ++ added)
    (hAdded : ∀ effect ∈ added, effect.connection? = none) : t.heard = s.heard := by
  have hNothing : added.filter (·.connection?.isSome) = [] := by
    refine List.filter_eq_nil_iff.mpr fun effect hEffect => ?_
    simp [hAdded effect hEffect]
  unfold heard
  rw [hTrace, List.filter_append, hNothing, List.append_nil]

theorem reported_iff {k : ConnectionId} :
    s.Reported k ↔ ∃ effect ∈ s.heard, effect.connection? = some k := by
  constructor
  · rintro ⟨effect, hEffect, hSame⟩
    exact ⟨effect, List.mem_filter.mpr ⟨hEffect, by simp [hSame]⟩, hSame⟩
  · rintro ⟨effect, hEffect, hSame⟩
    exact ⟨effect, (List.mem_filter.mp hEffect).1, hSame⟩

/-- A link was demoted that looked dropped, and its callback was taken and invoked. -/
structure DropHeard (m : Mover) (s t : Radio) (k : ConnectionId) : Prop where
  observes : m.observes = true
  link : ∃ d, s.session.link = some d ∧ s.LooksDropped d
  onDisconnect : s.session.onDisconnect = some k
  taken : t.session.onDisconnect = none
  heard : t.heard = s.heard ++ [.dropReported k]

/-- A notification task has handed over what its queue held. -/
structure PayloadsHeard (m : Mover) (s t : Radio) (k : ConnectionId) (queue : List Bytes) :
    Prop where
  task : ∃ id d, m = .task id ∧ s.task? id = some (.notifications d k queue)
  heard : t.heard = s.heard ++ queue.map (.frame k)

theorem heard_dropped (s : Radio) (seen : Option Nat) :
    (s.dropped seen).heard = s.heard ∨ ∃ k, s.session.onDisconnect = some k ∧
      (s.dropped seen).heard = s.heard ++ [.dropReported k] := by
  rcases dropped_cases s seen with ⟨hSame, -⟩ | ⟨-, -, hChanged⟩
  · exact Or.inl (congrArg heard hSame)
  · rw [hChanged]
    cases s.session.onDisconnect with
    | none =>
        exact Or.inl (heard_of_quiet [.assigned .disconnected] rfl (by simp [Effect.connection?]))
    | some k => exact Or.inr ⟨k, rfl, by simp [heard, Effect.connection?]⟩

theorem Move.heard_cases (hMove : s.Move m t) :
    t.heard = s.heard ∨ (∃ k, DropHeard m s t k) ∨ ∃ k queue, PayloadsHeard m s t k queue := by
  cases hMove with
  | called d device call succeeded hDevice hMay hServed =>
      exact Or.inl (heard_of_quiet [.call call succeeded] rfl (by simp [Effect.connection?]))
  | discovered scans fault filter succeeded =>
      exact Or.inl (heard_of_quiet [.call _ succeeded] rfl (by simp [Effect.connection?]))
  | assigned state =>
      exact Or.inl (heard_of_quiet [.assigned state] rfl (by simp [Effect.connection?]))
  | cleared => exact Or.inl (heard_of_quiet _ (trace_clear s) (by simp [Effect.connection?]))
  | adopted request d endpoints =>
      exact Or.inl (heard_of_quiet [.assigned .bound] rfl (by simp [Effect.connection?]))
  | readopted d endpoints =>
      obtain ⟨-, -, -, hTrace, -⟩ := readopt_frame s d endpoints
      exact Or.inl (heard_of_quiet _ hTrace (by simp [Effect.connection?]))
  | demoted seen hDropped hMover =>
      rcases dropped_cases s seen with ⟨hSame, -⟩ | ⟨hSeen, hState, hChanged⟩
      · exact Or.inl (congrArg heard hSame)
      · rcases heard_dropped s seen with hSame | ⟨k, hHeld, hHeard⟩
        · exact Or.inl hSame
        · refine Or.inr (Or.inl ⟨k, hMover, hDropped hSeen hState, hHeld, ?_, hHeard⟩)
          rw [hChanged]
  | returned outcome =>
      exact Or.inl (heard_of_quiet [.returned outcome] rfl (by simp [Effect.connection?]))
  | delivered id d k queue hTask =>
      refine Or.inr (Or.inr ⟨k, queue, ⟨id, d, rfl, hTask⟩, ?_⟩)
      have hFrames : (queue.map (Effect.frame k)).filter (·.connection?.isSome) =
          queue.map (.frame k) := List.filter_eq_self.mpr (by simp [Effect.connection?])
      rw [foldl_frames]
      exact (List.filter_append _ _).trans (congrArg (s.heard ++ ·) hFrames)
  | woken p =>
      unfold wake
      split_ifs <;> exact Or.inl rfl
  | reacted event =>
      obtain ⟨-, -, hTrace, -⟩ := react_frame s event
      exact Or.inl (heard_of_quiet [] (hTrace.trans (List.append_nil _).symm) (by simp))
  | _ => exact Or.inl rfl

/-- Without a link no callback is invoked. -/
theorem Move.heard_of_unlinked (hSound : s.Sound) (hLink : s.session.link = none)
    (hMove : s.Move m t) : t.heard = s.heard := by
  rcases hMove.heard_cases with hSame | ⟨k, hDrop⟩ | ⟨k, queue, hPayloads⟩
  · exact hSame
  · obtain ⟨d, hLink', -⟩ := hDrop.link
    cases hLink.symm.trans hLink'
  · obtain ⟨id, d, -, hTask⟩ := hPayloads.task
    have hMember := mem_of_task? hTask
    rw [(hSound.unlinked hLink).tasks] at hMember
    cases hMember

/-- An operation that may tear the link down invokes no callback. -/
theorem Move.heard_of_tearsDown (hMover : m.tearsDown = true) (hMove : s.Move m t) :
    t.heard = s.heard := by
  rcases hMove.heard_cases with hSame | ⟨i, hDrop⟩ | ⟨i, queue, hPayloads⟩
  · exact hSame
  · have hObserves := hDrop.observes
    cases m <;> cases hMover <;> cases hObserves
  · obtain ⟨id, d, rfl, -⟩ := hPayloads.task
    cases hMover

/-- A connection that a mover makes has not been reported to. -/
def Fresh (m : Mover) (s : Radio) : Prop := ∀ k, m = .connecting k → ¬s.Reported k

/-- No connection has been reported to that the operation which waits makes. -/
def Unreported (s : Radio) : Prop := InProgress (Fresh · s) s

theorem Fresh.of_heard {n : Mover} (h : Fresh n s) (hHeard : t.heard = s.heard) : Fresh n t := by
  intro k hMover
  rw [reported_iff, hHeard, ← reported_iff]
  exact h k hMover

theorem Fresh.move (h : Fresh m s) (hMove : s.Move m t) : Fresh m t := by
  intro k hMover
  subst hMover
  exact h.of_heard (hMove.heard_of_tearsDown rfl) k rfl

/-- While a connection is being made there is no link, and it is the last one asked for. -/
theorem Sound.connecting {suspended : Suspended} {k : ConnectionId} (h : s.Sound)
    (hOperation : s.operation = some suspended) (hMover : suspended.point.mover = .connecting k) :
    s.session.link = none ∧ k + 1 = s.connections := by
  have hWaits := h.suspended suspended hOperation
  cases hPoint : suspended.point with
  | replacing request d =>
      rw [hPoint] at hWaits hMover
      cases hMover
      exact ⟨hWaits.1, hWaits.2.2⟩
  | binding request d =>
      rw [hPoint] at hWaits hMover
      cases hMover
      exact ⟨hWaits.1, hWaits.2.2⟩
  | sending data | rebinding data | disconnecting d =>
      rw [hPoint] at hMover
      cases hMover

theorem Unreported.move (h : s.Unreported) (hFresh : Fresh m s) (hSound : s.Sound)
    (hMove : s.Move m t) : t.Unreported := by
  intro suspended hOperation k hMover
  have hAfter : t.InProgress fun n =>
      n = m ∨ ∃ old, s.operation = some old ∧ old.point.mover = n :=
    InProgress.move (fun old hOld => Or.inr ⟨old, hOld, rfl⟩) (Or.inl rfl) hMove
  rcases hAfter suspended hOperation with hSame | ⟨old, hOld, hSame⟩
  · exact hFresh.move hMove k (hSame.symm.trans hMover)
  · have hConnecting := hSame.trans hMover
    obtain ⟨hLink, -⟩ := hSound.connecting hOld hConnecting
    exact (h old hOld).of_heard (hMove.heard_of_unlinked hSound hLink) k hConnecting

theorem Unreported.moves (h : s.Unreported) (hFresh : Fresh m s) (hSound : s.Sound)
    (hMoves : s.MovesBy (· = m) t) : t.Unreported ∧ Fresh m t := by
  refine hSound.keeps (P := fun t => t.Unreported ∧ Fresh m t) hMoves ?_ ⟨h, hFresh⟩
  rintro n s t rfl hSound hMove ⟨h, hFresh⟩
  exact ⟨h.move hFresh hSound hMove, hFresh.move hMove⟩

/-- A move by no operation. -/
theorem Unreported.background (h : s.Unreported) (hSound : s.Sound) (hMover : m.operates = false)
    (hMoves : s.MovesBy (· = m) t) : t.Unreported := by
  refine (h.moves ?_ hSound hMoves).1
  rintro k rfl
  cases hMover

theorem Unreported.resume (h : s.Unreported) (hSound : s.Sound) : s.resume.1.Unreported := by
  cases hOperation : s.operation with
  | none =>
      rw [resume_of_idle hOperation]
      exact h
  | some suspended =>
      have hIdle := Move.resumed s
      have hNothing := h.background hSound (m := .scheduler) rfl (hIdle.by rfl)
      have hFresh : Fresh suspended.point.mover s := h suspended hOperation
      exact (hNothing.moves (hFresh.of_heard rfl) (hSound.move hIdle)
        (hSound.resume_concludes hOperation).moves).1

theorem Unreported.poll (h : s.Unreported) (hSound : s.Sound) : s.poll.Unreported := by
  unfold Radio.poll
  cases hReady : s.ready with
  | nil => exact h
  | cons p rest =>
      have hPolled := polled_sound hSound hReady
      have hUnreported : ({ s with ready := rest } : Radio).Unreported :=
        h.background hSound (m := .scheduler) rfl ((Move.polled s p rest hReady).by rfl)
      cases p with
      | task id => exact hUnreported.background hPolled rfl (runTask_advances hPolled id).moves
      | caller => exact hUnreported.resume hPolled

/-- A connect makes the next connection. -/
theorem Operation.connecting {operation : Operation} {k : ConnectionId}
    (hMover : operation.mover s = .connecting k) : k = s.connections ∧ operation.asked = 1 := by
  cases operation with
  | connect serial =>
      simp only [Operation.mover] at hMover
      cases hFilter : DiscoveryFilter.forSerial serial <;> rw [hFilter] at hMover <;> cases hMover
      exact ⟨rfl, rfl⟩
  | send data => cases hMover
  | disconnect => cases hMover

/-- A connection asked for now has not been reported to. -/
theorem Numbered.fresh (h : s.Numbered) (operation : Operation) : Fresh (operation.mover s) s :=
  fun k hMover hReported => (h.reported k hReported).ne (Operation.connecting hMover).1

theorem Unreported.step (h : s.Unreported) (hSound : s.Sound) (hNumbered : s.Numbered)
    (event : Event) : (s.step event).Unreported := by
  cases event with
  | start operation =>
      cases hOperation : s.operation with
      | none =>
          exact (h.moves (hNumbered.fresh operation) hSound
            (start_concludes operation hOperation).moves).1
      | some suspended =>
          rw [Radio.step, start_of_busy hOperation]
          exact h
  | abandon => exact nofun
  | turn => exact h.poll hSound
  | settle =>
      have hTimes (n : Nat) : (pollTimes n s).Unreported := by
        induction n generalizing s with
        | zero => exact h
        | succ n ih =>
            rw [pollTimes_succ]
            exact ih (h.poll hSound) (hSound.moves hSound.poll_moves)
              (hNumbered.moves hSound hSound.poll_moves)
      exact hTimes _
  | device event =>
      exact h.background hSound (m := .device event) rfl ((Move.reacted s event).by rfl)

theorem run_numbered (devices : List Device) (history : List Event) :
    ((initial devices).run history).Numbered :=
  (initial_numbered devices).moves (initial_sound devices)
    ((initial_sound devices).run_moves history)

theorem run_unreported (devices : List Device) (history : List Event) :
    ((initial devices).run history).Unreported := by
  induction history using List.reverseRecOn with
  | nil => exact nofun
  | append_singleton history event ih =>
      rw [run_concat]
      exact ih.step (run_sound devices history) (run_numbered devices history) event

/-- What is so when a connect succeeds: the connection is made, and none of its callbacks has been
invoked. -/
structure Connected (s : Radio) (d : DeviceId) (k : ConnectionId) : Prop extends s.Opened d k where
  idle : s.operation = none
  unreported : ¬s.Reported k

/-- An operation that makes a connection has not reported to it by the time that it ends. -/
theorem Ended.unreported {k : ConnectionId} {outcome : Outcome} (h : Ended m s outcome t)
    (hFresh : Fresh m s) (hMover : m = .connecting k) : ¬t.Reported k := by
  have hAfter : Fresh m t := by
    refine h.moves.keeps (P := Fresh m) ?_ hFresh
    rintro _ u v rfl hMove hFresh
    exact hFresh.move hMove
  exact hAfter k hMover

theorem Ended.connected (h : Ended m s (.connect (.ok ())) t) (hFresh : Fresh m s)
    (hNumber : ∀ k, m = .connecting k → k + 1 = t.connections) : ∃ d k, t.Connected d k := by
  obtain ⟨d, k, hOpened⟩ := h.justified
  have hConnecting : ∃ j, m = .connecting j := by
    have hEnds := h.ends
    cases m with
    | connecting j => exact ⟨j, rfl⟩
    | _ => cases hEnds
  obtain ⟨j, rfl⟩ := hConnecting
  obtain rfl : j = k := Nat.succ.inj ((hNumber j rfl).trans hOpened.newest.symm)
  exact ⟨d, j, hOpened, h.idle, h.unreported hFresh rfl⟩

/-- A connect that succeeds does so in a session that other events could have led to. -/
theorem connected_of_told {devices : List Device} {history : List Event} {event : Event}
    (hTold : (Outcome.connect (.ok ()), t) ∈ ((initial devices).run history).toldBy event) :
    ∃ before d k, t = (initial devices).run before ∧ t.Connected d k := by
  rcases mem_toldBy hTold with ⟨operation, -, hStart⟩ | ⟨-, i, hTurn⟩
  · have hNumbered := run_numbered devices history
    obtain ⟨hIdle, hEnded⟩ := start_ended hStart
    have hConcludes := start_concludes operation hIdle
    rw [hStart] at hConcludes
    have hNumber (k : ConnectionId)
        (hMover : operation.mover ((initial devices).run history) = .connecting k) :
        k + 1 = t.connections := by
      obtain ⟨hLast, hAsked⟩ := Operation.connecting hMover
      rw [hConcludes.connections, hAsked, hLast]
    obtain ⟨d, k, hConnected⟩ := hEnded.connected (hNumbered.fresh operation) hNumber
    refine ⟨history ++ [.start operation], d, k, ?_, hConnected⟩
    rw [run_concat]
    exact (congrArg Prod.fst hStart).symm
  · rw [← run_append] at hTurn
    have hSound := run_sound devices (history ++ turns i)
    have hUnreported := run_unreported devices (history ++ turns i)
    have hPoll : ((initial devices).run (history ++ turns i)).poll =
        (initial devices).run (history ++ turns i ++ [.turn]) :=
      (run_concat (initial devices) (history ++ turns i) .turn).symm
    generalize (initial devices).run (history ++ turns i) = u at hTurn hSound hUnreported hPoll
    obtain ⟨rest, suspended, hReady, hOperation, hResume⟩ := mem_toldByTurn hTurn
    have hPolled := polled_sound hSound hReady
    have hConcludes := hPolled.resume_concludes hOperation
    rw [hResume] at hConcludes
    have hNumber (k : ConnectionId) (hMover : suspended.point.mover = .connecting k) :
        k + 1 = t.connections :=
      (hSound.connecting hOperation hMover).2.trans hConcludes.connections.symm
    have hFresh : Fresh suspended.point.mover u := hUnreported suspended hOperation
    obtain ⟨d, k, hConnected⟩ :=
      (hPolled.resume_ended hOperation hResume).connected (hFresh.of_heard rfl) hNumber
    refine ⟨history ++ turns i ++ [.turn], d, k, ?_, hConnected⟩
    rw [← hPoll, Radio.poll, hReady]
    exact (congrArg Prod.fst hResume).symm

end LockRelay.Radio
