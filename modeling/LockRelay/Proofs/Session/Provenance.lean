import LockRelay.Proofs.Session.Delivery
import LockRelay.Proofs.Session.Requests

/-! Where the payloads come from that a connection is handed. They are payloads of the device that was
bound for it, notified while the session held its callbacks, and a connection that has just been made
has none of an earlier one. -/
namespace LockRelay.Radio

variable {s t : Radio} {m : Mover} {d : DeviceId} {k : ConnectionId} {pool : List Bytes}
  {before : Option ConnectionId}

theorem handedTo_eq_heard (s : Radio) (k : ConnectionId) :
    s.handedTo k = s.heard.filterMap (Effect.payloadTo? k) := by
  unfold handedTo heard
  rw [List.filterMap_filter]
  refine List.filterMap_congr fun effect _ => ?_
  cases effect <;> simp [Effect.payloadTo?, Effect.connection?]

/-- Only who has the callbacks is handed payloads. -/
theorem Move.handedTo_eq (hSound : s.Sound) (hOther : s.session.onNotify ≠ some k)
    (hMove : s.Move m t) : t.handedTo k = s.handedTo k := by
  rw [handedTo_eq_heard, handedTo_eq_heard]
  rcases hMove.heard_cases with hSame | ⟨i, hDrop⟩ | ⟨i, queue, hPayloads⟩
  · rw [hSame]
  · rw [hDrop.heard, List.filterMap_append]
    exact List.append_nil _
  · obtain ⟨id, e, -, hTask⟩ := hPayloads.task
    have hHeld := hSound.notifies (mem_of_task? hTask)
    have hNotThis : i ≠ k := fun hSame => hOther (hSame ▸ hHeld)
    have hNothing : (queue.map (Effect.frame i)).filterMap (Effect.payloadTo? k) = [] := by
      simp [Effect.payloadTo?, hNotThis]
    rw [hPayloads.heard, List.filterMap_append, hNothing, List.append_nil]

/-- A connection that comes to have the callbacks is being made, no other was asked for since, and
nothing waits for it. -/
theorem Move.held_before (hMove : s.Move m t) (hHeld : t.session.onNotify = some k) :
    s.session.onNotify = some k ∨
      m = .connecting k ∧ k + 1 = s.connections ∧ ∃ d id, t.Inbox d k id [] (s.handedTo k) := by
  by_cases hMover : ∃ i, m = .connecting i
  · obtain ⟨i, rfl⟩ := hMover
    cases hMove with
    | adopted request d endpoints hIdle hLink hRange hNewest =>
        obtain rfl : request.connection = k := Option.some.inj hHeld
        refine Or.inr ⟨rfl, hNewest, d, s.nextTask, rfl, rfl, rfl,
          by simp [adopt, spawn, bound, assign, record], ?_⟩
        exact handedTo_of_quiet [.assigned .bound] rfl (by simp [Effect.payloadTo?])
    | cleared => cases hHeld
    | demoted seen hDropped hObserves => cases hObserves
    | _ => exact Or.inl hHeld
  · rcases hMove.held_cases fun i hSame => hMover ⟨i, hSame⟩ with ⟨hSame, -⟩ | hNone
    · exact Or.inl (hSame.symm.trans hHeld)
    · cases hNone.symm.trans hHeld

/-- A connection has the session. What it was handed and what waits for it are, in this order,
payloads of a pool. -/
def Draws (s : Radio) (d : DeviceId) (k : ConnectionId) (pool : List Bytes) : Prop :=
  ∃ id queue, s.Inbox d k id queue (s.handedTo k) ∧ (s.handedTo k ++ queue).Sublist pool

theorem Inbox.draws {id : TaskId} {queue handed : List Bytes} (h : s.Inbox d k id queue handed)
    (hPool : (handed ++ queue).Sublist pool) : s.Draws d k pool := by
  obtain rfl := h.handed
  exact ⟨id, queue, h, hPool⟩

theorem Draws.onNotify (h : s.Draws d k pool) : s.session.onNotify = some k := by
  obtain ⟨id, queue, hInbox, -⟩ := h
  exact hInbox.onNotify

theorem Draws.handed (h : s.Draws d k pool) : (s.handedTo k).Sublist pool := by
  obtain ⟨id, queue, -, hPool⟩ := h
  exact (List.sublist_append_left _ _).trans hPool

/-- No device moves, so the pool is enough until the callbacks are taken away. -/
theorem Draws.move (h : s.Draws d k pool) (hSound : s.Sound)
    (hDevice : ∀ event, m ≠ .device event) (hMove : s.Move m t) :
    t.session.onNotify = none ∧ t.handedTo k = s.handedTo k ∨ t.Draws d k pool := by
  obtain ⟨id, queue, hInbox, hPool⟩ := h
  cases hMover : m.tearsDown with
  | false =>
      right
      rcases hInbox.move hSound hMover hDevice hMove with h | ⟨-, h⟩ | ⟨-, h⟩
      · exact h.draws hPool
      · refine h.draws (List.Sublist.trans ?_ hPool)
        exact List.Sublist.append_left (List.nil_sublist queue) _
      · exact h.draws (by rwa [List.append_nil])
  | true =>
      have hLinked : s.session.link ≠ none := by simp [hInbox.link]
      have hKept {u : Radio} (added : List Effect) (hTrace : u.trace = s.trace ++ added)
          (hAdded : ∀ effect ∈ added, effect.payloadTo? k = none) (hSession : u.session = s.session)
          (hTasks : u.tasks = s.tasks) : u.Draws d k pool :=
        (hInbox.of_quiet added hTrace hAdded hSession hTasks).draws hPool
      cases hMove with
      | discovered scans fault filter succeeded hLink => exact absurd hLink hLinked
      | assigned state hIdle hLink => exact absurd hLink hLinked
      | adopted request e endpoints hIdle hLink => exact absurd hLink hLinked
      | cleared =>
          exact Or.inl ⟨rfl, handedTo_of_quiet _ (trace_clear s) (by simp [Effect.payloadTo?])⟩
      | demoted seen hDropped hObserves => cases m <;> cases hMover <;> cases hObserves
      | called | returned => exact Or.inr (hKept [_] rfl (by simp [Effect.payloadTo?]) rfl rfl)
      | suspended | numbered => exact Or.inr (hKept [] (List.append_nil _).symm (by simp) rfl rfl)
      | _ => cases hMover

/-- Who has the session had it before, or has not been handed anything. -/
def Hushed (before : Option ConnectionId) (s : Radio) : Prop :=
  ∀ k, s.session.onNotify = some k → before = some k ∨ ∃ d, s.Draws d k []

theorem Hushed.move (h : s.Hushed before) (hSound : s.Sound) (hFresh : Fresh m s)
    (hDevice : ∀ event, m ≠ .device event) (hMove : s.Move m t) : t.Hushed before := by
  intro k hHeld
  rcases hMove.held_before hHeld with hBefore | ⟨hMover, -, d, id, hInbox⟩
  · refine (h k hBefore).imp_right ?_
    rintro ⟨d, hDraws⟩
    rcases hDraws.move hSound hDevice hMove with ⟨hNone, -⟩ | hDraws
    · cases hNone.symm.trans hHeld
    · exact ⟨d, hDraws⟩
  · have hNothing := handedTo_of_unreported (hFresh k hMover)
    rw [hNothing] at hInbox
    exact Or.inr ⟨d, hInbox.draws (List.Sublist.refl _)⟩

/-- All that a connection is ever handed comes from a pool, and so does what waits for it while it has
the session. -/
structure Sourced (s : Radio) (d : DeviceId) (k : ConnectionId) (pool : List Bytes) : Prop where
  held : s.session.onNotify = some k → s.Draws d k pool
  handed : (s.handedTo k).Sublist pool

theorem Draws.sourced (h : s.Draws d k pool) : s.Sourced d k pool := ⟨fun _ => h, h.handed⟩

theorem Sourced.move (h : s.Sourced d k pool) (hSound : s.Sound) (hMover : m ≠ .connecting k)
    (hDevice : ∀ event, m ≠ .device event) (hMove : s.Move m t) : t.Sourced d k pool := by
  by_cases hHeld : s.session.onNotify = some k
  · rcases (h.held hHeld).move hSound hDevice hMove with ⟨hNone, hSame⟩ | hDraws
    · exact ⟨by simp [hNone], hSame ▸ h.handed⟩
    · exact hDraws.sourced
  · refine ⟨fun hLater => ?_, hMove.handedTo_eq hSound hHeld ▸ h.handed⟩
    rcases hMove.held_before hLater with hBefore | ⟨hSame, -⟩
    · exact absurd hBefore hHeld
    · exact absurd hSame hMover

/-- What a device notifies is added to the pool. -/
theorem Sourced.reacted (h : s.Sourced d k pool) (event : DeviceEvent) :
    (s.react event).Sourced d k (pool ++ (s.notifiedBy d (.device event)).map Prod.fst) := by
  obtain ⟨hSession, -, hTrace, -⟩ := react_frame s event
  have hHanded : (s.react event).handedTo k = s.handedTo k :=
    handedTo_of_quiet [] (hTrace.trans (List.append_nil _).symm) nofun
  refine ⟨fun hHeld => ?_, ?_⟩
  · rw [hSession] at hHeld
    obtain ⟨id, queue, hInbox, hPool⟩ := h.held hHeld
    refine (hInbox.reacted event).draws (List.Sublist.trans ?_ (hPool.append_right _))
    rw [List.append_assoc]
    exact (pushAll_sublist _ _).append_left _
  · rw [hHanded]
    exact h.handed.trans (List.sublist_append_left _ _)

end LockRelay.Radio
