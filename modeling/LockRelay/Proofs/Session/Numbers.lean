import LockRelay.Proofs.Session.BackgroundMoves

/-! Which connections a session reports to. Payloads go to the connection whose callbacks the session
holds, and only the last connection asked for can be handed a link, so a later number is never
reported to before it is given out, and never at all while an earlier one keeps the callbacks. -/
namespace LockRelay

/-- The connection that an effect reports to. -/
def Effect.connection? : Effect → Option ConnectionId
  | .frame connection _ | .dropReported connection => some connection
  | _ => none

namespace Radio

/-- Whether a connection has been reported to. -/
def Reported (s : Radio) (k : ConnectionId) : Prop :=
  ∃ effect ∈ s.trace, effect.connection? = some k

/-- The numbers in a session belong to connections asked for. The last of them has been reported to
only if the callbacks are its own or no link is held. -/
structure Numbered (s : Radio) : Prop where
  onNotify : ∀ k, s.session.onNotify = some k → k < s.connections
  onDisconnect : ∀ k, s.session.onDisconnect = some k → s.session.onNotify = some k
  reported : ∀ k, s.Reported k → k < s.connections
  newest : ∀ i k, s.session.onNotify = some i → k + 1 = s.connections → i ≠ k → ¬s.Reported k

variable {s t : Radio}

theorem initial_numbered (devices : List Device) : (initial devices).Numbered := by
  refine ⟨nofun, nofun, ?_, nofun⟩
  rintro k ⟨effect, hEffect, -⟩
  cases hEffect

/-- A move that gives no callbacks away and reports to those that the session holds. -/
theorem Numbered.of_same (h : s.Numbered) (added : List Effect) (hTrace : t.trace = s.trace ++ added)
    (hAdded : ∀ effect ∈ added, effect.connection? = none ∨
      effect.connection? = s.session.onNotify)
    (hNotify : t.session.onNotify = s.session.onNotify)
    (hDisconnect : ∀ k, t.session.onDisconnect = some k → s.session.onDisconnect = some k)
    (hConnections : t.connections = s.connections) : t.Numbered := by
  have hReported (k : ConnectionId) (hNew : t.Reported k) :
      s.Reported k ∨ s.session.onNotify = some k := by
    obtain ⟨effect, hEffect, hSame⟩ := hNew
    rw [hTrace] at hEffect
    rcases List.mem_append.mp hEffect with hOld | hLate
    · exact Or.inl ⟨effect, hOld, hSame⟩
    · rcases hAdded effect hLate with hNone | hHeld
      · cases hSame.symm.trans hNone
      · exact Or.inr (hHeld.symm.trans hSame)
  refine ⟨?_, ?_, ?_, ?_⟩
  · rw [hNotify, hConnections]
    exact h.onNotify
  · intro k hHeld
    rw [hNotify]
    exact h.onDisconnect k (hDisconnect k hHeld)
  · intro k hNew
    rw [hConnections]
    exact (hReported k hNew).elim (h.reported k) (h.onNotify k)
  · intro i k hHeld hLast hOther hNew
    rw [hNotify] at hHeld
    rw [hConnections] at hLast
    rcases hReported k hNew with hOld | hSame
    · exact h.newest i k hHeld hLast hOther hOld
    · exact hOther (Option.some.inj (hHeld.symm.trans hSame))

/-- A move that reports nothing and keeps the callbacks. -/
theorem Numbered.of_silent (h : s.Numbered) (added : List Effect)
    (hTrace : t.trace = s.trace ++ added) (hAdded : ∀ effect ∈ added, effect.connection? = none)
    (hNotify : t.session.onNotify = s.session.onNotify)
    (hDisconnect : t.session.onDisconnect = s.session.onDisconnect)
    (hConnections : t.connections = s.connections) : t.Numbered :=
  h.of_same added hTrace (fun effect hEffect => Or.inl (hAdded effect hEffect)) hNotify
    (fun _ hHeld => hDisconnect.symm.trans hHeld) hConnections

/-- A notification task hands its payloads to the callbacks that the session holds. -/
theorem Sound.notifies {id : TaskId} {d : DeviceId} {connection : ConnectionId}
    {queue : List Bytes} (h : s.Sound) (hTask : (id, Task.notifications d connection queue) ∈ s.tasks) :
    s.session.onNotify = some connection := by
  rcases h.represented with hUnlinked | ⟨e, connection', notify, watch, queue', pending, check, hBy⟩
  · rw [hUnlinked.tasks] at hTask
    cases hTask
  · have hMember := hBy.tasks.mem_iff.mp hTask
    simp only [List.mem_cons, Prod.mk.injEq, reduceCtorEq, and_false, List.not_mem_nil, or_false,
      Task.notifications.injEq] at hMember
    rw [hMember.2.2.1]
    exact hBy.onNotify

theorem Numbered.adopted (h : s.Numbered) {request : ConnectRequest} (d : DeviceId)
    (endpoints : Endpoints) (hNewest : s.Newest request) :
    (s.adopt request d endpoints).Numbered := by
  have hHeld : (s.adopt request d endpoints).session.onNotify = some request.connection := rfl
  refine ⟨?_, fun k => id, ?_, ?_⟩
  · intro k hSame
    rw [← Option.some.inj hSame]
    exact Nat.lt_of_succ_le hNewest.le
  · rintro k ⟨effect, hEffect, hSame⟩
    rcases List.mem_append.mp hEffect with hOld | hLate
    · exact h.reported k ⟨effect, hOld, hSame⟩
    · rw [List.mem_singleton.mp hLate] at hSame
      cases hSame
  · intro i k hSame hLast hOther
    refine absurd ?_ hOther
    rw [← Option.some.inj hSame]
    exact Nat.succ.inj (hNewest.trans hLast.symm)

theorem Numbered.demoted (h : s.Numbered) (seen : Option Nat) : (s.dropped seen).Numbered := by
  rcases dropped_cases s seen with ⟨hSame, -⟩ | ⟨-, -, hChanged⟩
  · rw [hSame]
    exact h
  · rw [hChanged]
    refine h.of_same _ rfl ?_ rfl nofun rfl
    intro effect hEffect
    cases hHeld : s.session.onDisconnect with
    | none =>
        rw [hHeld] at hEffect
        rw [List.mem_singleton.mp hEffect]
        exact Or.inl rfl
    | some k =>
        rw [hHeld] at hEffect
        rcases List.mem_cons.mp hEffect with hFirst | hSecond
        · rw [hFirst]
          exact Or.inl rfl
        · rw [List.mem_singleton.mp hSecond]
          exact Or.inr (h.onDisconnect k hHeld).symm

theorem Numbered.move {m : Mover} (h : s.Numbered) (hSound : s.Sound) (hMove : s.Move m t) :
    t.Numbered := by
  cases hMove with
  | called d device call succeeded hDevice hMay hServed =>
      exact h.of_silent [_] rfl (by simp [Effect.connection?]) rfl rfl rfl
  | discovered scans fault filter succeeded hLink =>
      exact h.of_silent [_] rfl (by simp [Effect.connection?]) rfl rfl rfl
  | assigned state hIdle hLink hState =>
      exact h.of_silent [_] rfl (by simp [Effect.connection?]) rfl rfl rfl
  | cleared hIdle =>
      refine ⟨nofun, nofun, ?_, nofun⟩
      rintro k ⟨effect, hEffect, hSame⟩
      rw [trace_clear] at hEffect
      rw [connections_clear]
      rcases List.mem_append.mp hEffect with hOld | hLate
      · exact h.reported k ⟨effect, hOld, hSame⟩
      · rw [List.mem_singleton.mp hLate] at hSame
        cases hSame
  | adopted request d endpoints hIdle hLink hRange hNewest hSubscribed =>
      exact h.adopted d endpoints hNewest
  | readopted d endpoints hIdle hLink hState hSubscribed =>
      obtain ⟨-, -, hConnections, hTrace, -, -⟩ := readopt_frame s d endpoints
      obtain ⟨hNotify, hDisconnect⟩ := readopt_callbacks s d endpoints
      exact h.of_silent _ hTrace (by simp [Effect.connection?]) hNotify hDisconnect hConnections
  | demoted seen hDropped => exact h.demoted seen
  | returned outcome hIdle hJustified =>
      exact h.of_silent [_] rfl (by simp [Effect.connection?]) rfl rfl rfl
  | numbered hIdle =>
      refine ⟨fun k hHeld => Nat.lt_succ_of_lt (h.onNotify k hHeld), h.onDisconnect,
        fun k hOld => Nat.lt_succ_of_lt (h.reported k hOld), fun i k _ hLast _ hOld => ?_⟩
      exact (h.reported k hOld).ne (Nat.succ.inj hLast)
  | delivered id d connection queue hTask =>
      rw [foldl_frames]
      refine h.of_same _ rfl ?_ rfl (fun _ hHeld => hHeld) rfl
      intro effect hEffect
      obtain ⟨payload, -, rfl⟩ := List.mem_map.mp hEffect
      exact Or.inr (hSound.notifies (mem_of_task? hTask)).symm
  | woken p =>
      unfold wake
      split_ifs
      · exact h
      · exact h.of_silent [] (List.append_nil _).symm nofun rfl rfl rfl
  | reacted event =>
      obtain ⟨hSession, -, hTrace, -, hConnections, -, -⟩ := react_frame s event
      refine h.of_silent [] (hTrace.trans (List.append_nil _).symm) nofun ?_ ?_ hConnections
      · rw [hSession]
      · rw [hSession]
  | _ => exact h.of_silent [] (List.append_nil _).symm nofun rfl rfl rfl

theorem nextTask_abort (s : Radio) (task : Option TaskId) :
    (s.abort task).nextTask = s.nextTask := by
  cases task <;> rfl

theorem nextTask_readopt (s : Radio) (d : DeviceId) (endpoints : Endpoints) :
    s.nextTask ≤ (s.readopt d endpoints).nextTask := by
  have hAbort := nextTask_abort s s.session.notifyTask
  unfold readopt
  simp only
  cases (s.abort s.session.notifyTask).session.onNotify with
  | none => exact hAbort.ge
  | some connection => exact hAbort.ge.trans (Nat.le_succ _)

/-- What only grows: the record, and the numbers given to connections and tasks. -/
structure Grows (s t : Radio) : Prop where
  trace : s.trace <+: t.trace
  connections : s.connections ≤ t.connections
  nextTask : s.nextTask ≤ t.nextTask

theorem Grows.of_eq (hTrace : t.trace = s.trace) (hConnections : t.connections = s.connections)
    (hCount : t.nextTask = s.nextTask) : s.Grows t :=
  ⟨hTrace ▸ List.prefix_rfl, hConnections.ge, hCount.ge⟩

theorem Grows.of_recorded (added : List Effect) (hTrace : t.trace = s.trace ++ added)
    (hConnections : t.connections = s.connections) (hCount : s.nextTask ≤ t.nextTask) :
    s.Grows t :=
  ⟨hTrace ▸ List.prefix_append _ _, hConnections.ge, hCount⟩

theorem Move.grows {m : Mover} (hMove : s.Move m t) : s.Grows t := by
  cases hMove with
  | cleared hIdle =>
      have hCount := nextTask_abort (s.abort s.session.dropTask) s.session.notifyTask
      exact .of_recorded _ (trace_clear s) (connections_clear s)
        (hCount.trans (nextTask_abort s s.session.dropTask)).ge
  | readopted d endpoints hIdle hLink hState hSubscribed =>
      obtain ⟨-, -, hConnections, hTrace, -, -⟩ := readopt_frame s d endpoints
      exact .of_recorded _ hTrace hConnections (nextTask_readopt s d endpoints)
  | demoted seen hDropped =>
      rcases dropped_cases s seen with ⟨hSame, -⟩ | ⟨-, -, hChanged⟩
      · rw [hSame]
        exact .of_eq rfl rfl rfl
      · rw [hChanged]
        exact .of_recorded _ rfl rfl (Nat.le_refl _)
  | numbered hIdle => exact ⟨List.prefix_rfl, Nat.le_succ _, Nat.le_refl _⟩
  | delivered id d connection queue hTask =>
      rw [foldl_frames]
      exact .of_recorded _ rfl rfl (Nat.le_refl _)
  | woken p =>
      unfold wake
      split_ifs <;> exact .of_eq rfl rfl rfl
  | reacted event =>
      obtain ⟨-, -, hTrace, hCount, hConnections, -, -⟩ := react_frame s event
      exact .of_eq hTrace hConnections hCount
  | called d device call succeeded => exact .of_recorded [_] rfl rfl (Nat.le_refl _)
  | discovered scans fault filter succeeded => exact .of_recorded [_] rfl rfl (Nat.le_refl _)
  | assigned state => exact .of_recorded [_] rfl rfl (Nat.le_refl _)
  | adopted request d endpoints => exact .of_recorded [_] rfl rfl (Nat.le_add_right _ 2)
  | returned outcome => exact .of_recorded [_] rfl rfl (Nat.le_refl _)
  | _ => exact .of_eq rfl rfl rfl

theorem Grows.trans {u : Radio} (h : s.Grows t) (h' : t.Grows u) : s.Grows u :=
  ⟨h.trace.trans h'.trace, h.connections.trans h'.connections, h.nextTask.trans h'.nextTask⟩

theorem grows_of_moves {who : Mover → Prop} (hMoves : s.MovesBy who t) : s.Grows t :=
  hMoves.keeps (fun _ _ _ _ hMove h => h.trans hMove.grows) (.of_eq rfl rfl rfl)

/-- A history is a chain of moves by those who make its events, whatever number a connect gets. -/
theorem Sound.run_movesBy {who : Mover → Prop} (h : s.Sound) (hWho : Background who)
    (hWaits : s.InProgress who) {after : List Event}
    (hEvents : ∀ event ∈ after, ∀ u : Radio, s.connections ≤ u.connections → u.Admits who event) :
    s.MovesBy who (s.run after) := by
  induction after generalizing s with
  | nil => exact .refl
  | cons event after ih =>
      have hStep := h.step_movesBy hWho hWaits (hEvents event List.mem_cons_self s (Nat.le_refl _))
      refine hStep.trans (ih (h.moves hStep) (hWaits.moves hStep) fun event hEvent u hLater => ?_)
      exact hEvents event (List.mem_cons_of_mem _ hEvent) u
        ((grows_of_moves hStep).connections.trans hLater)

theorem Numbered.moves (h : s.Numbered) (hSound : s.Sound) (hMoves : s.Moves t) : t.Numbered :=
  hSound.keeps hMoves (fun _ _ _ _ hSound hMove h => h.move hSound hMove) h

end Radio

end LockRelay
