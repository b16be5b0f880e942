import LockRelay.Proofs.Session.Settling

/-! No drop goes unnoticed. While a link is bound and down, its watcher still has to look at a drop
or waits with a check that tells of it, so where nobody has a turn coming and nobody waits, a link
that is bound is up. -/
namespace LockRelay.Radio

variable {s t : Radio}

/-- A link that is bound and down has a watcher that is going to notice. -/
def Alert (s : Radio) : Prop :=
  ∀ d, s.session.state = .bound → s.session.link = some d → (s.device d).connected = false →
    ∃ id pending check, (id, Task.drops d pending check) ∈ s.tasks ∧ s.Notices pending check

theorem Alert.of_not_bound (hState : s.session.state ≠ .bound) : s.Alert :=
  fun _ hBound => absurd hBound hState

theorem Alert.of_disconnected (hState : s.session.state = .disconnected) : s.Alert :=
  .of_not_bound (by simp [hState])

theorem Alert.of_connected {d : DeviceId} (hLink : s.session.link = some d)
    (hConnected : (s.device d).connected = true) : s.Alert := by
  intro i _ hLink' hDown
  cases hLink.symm.trans hLink'
  cases hConnected.symm.trans hDown

/-- A move that changes neither the session nor its watchers, and after which the link is down only
if it was. -/
theorem Alert.of_same (h : s.Alert) (hSession : t.session = s.session)
    (hWatchers : ∀ id d pending check, (id, Task.drops d pending check) ∈ s.tasks →
      (id, Task.drops d pending check) ∈ t.tasks)
    (hUp : ∀ d, s.session.state = .bound → s.session.link = some d →
      (s.device d).connected = true → (t.device d).connected = true) : t.Alert := by
  intro d hBound hLink hDown
  rw [hSession] at hBound hLink
  have hDown' : (s.device d).connected = false := by
    by_contra hConnected
    rw [hUp d hBound hLink (by simpa using hConnected)] at hDown
    cases hDown
  obtain ⟨id, pending, check, hTask, hNotices⟩ := h d hBound hLink hDown'
  refine ⟨id, pending, check, hWatchers id d pending check hTask, ?_⟩
  unfold Notices
  rw [hSession]
  exact hNotices

/-- A link that is bound is not disconnected by a call. -/
theorem connected_of_mayCall {d : DeviceId} {device : Device} {call : Call} {succeeded : Bool}
    (hSound : s.Sound) (hMay : s.MayCall call) (hServed : (s.device d).Served device call succeeded)
    (hBound : s.session.state = .bound) (i : DeviceId) :
    ((s.setDevice d device).device i).connected = (s.device i).connected := by
  have hLinked := hSound.bound hBound
  refine connected_setDevice hServed ?_ i
  cases call with
  | connect e | disconnect e =>
      obtain ⟨-, hLink | ⟨-, hState⟩⟩ := hMay
      · exact absurd hLink hLinked
      · exact absurd hBound hState
  | _ => rfl

/-- There is one watcher at most. -/
theorem Sound.watcher_unique {id id' : TaskId} {d d' : DeviceId} {pending pending' : Nat}
    {check check' : Option Check} (h : s.Sound) (hTask : (id, Task.drops d pending check) ∈ s.tasks)
    (hTask' : (id', Task.drops d' pending' check') ∈ s.tasks) :
    id' = id ∧ Task.drops d' pending' check' = .drops d pending check := by
  rcases h.represented with hUnlinked | ⟨e, connection, notify, watch, queue, left, seen, hBy⟩
  · rw [hUnlinked.tasks] at hTask
    cases hTask
  · have hMember := hBy.tasks.mem_iff.mp hTask
    have hMember' := hBy.tasks.mem_iff.mp hTask'
    simp only [List.mem_cons, Prod.mk.injEq, reduceCtorEq, and_false, List.not_mem_nil, or_false,
      false_or] at hMember hMember'
    exact ⟨hMember'.1.trans hMember.1.symm, hMember'.2.trans hMember.2.symm⟩

/-- A session with a link has a watcher for it. -/
theorem Sound.watcher {d : DeviceId} (h : s.Sound) (hLink : s.session.link = some d) :
    ∃ id pending check, (id, Task.drops d pending check) ∈ s.tasks := by
  obtain ⟨connection, notify, watch, queue, pending, check, hBy⟩ := h.linked hLink
  exact ⟨watch, pending, check, hBy.tasks.mem_iff.mpr (by simp)⟩

/-- What a task does that is not a watcher leaves the watchers alone. -/
theorem watchers_setTask {id : TaskId} {d : DeviceId} {connection : ConnectionId}
    {queue : List Bytes} {next : Task} (hSound : s.Sound)
    (hTask : s.task? id = some (.notifications d connection queue)) {i : TaskId} {e : DeviceId}
    {pending : Nat} {check : Option Check} (hWatcher : (i, Task.drops e pending check) ∈ s.tasks) :
    (i, Task.drops e pending check) ∈ (s.setTask id next).tasks := by
  have hOther : i ≠ id := by
    rintro rfl
    cases hSound.task_unique hWatcher (mem_of_task? hTask)
  have hKept := setTask_mem id next hWatcher
  rwa [if_neg hOther] at hKept

/-- A device loses its connection on its own only by dropping it. -/
theorem react_up (s : Radio) {event : DeviceEvent} {d : DeviceId} (hRange : d < s.devices.length)
    (hEvent : event ≠ .drop d) (hUp : (s.device d).connected = true) :
    ((s.react event).device d).connected = true := by
  have hSet {i : DeviceId} (device : Device)
      (hi : i = d → device.connected = (s.device i).connected) :
      ((s.setDevice i device).device d).connected = true := by
    rw [device_setDevice]
    split_ifs with hSame
    · rw [hi hSame.1.symm, ← hSame.1]
      exact hUp
    · exact hUp
  cases event with
  | appear device =>
      have hSame : (s.react (.appear device)).device d = s.device d := by
        simp [react, Radio.device, List.getElem?_append_left hRange]
      rw [hSame]
      exact hUp
  | notify i payload =>
      obtain ⟨ready, hNotify⟩ := notify_eq s i payload
      rw [react, hNotify]
      exact hUp
  | drop i =>
      obtain ⟨ready, hDrop⟩ := dropLink_eq s i
      rw [react, hDrop]
      exact hSet { s.device i with connected := false }
        fun hi => absurd (congrArg DeviceEvent.drop hi) hEvent
  | discoverFault fault => exact hUp
  | release i => exact hUp
  | offerService i present => exact hSet _ fun _ => rfl
  | refuseWrites i refuse => exact hSet _ fun _ => rfl
  | fault i call fault => exact hSet _ fun _ => rfl
  | hold i => exact hSet _ fun _ => rfl

theorem Alert.reacted (h : s.Alert) (hSound : s.Sound) (event : DeviceEvent) :
    (s.react event).Alert := by
  obtain ⟨hSession, -⟩ := react_frame s event
  intro d hBound hLink hDown
  have hLink' : s.session.link = some d := hSession ▸ hLink
  have hRange := hSound.inRange d hLink'
  by_cases hEvent : event = .drop d
  -- The watcher has one more drop to look at.
  · subst hEvent
    obtain ⟨id, pending, check, hTask⟩ := hSound.watcher hLink'
    obtain ⟨ready, hDrop⟩ := dropLink_eq s d
    have hMore : min Task.dropCapacity (pending + 1) ≠ 0 := by simp [Task.dropCapacity]
    refine ⟨id, min Task.dropCapacity (pending + 1), check, ?_, Or.inl hMore⟩
    rw [react, hDrop]
    exact List.mem_map.mpr ⟨_, hTask, by simp [Task.dropped]⟩
  -- The link was down before, and the watcher has not been told less.
  · have hDown' : (s.device d).connected = false := by
      by_contra hUp
      rw [react_up s hRange hEvent (by simpa using hUp)] at hDown
      cases hDown
    obtain ⟨id, pending, check, hTask, hNotices⟩ := h d (hSession ▸ hBound) hLink' hDown'
    have hKept : (id, Task.drops d pending check) ∈ (s.react event).tasks := by
      cases event with
      | notify i payload =>
          obtain ⟨ready, hNotify⟩ := notify_eq s i payload
          rw [react, hNotify]
          exact List.mem_map.mpr ⟨_, hTask, rfl⟩
      | drop i =>
          obtain ⟨ready, hDrop⟩ := dropLink_eq s i
          have hOther : d ≠ i := fun hSame => hEvent (congrArg DeviceEvent.drop hSame.symm)
          rw [react, hDrop]
          exact List.mem_map.mpr ⟨_, hTask, by simp [Task.dropped, hOther]⟩
      | _ => exact hTask
    refine ⟨id, pending, check, hKept, ?_⟩
    unfold Notices
    rw [hSession]
    exact hNotices

theorem Alert.move {m : Mover} (h : s.Alert) (hSound : s.Sound) (hMove : s.Move m t) :
    t.Alert := by
  cases hMove with
  | called d device call succeeded hDevice hMay hServed =>
      refine h.of_same rfl (fun _ _ _ _ hTask => hTask) fun i hBound _ hUp => ?_
      exact (connected_of_mayCall hSound hMay hServed hBound i).trans hUp
  | assigned state hIdle hLink hState => exact .of_not_bound hState
  | cleared hIdle => exact .of_disconnected rfl
  | adopted request d endpoints hIdle hLink hRange hNewest hSubscribed hConnected =>
      exact .of_connected rfl hConnected
  | readopted d endpoints hIdle hLink hState hSubscribed hConnected =>
      obtain ⟨hDevices, -, -, -, hLink', -⟩ := readopt_frame s d endpoints
      refine .of_connected (hLink'.trans hLink) ?_
      rw [device, hDevices]
      exact hConnected
  | demoted seen hDropped =>
      rcases dropped_cases s seen with ⟨hSame, -⟩ | ⟨-, -, hChanged⟩
      · rw [hSame]
        exact h
      · rw [hChanged]
        exact .of_disconnected rfl
  | delivered id d connection queue hTask =>
      rw [foldl_frames]
      exact h.of_same rfl (fun _ _ _ _ => watchers_setTask hSound hTask) fun _ _ _ hUp => hUp
  | watched id d pending check hTask hSeen =>
      intro i hBound hLink hDown
      obtain ⟨id', pending', check', hTask', hNotices⟩ := h i hBound hLink hDown
      obtain ⟨-, hSame⟩ := hSound.watcher_unique (mem_of_task? hTask) hTask'
      obtain ⟨rfl, rfl, rfl⟩ := Task.drops.inj hSame
      exact absurd hNotices (hSeen hBound hDown)
  | watcherHeld id d pending left check hTask hAlarmed =>
      intro i hBound hLink hDown
      have hMember := mem_of_task? hTask
      obtain rfl : d = i := Option.some.inj ((hSound.link_of_drops hMember).symm.trans hLink)
      have hKept := setTask_mem id
        (.drops d left (some ⟨s.session.generation, (s.device d).connected⟩)) hMember
      rw [if_pos rfl] at hKept
      exact ⟨id, left, _, hKept, Or.inr ⟨_, rfl, hDown, rfl⟩⟩
  | woken p =>
      unfold wake
      split_ifs
      · exact h
      · exact h.of_same rfl (fun _ _ _ _ hTask => hTask) fun _ _ _ => id
  | reacted event => exact h.reacted hSound event
  | _ => exact h.of_same rfl (fun _ _ _ _ hTask => hTask) fun _ _ _ hUp => hUp

theorem Alert.moves {who : Mover → Prop} (h : s.Alert) (hSound : s.Sound)
    (hMoves : s.MovesBy who t) : t.Alert :=
  hSound.keeps hMoves (fun _ _ _ _ hSound hMove h => h.move hSound hMove) h

/-- Where nobody has a turn coming and nobody waits, a link that is bound is up. -/
theorem Alert.connected_of_quiet (h : s.Alert) (hOrderly : s.Orderly) (hSound : s.Sound)
    (hReady : s.ready = []) (hWaiting : s.waiting = []) (hBound : s.session.state = .bound) :
    ∃ d, s.session.link = some d ∧ (s.device d).connected = true := by
  obtain ⟨d, hLink⟩ := Option.ne_none_iff_exists'.mp (hSound.bound hBound)
  refine ⟨d, hLink, ?_⟩
  by_contra hDown
  obtain ⟨id, pending, check, hTask, hNotices⟩ := h d hBound hLink (by simpa using hDown)
  have hQueued : s.queued = [] := by rw [queued, hReady, hWaiting]; rfl
  cases check with
  | none =>
      have hPending : pending ≠ 0 := by simpa [Notices] using hNotices
      have hTurn := hOrderly.due id _ hTask hPending
      rw [hReady] at hTurn
      cases hTurn
  | some check =>
      have hTurn := hOrderly.checking id _ hTask trivial
      rw [hQueued] at hTurn
      cases hTurn

theorem run_alert (devices : List Device) (history : List Event) :
    ((initial devices).run history).Alert := by
  have hInitial : (initial devices).Alert := .of_not_bound nofun
  exact hInitial.moves (initial_sound devices) ((initial_sound devices).run_moves history)

/-- Settling leaves nobody with a turn coming, and a link that is bound is up, if nobody is left
waiting for an answer. -/
theorem run_settled (devices : List Device) (history : List Event) :
    ((initial devices).run history).settle.ready = [] ∧
      (((initial devices).run history).settle.waiting = [] →
        ((initial devices).run history).settle.session.state = .bound →
        ∃ d, ((initial devices).run history).settle.session.link = some d ∧
          (((initial devices).run history).settle.device d).connected = true) := by
  have hReady := (run_orderly devices history).ready_settle (run_sound devices history)
  have hSettled : ((initial devices).run history).settle =
      (initial devices).run (history ++ [.settle]) := (run_concat _ history .settle).symm
  rw [hSettled] at hReady ⊢
  exact ⟨hReady, (run_alert devices _).connected_of_quiet (run_orderly devices _)
    (run_sound devices _) hReady⟩

/-- Whatever has happened: settling leaves nobody with a turn coming, and if nobody is left waiting
for an answer either, a session that says it is bound holds a link that is connected. -/
theorem bound_connected_of_settled (devices : List Device) (history : List Event)
    (hHeld : ((initial devices).run history).settle.waiting = [])
    (hBound : ((initial devices).run history).settle.session.state = .bound) :
    ((initial devices).run history).settle.ready = [] ∧
      ∃ d, ((initial devices).run history).settle.session.link = some d ∧
        (((initial devices).run history).settle.device d).connected = true := by
  obtain ⟨hReady, hConnected⟩ := run_settled devices history
  exact ⟨hReady, hConnected hHeld hBound⟩

/-- The link is dropped and bound again by a send while the watcher is held up by its check. -/
theorem bound_connected_after_held_check :
    let history : List Event := [.start (.connect 7), .settle, .device (.hold 0), .device (.drop 0),
      .settle, .start (.send [1]), .device (.release 0)]
    ((initial [.ofSerial 7]).run history).settle.ready = [] ∧
      ∃ d, ((initial [.ofSerial 7]).run history).settle.session.link = some d ∧
        (((initial [.ofSerial 7]).run history).settle.device d).connected = true :=
  bound_connected_of_settled [.ofSerial 7] _ rfl rfl

end LockRelay.Radio
