import LockRelay.Proofs.Session.Moves

/-! What holds of a session after every move. A link comes with all that belongs to it and its two
tasks are the live ones; what an operation or a watcher waits with is still good when it goes on. -/
namespace LockRelay

/-- A task that does the same job, with another queue. -/
def Task.Continues : Task → Task → Prop
  | .notifications d connection _, .notifications d' connection' _ =>
      d' = d ∧ connection' = connection
  | .drops d _ _, .drops d' _ _ => d' = d
  | _, _ => False

/-- The task after a device has notified. -/
def Task.notified (d : DeviceId) (payload : Bytes) : Task → Task
  | .notifications i connection queue =>
      if i = d then
        .notifications i connection (Radio.pushBounded notificationCapacity queue payload)
      else .notifications i connection queue
  | task => task

/-- The task after a device has dropped its link. -/
def Task.dropped (d : DeviceId) : Task → Task
  | .drops i pending check =>
      if i = d then .drops i (min dropCapacity (pending + 1)) check else .drops i pending check
  | task => task

theorem Task.continues_refl (task : Task) : task.Continues task := by
  cases task with
  | notifications d connection queue => exact ⟨rfl, rfl⟩
  | drops d pending check => exact rfl

theorem Task.continues_notified (d : DeviceId) (payload : Bytes) (task : Task) :
    task.Continues (task.notified d payload) := by
  cases task with
  | notifications i connection queue =>
      simp only [notified]
      split_ifs <;> exact ⟨rfl, rfl⟩
  | drops i pending check => exact rfl

theorem Task.continues_dropped (d : DeviceId) (task : Task) : task.Continues (task.dropped d) := by
  cases task with
  | notifications i connection queue => exact ⟨rfl, rfl⟩
  | drops i pending check =>
      simp only [dropped]
      split_ifs <;> exact rfl

/-- Neither gives a watcher a check that it did not have. -/
theorem Task.check_notified {d i : DeviceId} {payload : Bytes} {task : Task} {pending : Nat}
    {check : Option Check} (h : task.notified d payload = .drops i pending check) :
    ∃ pending', task = .drops i pending' check := by
  cases task with
  | notifications i' connection queue =>
      simp only [notified] at h
      split_ifs at h
  | drops i' pending' check' => exact ⟨pending, h⟩

theorem Task.check_dropped {d i : DeviceId} {task : Task} {pending : Nat} {check : Option Check}
    (h : task.dropped d = .drops i pending check) : ∃ pending', task = .drops i pending' check := by
  cases task with
  | notifications i' connection queue => cases h
  | drops i' pending' check' =>
      simp only [dropped] at h
      split_ifs at h <;> cases h <;> exact ⟨_, rfl⟩

namespace Radio

/-- A session without a link has nothing that belongs to one. -/
structure Unlinked (s : Radio) : Prop where
  link : s.session.link = none
  filter : s.session.filter = none
  onNotify : s.session.onNotify = none
  notifyTask : s.session.notifyTask = none
  dropTask : s.session.dropTask = none
  tasks : s.tasks = []

/-- A session with a link to a device has all that belongs to one, and no task but its two. -/
structure LinkedBy (s : Radio) (d : DeviceId) (connection : ConnectionId) (notify watch : TaskId)
    (queue : List Bytes) (pending : Nat) (check : Option Check) : Prop where
  link : s.session.link = some d
  filter : s.session.filter.isSome
  onNotify : s.session.onNotify = some connection
  notifyTask : s.session.notifyTask = some notify
  dropTask : s.session.dropTask = some watch
  distinct : notify ≠ watch
  notify_lt : notify < s.nextTask
  watch_lt : watch < s.nextTask
  tasks : s.tasks.Perm
    [(notify, .notifications d connection queue), (watch, .drops d pending check)]

def Linked (s : Radio) (d : DeviceId) : Prop :=
  ∃ connection notify watch queue pending check,
    s.LinkedBy d connection notify watch queue pending check

/-- The answer held back for a watcher tells of a drop only while there has been one since. -/
def Trusts (s : Radio) (d : DeviceId) (check : Check) : Prop :=
  check.generation ≤ s.session.generation ∧
    (check.answer = false → check.generation = s.session.generation → s.session.state = .bound →
      (s.device d).connected = false)

structure Sound (s : Radio) : Prop where
  represented : s.Unlinked ∨ ∃ d, s.Linked d
  inRange : ∀ d, s.session.link = some d → d < s.devices.length
  bound : s.session.state = .bound → s.session.link ≠ none
  suspended : ∀ suspended, s.operation = some suspended →
    s.WaitsAt suspended.answer suspended.point
  checks : ∀ id d pending check, (id, Task.drops d pending (some check)) ∈ s.tasks →
    s.Trusts d check

theorem initial_sound (devices : List Device) : (initial devices).Sound := by
  refine ⟨Or.inl ⟨rfl, rfl, rfl, rfl, rfl, rfl⟩, ?_, ?_, ?_, ?_⟩
  · intro d hLink
    cases hLink
  · intro hState
    cases hState
  · intro suspended hOperation
    cases hOperation
  · intro id d pending check hTask
    cases hTask

theorem Sound.unlinked {s : Radio} (h : s.Sound) (hLink : s.session.link = none) :
    s.Unlinked := by
  rcases h.represented with hUnlinked | ⟨d, connection, notify, watch, queue, pending, check, hBy⟩
  · exact hUnlinked
  · rw [hBy.link] at hLink
    cases hLink

theorem Sound.linked {s : Radio} {d : DeviceId} (h : s.Sound) (hLink : s.session.link = some d) :
    s.Linked d := by
  rcases h.represented with hUnlinked | ⟨e, hLinked⟩
  · rw [hUnlinked.link] at hLink
    cases hLink
  · obtain ⟨connection, notify, watch, queue, pending, check, hBy⟩ := id hLinked
    have he : e = d := Option.some.inj (hBy.link.symm.trans hLink)
    exact he ▸ hLinked

theorem mem_of_task? {s : Radio} {id : TaskId} {task : Task} (h : s.task? id = some task) :
    (id, task) ∈ s.tasks := by
  unfold task? at h
  rw [List.lookup_eq_some_iff] at h
  obtain ⟨before, after, hTasks, -⟩ := h
  rw [hTasks]
  simp

/-- A watcher watches the link that the session holds. -/
theorem Sound.link_of_drops {s : Radio} {id : TaskId} {d : DeviceId} {pending : Nat}
    {check : Option Check} (h : s.Sound) (hTask : (id, Task.drops d pending check) ∈ s.tasks) :
    s.session.link = some d := by
  rcases h.represented with hUnlinked | ⟨e, connection, notify, watch, queue, pending, check, hBy⟩
  · rw [hUnlinked.tasks] at hTask
    cases hTask
  · have hMember := hBy.tasks.mem_iff.mp hTask
    simp only [List.mem_cons, Prod.mk.injEq, reduceCtorEq, and_false, List.not_mem_nil, or_false,
      Task.drops.injEq, false_or] at hMember
    rw [hMember.2.1]
    exact hBy.link

/-- No two live tasks have one number. -/
theorem Sound.task_unique {s : Radio} {id : TaskId} {task task' : Task} (h : s.Sound)
    (hTask : (id, task) ∈ s.tasks) (hTask' : (id, task') ∈ s.tasks) : task' = task := by
  rcases h.represented with hUnlinked | ⟨e, connection, notify, watch, queue, pending, check, hBy⟩
  · rw [hUnlinked.tasks] at hTask
    cases hTask
  · have hMember := hBy.tasks.mem_iff.mp hTask
    have hMember' := hBy.tasks.mem_iff.mp hTask'
    have hDistinct := hBy.distinct
    simp only [List.mem_cons, Prod.mk.injEq, List.not_mem_nil, or_false] at hMember hMember'
    grind

/-- A device that is not connected is connected by nothing but a call. -/
def StaysDown (s t : Radio) : Prop :=
  ∀ d < s.devices.length, (s.device d).connected = false → (t.device d).connected = false

/-- What an operation waits with stays good while only tasks run and devices act. -/
theorem WaitsAt.of_staysDown {s t : Radio} {answer : Bool} {point : Point}
    (h : s.WaitsAt answer point) (hRange : ∀ d, s.session.link = some d → d < s.devices.length)
    (hLink : t.session.link = s.session.link)
    (hState : s.session.state ≠ .bound → t.session.state ≠ .bound)
    (hConnections : t.connections = s.connections)
    (hLength : s.devices.length ≤ t.devices.length) (hDown : s.StaysDown t) :
    t.WaitsAt answer point := by
  cases point with
  | replacing request d => exact ⟨hLink.trans h.1, h.2.1, h.2.2.trans hConnections.symm⟩
  | disconnecting d => exact hLink.trans h
  | binding request d =>
      exact ⟨hLink.trans h.1, Nat.lt_of_lt_of_le h.2.1 hLength, h.2.2.trans hConnections.symm⟩
  | sending data =>
      obtain ⟨d, hLink', hAnswer⟩ := h
      exact ⟨d, hLink.trans hLink', fun hFalse => hDown d (hRange d hLink') (hAnswer hFalse)⟩
  | rebinding data =>
      obtain ⟨⟨d, hLink'⟩, hState'⟩ := h
      exact ⟨⟨d, hLink.trans hLink'⟩, hState hState'⟩

/-- A session whose link, with all that belongs to it, is the same. -/
def KeepsLink (s t : Radio) : Prop :=
  ∃ state generation onDisconnect,
    t.session = { s.session with state, generation, onDisconnect }

theorem KeepsLink.of_eq {s t : Radio} (h : t.session = s.session) : s.KeepsLink t :=
  ⟨s.session.state, s.session.generation, s.session.onDisconnect, h⟩

/-- Tasks that go on with other queues still represent the session. -/
theorem represented_of_continues {s t : Radio} (h : s.Unlinked ∨ ∃ d, s.Linked d)
    (next : TaskId → Task → Task)
    (hNext : ∀ id task, (id, task) ∈ s.tasks → task.Continues (next id task))
    (hTasks : t.tasks = s.tasks.map fun (id, task) => (id, next id task))
    (hSession : s.KeepsLink t) (hCount : t.nextTask = s.nextTask) :
    t.Unlinked ∨ ∃ d, t.Linked d := by
  obtain ⟨state, generation, onDisconnect, hSession⟩ := hSession
  rcases h with hUnlinked | ⟨d, connection, notify, watch, queue, pending, check, hBy⟩
  · left
    constructor
    · rw [hSession, hUnlinked.link]
    · rw [hSession, hUnlinked.filter]
    · rw [hSession, hUnlinked.onNotify]
    · rw [hSession, hUnlinked.notifyTask]
    · rw [hSession, hUnlinked.dropTask]
    · rw [hTasks, hUnlinked.tasks]
      rfl
  · right
    have hNotify := hNext notify (.notifications d connection queue)
      (hBy.tasks.mem_iff.mpr (by simp))
    have hWatch := hNext watch (.drops d pending check) (hBy.tasks.mem_iff.mpr (by simp))
    have hPerm := hBy.tasks.map fun (id, task) => (id, next id task)
    rw [← hTasks] at hPerm
    simp only [List.map_cons, List.map_nil] at hPerm
    cases hNotifyNext : next notify (.notifications d connection queue) with
    | drops e pending' check' =>
        rw [hNotifyNext] at hNotify
        exact hNotify.elim
    | notifications e connection' queue' =>
    cases hWatchNext : next watch (.drops d pending check) with
    | notifications e connection' queue' =>
        rw [hWatchNext] at hWatch
        exact hWatch.elim
    | drops e' pending' check' =>
    rw [hNotifyNext] at hNotify hPerm
    rw [hWatchNext] at hWatch hPerm
    obtain ⟨rfl, rfl⟩ := hNotify
    have hDevice : e' = e := hWatch
    subst hDevice
    refine ⟨e', connection', notify, watch, queue', pending', check', ?_⟩
    exact ⟨by rw [hSession, hBy.link], by rw [hSession, hBy.filter], by rw [hSession, hBy.onNotify],
      by rw [hSession, hBy.notifyTask], by rw [hSession, hBy.dropTask], hBy.distinct,
      by rw [hCount]; exact hBy.notify_lt, by rw [hCount]; exact hBy.watch_lt, hPerm⟩

theorem represented_of_same {s t : Radio} (h : s.Unlinked ∨ ∃ d, s.Linked d)
    (hTasks : t.tasks = s.tasks) (hSession : s.KeepsLink t) (hCount : t.nextTask = s.nextTask) :
    t.Unlinked ∨ ∃ d, t.Linked d := by
  refine represented_of_continues h (fun _ task => task) ?_ (by simp [hTasks]) hSession hCount
  exact fun _ task _ => task.continues_refl

/-- A move of a task or a device: the session stays, tasks go on, and what they wait with fits. -/
theorem Sound.of_continues {s t : Radio} (h : s.Sound) (next : TaskId → Task → Task)
    (hNext : ∀ id task, (id, task) ∈ s.tasks → task.Continues (next id task))
    (hTasks : t.tasks = s.tasks.map fun (id, task) => (id, next id task))
    (hSession : t.session = s.session) (hCount : t.nextTask = s.nextTask)
    (hOperation : t.operation = s.operation) (hConnections : t.connections = s.connections)
    (hLength : s.devices.length ≤ t.devices.length) (hDown : s.StaysDown t)
    (hChecks : ∀ id task d pending check, (id, task) ∈ s.tasks →
      next id task = .drops d pending (some check) →
      (∃ pending', task = .drops d pending' (some check)) ∨ t.Trusts d check) : t.Sound := by
  refine ⟨represented_of_continues h.represented next hNext hTasks (.of_eq hSession) hCount,
    ?_, ?_, ?_, ?_⟩
  · intro d hLink
    rw [hSession] at hLink
    exact Nat.lt_of_lt_of_le (h.inRange d hLink) hLength
  · rw [hSession]
    exact h.bound
  · intro suspended hSuspended
    rw [hOperation] at hSuspended
    refine (h.suspended suspended hSuspended).of_staysDown h.inRange ?_ ?_ hConnections hLength hDown
    · rw [hSession]
    · rw [hSession]
      exact id
  · intro id d pending check hTask
    rw [hTasks] at hTask
    obtain ⟨⟨id', task⟩, hMember, hSame⟩ := List.mem_map.mp hTask
    obtain ⟨rfl, hTask'⟩ := Prod.mk.inj hSame
    rcases hChecks _ _ _ _ _ hMember hTask' with ⟨pending', rfl⟩ | hTrusts
    · obtain ⟨hGeneration, hAnswer⟩ := h.checks _ _ _ _ hMember
      have hLink := h.link_of_drops hMember
      unfold Trusts
      rw [hSession]
      refine ⟨hGeneration, fun hFalse hSame hState => ?_⟩
      exact hDown d (h.inRange d hLink) (hAnswer hFalse hSame hState)
    · exact hTrusts

/-- A move that leaves the session and the tasks alone. -/
theorem Sound.of_same {s t : Radio} (h : s.Sound) (hTasks : t.tasks = s.tasks)
    (hSession : t.session = s.session) (hCount : t.nextTask = s.nextTask)
    (hOperation : t.operation = s.operation) (hConnections : t.connections = s.connections)
    (hLength : s.devices.length ≤ t.devices.length) (hDown : s.StaysDown t) : t.Sound := by
  refine h.of_continues (fun _ task => task) ?_ (by simp [hTasks]) hSession hCount hOperation
    hConnections hLength hDown ?_
  · exact fun _ task _ => task.continues_refl
  · intro id task d pending check _ hSame
    exact Or.inl ⟨pending, hSame⟩

theorem Sound.of_unlinked {s : Radio} (hUnlinked : s.Unlinked) (hIdle : s.operation = none)
    (hState : s.session.state ≠ .bound) : s.Sound := by
  refine ⟨Or.inl hUnlinked, ?_, fun hBound => absurd hBound hState, ?_, ?_⟩
  · intro d hLink
    rw [hUnlinked.link] at hLink
    cases hLink
  · intro suspended hOperation
    rw [hIdle] at hOperation
    cases hOperation
  · intro id d pending check hTask
    rw [hUnlinked.tasks] at hTask
    cases hTask

theorem staysDown_setDevice {s : Radio} {d : DeviceId} {device : Device}
    (hDown : (s.device d).connected = false → device.connected = false) :
    s.StaysDown (s.setDevice d device) := by
  intro i _ hFalse
  rw [device_setDevice]
  split_ifs with hi
  · rw [hi.1] at hFalse
    exact hDown hFalse
  · exact hFalse

theorem connectedAfter_false {call : Call} {succeeded : Bool}
    (h : call.connectedAfter succeeded false = true) :
    ∃ d, call = .connect d ∧ succeeded = true := by
  cases call <;> cases succeeded <;> simp_all [Call.connectedAfter]

theorem Sound.called {s : Radio} {d : DeviceId} {device : Device} {call : Call}
    {succeeded : Bool} (h : s.Sound) (hDevice : call.device? = some d) (hMay : s.MayCall call)
    (hServed : (s.device d).Served device call succeeded) :
    ((s.setDevice d device).record (.call call succeeded)).Sound := by
  have hLength := length_setDevice s d device
  by_cases hDown : (s.device d).connected = false → device.connected = false
  · exact h.of_same rfl rfl rfl rfl rfl hLength.ge (staysDown_setDevice hDown)
  -- The device has just been connected, so no operation waits and the link is not bound.
  rw [Classical.not_imp, Bool.not_eq_false] at hDown
  have hAfter := hServed.connected
  rw [hDown.1, hDown.2] at hAfter
  obtain ⟨e, rfl, -⟩ := connectedAfter_false hAfter.symm
  obtain ⟨hIdle, hLink⟩ := hMay
  have hState : s.session.state ≠ .bound := by
    rcases hLink with hLink | ⟨-, hState⟩
    · exact fun hBound => h.bound hBound hLink
    · exact hState
  refine ⟨represented_of_same h.represented rfl (.of_eq rfl) rfl, ?_, h.bound, ?_, ?_⟩
  · intro i hLink'
    exact (h.inRange i hLink').trans_eq hLength.symm
  · intro suspended hOperation
    cases hIdle.symm.trans hOperation
  · intro id i pending check hTask
    exact ⟨(h.checks id i pending check hTask).1, fun _ _ hBound => absurd hBound hState⟩

theorem Sound.cleared {s : Radio} (h : s.Sound) (hIdle : s.operation = none) :
    s.clear.Sound := by
  have hTasks : s.clear.tasks = [] := by
    have hEq : s.clear.tasks =
        ((s.abort s.session.dropTask).abort s.session.notifyTask).tasks := rfl
    rw [hEq]
    rcases h.represented with hUnlinked | ⟨d, connection, notify, watch, queue, pending, check, hBy⟩
    · rw [hUnlinked.dropTask, hUnlinked.notifyTask]
      exact hUnlinked.tasks
    · rw [hBy.dropTask, hBy.notifyTask]
      have hPerm := (hBy.tasks.filter (·.1 != watch)).filter (·.1 != notify)
      simp only [List.filter_cons, List.filter_nil] at hPerm
      simpa [abort, forget, hBy.distinct] using hPerm
  exact .of_unlinked ⟨rfl, rfl, rfl, rfl, rfl, hTasks⟩ ((operation_clear s).trans hIdle) nofun

theorem Sound.adopted {s : Radio} (h : s.Sound) (request : ConnectRequest) {d : DeviceId}
    (endpoints : Endpoints) (hIdle : s.operation = none) (hLink : s.session.link = none)
    (hRange : d < s.devices.length) : (s.adopt request d endpoints).Sound := by
  have hTasks : (s.adopt request d endpoints).tasks =
      [(s.nextTask, .notifications d request.connection []), (s.nextTask + 1, .drops d 0 none)] := by
    simp [adopt, spawn, Radio.bound, assign, record, (h.unlinked hLink).tasks]
  refine ⟨Or.inr ⟨d, request.connection, s.nextTask, s.nextTask + 1, [], 0, none, ?_⟩, ?_, ?_, ?_, ?_⟩
  · refine ⟨rfl, rfl, rfl, rfl, rfl, (Nat.lt_succ_self _).ne, ?_, ?_, hTasks ▸ .refl _⟩
    · exact Nat.lt_succ_of_lt (Nat.lt_succ_self _)
    · exact Nat.lt_succ_self _
  · intro e hLink'
    exact Option.some.inj hLink' ▸ hRange
  · exact fun _ => Option.some_ne_none d
  · intro suspended hOperation
    cases hIdle.symm.trans hOperation
  · intro id e pending check hTask
    rw [hTasks] at hTask
    simp at hTask

theorem Sound.readopted {s : Radio} (h : s.Sound) {d : DeviceId} (endpoints : Endpoints)
    (hIdle : s.operation = none) (hLink : s.session.link = some d) :
    (s.readopt d endpoints).Sound := by
  obtain ⟨connection, notify, watch, queue, pending, check, hBy⟩ := h.linked hLink
  have hShape : s.readopt d endpoints = { s.forget (.task notify) with
      session := { s.session with
        notifyTask := some s.nextTask, endpoints := some endpoints, state := .bound
        generation := s.session.generation + 1 }
      tasks := s.tasks.filter (·.1 != notify) ++ [(s.nextTask, .notifications d connection [])]
      nextTask := s.nextTask + 1
      ready := (s.forget (.task notify)).ready ++ [.task s.nextTask]
      trace := s.trace ++ [.assigned .bound] } := by
    unfold readopt
    simp [hBy.notifyTask, hBy.onNotify, abort, forget, spawn, Radio.bound, assign, record]
  have hKept : (s.tasks.filter (·.1 != notify)).Perm [(watch, .drops d pending check)] := by
    have hFiltered := hBy.tasks.filter (·.1 != notify)
    simpa [hBy.distinct.symm] using hFiltered
  have hTasks : (s.readopt d endpoints).tasks.Perm
      [(s.nextTask, .notifications d connection []), (watch, .drops d pending check)] := by
    rw [hShape]
    exact (hKept.append_right _).trans (.swap _ _ _)
  refine ⟨Or.inr ⟨d, connection, s.nextTask, watch, [], pending, check, ?_⟩, ?_, ?_, ?_, ?_⟩
  · have hCount : (s.readopt d endpoints).nextTask = s.nextTask + 1 := by rw [hShape]
    refine ⟨?_, ?_, ?_, ?_, ?_, hBy.watch_lt.ne', ?_, ?_, hTasks⟩
    · rw [hShape]
      exact hLink
    · rw [hShape]
      exact hBy.filter
    · rw [hShape]
      exact hBy.onNotify
    · rw [hShape]
    · rw [hShape]
      exact hBy.dropTask
    · rw [hCount]
      exact Nat.lt_succ_self _
    · rw [hCount]
      exact Nat.lt_succ_of_lt hBy.watch_lt
  · rw [hShape]
    exact h.inRange
  · rw [hShape]
    intro _ hNone
    cases hNone.symm.trans hLink
  · rw [hShape]
    intro suspended hOperation
    cases hIdle.symm.trans hOperation
  -- What the watcher waits with was read under an earlier generation.
  · intro id e pending' check' hTask
    have hMember := hTasks.mem_iff.mp hTask
    simp only [List.mem_cons, Prod.mk.injEq, reduceCtorEq, and_false, List.not_mem_nil, or_false,
      false_or, Task.drops.injEq] at hMember
    obtain ⟨rfl, rfl, rfl, rfl⟩ := hMember
    obtain ⟨hGeneration, -⟩ := h.checks id e pending' check' (hBy.tasks.mem_iff.mpr (by simp))
    rw [hShape]
    exact ⟨Nat.le_succ_of_le hGeneration, fun _ hSame _ => absurd hSame (by simp only; omega)⟩

theorem Sound.demoted {s : Radio} (h : s.Sound) (seen : Option Nat) : (s.dropped seen).Sound := by
  rcases dropped_cases s seen with ⟨hSame, -⟩ | ⟨-, -, hChanged⟩
  · rw [hSame]
    exact h
  rw [hChanged]
  refine ⟨represented_of_same h.represented rfl ⟨_, _, _, rfl⟩ rfl, h.inRange, nofun, ?_, ?_⟩
  · intro suspended hOperation
    exact (h.suspended suspended hOperation).of_staysDown h.inRange rfl (fun _ => nofun)
      rfl (Nat.le_refl _) fun _ _ => id
  · intro id d pending check hTask
    exact ⟨(h.checks id d pending check hTask).1, nofun⟩

theorem foldl_frames (s : Radio) (connection : ConnectionId) (queue : List Bytes) :
    queue.foldl (fun s payload => s.record (.frame connection payload)) s =
      { s with trace := s.trace ++ queue.map (.frame connection) } := by
  induction queue generalizing s with
  | nil => simp
  | cons payload queue ih =>
      rw [List.foldl_cons, ih]
      simp [record]

theorem acknowledged_frames (s : Radio) (connection : ConnectionId) (queue : List Bytes) :
    (queue.foldl (fun s payload => s.record (.frame connection payload)) s).acknowledged =
      s.acknowledged := by
  rw [foldl_frames]
  simp [acknowledged, List.filterMap_map, Function.comp_def, Effect.acknowledged?]

theorem wakeTasks_eq (s : Radio) (select : Task → Bool) :
    ∃ ready, s.wakeTasks select = { s with ready } := by
  unfold wakeTasks
  generalize s.tasks.filter (fun (_, task) => select task) = chosen
  induction chosen generalizing s with
  | nil => exact ⟨s.ready, rfl⟩
  | cons x chosen ih =>
      obtain ⟨ready, hReady⟩ := ih (s.wake (.task x.1))
      refine ⟨ready, hReady.trans ?_⟩
      unfold wake
      split_ifs <;> rfl

/-- A task that goes on with another queue, and with a check that fits if it waits for one. -/
theorem Sound.setTask {s t : Radio} (h : s.Sound) {id : TaskId} {task : Task}
    (hTask : s.task? id = some task) (next : Task) (hContinues : task.Continues next)
    (hTasks : t.tasks = (s.setTask id next).tasks) (hSession : t.session = s.session)
    (hCount : t.nextTask = s.nextTask) (hOperation : t.operation = s.operation)
    (hConnections : t.connections = s.connections) (hDevices : t.devices = s.devices)
    (hCheck : ∀ d pending check, next = .drops d pending (some check) → t.Trusts d check) :
    t.Sound := by
  refine h.of_continues (fun other task => if other = id then next else task) ?_ hTasks hSession
    hCount hOperation hConnections (congrArg List.length hDevices).ge ?_ ?_
  · intro other task' hMember
    split_ifs with hSame
    · subst hSame
      rw [h.task_unique (mem_of_task? hTask) hMember]
      exact hContinues
    · exact task'.continues_refl
  · intro d _ hFalse
    unfold device
    rw [hDevices]
    exact hFalse
  · intro other task' d pending check hMember hNext
    split_ifs at hNext
    · exact Or.inr (hCheck d pending check hNext)
    · exact Or.inl ⟨pending, hNext⟩

theorem notify_eq (s : Radio) (d : DeviceId) (payload : Bytes) :
    ∃ ready, s.notify d payload = { s with
      tasks := s.tasks.map fun (id, task) => (id, task.notified d payload), ready } := by
  unfold notify
  exact wakeTasks_eq { s with
    tasks := s.tasks.map fun (id, task) => (id, task.notified d payload) } _

theorem dropLink_eq (s : Radio) (d : DeviceId) :
    ∃ ready, s.dropLink d = { s.setDevice d { s.device d with connected := false } with
      tasks := s.tasks.map fun (id, task) => (id, task.dropped d), ready } := by
  unfold dropLink
  exact wakeTasks_eq { s.setDevice d { s.device d with connected := false } with
    tasks := s.tasks.map fun (id, task) => (id, task.dropped d) } _

/-- Devices change nothing of the session and are not connected by what they do. -/
theorem react_frame (s : Radio) (event : DeviceEvent) :
    (s.react event).session = s.session ∧ (s.react event).operation = s.operation ∧
      (s.react event).trace = s.trace ∧ (s.react event).nextTask = s.nextTask ∧
      (s.react event).connections = s.connections ∧
      s.devices.length ≤ (s.react event).devices.length ∧ s.StaysDown (s.react event) := by
  cases event with
  | appear device =>
      refine ⟨rfl, rfl, rfl, rfl, rfl, by simp [react], fun d hRange hFalse => ?_⟩
      have hSame : (s.react (.appear device)).device d = s.device d := by
        simp [react, Radio.device, List.getElem?_append_left hRange]
      rw [hSame]
      exact hFalse
  | notify d payload =>
      obtain ⟨ready, hNotify⟩ := notify_eq s d payload
      rw [react, hNotify]
      exact ⟨rfl, rfl, rfl, rfl, rfl, Nat.le_refl _, fun _ _ => id⟩
  | drop d =>
      obtain ⟨ready, hDrop⟩ := dropLink_eq s d
      rw [react, hDrop]
      exact ⟨rfl, rfl, rfl, rfl, rfl, (length_setDevice s d _).ge,
        staysDown_setDevice (d := d) fun _ => rfl⟩
  | offerService d present =>
      exact ⟨rfl, rfl, rfl, rfl, rfl, (length_setDevice s d _).ge, staysDown_setDevice id⟩
  | refuseWrites d refuse =>
      exact ⟨rfl, rfl, rfl, rfl, rfl, (length_setDevice s d _).ge, staysDown_setDevice id⟩
  | fault d call fault =>
      exact ⟨rfl, rfl, rfl, rfl, rfl, (length_setDevice s d _).ge, staysDown_setDevice id⟩
  | discoverFault fault => exact ⟨rfl, rfl, rfl, rfl, rfl, Nat.le_refl _, fun _ _ => id⟩
  | hold d => exact ⟨rfl, rfl, rfl, rfl, rfl, (length_setDevice s d _).ge, staysDown_setDevice id⟩
  | release d => exact ⟨rfl, rfl, rfl, rfl, rfl, Nat.le_refl _, fun _ _ => id⟩

theorem react_length {s : Radio} (event : DeviceEvent) (hEvent : ∀ device, event ≠ .appear device) :
    (s.react event).devices.length = s.devices.length := by
  cases event with
  | appear device => exact absurd rfl (hEvent device)
  | notify d payload =>
      obtain ⟨ready, hNotify⟩ := notify_eq s d payload
      rw [react, hNotify]
  | drop d =>
      obtain ⟨ready, hDrop⟩ := dropLink_eq s d
      rw [react, hDrop]
      exact length_setDevice s d _
  | discoverFault fault => rfl
  | release d => rfl
  | _ => exact length_setDevice s _ _

theorem Sound.reacted {s : Radio} (h : s.Sound) (event : DeviceEvent) : (s.react event).Sound := by
  obtain ⟨hSession, hOperation, -, hCount, hConnections, hLength, hDown⟩ := react_frame s event
  cases event with
  | notify d payload =>
      obtain ⟨ready, hNotify⟩ := notify_eq s d payload
      refine h.of_continues (fun _ => Task.notified d payload) ?_ (congrArg tasks hNotify) hSession
        hCount hOperation hConnections hLength hDown ?_
      · exact fun _ task _ => task.continues_notified d payload
      · exact fun _ _ _ _ _ _ hNext => Or.inl (Task.check_notified hNext)
  | drop d =>
      obtain ⟨ready, hDrop⟩ := dropLink_eq s d
      refine h.of_continues (fun _ => Task.dropped d) ?_ (congrArg tasks hDrop) hSession hCount
        hOperation hConnections hLength hDown ?_
      · exact fun _ task _ => task.continues_dropped d
      · exact fun _ _ _ _ _ _ hNext => Or.inl (Task.check_dropped hNext)
  | _ => exact h.of_same rfl hSession hCount hOperation hConnections hLength hDown

theorem Sound.move {m : Mover} {s t : Radio} (h : s.Sound) (hMove : s.Move m t) : t.Sound := by
  cases hMove with
  | called d device call succeeded hDevice hMay hServed => exact h.called hDevice hMay hServed
  | discovered scans fault filter succeeded hLink =>
      exact h.of_same rfl rfl rfl rfl rfl (Nat.le_refl _) fun _ _ => id
  | assigned state hIdle hLink hState =>
      obtain ⟨hLink, hFilter, hNotify, hNotifyTask, hDropTask, hTasks⟩ := h.unlinked hLink
      exact .of_unlinked ⟨hLink, hFilter, hNotify, hNotifyTask, hDropTask, hTasks⟩ hIdle hState
  | cleared hIdle => exact h.cleared hIdle
  | adopted request d endpoints hIdle hLink hRange hNewest hSubscribed =>
      exact h.adopted request endpoints hIdle hLink hRange
  | readopted d endpoints hIdle hLink hState hSubscribed => exact h.readopted endpoints hIdle hLink
  | demoted seen hDropped => exact h.demoted seen
  | suspended d answer point hIdle hWaits =>
      refine ⟨represented_of_same h.represented rfl (.of_eq rfl) rfl, h.inRange, h.bound, ?_,
        h.checks⟩
      rintro suspended ⟨⟩
      exact hWaits
  | resumed =>
      exact ⟨represented_of_same h.represented rfl (.of_eq rfl) rfl, h.inRange, h.bound, nofun,
        h.checks⟩
  | returned outcome hIdle hJustified =>
      exact h.of_same rfl rfl rfl rfl rfl (Nat.le_refl _) fun _ _ => id
  | abandoned =>
      exact ⟨represented_of_same h.represented rfl (.of_eq rfl) rfl, h.inRange, h.bound, nofun,
        h.checks⟩
  | numbered hIdle =>
      refine ⟨represented_of_same h.represented rfl (.of_eq rfl) rfl, h.inRange, h.bound, ?_,
        h.checks⟩
      intro suspended hOperation
      cases hIdle.symm.trans hOperation
  | delivered id d connection queue hTask =>
      rw [foldl_frames]
      exact h.setTask hTask (.notifications d connection []) ⟨rfl, rfl⟩ rfl rfl rfl rfl rfl rfl
        nofun
  | watched id d pending check hTask =>
      exact h.setTask hTask (.drops d 0 none) rfl rfl rfl rfl rfl rfl rfl nofun
  | watcherHeld id d pending left check hTask =>
      refine h.setTask hTask
        (.drops d left (some ⟨s.session.generation, (s.device d).connected⟩))
        rfl rfl rfl rfl rfl rfl rfl ?_
      rintro _ _ _ ⟨⟩
      exact ⟨Nat.le_refl _, fun hFalse _ _ => hFalse⟩
  | polled p rest hReady => exact h.of_same rfl rfl rfl rfl rfl (Nat.le_refl _) fun _ _ => id
  | woken p =>
      unfold wake
      split_ifs
      · exact h
      · exact h.of_same rfl rfl rfl rfl rfl (Nat.le_refl _) fun _ _ => id
  | reacted event => exact h.reacted event

end Radio

end LockRelay
