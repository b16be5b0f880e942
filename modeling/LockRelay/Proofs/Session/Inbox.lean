import LockRelay.Proofs.Session.DropReports

/-! What becomes of the payloads that wait in the queue of the session's notification task. They are
handed to the callback in the task's turn, and they are lost when a send binds the link again and
puts a new task in its place. -/
namespace LockRelay

/-- The payload that an effect hands to the notification callback of a connection. -/
def Effect.payloadTo? (k : ConnectionId) : Effect → Option Bytes
  | .frame connection payload => if connection = k then some payload else none
  | _ => none

namespace Radio

variable {s t : Radio} {m : Mover} {d : DeviceId} {k : ConnectionId} {id : TaskId}
  {queue handed : List Bytes}

/-- The payloads handed to the notification callback of a connection, oldest first. -/
def handedTo (s : Radio) (k : ConnectionId) : List Bytes :=
  s.trace.filterMap (Effect.payloadTo? k)

/-- The payloads in the queue of the session's notification task. -/
def undelivered (s : Radio) : List Bytes :=
  match s.session.notifyTask.bind s.task? with
  | some (.notifications _ _ queue) => queue
  | _ => []

theorem handedTo_of_quiet (added : List Effect) (hTrace : t.trace = s.trace ++ added)
    (hAdded : ∀ effect ∈ added, effect.payloadTo? k = none) : t.handedTo k = s.handedTo k := by
  have hNothing : added.filterMap (Effect.payloadTo? k) = [] :=
    List.filterMap_eq_nil_iff.mpr hAdded
  unfold handedTo
  rw [hTrace, List.filterMap_append, hNothing, List.append_nil]

theorem handedTo_of_unreported (h : ¬s.Reported k) : s.handedTo k = [] := by
  refine List.filterMap_eq_nil_iff.mpr fun effect hEffect => ?_
  by_contra hPayload
  refine h ⟨effect, hEffect, ?_⟩
  cases effect with
  | frame connection payload =>
      simp only [Effect.payloadTo?] at hPayload
      split_ifs at hPayload with hSame
      · exact congrArg some hSame
      · exact absurd rfl hPayload
  | _ => exact absurd rfl hPayload

/-- The session's notification task for a connection, with the payloads in its queue, and with those
that the connection has been handed. -/
structure Inbox (s : Radio) (d : DeviceId) (k : ConnectionId) (id : TaskId)
    (queue handed : List Bytes) : Prop where
  link : s.session.link = some d
  onNotify : s.session.onNotify = some k
  notifyTask : s.session.notifyTask = some id
  task : (id, Task.notifications d k queue) ∈ s.tasks
  handed : s.handedTo k = handed

theorem Inbox.undelivered (h : s.Inbox d k id queue handed) (hSound : s.Sound) :
    s.undelivered = queue := by
  obtain ⟨other, hOther⟩ := task?_of_mem h.task
  obtain rfl := hSound.task_unique h.task (mem_of_task? hOther)
  unfold Radio.undelivered
  rw [h.notifyTask]
  simp [hOther]

/-- There is one notification task at most. -/
theorem Sound.notifier_unique {id' : TaskId} {d' : DeviceId} {k' : ConnectionId}
    {queue' : List Bytes} (h : s.Sound) (hTask : (id, Task.notifications d k queue) ∈ s.tasks)
    (hTask' : (id', Task.notifications d' k' queue') ∈ s.tasks) :
    id' = id ∧ Task.notifications d' k' queue' = .notifications d k queue := by
  rcases h.represented with hUnlinked | ⟨e, connection, notify, watch, held, left, seen, hBy⟩
  · rw [hUnlinked.tasks] at hTask
    cases hTask
  · have hMember := hBy.tasks.mem_iff.mp hTask
    have hMember' := hBy.tasks.mem_iff.mp hTask'
    simp only [List.mem_cons, Prod.mk.injEq, reduceCtorEq, and_false, List.not_mem_nil, or_false]
      at hMember hMember'
    exact ⟨hMember'.1.trans hMember.1.symm, hMember'.2.trans hMember.2.symm⟩

/-- A move that leaves the task and its queue alone. -/
theorem Inbox.of_same (h : s.Inbox d k id queue handed) (added : List Effect)
    (hTrace : t.trace = s.trace ++ added)
    (hAdded : ∀ effect ∈ added, effect.payloadTo? k = none)
    (hLink : t.session.link = s.session.link)
    (hNotify : t.session.onNotify = s.session.onNotify)
    (hNotifies : t.session.notifyTask = s.session.notifyTask)
    (hTask : (id, Task.notifications d k queue) ∈ t.tasks) : t.Inbox d k id queue handed :=
  ⟨hLink.trans h.link, hNotify.trans h.onNotify, hNotifies.trans h.notifyTask, hTask,
    (handedTo_of_quiet added hTrace hAdded).trans h.handed⟩

/-- A move that hands nobody a payload, after which session and tasks are the same. -/
theorem Inbox.of_quiet (h : s.Inbox d k id queue handed) (added : List Effect)
    (hTrace : t.trace = s.trace ++ added)
    (hAdded : ∀ effect ∈ added, effect.payloadTo? k = none) (hSession : t.session = s.session)
    (hTasks : t.tasks = s.tasks) : t.Inbox d k id queue handed := by
  refine h.of_same added hTrace hAdded ?_ ?_ ?_ (hTasks ▸ h.task)
  all_goals rw [hSession]

theorem Inbox.of_silent (h : s.Inbox d k id queue handed) (hTrace : t.trace = s.trace)
    (hSession : t.session = s.session) (hTasks : t.tasks = s.tasks) :
    t.Inbox d k id queue handed :=
  h.of_quiet [] (hTrace.trans (List.append_nil _).symm) nofun hSession hTasks

/-- What a watcher does leaves the queue alone. -/
theorem Inbox.watched (h : s.Inbox d k id queue handed) (hSound : s.Sound) {watch : TaskId}
    {i : DeviceId} {pending : Nat} {check : Option Check} {next : Task}
    (hTask : s.task? watch = some (.drops i pending check)) :
    (id, Task.notifications d k queue) ∈ (s.setTask watch next).tasks := by
  have hOther : id ≠ watch := by
    rintro rfl
    cases hSound.task_unique h.task (mem_of_task? hTask)
  have hKept := setTask_mem watch next h.task
  rwa [if_neg hOther] at hKept

theorem Inbox.delivered (h : s.Inbox d k id queue handed) (hSound : s.Sound) {id' : TaskId}
    {d' : DeviceId} {k' : ConnectionId} {queue' : List Bytes}
    (hTask : s.task? id' = some (.notifications d' k' queue')) :
    (queue'.foldl (fun s payload => s.record (.frame k' payload))
      (s.setTask id' (.notifications d' k' []))).Inbox d k id [] (handed ++ queue) := by
  obtain ⟨rfl, hSame⟩ := hSound.notifier_unique h.task (mem_of_task? hTask)
  obtain ⟨rfl, rfl, rfl⟩ := Task.notifications.inj hSame
  have hKept := setTask_mem id' (.notifications d' k' []) h.task
  rw [if_pos rfl] at hKept
  rw [foldl_frames]
  refine ⟨h.link, h.onNotify, h.notifyTask, hKept, ?_⟩
  have hFrames : (queue'.map (Effect.frame k')).filterMap (Effect.payloadTo? k') = queue' := by
    simp [List.filterMap_map, Function.comp_def, Effect.payloadTo?]
  rw [← h.handed]
  exact (List.filterMap_append ..).trans (congrArg (s.handedTo k' ++ ·) hFrames)

/-- A link that is bound again has a new task, whose queue is empty. -/
theorem Inbox.readopted (h : s.Inbox d k id queue handed) (endpoints : Endpoints) :
    (s.readopt d endpoints).Inbox d k s.nextTask [] handed := by
  obtain ⟨-, -, -, hTrace, hLink, -⟩ := readopt_frame s d endpoints
  obtain ⟨hNotify, -⟩ := readopt_callbacks s d endpoints
  have hHanded := handedTo_of_quiet (k := k) _ hTrace (by simp [Effect.payloadTo?])
  refine ⟨hLink.trans h.link, hNotify.trans h.onNotify, ?_, ?_, hHanded.trans h.handed⟩
  all_goals
    unfold readopt
    simp [h.notifyTask, h.onNotify, Radio.abort, forget, Radio.spawn, bound, assign, record]

theorem Inbox.demoted (h : s.Inbox d k id queue handed) (seen : Option Nat) :
    (s.dropped seen).Inbox d k id queue handed := by
  rcases dropped_cases s seen with ⟨hSame, -⟩ | ⟨-, -, hChanged⟩
  · rw [hSame]
    exact h
  · rw [hChanged]
    refine h.of_same _ rfl ?_ rfl rfl rfl h.task
    cases s.session.onDisconnect <;> simp [Effect.payloadTo?]

/-- As long as nobody takes the link down and no device acts, the payloads wait, until a send gives
them up or their task hands them over. -/
theorem Inbox.move (h : s.Inbox d k id queue handed) (hSound : s.Sound)
    (hMover : m.tearsDown = false) (hDevice : ∀ event, m ≠ .device event) (hMove : s.Move m t) :
    t.Inbox d k id queue handed ∨
      m = .sending ∧ t.Inbox d k s.nextTask [] handed ∨
      (∃ i, m = .task i) ∧ t.Inbox d k id [] (handed ++ queue) := by
  cases hMove with
  | called i device call succeeded =>
      exact Or.inl (h.of_quiet [_] rfl (by simp [Effect.payloadTo?]) rfl rfl)
  | discovered | assigned | adopted => cases hMover
  | cleared hIdle hTearsDown => cases hTearsDown.symm.trans hMover
  | readopted i endpoints hIdle hLink =>
      obtain rfl : d = i := Option.some.inj (h.link.symm.trans hLink)
      exact Or.inr (Or.inl ⟨rfl, h.readopted endpoints⟩)
  | demoted seen => exact Or.inl (h.demoted seen)
  | returned outcome =>
      exact Or.inl (h.of_quiet [_] rfl (by simp [Effect.payloadTo?]) rfl rfl)
  | delivered i e connection waiting hTask =>
      exact Or.inr (Or.inr ⟨⟨i, rfl⟩, h.delivered hSound hTask⟩)
  | watched i e pending check hTask =>
      exact Or.inl (h.of_same [] (List.append_nil _).symm nofun rfl rfl rfl
        (h.watched hSound hTask))
  | watcherHeld i e pending left check hTask =>
      exact Or.inl (h.of_same [] (List.append_nil _).symm nofun rfl rfl rfl
        (h.watched hSound hTask))
  | woken p =>
      unfold wake
      split_ifs
      · exact Or.inl h
      · exact Or.inl (h.of_silent rfl rfl rfl)
  | reacted event => exact absurd rfl (hDevice event)
  | _ => exact Or.inl (h.of_silent rfl rfl rfl)

/-- What becomes of the payloads in the queue while the device adds none: they go on waiting, they
are handed over, or they are lost with their task. -/
inductive Proceeds (d : DeviceId) (k : ConnectionId) (id : TaskId) (queue handed : List Bytes)
    (t : Radio) : Prop where
  | waiting (h : t.Inbox d k id queue handed)
  | handedOver (h : t.Inbox d k id [] (handed ++ queue))
  | lost (other : TaskId) (hOther : other ≠ id) (h : t.Inbox d k other [] handed)

theorem Inbox.moves (h : s.Inbox d k id queue handed) (hSound : s.Sound) (hOld : id < s.nextTask)
    (hMover : m.tearsDown = false) (hDevice : ∀ event, m ≠ .device event)
    (hMoves : s.MovesBy (· = m) t) : Proceeds d k id queue handed t := by
  have hCases : s.Grows t ∧ (t.Inbox d k id queue handed ∨
      m = .sending ∧ (∃ other, other ≠ id ∧ t.Inbox d k other [] handed) ∨
      (∃ i, m = .task i) ∧ t.Inbox d k id [] (handed ++ queue)) := by
    refine hSound.keeps (P := fun t => s.Grows t ∧ (t.Inbox d k id queue handed ∨
      m = .sending ∧ (∃ other, other ≠ id ∧ t.Inbox d k other [] handed) ∨
      (∃ i, m = .task i) ∧ t.Inbox d k id [] (handed ++ queue))) hMoves ?_
      ⟨.of_eq rfl rfl rfl, Or.inl h⟩
    rintro n u v rfl hSound hMove ⟨hGrows, hCases⟩
    refine ⟨hGrows.trans hMove.grows, ?_⟩
    -- The number of a new task is not that of the first one.
    have hFresh : u.nextTask ≠ id := (Nat.lt_of_lt_of_le hOld hGrows.nextTask).ne'
    rcases hCases with h | ⟨hSending, other, hOther, h⟩ | ⟨⟨i, hTask⟩, h⟩
    · rcases h.move hSound hMover hDevice hMove with h | ⟨hSending, h⟩ | ⟨hTask, h⟩
      · exact Or.inl h
      · exact Or.inr (Or.inl ⟨hSending, _, hFresh, h⟩)
      · exact Or.inr (Or.inr ⟨hTask, h⟩)
    · rcases h.move hSound hMover hDevice hMove with h | ⟨-, h⟩ | ⟨⟨i, hTask⟩, -⟩
      · exact Or.inr (Or.inl ⟨hSending, other, hOther, h⟩)
      · exact Or.inr (Or.inl ⟨hSending, _, hFresh, h⟩)
      · cases hSending.symm.trans hTask
    · rcases h.move hSound hMover hDevice hMove with h | ⟨hSending, -⟩ | ⟨-, h⟩
      · exact Or.inr (Or.inr ⟨⟨i, hTask⟩, h⟩)
      · cases hSending.symm.trans hTask
      · rw [List.append_nil] at h
        exact Or.inr (Or.inr ⟨⟨i, hTask⟩, h⟩)
  obtain ⟨-, h | ⟨-, other, hOther, h⟩ | ⟨-, h⟩⟩ := hCases
  · exact .waiting h
  · exact .lost other hOther h
  · exact .handedOver h

/-! What is so while nobody takes the link down. -/

structure Undisturbed (s : Radio) : Prop where
  sound : s.Sound
  orderly : s.Orderly
  waits : s.InProgress (·.tearsDown = false)

theorem Undisturbed.step (h : s.Undisturbed) {event : Event} (hEvent : ¬event.TearsDown) :
    (s.step event).Undisturbed := by
  have hBackground : Background (·.tearsDown = false) := ⟨rfl, fun _ => rfl⟩
  have hMoves := h.sound.step_movesBy hBackground h.waits (Event.admits_of_not_tearsDown hEvent)
  exact ⟨h.sound.moves hMoves, h.orderly.step h.sound event, h.waits.moves hMoves⟩

theorem Undisturbed.run (h : s.Undisturbed) {history : List Event}
    (hHistory : ∀ event ∈ history, ¬event.TearsDown) : (s.run history).Undisturbed := by
  induction history generalizing s with
  | nil => exact h
  | cons event history ih =>
      exact ih (h.step (hHistory event List.mem_cons_self)) fun later hLater =>
        hHistory later (List.mem_cons_of_mem _ hLater)

theorem Inbox.resume (h : s.Inbox d k id queue handed) (hSound : s.Sound) (hOld : id < s.nextTask)
    (hWaits : s.InProgress (·.tearsDown = false)) :
    Proceeds d k id queue handed s.resume.1 := by
  cases hOperation : s.operation with
  | none =>
      rw [resume_of_idle hOperation]
      exact .waiting h
  | some suspended =>
      have hIdle : ({ s with operation := none } : Radio).Inbox d k id queue handed :=
        h.of_silent rfl rfl rfl
      exact hIdle.moves (hSound.move (.resumed s)) hOld (hWaits suspended hOperation)
        (Mover.ne_device_of_operates suspended.point.mover_operates)
        (hSound.resume_concludes hOperation).moves

theorem Inbox.poll (h : s.Inbox d k id queue handed) (hUndisturbed : s.Undisturbed) :
    Proceeds d k id queue handed s.poll := by
  have hOld := hUndisturbed.orderly.numbered id _ h.task
  unfold Radio.poll
  cases hReady : s.ready with
  | nil => exact .waiting h
  | cons p rest =>
      have hPolled := polled_sound hUndisturbed.sound hReady
      have hInbox : ({ s with ready := rest } : Radio).Inbox d k id queue handed :=
        h.of_silent rfl rfl rfl
      cases p with
      | task i =>
          have hDevice (event : DeviceEvent) : Mover.task i ≠ .device event := nofun
          exact hInbox.moves hPolled hOld rfl hDevice (runTask_advances hPolled i).moves
      | caller => exact hInbox.resume hPolled hOld hUndisturbed.waits

theorem Inbox.started (h : s.Inbox d k id queue handed) (hUndisturbed : s.Undisturbed)
    {operation : Operation} (hEvent : ¬(Event.start operation).TearsDown) :
    Proceeds d k id queue handed (s.start operation).1 := by
  have hOld := hUndisturbed.orderly.numbered id _ h.task
  cases hOperation : s.operation with
  | some suspended =>
      rw [start_of_busy hOperation]
      exact .waiting h
  | none =>
      have hMover : (operation.mover s).tearsDown = false :=
        Event.admits_of_not_tearsDown hEvent hOperation
      exact h.moves hUndisturbed.sound hOld hMover
        (Mover.ne_device_of_operates (operation.mover_operates s))
        (start_concludes operation hOperation).moves

end Radio

end LockRelay
