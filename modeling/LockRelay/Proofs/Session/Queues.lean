import LockRelay.Proofs.Session.Told

/-! Who stands in the queues of a session. Everyone stands there once, and whoever has something to
do has a turn coming or waits for an answer. -/
namespace LockRelay

/-- Whether a task has something to do and does not wait. -/
def Task.Due : Task → Prop
  | .notifications _ _ queue => queue ≠ []
  | .drops _ pending none => pending ≠ 0
  | .drops _ _ (some _) => False

/-- Whether a task waits for the answer to a check. -/
def Task.Checking : Task → Prop
  | .drops _ _ (some _) => True
  | _ => False

namespace Radio

/-- Everyone in a queue: who has a turn coming, and who waits for an answer. -/
def queued (s : Radio) : List Participant := s.ready ++ s.waiting.map Prod.snd

/-- The queues hold each participant once. Tasks that have something to do are in them, and nobody
is in them who has nothing to do. -/
structure Orderly (s : Radio) : Prop where
  once : s.queued.Nodup
  alive : ∀ id, .task id ∈ s.ready → ∃ task, (id, task) ∈ s.tasks
  waits : ∀ id, .task id ∈ s.waiting.map Prod.snd → ∃ task, (id, task) ∈ s.tasks ∧ task.Checking
  caller : .caller ∈ s.queued → s.operation ≠ none
  due : ∀ id task, (id, task) ∈ s.tasks → task.Due → .task id ∈ s.ready
  checking : ∀ id task, (id, task) ∈ s.tasks → task.Checking → .task id ∈ s.queued
  numbered : ∀ id task, (id, task) ∈ s.tasks → id < s.nextTask

variable {s t : Radio}

theorem initial_orderly (devices : List Device) : (initial devices).Orderly :=
  ⟨.nil, nofun, nofun, nofun, nofun, nofun, nofun⟩

/-- All that the order of the queues depends on is the same. -/
structure SameQueues (s t : Radio) : Prop where
  ready : t.ready = s.ready
  waiting : t.waiting = s.waiting
  tasks : t.tasks = s.tasks
  operation : t.operation = s.operation
  nextTask : t.nextTask = s.nextTask

theorem Orderly.of_same (h : s.Orderly) (hSame : s.SameQueues t) : t.Orderly := by
  obtain ⟨hReady, hWaiting, hTasks, hOperation, hCount⟩ := hSame
  have hQueued : t.queued = s.queued := by rw [queued, queued, hReady, hWaiting]
  refine ⟨?_, ?_, ?_, ?_, ?_, ?_, ?_⟩
  · rw [hQueued]
    exact h.once
  · rw [hReady, hTasks]
    exact h.alive
  · rw [hWaiting, hTasks]
    exact h.waits
  · rw [hQueued, hOperation]
    exact h.caller
  · rw [hReady, hTasks]
    exact h.due
  · rw [hQueued, hTasks]
    exact h.checking
  · rw [hCount, hTasks]
    exact h.numbered

theorem dropped_sameQueues (s : Radio) (seen : Option Nat) : s.SameQueues (s.dropped seen) := by
  rcases dropped_cases s seen with ⟨hSame, -⟩ | ⟨-, -, hChanged⟩
  · rw [hSame]
    exact ⟨rfl, rfl, rfl, rfl, rfl⟩
  · rw [hChanged]
    exact ⟨rfl, rfl, rfl, rfl, rfl⟩

theorem isConnected_sameQueues (s : Radio) (d : DeviceId) :
    s.SameQueues (s.isConnected d).1 := by
  obtain ⟨-, device, -, hState⟩ := isConnected_served s d
  rw [hState]
  exact ⟨rfl, rfl, rfl, rfl, rfl⟩

theorem queued_forget (s : Radio) (p : Participant) :
    (s.forget p).queued = s.queued.filter (· != p) := by
  simp [queued, forget, List.filter_map, Function.comp_def]

theorem Orderly.abort (h : s.Orderly) (task : Option TaskId) : (s.abort task).Orderly := by
  cases task with
  | none => exact h
  | some id =>
      have hQueued : (s.abort (some id)).queued = s.queued.filter (· != .task id) :=
        queued_forget s (.task id)
      have hKept {i : TaskId} {p : List Participant}
          (hi : Participant.task i ∈ p.filter (· != .task id)) : .task i ∈ p ∧ i ≠ id := by
        rw [List.mem_filter] at hi
        exact ⟨hi.1, by simpa using hi.2⟩
      have hMember {i : TaskId} {task : Task} :
          (i, task) ∈ (s.abort (some id)).tasks ↔ (i, task) ∈ s.tasks ∧ i ≠ id := by
        simp [Radio.abort]
      refine ⟨?_, ?_, ?_, ?_, ?_, ?_, ?_⟩
      · rw [hQueued]
        exact h.once.filter _
      · intro i hi
        obtain ⟨hi, hOther⟩ := hKept hi
        obtain ⟨task, hTask⟩ := h.alive i hi
        exact ⟨task, hMember.mpr ⟨hTask, hOther⟩⟩
      · intro i hi
        have hi' : .task i ∈ (s.waiting.map Prod.snd).filter (· != .task id) := by
          rw [List.filter_map]
          exact hi
        obtain ⟨hi, hOther⟩ := hKept hi'
        obtain ⟨task, hTask, hChecking⟩ := h.waits i hi
        exact ⟨task, hMember.mpr ⟨hTask, hOther⟩, hChecking⟩
      · rw [hQueued, operation_abort]
        exact fun hCaller => h.caller (List.mem_filter.mp hCaller).1
      · intro i task hTask hDue
        obtain ⟨hTask, hOther⟩ := hMember.mp hTask
        exact List.mem_filter.mpr ⟨h.due i task hTask hDue, by simpa using hOther⟩
      · intro i task hTask hChecking
        obtain ⟨hTask, hOther⟩ := hMember.mp hTask
        rw [hQueued]
        exact List.mem_filter.mpr ⟨h.checking i task hTask hChecking, by simpa using hOther⟩
      · intro i task hTask
        exact h.numbered i task (hMember.mp hTask).1

/-- A new task has its first turn coming. -/
theorem Orderly.spawn (h : s.Orderly) (task : Task) (hDue : ¬task.Due)
    (hChecking : ¬task.Checking) : (s.spawn task).1.Orderly := by
  have hReady : (s.spawn task).1.ready = s.ready ++ [.task s.nextTask] := rfl
  have hQueued : (s.spawn task).1.queued.Perm (.task s.nextTask :: s.queued) := by
    simp only [queued, hReady, List.append_assoc, List.singleton_append]
    exact List.perm_middle
  have hFresh : Participant.task s.nextTask ∉ s.queued := by
    intro hOld
    have hLive : ∃ task, (s.nextTask, task) ∈ s.tasks := by
      rcases List.mem_append.mp hOld with hOld | hOld
      · exact h.alive _ hOld
      · obtain ⟨task, hTask, -⟩ := h.waits _ hOld
        exact ⟨task, hTask⟩
    obtain ⟨task, hTask⟩ := hLive
    exact (h.numbered _ task hTask).ne rfl
  have hMember {i : TaskId} {other : Task} : (i, other) ∈ (s.spawn task).1.tasks ↔
      (i, other) ∈ s.tasks ∨ i = s.nextTask ∧ other = task := by
    simp [Radio.spawn]
  refine ⟨?_, ?_, ?_, ?_, ?_, ?_, ?_⟩
  · rw [hQueued.nodup_iff]
    exact List.nodup_cons.mpr ⟨hFresh, h.once⟩
  · intro i hi
    rcases List.mem_append.mp hi with hi | hi
    · obtain ⟨other, hOther⟩ := h.alive i hi
      exact ⟨other, hMember.mpr (Or.inl hOther)⟩
    · cases List.mem_singleton.mp hi
      exact ⟨task, hMember.mpr (Or.inr ⟨rfl, rfl⟩)⟩
  · intro i hi
    obtain ⟨other, hOther, hWaits⟩ := h.waits i hi
    exact ⟨other, hMember.mpr (Or.inl hOther), hWaits⟩
  · rw [hQueued.mem_iff]
    exact fun hCaller => h.caller (by simpa using hCaller)
  · intro i other hOther hOtherDue
    rcases hMember.mp hOther with hOther | ⟨-, rfl⟩
    · exact List.mem_append_left _ (h.due i other hOther hOtherDue)
    · exact absurd hOtherDue hDue
  · intro i other hOther hOtherChecking
    rw [hQueued.mem_iff]
    rcases hMember.mp hOther with hOther | ⟨-, rfl⟩
    · exact List.mem_cons_of_mem _ (h.checking i other hOther hOtherChecking)
    · exact absurd hOtherChecking hChecking
  · intro i other hOther
    rcases hMember.mp hOther with hOther | ⟨rfl, -⟩
    · exact Nat.lt_succ_of_lt (h.numbered i other hOther)
    · exact Nat.lt_succ_self _

theorem Orderly.cleared (h : s.Orderly) : s.clear.Orderly :=
  ((h.abort s.session.dropTask).abort s.session.notifyTask).of_same ⟨rfl, rfl, rfl, rfl, rfl⟩

theorem Orderly.adopted (h : s.Orderly) (request : ConnectRequest) (d : DeviceId)
    (endpoints : Endpoints) : (s.adopt request d endpoints).Orderly := by
  have hNotifies := h.spawn (.notifications d request.connection []) (fun hDue => hDue rfl) id
  have hWatches := hNotifies.spawn (.drops d 0 none) (fun hDue => hDue rfl) id
  exact hWatches.of_same ⟨rfl, rfl, rfl, rfl, rfl⟩

theorem Orderly.readopted (h : s.Orderly) (d : DeviceId) (endpoints : Endpoints) :
    (s.readopt d endpoints).Orderly := by
  have hAborted := h.abort s.session.notifyTask
  unfold readopt
  simp only
  cases (s.abort s.session.notifyTask).session.onNotify with
  | none => exact hAborted.of_same ⟨rfl, rfl, rfl, rfl, rfl⟩
  | some connection =>
      have hIdle : ({ s.abort s.session.notifyTask with
          session := { (s.abort s.session.notifyTask).session with notifyTask := none } } :
            Radio).Orderly := hAborted.of_same ⟨rfl, rfl, rfl, rfl, rfl⟩
      have hNotifies := hIdle.spawn (.notifications d connection []) (fun hDue => hDue rfl) id
      exact hNotifies.of_same ⟨rfl, rfl, rfl, rfl, rfl⟩

/-- Operations keep the queues in order. Where one comes to wait, its caller was in none of them. -/
theorem Orderly.move {m : Mover} (h : s.Orderly) (hMover : m.operates = true)
    (hMove : s.Move m t) : t.Orderly := by
  cases hMove with
  | cleared hIdle => exact h.cleared
  | adopted request d endpoints => exact h.adopted request d endpoints
  | readopted d endpoints => exact h.readopted d endpoints
  | demoted seen => exact h.of_same (dropped_sameQueues s seen)
  | suspended d answer point hIdle =>
      have hQueued (waiting : List (DeviceId × Participant)) :
          s.ready ++ (waiting ++ [(d, Participant.caller)]).map Prod.snd =
            (s.ready ++ waiting.map Prod.snd) ++ [Participant.caller] := by simp
      have hOut : Participant.caller ∉ s.queued := fun hCaller => h.caller hCaller hIdle
      refine ⟨?_, h.alive, ?_, nofun, h.due, ?_, h.numbered⟩
      · rw [queued, hQueued]
        exact List.nodup_append.mpr ⟨h.once, List.nodup_singleton _, by grind [queued]⟩
      · intro id hWaits
        exact h.waits id (by simpa using hWaits)
      · intro id task hTask hChecking
        rw [queued, hQueued]
        exact List.mem_append_left _ (h.checking id task hTask hChecking)
  | called d device call succeeded => exact h.of_same ⟨rfl, rfl, rfl, rfl, rfl⟩
  | discovered scans fault filter succeeded => exact h.of_same ⟨rfl, rfl, rfl, rfl, rfl⟩
  | assigned state => exact h.of_same ⟨rfl, rfl, rfl, rfl, rfl⟩
  | returned outcome => exact h.of_same ⟨rfl, rfl, rfl, rfl, rfl⟩
  | numbered => exact h.of_same ⟨rfl, rfl, rfl, rfl, rfl⟩
  | _ => cases hMover

theorem Orderly.moves {m : Mover} (h : s.Orderly) (hMover : m.operates = true)
    (hMoves : s.MovesBy (· = m) t) : t.Orderly :=
  hMoves.keeps (fun m' _ _ (hSame : m' = m) hMove h => h.move (hSame ▸ hMover) hMove) h

/-- How a task leaves the queues in which it does not stand, when it has had its turn: it has
nothing to do any more, or waits for an answer. -/
structure Ran (s : Radio) (id : TaskId) (t : Radio) : Prop where
  ready : t.ready = s.ready
  operation : t.operation = s.operation
  nextTask : t.nextTask = s.nextTask
  next : ∃ next : Task, ¬next.Due ∧ t.tasks = (s.setTask id next).tasks ∧
    (¬next.Checking ∧ t.waiting = s.waiting ∨
      next.Checking ∧ ∃ d, t.waiting = s.waiting ++ [(d, .task id)])

theorem Ran.of_same {u : Radio} {id : TaskId} (hSame : s.SameQueues t) (h : t.Ran id u) :
    s.Ran id u := by
  obtain ⟨next, hDue, hTasks, hWaiting⟩ := h.next
  refine ⟨h.ready.trans hSame.ready, h.operation.trans hSame.operation,
    h.nextTask.trans hSame.nextTask, next, hDue, ?_, ?_⟩
  · rw [hTasks, setTask, setTask, hSame.tasks]
  · rw [← hSame.waiting]
    exact hWaiting

theorem watchDrops_ran (s : Radio) (id : TaskId) (d : DeviceId) (pending : Nat) :
    s.Ran id (s.watchDrops id d pending) := by
  induction pending generalizing s with
  | zero =>
      exact ⟨rfl, rfl, rfl, .drops d 0 none, fun hDue => hDue rfl, rfl,
        Or.inl ⟨fun hChecking => hChecking, rfl⟩⟩
  | succ pending ih =>
      have hCheck := isConnected_sameQueues s d
      unfold watchDrops
      rcases hResult : s.isConnected d with ⟨t, answer | answer⟩
      all_goals
        rw [hResult] at hCheck
        refine Ran.of_same hCheck ?_
      · have hDemoted (seen : Option Nat) : t.Ran id ((t.dropped seen).watchDrops id d pending) :=
          Ran.of_same (dropped_sameQueues t seen) (ih _)
        rcases answer with error | (_ | _)
        · exact hDemoted _
        · exact hDemoted _
        · exact ih t
      · exact ⟨rfl, rfl, rfl, .drops d pending (some _), fun hDue => hDue, rfl,
          Or.inr ⟨trivial, d, rfl⟩⟩

theorem runTask_ran {id : TaskId} {task : Task} (hTask : s.task? id = some task) :
    s.Ran id (s.runTask id) := by
  unfold runTask
  rw [hTask]
  cases task with
  | notifications d connection queue =>
      simp only
      rw [foldl_frames]
      exact ⟨rfl, rfl, rfl, .notifications d connection [], fun hDue => hDue rfl, rfl,
        Or.inl ⟨fun hChecking => hChecking, rfl⟩⟩
  | drops d pending check =>
      cases check with
      | none => exact watchDrops_ran s id d pending
      | some check =>
          simp only
          split_ifs
          · exact watchDrops_ran s id d pending
          · exact Ran.of_same (dropped_sameQueues s _) (watchDrops_ran _ id d pending)

/-- The turn of a task gives nobody a turn. -/
theorem runTask_ready (s : Radio) (id : TaskId) : (s.runTask id).ready = s.ready := by
  cases hTask : s.task? id with
  | none => simp [runTask, hTask]
  | some task => exact (runTask_ran hTask).ready

theorem mem_setTask {id i : TaskId} {next task : Task} (h : (i, task) ∈ (s.setTask id next).tasks) :
    (i = id ∧ task = next) ∨ (i ≠ id ∧ (i, task) ∈ s.tasks) := by
  obtain ⟨⟨i', task'⟩, hMember, hSame⟩ := List.mem_map.mp h
  obtain ⟨rfl, rfl⟩ := Prod.mk.inj hSame
  split_ifs with hId
  · exact Or.inl ⟨hId, rfl⟩
  · exact Or.inr ⟨hId, hMember⟩

theorem setTask_mem (id : TaskId) (next : Task) {i : TaskId} {task : Task}
    (h : (i, task) ∈ s.tasks) :
    (i, if i = id then next else task) ∈ (s.setTask id next).tasks :=
  List.mem_map.mpr ⟨(i, task), h, rfl⟩

/-- The task that is first in the queue has its turn. -/
theorem Orderly.ran (h : s.Orderly) {id : TaskId} {rest : List Participant}
    (hReady : s.ready = .task id :: rest) (hRan : ({ s with ready := rest } : Radio).Ran id t) :
    t.Orderly := by
  obtain ⟨next, hDue, hTasks, hWaiting⟩ := hRan.next
  have hQueued : s.queued = .task id :: (rest ++ s.waiting.map Prod.snd) := by
    rw [queued, hReady]
    rfl
  have hOnce := h.once
  rw [hQueued, List.nodup_cons] at hOnce
  obtain ⟨extra, hWaits, hExtraOnce, hExtra⟩ : ∃ extra : List Participant,
      t.waiting.map Prod.snd = s.waiting.map Prod.snd ++ extra ∧ extra.Nodup ∧
        ∀ p, p ∈ extra ↔ p = .task id ∧ next.Checking := by
    rcases hWaiting with ⟨hNot, hSame⟩ | ⟨hChecking, d, hAdded⟩
    · exact ⟨[], by rw [hSame]; simp, .nil, fun p => by simp [hNot]⟩
    · exact ⟨[.task id], by rw [hAdded]; simp, List.nodup_singleton _, fun p => by simp [hChecking]⟩
  have hQueued' : t.queued = (rest ++ s.waiting.map Prod.snd) ++ extra := by
    rw [queued, hRan.ready, hWaits, List.append_assoc]
  have hMember {i : TaskId} {task : Task} (hTask : (i, task) ∈ t.tasks) :
      (i = id ∧ task = next) ∨ (i ≠ id ∧ (i, task) ∈ s.tasks) := by
    rw [hTasks] at hTask
    exact mem_setTask hTask
  have hKept {i : TaskId} {task : Task} (hTask : (i, task) ∈ s.tasks) :
      (i, if i = id then next else task) ∈ t.tasks := by
    rw [hTasks]
    exact setTask_mem id next hTask
  have hOther {i : TaskId} (hi : i ≠ id) : Participant.task i ≠ .task id :=
    fun hSame => hi (Participant.task.inj hSame)
  refine ⟨?_, ?_, ?_, ?_, ?_, ?_, ?_⟩
  · rw [hQueued']
    refine List.nodup_append.mpr ⟨hOnce.2, hExtraOnce, ?_⟩
    rintro p hp q hq rfl
    exact hOnce.1 (((hExtra p).mp hq).1 ▸ hp)
  · intro i hi
    rw [hRan.ready] at hi
    obtain ⟨task, hTask⟩ := h.alive i (hReady ▸ List.mem_cons_of_mem _ hi)
    exact ⟨_, hKept hTask⟩
  · intro i hi
    rw [hWaits, List.mem_append, hExtra] at hi
    rcases hi with hi | ⟨hSame, hChecking⟩
    · obtain ⟨task, hTask, hChecking⟩ := h.waits i hi
      have hNot : i ≠ id := by
        rintro rfl
        exact hOnce.1 (List.mem_append_right _ hi)
      have hTask' := hKept hTask
      rw [if_neg hNot] at hTask'
      exact ⟨task, hTask', hChecking⟩
    · obtain rfl := Participant.task.inj hSame
      obtain ⟨task, hTask⟩ := h.alive i (hReady ▸ List.mem_cons_self)
      have hTask' := hKept hTask
      rw [if_pos rfl] at hTask'
      exact ⟨next, hTask', hChecking⟩
  · rw [hQueued', hRan.operation, List.mem_append, hExtra]
    rintro (hCaller | ⟨hSame, -⟩)
    · exact h.caller (hQueued ▸ List.mem_cons_of_mem _ hCaller)
    · cases hSame
  · intro i task hTask hTaskDue
    rcases hMember hTask with ⟨-, rfl⟩ | ⟨hi, hTask⟩
    · exact absurd hTaskDue hDue
    · have hOld := h.due i task hTask hTaskDue
      rw [hReady] at hOld
      rw [hRan.ready]
      exact List.mem_of_ne_of_mem (hOther hi) hOld
  · intro i task hTask hChecking
    rw [hQueued', List.mem_append, hExtra]
    rcases hMember hTask with ⟨rfl, rfl⟩ | ⟨hi, hTask⟩
    · exact Or.inr ⟨rfl, hChecking⟩
    · have hOld := h.checking i task hTask hChecking
      rw [hQueued] at hOld
      exact Or.inl (List.mem_of_ne_of_mem (hOther hi) hOld)
  · intro i task hTask
    rw [hRan.nextTask]
    rcases hMember hTask with ⟨rfl, -⟩ | ⟨-, hTask⟩
    · obtain ⟨old, hOld⟩ := h.alive i (hReady ▸ List.mem_cons_self)
      exact h.numbered i old hOld
    · exact h.numbered i task hTask

theorem task?_of_mem {id : TaskId} {task : Task} (h : (id, task) ∈ s.tasks) :
    ∃ other, s.task? id = some other := by
  cases hTask : s.task? id with
  | some other => exact ⟨other, rfl⟩
  | none => simpa using List.lookup_eq_none_iff.mp hTask (id, task) h

/-- Where the caller is first in the queue, nothing waits for it any more once it goes on. -/
theorem Orderly.called (h : s.Orderly) {rest : List Participant}
    (hReady : s.ready = .caller :: rest) :
    ({ s with ready := rest, operation := none } : Radio).Orderly := by
  have hQueued : s.queued = .caller :: (rest ++ s.waiting.map Prod.snd) := by
    rw [queued, hReady]
    rfl
  have hOnce := h.once
  rw [hQueued, List.nodup_cons] at hOnce
  refine ⟨hOnce.2, ?_, h.waits, fun hCaller => absurd hCaller hOnce.1, ?_, ?_, h.numbered⟩
  · exact fun id hid => h.alive id (hReady ▸ List.mem_cons_of_mem _ hid)
  · intro id task hTask hDue
    have hOld := h.due id task hTask hDue
    rw [hReady] at hOld
    exact (List.mem_cons.mp hOld).resolve_left nofun
  · intro id task hTask hChecking
    have hOld := h.checking id task hTask hChecking
    rw [hQueued] at hOld
    exact (List.mem_cons.mp hOld).resolve_left nofun

theorem Orderly.poll (h : s.Orderly) (hSound : s.Sound) : s.poll.Orderly := by
  unfold Radio.poll
  cases hReady : s.ready with
  | nil => exact h
  | cons p rest =>
  cases p with
  | task id =>
      obtain ⟨task, hTask⟩ := h.alive id (hReady ▸ List.mem_cons_self)
      obtain ⟨other, hOther⟩ := task?_of_mem hTask
      exact h.ran hReady (runTask_ran hOther)
  | caller =>
      obtain ⟨suspended, hOperation⟩ :=
        Option.ne_none_iff_exists'.mp (h.caller (by simp [queued, hReady]))
      have hResumed := (polled_sound hSound hReady).resume_concludes hOperation
      exact (h.called hReady).moves suspended.point.mover_operates hResumed.moves

/-! What devices do. -/

theorem wake_spec (s : Radio) (p : Participant) :
    ∃ ready, s.wake p = { s with ready } ∧ (s.ready.Nodup → ready.Nodup) ∧
      ∀ q, q ∈ ready ↔ q ∈ s.ready ∨ q = p := by
  unfold wake
  split_ifs with hReady
  · refine ⟨s.ready, rfl, id, fun q => ⟨Or.inl, ?_⟩⟩
    rintro (hq | rfl)
    · exact hq
    · exact hReady
  · refine ⟨s.ready ++ [p], rfl, fun hOnce => ?_, by simp⟩
    refine List.nodup_append.mpr ⟨hOnce, List.nodup_singleton p, ?_⟩
    rintro q hq r hr rfl
    exact hReady (List.mem_singleton.mp hr ▸ hq)

/-- Tasks are woken one after another, and nothing else changes. -/
theorem foldl_wake_spec (chosen : List (TaskId × Task)) (s : Radio) :
    ∃ ready, chosen.foldl (fun s p => s.wake (.task p.1)) s = { s with ready } ∧
      (s.ready.Nodup → ready.Nodup) ∧
      ∀ p, p ∈ ready ↔ p ∈ s.ready ∨ ∃ id task, (id, task) ∈ chosen ∧ p = .task id := by
  induction chosen generalizing s with
  | nil => exact ⟨s.ready, rfl, id, by simp⟩
  | cons x chosen ih =>
      obtain ⟨id, task⟩ := x
      obtain ⟨woken, hWake, hOnce, hMember⟩ := wake_spec s (.task id)
      obtain ⟨ready, hState, hOnce', hMember'⟩ := ih { s with ready := woken }
      refine ⟨ready, ?_, fun h => hOnce' (hOnce h), fun p => ?_⟩
      · simp only [List.foldl_cons, hWake]
        exact hState
      · rw [hMember', hMember, or_assoc]
        refine or_congr_right ⟨?_, ?_⟩
        · rintro (hSame | ⟨i, other, hOther, hSame⟩)
          · exact ⟨id, task, List.mem_cons_self, hSame⟩
          · exact ⟨i, other, List.mem_cons_of_mem _ hOther, hSame⟩
        · rintro ⟨i, other, hOther, hSame⟩
          rcases List.mem_cons.mp hOther with hFirst | hOther
          · obtain ⟨rfl, rfl⟩ := Prod.mk.inj hFirst
            exact Or.inl hSame
          · exact Or.inr ⟨i, other, hOther, hSame⟩

/-- Those are woken that are picked. -/
theorem wakeTasks_spec (s : Radio) (select : Task → Bool) :
    ∃ ready, s.wakeTasks select = { s with ready } ∧ (s.ready.Nodup → ready.Nodup) ∧
      ∀ p, p ∈ ready ↔ p ∈ s.ready ∨
        ∃ id task, (id, task) ∈ s.tasks ∧ select task = true ∧ p = .task id := by
  obtain ⟨ready, hState, hOnce, hMember⟩ := foldl_wake_spec (s.tasks.filter fun p => select p.2) s
  refine ⟨ready, hState, hOnce, fun p => (hMember p).trans ?_⟩
  simp [and_assoc]

/-- Devices take nobody's turn away. -/
theorem ready_subset_react (s : Radio) (event : DeviceEvent) : s.ready ⊆ (s.react event).ready := by
  intro p hp
  cases event with
  | notify d payload =>
      unfold react notify
      simp only
      obtain ⟨ready, hState, -, hMember⟩ := wakeTasks_spec _ _
      rw [hState]
      exact (hMember p).mpr (Or.inl hp)
  | drop d =>
      unfold react dropLink
      simp only
      obtain ⟨ready, hState, -, hMember⟩ := wakeTasks_spec _ _
      rw [hState]
      exact (hMember p).mpr (Or.inl hp)
  | release d => exact List.mem_append_left _ hp
  | _ => exact hp

/-- Tasks are given something to do and woken for it, unless they wait for an answer. -/
theorem Orderly.woken (h : s.Orderly) (hSound : s.Sound) (next : Task → Task)
    {select : Task → Bool}
    (hDue : ∀ task, (next task).Due → task.Due ∨ select (next task) = true)
    (hChecking : ∀ task, (next task).Checking ↔ task.Checking)
    (hSelect : ∀ task, select task = true → ¬task.Checking) :
    (({ s with tasks := s.tasks.map fun (id, task) => (id, next task) } : Radio).wakeTasks
      select).Orderly := by
  obtain ⟨ready, hState, hOnce, hReady⟩ := wakeTasks_spec
    { s with tasks := s.tasks.map fun (id, task) => (id, next task) } select
  rw [hState]
  have hMember {id : TaskId} {task : Task} :
      (id, task) ∈ s.tasks.map (fun (id, task) => (id, next task)) ↔
        ∃ old, (id, old) ∈ s.tasks ∧ next old = task := by
    simp
  have hOld {p : Participant} (hp : p ∈ s.ready) : p ∈ ready := (hReady p).mpr (Or.inl hp)
  obtain ⟨hReadyOnce, hWaitingOnce, hApart⟩ := List.nodup_append.mp h.once
  refine ⟨?_, ?_, ?_, ?_, ?_, ?_, ?_⟩
  · refine List.nodup_append.mpr ⟨hOnce hReadyOnce, hWaitingOnce, ?_⟩
    rintro p hp q hq rfl
    rcases (hReady p).mp hp with hp | ⟨id, task, hTask, hPicked, rfl⟩
    · exact hApart p hp p hq rfl
    -- Whoever is picked does not wait, as the task of its number does.
    · obtain ⟨old, hOldTask, hOldChecking⟩ := h.waits id hq
      obtain ⟨old', hOldTask', rfl⟩ := hMember.mp hTask
      rw [hSound.task_unique hOldTask hOldTask'] at hPicked
      exact hSelect _ hPicked ((hChecking old).mpr hOldChecking)
  · intro id hid
    rcases (hReady _).mp hid with hid | ⟨id', task, hTask, -, hSame⟩
    · obtain ⟨old, hTask⟩ := h.alive id hid
      exact ⟨next old, hMember.mpr ⟨old, hTask, rfl⟩⟩
    · obtain rfl := Participant.task.inj hSame
      exact ⟨task, hTask⟩
  · intro id hid
    obtain ⟨old, hTask, hOldChecking⟩ := h.waits id hid
    exact ⟨next old, hMember.mpr ⟨old, hTask, rfl⟩, (hChecking old).mpr hOldChecking⟩
  · intro hCaller
    rcases List.mem_append.mp hCaller with hCaller | hCaller
    · rcases (hReady _).mp hCaller with hCaller | ⟨id, task, -, -, hSame⟩
      · exact h.caller (List.mem_append_left _ hCaller)
      · cases hSame
    · exact h.caller (List.mem_append_right _ hCaller)
  · intro id task hTask hTaskDue
    obtain ⟨old, hOldTask, rfl⟩ := hMember.mp hTask
    rcases hDue old hTaskDue with hOldDue | hPicked
    · exact hOld (h.due id old hOldTask hOldDue)
    · exact (hReady _).mpr (Or.inr ⟨id, next old, hTask, hPicked, rfl⟩)
  · intro id task hTask hTaskChecking
    obtain ⟨old, hOldTask, rfl⟩ := hMember.mp hTask
    rcases List.mem_append.mp (h.checking id old hOldTask ((hChecking old).mp hTaskChecking))
      with hQueued | hQueued
    · exact List.mem_append_left _ (hOld hQueued)
    · exact List.mem_append_right _ hQueued
  · intro id task hTask
    obtain ⟨old, hOldTask, -⟩ := hMember.mp hTask
    exact h.numbered id old hOldTask

theorem Orderly.notified (h : s.Orderly) (hSound : s.Sound) (d : DeviceId) (payload : Bytes) :
    (s.notify d payload).Orderly := by
  unfold notify
  refine h.woken hSound (Task.notified d payload) ?_ ?_ ?_
  · intro task hDue
    cases task with
    | notifications i connection queue =>
        simp only [Task.notified] at hDue ⊢
        split_ifs at hDue ⊢ with hi
        · exact Or.inr (by simpa using hi)
        · exact Or.inl hDue
    | drops i pending check => exact Or.inl hDue
  · intro task
    cases task with
    | notifications i connection queue =>
        simp only [Task.notified]
        split_ifs <;> exact Iff.rfl
    | drops i pending check => exact Iff.rfl
  · intro task hPicked
    cases task with
    | notifications i connection queue => exact fun hChecking => hChecking
    | drops i pending check => cases hPicked

theorem Orderly.linkDropped (h : s.Orderly) (hSound : s.Sound) (d : DeviceId) :
    (s.dropLink d).Orderly := by
  have hSame : (s.setDevice d { s.device d with connected := false }).Orderly :=
    h.of_same ⟨rfl, rfl, rfl, rfl, rfl⟩
  have hSound' : (s.setDevice d { s.device d with connected := false }).Sound :=
    hSound.of_same rfl rfl rfl rfl rfl (length_setDevice s d _).ge
      (staysDown_setDevice fun _ => rfl)
  unfold dropLink
  refine hSame.woken hSound' (Task.dropped d) ?_ ?_ ?_
  · intro task hDue
    cases task with
    | notifications i connection queue => exact Or.inl hDue
    | drops i pending check =>
        simp only [Task.dropped] at hDue ⊢
        split_ifs at hDue ⊢ with hi
        · cases check with
          | none => exact Or.inr (by simpa using hi)
          | some check => exact hDue.elim
        · exact Or.inl hDue
  · intro task
    cases task with
    | notifications i connection queue => exact Iff.rfl
    | drops i pending check =>
        simp only [Task.dropped]
        split_ifs <;> cases check <;> exact Iff.rfl
  · intro task hPicked
    cases task with
    | notifications i connection queue => cases hPicked
    | drops i pending check =>
        cases check with
        | none => exact fun hChecking => hChecking
        | some check => cases hPicked

theorem Orderly.released (h : s.Orderly) (d : DeviceId) : (s.release d).Orderly := by
  have hQueued : (s.release d).queued.Perm s.queued := by
    have hSplit : ((s.waiting.filter (·.1 == d)) ++ (s.waiting.filter (·.1 != d))).Perm s.waiting :=
      List.filter_append_perm _ _
    have hParticipants := (hSplit.map Prod.snd).append_left s.ready
    simp only [List.map_append, ← List.append_assoc] at hParticipants
    exact hParticipants
  refine ⟨hQueued.nodup_iff.mpr h.once, ?_, ?_, ?_, ?_, ?_, h.numbered⟩
  · intro id hid
    rcases List.mem_append.mp hid with hid | hid
    · exact h.alive id hid
    · obtain ⟨task, hTask, -⟩ := h.waits id ((List.filter_sublist.map Prod.snd).subset hid)
      exact ⟨task, hTask⟩
  · intro id hid
    exact h.waits id ((List.filter_sublist.map Prod.snd).subset hid)
  · rw [hQueued.mem_iff]
    exact h.caller
  · intro id task hTask hDue
    exact List.mem_append_left _ (h.due id task hTask hDue)
  · intro id task hTask hChecking
    exact hQueued.mem_iff.mpr (h.checking id task hTask hChecking)

theorem Orderly.reacted (h : s.Orderly) (hSound : s.Sound) (event : DeviceEvent) :
    (s.react event).Orderly := by
  cases event with
  | notify d payload => exact h.notified hSound d payload
  | drop d => exact h.linkDropped hSound d
  | release d => exact h.released d
  | _ => exact h.of_same ⟨rfl, rfl, rfl, rfl, rfl⟩

theorem Orderly.abandoned (h : s.Orderly) : s.abandon.Orderly := by
  have hQueued : s.abandon.queued = s.queued.filter (· != .caller) := queued_forget s .caller
  have hOther {id : TaskId} {p : List Participant} :
      .task id ∈ p.filter (· != .caller) ↔ .task id ∈ p := by
    simp [List.mem_filter]
  refine ⟨?_, ?_, ?_, ?_, ?_, ?_, h.numbered⟩
  · rw [hQueued]
    exact h.once.filter _
  · exact fun id hid => h.alive id (hOther.mp hid)
  · exact fun id hid => h.waits id ((List.filter_sublist.map Prod.snd).subset hid)
  · rw [hQueued]
    simp
  · exact fun id task hTask hDue => hOther.mpr (h.due id task hTask hDue)
  · intro id task hTask hChecking
    rw [hQueued]
    exact hOther.mpr (h.checking id task hTask hChecking)

theorem Orderly.started (h : s.Orderly) (operation : Operation) :
    (s.start operation).1.Orderly := by
  cases hOperation : s.operation with
  | none => exact h.moves (operation.mover_operates s) (start_concludes operation hOperation).moves
  | some suspended =>
      rw [start_of_busy hOperation]
      exact h

theorem pollTimes_orderly (h : s.Orderly) (hSound : s.Sound) (n : Nat) :
    (pollTimes n s).Orderly := by
  induction n generalizing s with
  | zero => exact h
  | succ n ih =>
      rw [pollTimes_succ]
      exact ih (h.poll hSound) (hSound.moves hSound.poll_moves)

theorem Orderly.step (h : s.Orderly) (hSound : s.Sound) (event : Event) :
    (s.step event).Orderly := by
  cases event with
  | start operation => exact h.started operation
  | abandon => exact h.abandoned
  | turn => exact h.poll hSound
  | settle => exact pollTimes_orderly h hSound _
  | device event => exact h.reacted hSound event

/-- The queues of every session are in order, whatever has happened. -/
theorem run_orderly (devices : List Device) (history : List Event) :
    ((initial devices).run history).Orderly := by
  have hInitial := initial_orderly devices
  have hSound := initial_sound devices
  generalize initial devices = s at hInitial hSound ⊢
  induction history generalizing s with
  | nil => exact hInitial
  | cons event history ih =>
      exact ih _ (hInitial.step hSound event) (hSound.moves (hSound.step_moves event))

end Radio

end LockRelay
