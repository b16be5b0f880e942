import LockRelay.Proofs.Session.Renaming

/-! Tasks, turns and devices do not look at the numbers of connections either. -/
namespace LockRelay.Radio

variable (r : Renaming) (s : Radio)

theorem task?_rename (id : TaskId) :
    (s.rename r).task? id = (s.task? id).map (Task.renumber r.number) := by
  unfold task?
  change (s.tasks.map fun p => (p.1, p.2.renumber r.number)).lookup id = _
  induction s.tasks with
  | nil => rfl
  | cons first rest ih =>
      obtain ⟨other, task⟩ := first
      simp only [List.map_cons, List.lookup_cons]
      cases id == other with
      | true => rfl
      | false => exact ih

theorem setTask_rename (id : TaskId) (task : Task) :
    (s.rename r).setTask id (task.renumber r.number) = (s.setTask id task).rename r := by
  have hTasks : ((s.rename r).setTask id (task.renumber r.number)).tasks =
      ((s.setTask id task).rename r).tasks := by
    simp only [setTask, rename, List.map_map]
    refine List.map_congr_left fun p _ => ?_
    simp only [Function.comp]
    split_ifs <;> rfl
  exact congrArg (fun tasks => { s.rename r with tasks }) hTasks

theorem wake_rename (p : Participant) : (s.rename r).wake p = (s.wake p).rename r := by
  have hReady : (s.rename r).ready = s.ready := rfl
  simp only [wake, hReady]
  split_ifs <;> rfl

theorem wakeTasks_rename {select : Task → Bool}
    (hSelect : ∀ task, select (task.renumber r.number) = select task) :
    (s.rename r).wakeTasks select = (s.wakeTasks select).rename r := by
  have hChosen : ((s.rename r).tasks.filter fun p => select p.2) =
      (s.tasks.filter fun p => select p.2).map fun p => (p.1, p.2.renumber r.number) := by
    simp [rename, List.filter_map, Function.comp_def, hSelect]
  change ((s.rename r).tasks.filter fun p => select p.2).foldl
      (fun s p => s.wake (.task p.1)) (s.rename r) =
    ((s.tasks.filter fun p => select p.2).foldl (fun s p => s.wake (.task p.1)) s).rename r
  rw [hChosen]
  generalize (s.tasks.filter fun p => select p.2) = chosen
  clear hChosen
  induction chosen generalizing s with
  | nil => rfl
  | cons first chosen ih =>
      simp only [List.map_cons, List.foldl_cons]
      rw [wake_rename]
      exact ih (s.wake (.task first.1))

theorem frames_rename (connection : ConnectionId) (queue : List Bytes) :
    queue.foldl (fun s payload => s.record (.frame (r.number connection) payload)) (s.rename r) =
      (queue.foldl (fun s payload => s.record (.frame connection payload)) s).rename r := by
  induction queue generalizing s with
  | nil => rfl
  | cons payload queue ih =>
      simp only [List.foldl_cons]
      rw [← ih, ← record_rename]
      rfl

theorem watchDrops_rename (id : TaskId) (d : DeviceId) (pending : Nat) :
    (s.rename r).watchDrops id d pending = (s.watchDrops id d pending).rename r := by
  induction pending generalizing s with
  | zero => exact setTask_rename r s id (.drops d 0 none)
  | succ pending ih =>
      have hGeneration : (s.rename r).session.generation = s.session.generation := rfl
      simp only [watchDrops, isConnected_rename, hGeneration]
      rcases s.isConnected d with ⟨t, (error | _ | _) | answer⟩
      · simp only [Prod.map, id_eq]
        rw [dropped_rename]
        exact ih (t.dropped _)
      · simp only [Prod.map, id_eq]
        rw [dropped_rename]
        exact ih (t.dropped _)
      · exact ih t
      · have hSet := setTask_rename r t id
          (.drops d pending (some ⟨s.session.generation, answer⟩))
        exact congrArg (fun u : Radio => { u with waiting := t.waiting ++ [(d, Participant.task id)] })
          hSet

theorem runTask_rename (id : TaskId) : (s.rename r).runTask id = (s.runTask id).rename r := by
  simp only [runTask, task?_rename]
  rcases s.task? id with _ | ⟨d, connection, queue⟩ | ⟨d, pending, _ | check⟩
  · rfl
  · simp only [Option.map_some, Task.renumber]
    rw [← frames_rename, ← setTask_rename]
    rfl
  · exact watchDrops_rename r s id d pending
  · simp only [Option.map_some, Task.renumber]
    split_ifs
    · exact watchDrops_rename r s id d pending
    · rw [dropped_rename]
      exact watchDrops_rename r (s.dropped _) id d pending

theorem poll_rename : (s.rename r).poll = s.poll.rename r := by
  have hReady : (s.rename r).ready = s.ready := rfl
  simp only [poll, hReady]
  rcases s.ready with _ | ⟨id | _, rest⟩
  · rfl
  · exact runTask_rename r { s with ready := rest } id
  · exact congrArg Prod.fst (resume_rename r { s with ready := rest })

theorem notify_rename (d : DeviceId) (payload : Bytes) :
    (s.rename r).notify d payload = (s.notify d payload).rename r := by
  unfold notify
  refine Eq.trans (congrArg (wakeTasks · _) ?_) (wakeTasks_rename r _ ?_)
  · simp only [rename, List.map_map, Function.comp_def]
    congr 2
    funext p
    obtain ⟨id, task⟩ := p
    cases task with
    | notifications e connection queue =>
        simp only [Task.renumber]
        split_ifs <;> rfl
    | drops e pending check => rfl
  · intro task
    cases task <;> rfl

theorem dropLink_rename (d : DeviceId) : (s.rename r).dropLink d = (s.dropLink d).rename r := by
  unfold dropLink
  refine Eq.trans (congrArg (wakeTasks · _) ?_) (wakeTasks_rename r _ ?_)
  · simp only [rename, setDevice, List.map_map, Function.comp_def]
    congr 2
    funext p
    obtain ⟨id, task⟩ := p
    cases task with
    | notifications e connection queue => rfl
    | drops e pending check =>
        simp only [Task.renumber]
        split_ifs <;> rfl
  · intro task
    rcases task with _ | ⟨e, pending, _ | check⟩ <;> rfl

theorem react_rename (event : DeviceEvent) :
    (s.rename r).react event = (s.react event).rename r := by
  cases event with
  | notify d payload => exact notify_rename r s d payload
  | drop d => exact dropLink_rename r s d
  | _ => rfl

end LockRelay.Radio
