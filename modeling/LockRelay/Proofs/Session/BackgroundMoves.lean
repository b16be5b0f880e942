import LockRelay.Proofs.Session.OperationMoves
import LockRelay.Proofs.Session.Soundness

/-! Tasks, turns and whole histories as chains of moves. Whatever a step does, the session it leaves
is sound, so every reachable session is. -/
namespace LockRelay.Radio

variable {s t : Radio} {who : Mover → Prop}

theorem Sound.moves (h : s.Sound) (hMoves : s.MovesBy who t) : t.Sound :=
  hMoves.keeps (fun _ _ _ _ hMove h => h.move hMove) h

/-- What every move of a sound session keeps holds after a chain of moves. -/
theorem Sound.keeps {P : Radio → Prop} (hSound : s.Sound) (hMoves : s.MovesBy who t)
    (hMove : ∀ m s t, who m → s.Sound → s.Move m t → P s → P t) (h : P s) : P t := by
  have hBoth : t.Sound ∧ P t := by
    refine hMoves.keeps (P := fun s => s.Sound ∧ P s) ?_ ⟨hSound, h⟩
    intro m s t hWho hStep hs
    exact ⟨hs.1.move hStep, hMove m s t hWho hs.1 hStep hs.2⟩
  exact hBoth.2

theorem dropped_advances {m : Mover} {seen : Option Nat}
    (hDropped : seen.all (· == s.session.generation) → s.session.state = .bound →
      ∃ d, s.session.link = some d ∧ s.LooksDropped d) (hMover : m.observes = true) :
    s.Advances (· = m) (s.dropped seen) := by
  obtain ⟨hDevices, -, hOperation, hConnections, -, hAcknowledged⟩ := dropped_frame s seen
  exact ⟨(Move.demoted s seen hDropped hMover).by rfl, hOperation, hAcknowledged,
    congrArg List.length hDevices, hConnections⟩

/-- A watcher demotes its link only when a check has just failed or told that it is down, and is
done only once the link is known to be up or not bound. -/
theorem watchDrops_advances {id : TaskId} {d : DeviceId} (pending : Nat) {left : Nat}
    {check : Option Check} (hTask : s.task? id = some (.drops d left check))
    (hLink : s.session.link = some d) (hAlarmed : pending ≠ 0 → left ≠ 0 ∨ check ≠ none)
    (hSeen : pending = 0 → s.session.state = .bound → (s.device d).connected = false →
      ¬s.Notices left check) : s.Advances (· = .task id) (s.watchDrops id d pending) := by
  induction pending generalizing s with
  | zero => exact .silent (.watched s id d left check hTask (hSeen rfl)) rfl rfl rfl rfl
  | succ pending ih =>
      obtain ⟨hCalled, -, hFits⟩ := isConnected_called (m := .task id) s d
      obtain ⟨-, device, -, hState⟩ := isConnected_served s d
      unfold watchDrops
      rcases hCheck : s.isConnected d with ⟨t, answer | answer⟩
      all_goals
        rw [hCheck] at hCalled hFits hState
        have hTask' : t.task? id = some (.drops d left check) := by
          unfold task?
          rw [hCalled.tasks]
          exact hTask
        have hLink' : t.session.link = some d :=
          (congrArg Session.link hCalled.session).trans hLink
        have hGeneration : s.session.generation = t.session.generation :=
          (congrArg Session.generation hCalled.session).symm
        have hAlarmed' : pending ≠ 0 → left ≠ 0 ∨ check ≠ none :=
          fun _ => hAlarmed pending.succ_ne_zero
        refine hCalled.toAdvances.trans ?_
      -- The check is answered at once.
      · have hDemoted (hLooks : t.LooksDropped d) : t.Advances (· = .task id)
            ((t.dropped (some s.session.generation)).watchDrops id d pending) := by
          obtain ⟨-, hTasks, -, -, hLink'', -⟩ := dropped_frame t (some s.session.generation)
          refine (dropped_advances (fun _ _ => ⟨d, hLink', hLooks⟩) rfl).trans
            (ih ?_ ?_ hAlarmed' ?_)
          · unfold task?
            rw [hTasks]
            exact hTask'
          · exact hLink''.trans hLink'
          · intro _ hBound
            refine absurd ?_ (stale_of_dropped_bound hBound)
            rw [(generation_dropped t _).trans hGeneration.symm]
            simp
        rcases answer with error | connected
        · exact hDemoted (Or.inr ⟨⟨id, left, check, mem_of_task? hTask',
            hAlarmed pending.succ_ne_zero⟩, s.trace, congrArg trace hState⟩)
        · cases connected with
          | true =>
              refine ih hTask' hLink' hAlarmed' fun _ _ hFalse => ?_
              cases hFits.trans hFalse
          | false => exact hDemoted (Or.inl hFits.symm)
      -- The answer is held back.
      · have hAnswer : answer = (t.device d).connected := hFits
        rw [hAnswer, hGeneration]
        exact .silent (.watcherHeld t id d left pending check hTask'
          (hAlarmed pending.succ_ne_zero)) rfl rfl rfl rfl

theorem runTask_advances (h : s.Sound) (id : TaskId) :
    s.Advances (· = .task id) (s.runTask id) := by
  unfold runTask
  cases hTask : s.task? id with
  | none => exact .refl s
  | some task =>
  cases task with
  | notifications d connection queue =>
      simp only
      refine ⟨(Move.delivered s id d connection queue hTask).by rfl, ?_, ?_, ?_, ?_⟩
      · rw [foldl_frames]
        rfl
      · exact acknowledged_frames (s.setTask id _) connection queue
      · rw [foldl_frames]
        rfl
      · rw [foldl_frames]
        rfl
  | drops d pending check =>
      have hMember := mem_of_task? hTask
      have hLink := h.link_of_drops hMember
      have hAlarmed : pending ≠ 0 → pending ≠ 0 ∨ check ≠ none := Or.inl
      cases check with
      | none =>
          refine watchDrops_advances pending hTask hLink hAlarmed ?_
          simp +contextual [Notices]
      | some check =>
          simp only
          cases hAnswer : check.answer with
          | true =>
              refine watchDrops_advances pending hTask hLink hAlarmed ?_
              simp +contextual [Notices, hAnswer]
          | false =>
              obtain ⟨-, hTasks, -, -, hLink', -⟩ := dropped_frame s (some check.generation)
              have hTask' : (s.dropped (some check.generation)).task? id =
                  some (.drops d pending (some check)) :=
                (congrArg (List.lookup id) hTasks).trans hTask
              refine (dropped_advances (fun hSame hBound => ⟨d, hLink, Or.inl ?_⟩) rfl).trans
                (watchDrops_advances pending hTask' (hLink'.trans hLink) hAlarmed ?_)
              · have hTrusts := h.checks id d pending check hMember
                exact hTrusts.2 hAnswer (by simpa using hSame) hBound
              · rintro rfl hBound - (hPending | ⟨c, hSame, -, hGeneration⟩)
                · exact hPending rfl
                · cases hSame
                  exact stale_of_dropped_bound hBound (by simpa using hGeneration)

theorem polled_sound (h : s.Sound) {p : Participant} {rest : List Participant}
    (hReady : s.ready = p :: rest) : ({ s with ready := rest } : Radio).Sound :=
  h.move (.polled s p rest hReady)

/-- The caller's turn, when an operation waits. -/
theorem Sound.resume_concludes (h : s.Sound) {suspended : Suspended}
    (hOperation : s.operation = some suspended) :
    Concludes suspended.point.mover suspended.point.payload 0 { s with operation := none }
      s.resume :=
  Radio.resume_concludes hOperation (h.suspended suspended hOperation)

/-- Some movers, among them all who act in the background. -/
structure Background (who : Mover → Prop) : Prop where
  scheduler : who .scheduler
  task : ∀ id, who (.task id)

/-- The operation that waits, if one does, is the work of some movers. -/
def InProgress (who : Mover → Prop) (s : Radio) : Prop :=
  ∀ suspended, s.operation = some suspended → who suspended.point.mover

/-- An event is the work of some movers, apart from what goes on in the background. -/
def Admits (who : Mover → Prop) (s : Radio) : Event → Prop
  | .start operation => s.operation = none → who (operation.mover s)
  | .device event => who (.device event)
  | .abandon | .turn | .settle => True

/-- A move keeps what the caller waits for, or nothing waits after it, unless the mover's own
operation comes to wait. -/
theorem Move.operation_cases {m : Mover} (hMove : s.Move m t) :
    t.operation = s.operation ∨ t.operation = none ∨
      ∃ suspended, t.operation = some suspended ∧ suspended.point.mover = m := by
  cases hMove with
  | suspended d answer point hIdle hWaits hMover => exact Or.inr (Or.inr ⟨_, rfl, hMover⟩)
  | resumed | abandoned => exact Or.inr (Or.inl rfl)
  | cleared => exact Or.inl (operation_clear s)
  | readopted d endpoints => exact Or.inl (readopt_frame s d endpoints).2.1
  | demoted seen => exact Or.inl (dropped_frame s seen).2.2.1
  | delivered id d connection queue hTask =>
      rw [foldl_frames]
      exact Or.inl rfl
  | woken p =>
      unfold wake
      split_ifs <;> exact Or.inl rfl
  | reacted event => exact Or.inl (react_frame s event).2.1
  | _ => exact Or.inl rfl

theorem InProgress.move {m : Mover} (h : s.InProgress who) (hWho : who m) (hMove : s.Move m t) :
    t.InProgress who := by
  intro suspended hOperation
  rcases hMove.operation_cases with hSame | hNone | ⟨other, hOther, hMover⟩
  · exact h suspended (hSame.symm.trans hOperation)
  · cases hNone.symm.trans hOperation
  · cases hOther.symm.trans hOperation
    exact hMover ▸ hWho

theorem InProgress.moves (h : s.InProgress who) (hMoves : s.MovesBy who t) : t.InProgress who :=
  hMoves.keeps (fun _ _ _ hWho hMove h => h.move hWho hMove) h

theorem Sound.resume_movesBy (h : s.Sound) (hWho : Background who)
    (hWaits : s.InProgress who) : s.MovesBy who s.resume.1 := by
  cases hOperation : s.operation with
  | none =>
      rw [resume_of_idle hOperation]
  | some suspended =>
      refine Relation.ReflTransGen.head ⟨.scheduler, hWho.scheduler, .resumed s⟩ ?_
      exact (h.resume_concludes hOperation).moves.among (hWaits suspended hOperation)

theorem Sound.poll_movesBy (h : s.Sound) (hWho : Background who) (hWaits : s.InProgress who) :
    s.MovesBy who s.poll := by
  unfold poll
  cases hReady : s.ready with
  | nil => exact .refl
  | cons p rest =>
      have hPolled := polled_sound h hReady
      refine Relation.ReflTransGen.head ⟨.scheduler, hWho.scheduler, .polled s p rest hReady⟩ ?_
      cases p with
      | task id => exact (runTask_advances hPolled id).moves.among (hWho.task id)
      | caller => exact hPolled.resume_movesBy hWho hWaits

theorem Sound.pollTimes_movesBy (h : s.Sound) (hWho : Background who) (hWaits : s.InProgress who)
    (n : Nat) : s.MovesBy who (pollTimes n s) := by
  induction n generalizing s with
  | zero => exact .refl
  | succ n ih =>
      have hPolled := h.poll_movesBy hWho hWaits
      unfold pollTimes
      split_ifs
      · exact .refl
      · exact hPolled.trans (ih (h.moves hPolled) (hWaits.moves hPolled))

theorem start_movesBy {operation : Operation}
    (hWho : s.operation = none → who (operation.mover s)) : s.MovesBy who (s.start operation).1 := by
  cases hOperation : s.operation with
  | none => exact (start_concludes operation hOperation).moves.among (hWho hOperation)
  | some suspended =>
      rw [start_of_busy hOperation]

/-- An event is a chain of moves by those whose work it is, and in the background. -/
theorem Sound.step_movesBy (h : s.Sound) (hWho : Background who) (hWaits : s.InProgress who)
    {event : Event} (hEvent : s.Admits who event) : s.MovesBy who (s.step event) := by
  cases event with
  | start operation => exact start_movesBy hEvent
  | abandon => exact (Move.abandoned s).by hWho.scheduler
  | turn => exact h.poll_movesBy hWho hWaits
  | settle => exact h.pollTimes_movesBy hWho hWaits _
  | device event => exact (Move.reacted s event).by hEvent

theorem Sound.step_moves (h : s.Sound) (event : Event) : s.Moves (s.step event) := by
  refine h.step_movesBy ⟨trivial, fun _ => trivial⟩ (fun _ _ => trivial) ?_
  cases event <;> simp [Admits]

theorem Sound.poll_moves (h : s.Sound) : s.Moves s.poll := h.step_moves .turn

theorem Sound.run_moves (h : s.Sound) (history : List Event) : s.Moves (s.run history) := by
  induction history generalizing s with
  | nil => exact .refl
  | cons event history ih =>
      exact (h.step_moves event).trans (ih (h.moves (h.step_moves event)))

/-- Every session is sound, whatever has happened. -/
theorem run_sound (devices : List Device) (history : List Event) :
    ((initial devices).run history).Sound :=
  (initial_sound devices).moves ((initial_sound devices).run_moves history)

end LockRelay.Radio
