import LockRelay.Proofs.Session.Told

/-! How a send binds the link again. A send that waits has not done so yet, and where the caller is
told of one that has, the link is bound and up. -/
namespace LockRelay.Radio

variable {s t : Radio} {m : Mover}

structure BoundUp (s : Radio) (d : DeviceId) : Prop where
  link : s.session.link = some d
  state : s.session.state = .bound
  connected : (s.device d).connected = true

/-- A write changes neither the session nor which devices are connected. -/
theorem writeOut_quiet (s : Radio) (data : Bytes) :
    (s.writeOut data).1.session = s.session ∧
      (s.writeOut data).1.operation = s.operation ∧
      (∀ i, ((s.writeOut data).1.device i).connected = (s.device i).connected) ∧
      ∃ result, (s.writeOut data).2 = .done (.send result) := by
  unfold writeOut
  cases hLink : s.session.link with
  | none => exact ⟨rfl, rfl, fun _ => rfl, _, rfl⟩
  | some d =>
  cases s.session.endpoints with
  | none => exact ⟨rfl, rfl, fun _ => rfl, _, rfl⟩
  | some endpoints =>
  obtain ⟨device, hServed, hState⟩ := write_served s d endpoints.outbound data
  have hConnected := connected_of_served hServed hState rfl
  rcases hResult : s.write d endpoints.outbound data with ⟨t, error | ⟨⟩⟩
  all_goals
    rw [hResult] at hState hConnected
    have hSession : t.session = s.session := (congrArg session hState).trans rfl
    have hOperation : t.operation = s.operation := (congrArg operation hState).trans rfl
    simp only [hResult]
    exact ⟨hSession, hOperation, hConnected, _, rfl⟩

/-- A part of a send leaves the generation as it was, or it has bound the link again and ends. -/
def BindsAgain (s : Radio) (p : Radio × Progress) : Prop :=
  p.1.session.generation = s.session.generation ∨
    (∃ outcome, p.2 = .done outcome) ∧ ∃ d, p.1.BoundUp d

theorem BindsAgain.after {p : Radio × Progress}
    (hGeneration : t.session.generation = s.session.generation) (h : t.BindsAgain p) :
    s.BindsAgain p := by
  unfold BindsAgain
  rw [← hGeneration]
  exact h

theorem rebind_bindsAgain (data : Bytes) (connected : Except LinkError Bool)
    (hIdle : s.operation = none) (hState : s.session.state ≠ .bound) :
    s.BindsAgain (s.rebind data connected) := by
  unfold rebind
  cases hLink : s.session.link with
  | none => exact Or.inl rfl
  | some d =>
  cases s.session.filter with
  | none => exact Or.inl rfl
  | some filter =>
  simp only
  obtain ⟨hBind, hSubscribed⟩ := bindLink_called (m := .sending) filter connected (s := s) (d := d)
    ⟨hIdle, Or.inr ⟨hLink, hState⟩⟩
  rcases hResult : s.bindLink d filter connected with ⟨t, error | none | endpoints⟩
  all_goals
    rw [hResult] at hBind hSubscribed
    have hGeneration : t.session.generation = s.session.generation :=
      congrArg Session.generation hBind.session
  · exact Or.inl hGeneration
  · obtain ⟨device, -, hDisconnected⟩ := disconnectLink_served t d
    exact Or.inl ((congrArg (·.session.generation) hDisconnected).trans hGeneration)
  · obtain ⟨-, hConnected⟩ := hSubscribed endpoints rfl
    obtain ⟨hDevices, -, -, -, hLink', hBound⟩ := readopt_frame t d endpoints
    obtain ⟨hSession, -, hSame, result, hDone⟩ := writeOut_quiet (t.readopt d endpoints) data
    refine Or.inr ⟨⟨_, hDone⟩, d, ?_, ?_, ?_⟩
    · rw [hSession, hLink', hBind.session]
      exact hLink
    · rw [hSession]
      exact hBound
    · rw [hSame, device, hDevices]
      exact hConnected

theorem sendChecked_bindsAgain (data : Bytes) (connected : Except LinkError Bool)
    (hIdle : s.operation = none) : s.BindsAgain (s.sendChecked data connected) := by
  unfold sendChecked
  rcases connected with error | (_ | _)
  · exact Or.inl rfl
  · cases s.session.link with
    | none => exact Or.inl rfl
    | some d =>
    cases s.session.filter with
    | none => exact Or.inl rfl
    | some filter =>
    simp only
    obtain ⟨-, -, hOperation, -⟩ := dropped_frame s none
    obtain ⟨hCalled, -⟩ := isConnected_called (m := .sending) (s.dropped none) d
    refine BindsAgain.after (generation_dropped s none) ?_
    unfold ask
    rcases hCheck : (s.dropped none).isConnected d with ⟨t, answer | answer⟩
    all_goals
      rw [hCheck] at hCalled
      have hGeneration := congrArg Session.generation hCalled.session
    · refine BindsAgain.after hGeneration (rebind_bindsAgain data answer ?_ ?_)
      · exact hCalled.operation.trans (hOperation.trans hIdle)
      · rw [hCalled.session]
        exact state_dropped_none s
    · exact Or.inl hGeneration
  · exact Or.inl (congrArg Session.generation (writeOut_quiet s data).1)

theorem send_bindsAgain (data : Bytes) (hIdle : s.operation = none) :
    s.BindsAgain (s.send data) := by
  unfold send
  cases s.session.link with
  | none => exact Or.inl rfl
  | some d =>
  cases s.session.endpoints with
  | none => exact Or.inl rfl
  | some endpoints =>
  simp only
  obtain ⟨hCalled, -⟩ := isConnected_called (m := .sending) s d
  unfold ask
  rcases hCheck : s.isConnected d with ⟨t, answer | answer⟩
  all_goals
    rw [hCheck] at hCalled
    have hGeneration := congrArg Session.generation hCalled.session
  · exact BindsAgain.after hGeneration
      (sendChecked_bindsAgain data answer (hCalled.operation.trans hIdle))
  · exact Or.inl hGeneration

theorem BindsAgain.note {p : Radio × Progress} (h : s.BindsAgain p) :
    (note p).1.session.generation = s.session.generation ∨
      (note p).2.isSome ∧ ∃ d, (note p).1.BoundUp d := by
  obtain ⟨t, outcome | ⟨e, answer, point⟩⟩ := p
  · rcases h with hSame | ⟨-, d, hLink, hState, hConnected⟩
    · exact Or.inl hSame
    · exact Or.inr ⟨rfl, d, hLink, hState, hConnected⟩
  · rcases h with hSame | ⟨⟨outcome, ⟨⟩⟩, -⟩
    exact Or.inl hSame

/-- A send that waits leaves the generation as it was when it goes on, or it has bound the link again
and ends. -/
theorem Sound.resume_bindsAgain (hSound : s.Sound) {suspended : Suspended}
    (hOperation : s.operation = some suspended) (hSends : suspended.point.mover = .sending) :
    s.resume.1.session.generation = s.session.generation ∨
      s.resume.2.isSome ∧ ∃ d, s.resume.1.BoundUp d := by
  have hContinued : BindsAgain { s with operation := none }
      ({ s with operation := none }.continueAt suspended.point (.ok suspended.answer)) := by
    have hWaits := hSound.suspended suspended hOperation
    cases hPoint : suspended.point with
    | sending data => exact sendChecked_bindsAgain data _ rfl
    | rebinding data =>
        rw [hPoint] at hWaits
        exact rebind_bindsAgain data _ rfl hWaits.2
    | replacing | binding | disconnecting => simp [hPoint, Point.mover] at hSends
  rw [resume_of_busy hOperation]
  exact hContinued.note

/-- Only who binds a link or takes it down changes the generation. -/
theorem Move.generation_eq (hMove : s.Move m t) (hMover : m.tearsDown = false)
    (hSends : m ≠ .sending) : t.session.generation = s.session.generation := by
  cases hMove with
  | discovered | assigned | adopted => cases hMover
  | cleared hIdle hTearsDown => cases hTearsDown.symm.trans hMover
  | readopted => exact absurd rfl hSends
  | demoted seen => exact generation_dropped s seen
  | delivered id i connection queue =>
      rw [foldl_frames]
      rfl
  | woken p =>
      unfold wake
      split_ifs <;> rfl
  | reacted event =>
      obtain ⟨hSession, -⟩ := react_frame s event
      rw [hSession]
  | _ => rfl

theorem runTask_generation (hSound : s.Sound) (id : TaskId) :
    (s.runTask id).session.generation = s.session.generation := by
  refine (runTask_advances hSound id).moves.keeps
    (P := fun t => t.session.generation = s.session.generation) ?_ rfl
  rintro _ u v rfl hMove hSame
  exact (hMove.generation_eq rfl nofun).trans hSame

/-- A send is in progress, and waits. -/
def Sends (s : Radio) : Prop :=
  ∃ suspended, s.operation = some suspended ∧ suspended.point.mover = .sending

/-- Where a send waits after a turn, it waited before, and has not bound the link again. -/
theorem Sends.of_poll (h : s.poll.Sends) (hSound : s.Sound) :
    s.Sends ∧ s.poll.session.generation = s.session.generation := by
  obtain ⟨waits, hWaits, hSending⟩ := h
  unfold poll at hWaits ⊢
  cases hReady : s.ready with
  | nil =>
      rw [hReady] at hWaits
      exact ⟨⟨waits, hWaits, hSending⟩, rfl⟩
  | cons p rest =>
  rw [hReady] at hWaits
  have hPolled := polled_sound hSound hReady
  cases p with
  | task id =>
      have hRan := runTask_advances hPolled id
      exact ⟨⟨waits, hRan.operation.symm.trans hWaits, hSending⟩, runTask_generation hPolled id⟩
  | caller =>
      simp only at hWaits ⊢
      rcases Option.eq_none_or_eq_some s.operation with hOperation | ⟨suspended, hOperation⟩
      · unfold resume at hWaits
        simp only [hOperation] at hWaits
        cases hWaits
      · have hConcludes := hPolled.resume_concludes hOperation
        have hIdle : ({ s with ready := rest, operation := none } : Radio).InProgress
            (· = suspended.point.mover) := nofun
        have hSame : waits.point.mover = suspended.point.mover :=
          hIdle.moves hConcludes.moves waits hWaits
        have hSends := hSame.symm.trans hSending
        refine ⟨⟨suspended, hOperation, hSends⟩, ?_⟩
        rcases hPolled.resume_bindsAgain hOperation hSends with hKept | ⟨hEnds, -⟩
        · exact hKept
        · obtain ⟨outcome, hOutcome⟩ := Option.isSome_iff_exists.mp hEnds
          have hStands := hConcludes.stands
          rw [hOutcome] at hStands
          cases hStands.1.symm.trans hWaits

theorem Sends.of_turns {n : Nat} (h : (s.run (turns n)).Sends) (hSound : s.Sound) :
    (s.run (turns n)).session.generation = s.session.generation := by
  induction n with
  | zero => rfl
  | succ n ih =>
      rw [turns, List.replicate_succ', run_concat] at h ⊢
      obtain ⟨hBefore, hSame⟩ := h.of_poll (hSound.moves (hSound.run_moves (turns n)))
      exact hSame.trans (ih hBefore)

theorem sending_of_ends {result : Except SendError Unit} (h : m.Ends (.send result)) :
    m = .sending := by
  cases m with
  | sending => rfl
  | _ => cases h

theorem Operation.send_of_ends {operation : Operation} {result : Except SendError Unit}
    (h : (operation.mover s).Ends (.send result)) : ∃ data, operation = .send data := by
  cases operation with
  | send data => exact ⟨data, rfl⟩
  | disconnect => exact h.elim
  | connect serial =>
      simp only [mover] at h
      split at h <;> exact h.elim

theorem Operation.connect_of_ends {serial : UInt64} {outcome : Outcome}
    (h : ((Operation.connect serial).mover s).Ends outcome) : ∃ result, outcome = .connect result := by
  simp only [mover] at h
  rcases outcome with result | result | result
  · exact ⟨result, rfl⟩
  all_goals split at h <;> exact h.elim

/-- Where a caller is told of a send that has bound the link again, the link is bound and up. -/
theorem boundUp_of_told {devices : List Device} {history : List Event} {event : Event}
    {result : Except SendError Unit}
    (hTold : (Outcome.send result, t) ∈ ((initial devices).run history).toldBy event)
    (hAgain : ((initial devices).run history).session.generation < t.session.generation) :
    t.operation = none ∧ (∃ before, t = (initial devices).run before) ∧ ∃ d, t.BoundUp d := by
  rcases mem_toldBy hTold with ⟨operation, -, hStart⟩ | ⟨-, i, hTurn⟩
  · obtain ⟨hIdle, hEnded⟩ := start_ended hStart
    refine ⟨hEnded.idle, ⟨history ++ [.start operation], ?_⟩, ?_⟩
    · rw [run_concat]
      exact (congrArg Prod.fst hStart).symm
    · obtain ⟨data, rfl⟩ := Operation.send_of_ends hEnded.ends
      unfold start at hStart
      simp only [hIdle, Option.isSome_none, Bool.false_eq_true, if_false] at hStart
      have hBinds := (send_bindsAgain data hIdle).note
      rw [hStart] at hBinds
      rcases hBinds with hSame | ⟨-, hBound⟩
      · exact absurd hSame hAgain.ne'
      · exact hBound
  · have hSound := run_sound devices history
    have hTurns := hSound.moves (hSound.run_moves (turns i))
    obtain ⟨rest, suspended, hReady, hOperation, hResume⟩ := mem_toldByTurn hTurn
    have hPolled := polled_sound hTurns hReady
    have hEnded := hPolled.resume_ended hOperation hResume
    refine ⟨hEnded.idle, ⟨history ++ turns i ++ [.turn], ?_⟩, ?_⟩
    · rw [run_concat, run_append, step, poll, hReady]
      exact (congrArg Prod.fst hResume).symm
    · have hSends := sending_of_ends hEnded.ends
      have hBefore : (((initial devices).run history).run (turns i)).Sends :=
        ⟨suspended, hOperation, hSends⟩
      have hBinds := hPolled.resume_bindsAgain hOperation hSends
      rw [hResume] at hBinds
      rcases hBinds with hSame | ⟨-, hBound⟩
      · exact absurd (hSame.trans (hBefore.of_turns hSound)) hAgain.ne'
      · exact hBound

end LockRelay.Radio
