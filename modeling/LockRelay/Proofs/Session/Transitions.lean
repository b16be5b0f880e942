import LockRelay.Proofs.Session.Connecting

/-! The changes of state over whole histories, each with who makes it. They follow the machine, and
the session becomes idle exactly where a connect starts without a link and finds no device, also
when it has been bound before. -/
namespace LockRelay.Radio

variable {s t : Radio} {m : Mover}

/-- What holds between turns: the session is sound and furnished, and in the state in which the
operation in progress waits. -/
structure Regular (s : Radio) : Prop where
  sound : s.Sound
  furnished : s.Furnished
  poised : ∀ suspended, s.operation = some suspended → s.StandsAt suspended.point

theorem initial_regular (devices : List Device) : (initial devices).Regular :=
  ⟨initial_sound devices, initial_furnished devices, nofun⟩

/-- An operation that waits for a device holds no link, and its state is kept by all others. -/
theorem StandsAt.move {answer : Bool} {point : Point} (h : s.StandsAt point) (hSound : s.Sound)
    (hWaits : s.WaitsAt answer point) (hMover : m.operates = false) (hMove : s.Move m t) :
    t.StandsAt point := by
  have hState (hLink : s.session.link = none) : t.session.state = s.session.state :=
    hMove.state_eq hSound hLink hMover
  cases point with
  | replacing request d => exact ⟨(hState hWaits.1).trans h.1, h.2⟩
  | binding request d => exact (hState hWaits.1).trans h
  | disconnecting d => exact (hState hWaits).trans h
  | sending data | rebinding data => trivial

theorem Regular.move (h : s.Regular) (hMover : m.operates = false) (hMove : s.Move m t) :
    t.Regular := by
  refine ⟨h.sound.move hMove, h.furnished.move hMove, fun suspended hOperation => ?_⟩
  rcases hMove.operation_cases with hSame | hNone | ⟨other, hOther, hSame⟩
  · have hBefore := hSame.symm.trans hOperation
    exact (h.poised suspended hBefore).move h.sound (h.sound.suspended suspended hBefore) hMover
      hMove
  · cases hNone.symm.trans hOperation
  · have hOperates := other.point.mover_operates
    rw [hSame, hMover] at hOperates
    cases hOperates

/-- Moves by one who is no operation. -/
theorem Regular.background (h : s.Regular) (hMover : m.operates = false)
    (hMoves : s.MovesBy (· = m) t) : t.Regular ∧ Passes m False s t := by
  have hRegular : t.Regular := by
    refine hMoves.keeps ?_ h
    rintro _ u v rfl hMove h
    exact h.move hMover hMove
  refine ⟨hRegular, h.furnished.passes ?_ hMoves⟩
  rintro k rfl
  cases hMover

/-- Where an operation waits that one has begun who had none in progress. -/
theorem mover_of_moves (hIdle : s.operation = none) (hMoves : s.MovesBy (· = m) t)
    {suspended : Suspended} (hOperation : t.operation = some suspended) :
    suspended.point.mover = m := by
  have hNothing : s.InProgress (· = m) := by simp [InProgress, hIdle]
  exact hNothing.moves hMoves suspended hOperation

/-- Whose operation waits at a point that is not a connect's, and in which state. -/
theorem standsAt_of_mover {point : Point} (hMover : point.mover = m)
    (hConnects : ∀ k, m ≠ .connecting k)
    (hState : m = .disconnecting → s.session.state = .disconnected) : s.StandsAt point := by
  subst hMover
  cases point with
  | replacing request d | binding request d => exact absurd rfl (hConnects _)
  | disconnecting d => exact hState rfl
  | sending data | rebinding data => trivial

/-- An operation that is no connect, from where it begins or goes on to its next stop. -/
theorem Regular.of_moves (h : s.Regular) (hIdle : s.operation = none)
    (hConnects : ∀ k, m ≠ .connecting k) (hMoves : s.MovesBy (· = m) t)
    (hState : m = .disconnecting → t.session.state = .disconnected) :
    t.Regular ∧ Passes m False s t := by
  refine ⟨⟨h.sound.moves hMoves, h.furnished.moves hMoves, fun _ hOperation => ?_⟩,
    h.furnished.passes hConnects hMoves⟩
  exact standsAt_of_mover (mover_of_moves hIdle hMoves hOperation) hConnects hState

/-- A connect, from where it starts or goes on to its next stop. -/
theorem Pursues.regular {request : ConnectRequest} {idles : Prop} {p : Radio × Progress}
    {payload : Option Bytes} {asked : Nat} (h : Pursues request idles s p) (hSound : s.Sound)
    (hFurnished : s.Furnished)
    (hConcludes : Concludes (.connecting request.connection) payload asked s (note p)) :
    (note p).1.Regular ∧ Passes (.connecting request.connection) idles s (note p).1 ∧
      ∀ outcome, (note p).2 = some outcome → (note p).1.session.state ≠ .connecting := by
  have hPoised : ∀ suspended, (note p).1.operation = some suspended →
      (note p).1.StandsAt suspended.point := by
    intro suspended hOperation
    obtain ⟨t, outcome | ⟨d, answer, point⟩⟩ := p
    · cases hConcludes.stands.1.symm.trans hOperation
    · obtain rfl : ⟨answer, point⟩ = suspended := Option.some.inj hOperation
      exact h.stands.2
  refine ⟨⟨hSound.moves hConcludes.moves, hFurnished.moves hConcludes.moves, hPoised⟩, ?_, ?_⟩
  · obtain ⟨t, outcome | ⟨d, answer, point⟩⟩ := p
    · have hReturned : Passes (.connecting request.connection) False t
          (t.record (.returned outcome)) := .of_quiet [_] rfl (by simp [Effect.assigned?]) rfl
      exact (h.passes.trans hReturned).congr (by simp)
    · exact h.passes
  · intro outcome hOutcome
    obtain ⟨t, outcome' | ⟨d, answer, point⟩⟩ := p
    · exact h.stands
    · cases hOutcome

theorem session_note (p : Radio × Progress) : (note p).1.session = p.1.session := by
  obtain ⟨t, outcome | ⟨d, answer, point⟩⟩ := p <;> rfl

theorem finishDisconnect_session {d : DeviceId} {connected : Except LinkError Bool}
    (hIdle : s.operation = none) (hLink : s.session.link = none) :
    (note (s.finishDisconnect d connected)).1.session = s.session :=
  (session_note _).trans
    (takeDown_called (m := .disconnecting) connected ⟨hIdle, Or.inl hLink⟩).session

/-- A disconnect takes everything from the session at once. -/
theorem disconnect_session (hIdle : s.operation = none) :
    (note s.disconnect).1.session = s.clear.session := by
  unfold disconnect
  cases s.session.link with
  | none => rfl
  | some d =>
      obtain ⟨hCalled, -⟩ := isConnected_called (m := .disconnecting) s.clear d
      have hIdle' : (s.clear.isConnected d).1.operation = none :=
        hCalled.operation.trans ((operation_clear s).trans hIdle)
      have hSession := hCalled.session
      have hLink : (s.clear.isConnected d).1.session.link = none := congrArg Session.link hSession
      simp only
      unfold ask
      rcases hCheck : s.clear.isConnected d with ⟨t, answer | answer⟩
      all_goals rw [hCheck] at hSession hIdle' hLink
      · exact (finishDisconnect_session hIdle' hLink).trans hSession
      · exact hSession

theorem disconnect_state (hIdle : s.operation = none) :
    (note s.disconnect).1.session.state = .disconnected :=
  congrArg Session.state (disconnect_session hIdle)

/-- A connect that starts where no link is held, and whose discovery is going to end without a
device. -/
def FindsNobody (s : Radio) : Event → Prop
  | .start (.connect serial) => s.operation = none ∧ s.session.link = none ∧
      ∃ filter, DiscoveryFilter.forSerial serial = .ok filter ∧ s.Deserted filter
  | _ => False

/-- An operation starts. -/
theorem Regular.started (h : s.Regular) (operation : Operation) (hIdle : s.operation = none) :
    (s.start operation).1.Regular ∧
      Passes (operation.mover s) (s.FindsNobody (.start operation)) s (s.start operation).1 ∧
      ∀ outcome, (s.start operation).2 = some outcome →
        ((s.start operation).1.session.state = .connecting ↔
          s.session.state = .connecting ∧ (operation.mover s).tearsDown = false) := by
  have hConcludes := start_concludes operation hIdle
  cases operation with
  | connect serial =>
      cases hFilter : DiscoveryFilter.forSerial serial with
      | ok filter =>
          have hMover : (Operation.connect serial).mover s = .connecting s.connections := by
            simp only [Operation.mover, hFilter]
          obtain ⟨request, hConnection, -, hPursues⟩ :=
            connect_pursues h.sound h.furnished hIdle hFilter
          rw [hMover, ← hConnection] at hConcludes ⊢
          rw [start_connect hIdle] at hConcludes ⊢
          obtain ⟨hRegular, hPasses, hEnds⟩ :=
            hPursues.regular h.sound h.furnished hConcludes
          refine ⟨hRegular, hPasses.congr ?_, fun outcome hOutcome => ?_⟩
          · simp [FindsNobody, hIdle, hFilter]
          · simp [hEnds outcome hOutcome, Mover.tearsDown]
      | error error =>
          have hMover : (Operation.connect serial).mover s = .refusing := by
            simp only [Operation.mover, hFilter]
          have hState : (s.start (.connect serial)).1.session.state = s.session.state := by
            simp [start, hIdle, connect, hFilter, note, record]
          rw [hMover] at hConcludes ⊢
          obtain ⟨hRegular, hPasses⟩ := h.of_moves hIdle (by simp) hConcludes.moves (by simp)
          refine ⟨hRegular, hPasses.congr ?_, fun _ _ => ?_⟩
          · simp [FindsNobody, hFilter]
          · simp [hPasses.connecting_iff rfl, Mover.tearsDown]
  | send data =>
      obtain ⟨hRegular, hPasses⟩ :=
        h.of_moves (m := .sending) hIdle (by simp) hConcludes.moves (by simp)
      refine ⟨hRegular, hPasses.congr (by simp [FindsNobody]), fun _ _ => ?_⟩
      simp [hPasses.connecting_iff rfl, Operation.mover, Mover.tearsDown]
  | disconnect =>
      have hState := disconnect_state hIdle
      rw [start_disconnect hIdle] at hConcludes ⊢
      obtain ⟨hRegular, hPasses⟩ :=
        h.of_moves (m := .disconnecting) hIdle (by simp) hConcludes.moves fun _ => hState
      refine ⟨hRegular, hPasses.congr (by simp [FindsNobody]), fun _ _ => ?_⟩
      simp [hState, Operation.mover, Mover.tearsDown]

/-- A connect goes on from where it waits. -/
theorem Regular.continueAt_pursues (h : s.Regular) {suspended : Suspended}
    {request : ConnectRequest} (hOperation : s.operation = some suspended)
    (hRequest : suspended.point.request? = some request) :
    Pursues request False { s with operation := none }
      ({ s with operation := none }.continueAt suspended.point (.ok suspended.answer)) := by
  have hWaits := h.sound.suspended suspended hOperation
  have hStands := h.poised suspended hOperation
  cases hPoint : suspended.point with
  | replacing other d =>
      rw [hPoint] at hWaits hStands hRequest
      obtain rfl : other = request := Option.some.inj hRequest
      exact replace_pursues d _ rfl hWaits.1 (h.sound.unlinked hWaits.1).filter hStands.1 hStands.2
  | binding other d =>
      rw [hPoint] at hWaits hStands hRequest
      obtain rfl : other = request := Option.some.inj hRequest
      exact bindFound_pursues d _ rfl hWaits.1 (h.sound.unlinked hWaits.1).filter hStands
  | sending | rebinding | disconnecting =>
      rw [hPoint] at hRequest
      cases hRequest

/-- An operation goes on, and leaves the session connecting only where it waits again. -/
theorem Regular.resumed (h : s.Regular) {suspended : Suspended}
    (hOperation : s.operation = some suspended) :
    s.resume.1.Regular ∧ Passes suspended.point.mover False s s.resume.1 ∧
      ∀ outcome, s.resume.2 = some outcome → s.resume.1.session.state ≠ .connecting := by
  have hConcludes := h.sound.resume_concludes hOperation
  have hIdle := h.move (m := .scheduler) rfl (.resumed s)
  have hResume := resume_of_busy hOperation
  have hWaits := h.sound.suspended suspended hOperation
  have hStands := h.poised suspended hOperation
  have hConnects {request : ConnectRequest}
      (hRequest : suspended.point.request? = some request)
      (hMover : suspended.point.mover = .connecting request.connection) :
      s.resume.1.Regular ∧ Passes suspended.point.mover False s s.resume.1 ∧
        ∀ outcome, s.resume.2 = some outcome → s.resume.1.session.state ≠ .connecting := by
    rw [hMover, hResume] at hConcludes ⊢
    exact (h.continueAt_pursues hOperation hRequest).regular hIdle.sound hIdle.furnished hConcludes
  cases hPoint : suspended.point with
  | replacing request d => exact hPoint ▸ hConnects (by rw [hPoint]; rfl) (by rw [hPoint]; rfl)
  | binding request d => exact hPoint ▸ hConnects (by rw [hPoint]; rfl) (by rw [hPoint]; rfl)
  | sending data | rebinding data =>
      have hLinked : s.session.link ≠ none := by
        rw [hPoint] at hWaits
        first
        | (obtain ⟨d, hLink, -⟩ := hWaits; simp [hLink])
        | (obtain ⟨⟨d, hLink⟩, -⟩ := hWaits; simp [hLink])
      have hState : s.session.state ≠ .connecting := by
        rcases h.furnished.linked hLinked with hBound | hDropped
        · simp [hBound]
        · simp [hDropped]
      rw [hPoint] at hConcludes
      obtain ⟨hRegular, hPasses⟩ :=
        hIdle.of_moves (m := .sending) rfl (by simp) hConcludes.moves (by simp)
      exact ⟨hRegular, hPasses, fun _ _ hAfter =>
        hState ((hPasses.connecting_iff rfl).mp hAfter)⟩
  | disconnecting d =>
      rw [hPoint] at hConcludes hWaits hStands hResume
      have hState : s.resume.1.session.state = .disconnected := by
        rw [hResume]
        exact (congrArg Session.state
          (finishDisconnect_session (s := { s with operation := none }) rfl hWaits)).trans hStands
      obtain ⟨hRegular, hPasses⟩ :=
        hIdle.of_moves (m := .disconnecting) rfl (by simp) hConcludes.moves fun _ => hState
      refine ⟨hRegular, hPasses, fun _ _ hAfter => ?_⟩
      cases hState.symm.trans hAfter

/-! Who changes the state in an event, and to what. -/

/-- Who moves in an event that is no series of turns. -/
def moverOf (s : Radio) : Event → Mover
  | .start operation => operation.mover s
  | .turn =>
      match s.ready with
      | [] => .scheduler
      | .task id :: _ => .task id
      | .caller :: _ => (s.operation.map (·.point.mover)).getD .scheduler
  | .device event => .device event
  | .abandon | .settle => .scheduler

/-- The states assigned in an event that is no series of turns, each with who assigns it. -/
def changesAtOnce (s : Radio) (event : Event) : List (Mover × LinkState) :=
  ((s.step event).assignments.drop s.assignments.length).map (s.moverOf event, ·)

def changesInTurns : Nat → Radio → List (Mover × LinkState)
  | 0, _ => []
  | n + 1, s => s.changesAtOnce .turn ++ changesInTurns n s.poll

/-- The states assigned in an event, each with who assigns it. -/
def changesBy (s : Radio) : Event → List (Mover × LinkState)
  | .settle => changesInTurns (3 * s.ready.length) s
  | .start operation => s.changesAtOnce (.start operation)
  | .abandon => s.changesAtOnce .abandon
  | .turn => s.changesAtOnce .turn
  | .device event => s.changesAtOnce (.device event)

/-- The states assigned in a history, each with who assigns it. -/
def changes (s : Radio) : List Event → List (Mover × LinkState)
  | [] => []
  | event :: rest => s.changesBy event ++ (s.step event).changes rest

/-- The changes on the way between two sessions follow the machine and lead from the one state to
the other, and tell whether the session has been idle in between. -/
structure Leaves (s : Radio) (changes : List (Mover × LinkState)) (idles : Prop) (t : Radio) :
    Prop where
  regular : t.Regular
  allowed : s.session.state.Allows changes
  state : t.session.state = s.session.state.after changes
  idle : .idle ∈ changes.map Prod.snd ↔ idles

theorem Leaves.trans {u : Radio} {changes later : List (Mover × LinkState)} {a b : Prop}
    (h : s.Leaves changes a t) (h' : t.Leaves later b u) :
    s.Leaves (changes ++ later) (a ∨ b) u := by
  refine ⟨h'.regular, h.allowed.append (h.state ▸ h'.allowed), ?_, ?_⟩
  · rw [h'.state, h.state, LinkState.after_append]
  · rw [List.map_append, List.mem_append, h.idle, h'.idle]

theorem Leaves.of_passes {event : Event} {idles : Prop}
    (h : (s.step event).Regular ∧ Passes (s.moverOf event) idles s (s.step event)) :
    s.Leaves (s.changesAtOnce event) idles (s.step event) := by
  obtain ⟨hRegular, states, hAssignments, hAllows, hState, hIdle⟩ := h
  have hChanges : s.changesAtOnce event = states.map (s.moverOf event, ·) := by
    rw [changesAtOnce, hAssignments, List.drop_left]
  rw [hChanges]
  refine ⟨hRegular, hAllows, hState, ?_⟩
  rw [List.map_map]
  simpa [Function.comp_def] using hIdle

theorem Regular.polled (h : s.Regular) :
    s.poll.Regular ∧ Passes (s.moverOf .turn) False s s.poll := by
  unfold poll moverOf
  cases hReady : s.ready with
  | nil => exact ⟨h, .of_same rfl rfl⟩
  | cons p rest =>
  have hPolled := h.move (m := .scheduler) rfl (.polled s p rest hReady)
  cases p with
  | task id => exact hPolled.background rfl (runTask_advances hPolled.sound id).moves
  | caller =>
      simp only
      rcases Option.eq_none_or_eq_some s.operation with hOperation | ⟨suspended, hOperation⟩
      · rw [resume_of_idle (s := { s with ready := rest }) hOperation]
        exact ⟨hPolled, .of_same rfl rfl⟩
      · obtain ⟨hRegular, hPasses, -⟩ := hPolled.resumed hOperation
        have hMover : (s.operation.map (·.point.mover)).getD .scheduler =
            suspended.point.mover := by rw [hOperation]; rfl
        rw [hMover]
        exact ⟨hRegular, hPasses⟩

theorem Regular.turn (h : s.Regular) : s.Leaves (s.changesAtOnce .turn) False s.poll :=
  .of_passes h.polled

theorem Regular.turns (h : s.Regular) (n : Nat) :
    s.Leaves (changesInTurns n s) False (s.run (turns n)) := by
  induction n generalizing s with
  | zero => exact ⟨h, trivial, rfl, by simp [changesInTurns]⟩
  | succ n ih =>
      have hTurn := h.turn
      have hLater := hTurn.trans (ih hTurn.regular)
      exact ⟨hLater.regular, hLater.allowed, hLater.state, hLater.idle.trans or_self_iff⟩

/-- An event changes the state as the machine allows, and to idle only if it is a connect that finds
nobody. -/
theorem Regular.step (h : s.Regular) (event : Event) :
    s.Leaves (s.changesBy event) (s.FindsNobody event) (s.step event) := by
  cases event with
  | start operation =>
      refine Leaves.of_passes ?_
      rcases Option.eq_none_or_eq_some s.operation with hIdle | ⟨suspended, hOperation⟩
      · obtain ⟨hRegular, hPasses, -⟩ := h.started operation hIdle
        exact ⟨hRegular, hPasses⟩
      · have hSame : s.step (.start operation) = s := by
          rw [Radio.step, start_of_busy hOperation]
        have hNever : False ↔ s.FindsNobody (.start operation) := by
          cases operation <;> simp [FindsNobody, hOperation]
        rw [hSame]
        exact ⟨h, (Passes.of_same rfl rfl).congr hNever⟩
  | abandon =>
      have hPasses : Passes .scheduler False s s.abandon := .of_same rfl rfl
      exact .of_passes ⟨h.move rfl (.abandoned s), hPasses.congr (by simp [FindsNobody])⟩
  | turn => exact h.turn
  | settle =>
      rw [changesBy, Radio.step, settle_eq_run]
      exact h.turns _
  | device event =>
      have hMove := Move.reacted s event
      exact .of_passes ⟨h.move rfl hMove, hMove.passes h.furnished fun _ => nofun⟩

theorem Regular.run (h : s.Regular) (history : List Event) :
    s.Leaves (s.changes history) (s.Meets FindsNobody history) (s.run history) := by
  induction history generalizing s with
  | nil => exact ⟨h, trivial, rfl, by simp [changes, not_meets_nil]⟩
  | cons event rest ih =>
      have hStep := h.step event
      have hRest := hStep.trans (ih hStep.regular)
      exact ⟨hRest.regular, hRest.allowed, hRest.state, hRest.idle.trans meets_cons.symm⟩

theorem run_regular (devices : List Device) (history : List Event) :
    ((initial devices).run history).Regular :=
  ((initial_regular devices).run history).regular

/-- Whatever has happened, the state goes on changing as the machine allows, and only through the
assignments that are seen. It becomes idle exactly where a connect starts without a link and finds
nobody, whether or not the session has ever been bound. -/
theorem changes_allowed (devices : List Device) (history after : List Event) :
    ((initial devices).run history).session.state.Allows
        (((initial devices).run history).changes after) ∧
      (((initial devices).run history).run after).session.state =
        ((initial devices).run history).session.state.after
          (((initial devices).run history).changes after) ∧
      (.idle ∈ (((initial devices).run history).changes after).map Prod.snd ↔
        ((initial devices).run history).Meets FindsNobody after) := by
  have hLeaves := (run_regular devices history).run after
  exact ⟨hLeaves.allowed, hLeaves.state, hLeaves.idle⟩

/-- A session that was bound and then disconnected is idle again after a connect that finds nobody. -/
theorem idle_after_disconnect :
    .bound ∈ ((initial [.ofSerial 7]).changes [.start (.connect 7), .settle]).map Prod.snd ∧
      ((initial [.ofSerial 7]).run [.start (.connect 7), .settle, .start .disconnect, .settle,
        .start (.connect 8)]).session.state = .idle :=
  ⟨by decide, rfl⟩

end LockRelay.Radio
