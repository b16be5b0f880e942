import LockRelay.Proofs.Session.Transitions

/-! What a session is handed is what was asked for. A property of every request for a connection, with
its number and its filter, is one of the session's callbacks and filter and of the request that is
pursued while an operation waits. -/
namespace LockRelay.Radio

variable {s t : Radio} {m : Mover} {P : ConnectionId → DiscoveryFilter → Prop}

structure Requested (P : ConnectionId → DiscoveryFilter → Prop) (s : Radio) : Prop where
  held : ∀ k filter, s.session.onNotify = some k → s.session.filter = some filter → P k filter
  waits : ∀ suspended request, s.operation = some suspended →
    suspended.point.request? = some request → P request.connection request.filter

theorem initial_requested (devices : List Device) : (initial devices).Requested P :=
  ⟨nofun, nofun⟩

theorem filter_readopt (s : Radio) (d : DeviceId) (endpoints : Endpoints) :
    (s.readopt d endpoints).session.filter = s.session.filter := by
  have hSession : (s.abort s.session.notifyTask).session = s.session := by
    cases s.session.notifyTask <;> rfl
  unfold readopt
  simp only [hSession]
  cases s.session.onNotify <;> simp [bound, assign, record, spawn]

/-- What a session is bound to: the device, the callbacks and the filter. -/
def binding (s : Radio) : Option DeviceId × Option ConnectionId × Option DiscoveryFilter :=
  (s.session.link, s.session.onNotify, s.session.filter)

/-- Who makes no connection leaves the session bound as it is, or tears all of it down. -/
theorem Move.binding_cases (hMover : ∀ k, m ≠ .connecting k) (hMove : s.Move m t) :
    t.binding = s.binding ∨ m.tearsDown = true ∧ t.binding = (none, none, none) := by
  cases hMove with
  | discovered | assigned | adopted => exact absurd rfl (hMover _)
  | cleared hIdle hTearsDown => exact Or.inr ⟨hTearsDown, rfl⟩
  | readopted d endpoints =>
      obtain ⟨-, -, -, -, hLink, -⟩ := readopt_frame s d endpoints
      left
      unfold binding
      rw [hLink, (readopt_callbacks s d endpoints).1, filter_readopt]
  | demoted seen =>
      left
      rcases dropped_cases s seen with ⟨hSame, -⟩ | ⟨-, -, hChanged⟩
      · rw [hSame]
      · rw [hChanged]
        rfl
  | delivered id d connection queue =>
      rw [foldl_frames]
      exact Or.inl rfl
  | woken p =>
      unfold wake
      split_ifs <;> exact Or.inl rfl
  | reacted event =>
      unfold binding
      rw [(react_frame s event).1]
      exact Or.inl rfl
  | _ => exact Or.inl rfl

/-- Who tears nothing down leaves the session bound as it is. -/
theorem binding_of_moves (hMover : m.tearsDown = false) (hMoves : s.MovesBy (· = m) t) :
    t.binding = s.binding := by
  refine hMoves.keeps (P := fun t => t.binding = s.binding) ?_ rfl
  rintro _ u v rfl hMove hSame
  refine Eq.trans ((hMove.binding_cases ?_).resolve_right fun hTorn => ?_) hSame
  · rintro k rfl
    cases hMover
  · cases hMover.symm.trans hTorn.1

theorem serial_of_binding (hBinding : t.binding = s.binding) : t.session.serial = s.session.serial :=
  congrArg (fun b => b.2.2.map DiscoveryFilter.serial) hBinding

/-- The turn of a task, or of nobody. -/
theorem Sound.poll_binding (h : s.Sound) (hReady : ∀ rest, s.ready ≠ .caller :: rest) :
    s.poll.binding = s.binding := by
  unfold poll
  cases hQueue : s.ready with
  | nil => rfl
  | cons p rest =>
  cases p with
  | caller => exact absurd hQueue (hReady rest)
  | task id =>
      have hPolled : binding { s with ready := rest } = s.binding := rfl
      have hRan := (runTask_advances (polled_sound h hQueue) id).moves
      exact (binding_of_moves rfl hRan).trans hPolled

/-- Who makes no connection leaves the callbacks and the filter to the session, or takes them away. -/
theorem Move.held_cases (hMover : ∀ k, m ≠ .connecting k) (hMove : s.Move m t) :
    t.session.onNotify = s.session.onNotify ∧ t.session.filter = s.session.filter ∨
      t.session.onNotify = none := by
  rcases hMove.binding_cases hMover with hSame | ⟨-, hNone⟩
  · exact Or.inl ⟨congrArg (·.2.1) hSame, congrArg (·.2.2) hSame⟩
  · exact Or.inr (congrArg (·.2.1) hNone)

theorem Point.connecting_of_request {point : Point} {request : ConnectRequest}
    (h : point.request? = some request) : point.mover = .connecting request.connection := by
  cases point with
  | replacing other d | binding other d =>
      obtain rfl : other = request := Option.some.inj h
      rfl
  | sending | rebinding | disconnecting => cases h

theorem Point.request_of_connecting {point : Point} {k : ConnectionId}
    (h : point.mover = .connecting k) : ∃ request, point.request? = some request := by
  cases point with
  | replacing request d | binding request d => exact ⟨request, rfl⟩
  | sending | rebinding | disconnecting => cases h

theorem Requested.move (h : s.Requested P) (hMover : ∀ k, m ≠ .connecting k)
    (hMove : s.Move m t) : t.Requested P := by
  refine ⟨fun k filter hNotify hFilter => ?_, fun suspended request hOperation hRequest => ?_⟩
  · rcases hMove.held_cases hMover with ⟨hSame, hSame'⟩ | hNone
    · exact h.held k filter (hSame.symm.trans hNotify) (hSame'.symm.trans hFilter)
    · cases hNone.symm.trans hNotify
  · rcases hMove.operation_cases with hSame | hNone | ⟨other, hOther, hSame⟩
    · exact h.waits suspended request (hSame.symm.trans hOperation) hRequest
    · cases hNone.symm.trans hOperation
    · cases hOther.symm.trans hOperation
      exact absurd (hSame.symm.trans (Point.connecting_of_request hRequest)) (hMover _)

theorem Requested.moves (h : s.Requested P) (hMover : ∀ k, m ≠ .connecting k)
    (hMoves : s.MovesBy (· = m) t) : t.Requested P := by
  refine hMoves.keeps ?_ h
  rintro _ u v rfl hMove h
  exact h.move hMover hMove

/-- A request that is pursued hands over no more than what it asks for. -/
theorem Pursues.requested {request : ConnectRequest} {idles : Prop} {p : Radio × Progress}
    {payload : Option Bytes} {asked : Nat} (h : Pursues request idles s p)
    (hAsked : P request.connection request.filter)
    (hConcludes : Concludes m payload asked s (note p)) : (note p).1.Requested P := by
  refine ⟨fun k filter hNotify hFilter => ?_, fun suspended other hOperation hRequest => ?_⟩
  · rw [session_note] at hNotify hFilter
    obtain ⟨rfl, hSame⟩ := h.held filter hFilter
    obtain rfl : request.connection = k := Option.some.inj (hSame.symm.trans hNotify)
    exact hAsked
  · obtain ⟨t, outcome | ⟨d, answer, point⟩⟩ := p
    · cases hConcludes.stands.1.symm.trans hOperation
    · obtain rfl : ⟨answer, point⟩ = suspended := Option.some.inj hOperation
      obtain rfl : request = other := Option.some.inj (h.stands.1.symm.trans hRequest)
      exact hAsked

/-- A connect whose serial number is accepted leaves the session to its own connection, or to nobody. -/
theorem Regular.connect_held (h : s.Regular) (hIdle : s.operation = none) {serial : UInt64}
    {filter : DiscoveryFilter} (hFilter : DiscoveryFilter.forSerial serial = .ok filter)
    {k : ConnectionId} (hHeld : (s.start (.connect serial)).1.session.onNotify = some k) :
    k = s.connections := by
  have hSound := (h.started (.connect serial) hIdle).1.sound
  obtain ⟨request, hConnection, -, hPursues⟩ := connect_pursues h.sound h.furnished hIdle hFilter
  rcases hSound.represented with hUnlinked | ⟨d, connection, notify, watch, queue, pending, check, hBy⟩
  · cases hUnlinked.onNotify.symm.trans hHeld
  · obtain ⟨other, hOther⟩ := Option.isSome_iff_exists.mp hBy.filter
    rw [start_connect hIdle, session_note] at hHeld hOther
    obtain ⟨-, hSame⟩ := hPursues.held other hOther
    exact (Option.some.inj (hHeld.symm.trans hSame)).trans hConnection

/-- A connect whose serial number is accepted has to be asked for as the property says. -/
def AsksFor (P : ConnectionId → DiscoveryFilter → Prop) (s : Radio) : Operation → Prop
  | .connect serial => ∀ filter, DiscoveryFilter.forSerial serial = .ok filter →
      P s.connections filter
  | .send _ | .disconnect => True

theorem Requested.start (h : s.Requested P) (hRegular : s.Regular) {operation : Operation}
    (hAsks : AsksFor P s operation) : (s.start operation).1.Requested P := by
  rcases Option.eq_none_or_eq_some s.operation with hIdle | ⟨suspended, hOperation⟩
  · have hConcludes := start_concludes operation hIdle
    by_cases hMover : ∃ k, operation.mover s = .connecting k
    · obtain ⟨k, hMover⟩ := hMover
      cases operation with
      | connect serial =>
          cases hFilter : DiscoveryFilter.forSerial serial with
          | error error => simp [Operation.mover, hFilter] at hMover
          | ok filter =>
              obtain ⟨request, hConnection, hSame, hPursues⟩ :=
                connect_pursues hRegular.sound hRegular.furnished hIdle hFilter
              have hAsked : P request.connection request.filter := by
                rw [hConnection, hSame]
                exact hAsks filter hFilter
              rw [start_connect hIdle] at hConcludes ⊢
              exact hPursues.requested hAsked hConcludes
      | send | disconnect => cases hMover
    · exact h.moves (fun k hSame => hMover ⟨k, hSame⟩) hConcludes.moves
  · rw [start_of_busy hOperation]
    exact h

theorem Requested.resume (h : s.Requested P) (hRegular : s.Regular) :
    s.resume.1.Requested P := by
  rcases Option.eq_none_or_eq_some s.operation with hNone | ⟨suspended, hOperation⟩
  · rw [resume_of_idle hNone]
    exact h
  · have hConcludes := hRegular.sound.resume_concludes hOperation
    have hIdle := h.move (m := .scheduler) (by simp) (.resumed s)
    cases hRequest : suspended.point.request? with
    | some request =>
        rw [resume_of_busy hOperation] at hConcludes ⊢
        exact (hRegular.continueAt_pursues hOperation hRequest).requested
          (h.waits suspended request hOperation hRequest) hConcludes
    | none =>
        refine hIdle.moves (fun k hMover => ?_) hConcludes.moves
        obtain ⟨request, hSome⟩ := Point.request_of_connecting hMover
        cases hRequest.symm.trans hSome

theorem Requested.poll (h : s.Requested P) (hRegular : s.Regular) : s.poll.Requested P := by
  unfold Radio.poll
  cases hReady : s.ready with
  | nil => exact h
  | cons p rest =>
  have hMove := Move.polled s p rest hReady
  have hPolled := h.move (m := .scheduler) (by simp) hMove
  have hRegular' := hRegular.move rfl hMove
  cases p with
  | task id =>
      exact hPolled.moves (m := .task id) (by simp)
        (runTask_advances hRegular'.sound id).moves
  | caller => exact hPolled.resume hRegular'

theorem Requested.turns (h : s.Requested P) (hRegular : s.Regular) (n : Nat) :
    (s.run (turns n)).Requested P := by
  induction n generalizing s with
  | zero => exact h
  | succ n ih => exact ih (h.poll hRegular) hRegular.turn.regular

theorem Requested.step (h : s.Requested P) (hRegular : s.Regular) {event : Event}
    (hAsks : ∀ operation, event = .start operation → AsksFor P s operation) :
    (s.step event).Requested P := by
  cases event with
  | start operation => exact h.start hRegular (hAsks operation rfl)
  | abandon => exact h.move (m := .scheduler) (by simp) (.abandoned s)
  | turn => exact h.poll hRegular
  | settle =>
      rw [Radio.step, settle_eq_run]
      exact h.turns hRegular _
  | device event => exact h.move (m := .device event) (by simp) (.reacted s event)

end LockRelay.Radio
