import LockRelay.Proofs.Session.Lifecycle

/-! Making a connection. Each function of it changes the state as the machine allows, hands the session
over to what was asked for or to nothing, and leaves the session connecting only where it waits for
the device that it has found. -/
namespace LockRelay.Radio

variable {s t : Radio} {m : Mover} {a b : Prop} {request : ConnectRequest}

/-- The state in which an operation waits at a point. -/
def StandsAt (s : Radio) : Point → Prop
  | .replacing request _ => s.session.state = .disconnected ∧ request.fallback = .disconnected
  | .binding _ _ => s.session.state = .connecting
  | .disconnecting _ => s.session.state = .disconnected
  | .sending _ | .rebinding _ => True

/-- How far a request for a connection gets: to an outcome, or to a point where it waits. What the
session has afterwards, if anything, is what was asked for. -/
structure Pursues (request : ConnectRequest) (idles : Prop) (s : Radio) (p : Radio × Progress) :
    Prop where
  passes : Passes (.connecting request.connection) idles s p.1
  held : ∀ filter, p.1.session.filter = some filter →
    filter = request.filter ∧ p.1.session.onNotify = some request.connection
  stands : match p.2 with
    | .done _ => p.1.session.state ≠ .connecting
    | .waiting _ _ point => point.request? = some request ∧ p.1.StandsAt point

theorem Pursues.after {p : Radio × Progress} (h : Passes (.connecting request.connection) a s t)
    (h' : Pursues request b t p) : Pursues request (a ∨ b) s p :=
  ⟨h.trans h'.passes, h'.held, h'.stands⟩

theorem Pursues.congr {p : Radio × Progress} (h : Pursues request a s p) (hIff : a ↔ b) :
    Pursues request b s p :=
  ⟨h.passes.congr hIff, h.held, h.stands⟩

/-- An outcome in a session that has nothing. -/
theorem Pursues.done {outcome : Outcome} (hFilter : s.session.filter = none)
    (hState : s.session.state ≠ .connecting) : Pursues request False s (s, .done outcome) := by
  refine ⟨.of_same rfl rfl, ?_, hState⟩
  intro filter hHeld
  cases hFilter.symm.trans hHeld

theorem assign_passes {state : LinkState} (h : LinkState.Follows m s.session.state state) :
    Passes m (state = .idle) s (s.assign state) :=
  .of_assigned h (assignments_record _ _) rfl

theorem ask_pursues {d : DeviceId} {point : Point}
    {next : Radio → Except LinkError Bool → Radio × Progress}
    (hFilter : s.session.filter = none) (hPoint : point.request? = some request)
    (hStands : ∀ t : Radio, t.session = s.session → t.StandsAt point)
    (hNext : ∀ t answer, s.Called (.connecting request.connection) t →
      Pursues request False t (next t answer)) : Pursues request False s (s.ask d point next) := by
  obtain ⟨hCalled, -⟩ := isConnected_called (m := .connecting request.connection) s d
  unfold ask
  rcases hCheck : s.isConnected d with ⟨t, answer | answer⟩
  all_goals rw [hCheck] at hCalled
  · exact ((hNext t answer hCalled).after hCalled.passes).congr or_self_iff
  · refine ⟨hCalled.passes, ?_, hPoint, hStands t hCalled.session⟩
    intro filter hHeld
    have hSame : t.session.filter = none :=
      (congrArg Session.filter hCalled.session).trans hFilter
    cases hSame.symm.trans hHeld

theorem rejectDevice_pursues (d : DeviceId) (error : ConnectError) (hIdle : s.operation = none)
    (hLink : s.session.link = none) (hFilter : s.session.filter = none)
    (hState : s.session.state = .connecting) :
    Pursues request False s (s.rejectDevice d error) := by
  have hCalled := disconnectLink_called (m := .connecting request.connection) (s := s) (d := d)
    ⟨hIdle, Or.inl hLink⟩
  have hState' : (s.disconnectLink d).1.session.state = .connecting := by
    rw [hCalled.session, hState]
  have hFilter' : (s.disconnectLink d).1.session.filter = none := by
    rw [hCalled.session, hFilter]
  have hFollows : LinkState.Follows (.connecting request.connection)
      (s.disconnectLink d).1.session.state .disconnected := hState' ▸ .rejected
  have hDone : Pursues request False ((s.disconnectLink d).1.assign .disconnected)
      ((s.disconnectLink d).1.assign .disconnected, .done (.connect (.error error))) :=
    .done hFilter' nofun
  exact (hDone.after (hCalled.passes.trans (assign_passes hFollows))).congr (by simp)

theorem bindFound_pursues (d : DeviceId) (connected : Except LinkError Bool)
    (hIdle : s.operation = none) (hLink : s.session.link = none)
    (hFilter : s.session.filter = none) (hState : s.session.state = .connecting) :
    Pursues request False s (s.bindFound request d connected) := by
  obtain ⟨hBind, -⟩ :=
    bindLink_called (m := .connecting request.connection) request.filter connected (s := s)
      (d := d) ⟨hIdle, Or.inl hLink⟩
  have hReject {t : Radio} (hCalled : s.Called (.connecting request.connection) t)
      (error : ConnectError) : Pursues request False s (t.rejectDevice d error) := by
    have hRejected : Pursues request False t (t.rejectDevice d error) := by
      apply rejectDevice_pursues
      · exact hCalled.operation.trans hIdle
      · exact (congrArg Session.link hCalled.session).trans hLink
      · exact (congrArg Session.filter hCalled.session).trans hFilter
      · exact (congrArg Session.state hCalled.session).trans hState
    exact (hRejected.after hCalled.passes).congr or_self_iff
  unfold bindFound
  rcases hResult : s.bindLink d request.filter connected with ⟨t, error | none | endpoints⟩
  all_goals rw [hResult] at hBind
  · exact hReject hBind _
  · exact hReject hBind _
  obtain ⟨device, hServed, hDrops⟩ := drops_served t d
  have hCalled := hBind.trans (Called.of_served hServed hDrops rfl trivial rfl)
  simp only
  rcases hResult' : t.drops d with ⟨u, error | ⟨⟩⟩
  all_goals rw [hResult'] at hCalled
  · exact hReject hCalled _
  · have hState' : u.session.state = .connecting :=
      (congrArg Session.state hCalled.session).trans hState
    have hFollows : LinkState.Follows (.connecting request.connection) u.session.state .bound :=
      hState' ▸ .found
    have hAdopted := Passes.of_assigned hFollows (t := u.adopt request d endpoints)
      (assignments_record _ _) rfl
    refine ⟨(hCalled.passes.trans hAdopted).congr (by simp), ?_, nofun⟩
    rintro _ ⟨⟩
    exact ⟨rfl, rfl⟩

/-- Discovery for a filter is going to end without a device. -/
def Deserted (s : Radio) (filter : DiscoveryFilter) : Prop :=
  s.discoverFault ≠ none ∨ s.firstAdmitted filter = none

theorem deserted_iff (s : Radio) (filter : DiscoveryFilter) :
    s.Deserted filter ↔ ¬∃ d, (s.discover filter).2 = .ok (some d) := by
  unfold Deserted discover
  cases s.discoverFault with
  | some fault => simp
  | none => simp [Option.eq_none_iff_forall_ne_some]

theorem search_pursues (hIdle : s.operation = none) (hLink : s.session.link = none)
    (hFilter : s.session.filter = none) (hState : s.session.state ≠ .bound)
    (hFallback : request.fallback = .idle ∨ request.fallback = .disconnected) :
    Pursues request (request.fallback = .idle ∧ s.Deserted request.filter) s
      (s.search request) := by
  have hFollows : LinkState.Follows (.connecting request.connection) s.session.state
      .connecting := by
    cases hBefore : s.session.state with
    | idle => exact .searching (Or.inl rfl)
    | connecting => exact .same _ _
    | bound => exact absurd hBefore hState
    | disconnected => exact .searching (Or.inr rfl)
  have hFound : s.Deserted request.filter ↔
      ¬∃ d, ((s.assign .connecting).discover request.filter).2 = .ok (some d) :=
    deserted_iff (s.assign .connecting) request.filter
  obtain ⟨hDiscover, -⟩ := discover_called (s := s.assign .connecting) (k := request.connection)
    request.filter hLink
  have hSearching := (assign_passes hFollows).trans hDiscover.passes
  have hState' := congrArg Session.state hDiscover.session
  have hFilter' := (congrArg Session.filter hDiscover.session).trans hFilter
  rw [hFound]
  -- Whatever fails, the state falls back.
  have hFallsBack (u : Radio) (error : ConnectError)
      (hPasses : Passes (.connecting request.connection) (LinkState.connecting = .idle ∨ False) s u)
      (hState : u.session.state = .connecting) (hFilter : u.session.filter = none) :
      Pursues request (request.fallback = .idle) s
        (u.assign request.fallback, .done (.connect (.error error))) := by
    have hBack : LinkState.Follows (.connecting request.connection) u.session.state
        request.fallback := by
      rw [hState]
      rcases hFallback with hFallback | hFallback
      · exact hFallback ▸ .cancelled
      · exact hFallback ▸ .rejected
    have hAfter : (u.assign request.fallback).session.state ≠ .connecting := by
      intro hSame
      rcases hFallback with hFallback | hFallback
      · cases hFallback.symm.trans hSame
      · cases hFallback.symm.trans hSame
    have hDone : Pursues request False (u.assign request.fallback)
        (u.assign request.fallback, .done (.connect (.error error))) := .done hFilter hAfter
    exact (hDone.after (hPasses.trans (assign_passes hBack))).congr (by simp)
  unfold search
  rcases hResult : (s.assign .connecting).discover request.filter with ⟨u, error | none | d⟩
  all_goals rw [hResult] at hDiscover hSearching hState' hFilter'
  · exact (hFallsBack u _ hSearching hState' hFilter').congr (by simp)
  · exact (hFallsBack u _ hSearching hState' hFilter').congr (by simp)
  · have hAsk : Pursues request False u
        (u.ask d (.binding request d) fun s answer => s.bindFound request d answer) := by
      refine ask_pursues hFilter' rfl ?_ ?_
      · intro v hSession
        exact (congrArg Session.state hSession).trans hState'
      · intro v answer hCalled
        apply bindFound_pursues
        · exact hCalled.operation.trans (hDiscover.operation.trans hIdle)
        · rw [hCalled.session, hDiscover.session]
          exact hLink
        · exact (congrArg Session.filter hCalled.session).trans hFilter'
        · exact (congrArg Session.state hCalled.session).trans hState'
    exact (hAsk.after hSearching).congr (by simp)

theorem replace_pursues (d : DeviceId) (connected : Except LinkError Bool)
    (hIdle : s.operation = none) (hLink : s.session.link = none)
    (hFilter : s.session.filter = none) (hState : s.session.state = .disconnected)
    (hFallback : request.fallback = .disconnected) :
    Pursues request False s (s.replace request d connected) := by
  have hTaken := takeDown_called (m := .connecting request.connection) (s := s) (d := d) connected
    ⟨hIdle, Or.inl hLink⟩
  unfold replace
  rcases hResult : s.takeDown d connected with ⟨t, error | ⟨⟩⟩
  all_goals
    rw [hResult] at hTaken
    have hState' := (congrArg Session.state hTaken.session).trans hState
    have hFilter' := (congrArg Session.filter hTaken.session).trans hFilter
  · refine Pursues.congr (Pursues.after hTaken.passes (Pursues.done hFilter' ?_)) or_self_iff
    rw [hState']
    exact nofun
  · have hSearch : Pursues request (request.fallback = .idle ∧ t.Deserted request.filter) t
        (t.search request) := by
      apply search_pursues
      · exact hTaken.operation.trans hIdle
      · exact (congrArg Session.link hTaken.session).trans hLink
      · exact hFilter'
      · rw [hState']
        exact nofun
      · exact Or.inr hFallback
    exact (hSearch.after hTaken.passes).congr (by simp [hFallback])

theorem assignments_clear (s : Radio) :
    s.clear.assignments = s.assignments ++ [.disconnected] := by
  unfold assignments
  rw [trace_clear]
  simp [Effect.assigned?]

/-- A connect whose serial number is accepted. It makes the session idle only if no link is held and
discovery ends without a device. -/
theorem connect_pursues {serial : UInt64} {filter : DiscoveryFilter} (hSound : s.Sound)
    (hFurnished : s.Furnished) (hIdle : s.operation = none)
    (hFilter : DiscoveryFilter.forSerial serial = .ok filter) :
    ∃ request : ConnectRequest, request.connection = s.connections ∧ request.filter = filter ∧
      Pursues request (s.session.link = none ∧ s.Deserted filter) s (s.connect serial) := by
  have hNumbered := Passes.of_same (m := .connecting s.connections) (s := s)
    (t := { s with connections := s.connections + 1 }) rfl rfl
  unfold connect
  rw [hFilter]
  simp only
  cases hLink : s.session.link with
  | none =>
      have hFree : s.session.state ≠ .bound := fun hBound => hSound.bound hBound hLink
      have hSearch : Pursues ⟨s.connections, filter, .idle⟩ _ _ _ :=
        search_pursues (s := { s with connections := s.connections + 1 }) hIdle hLink
          (hSound.unlinked hLink).filter hFree (Or.inl rfl)
      exact ⟨_, rfl, rfl, (Pursues.after hNumbered hSearch).congr
        (by simp [Deserted, firstAdmitted])⟩
  | some d =>
      refine ⟨⟨s.connections, filter, .disconnected⟩, rfl, rfl, ?_⟩
      have hFollows : LinkState.Follows (.connecting s.connections) s.session.state
          .disconnected := by
        rcases hFurnished.linked (by simp [hLink]) with hBound | hDropped
        · exact hBound ▸ .replaced
        · exact hDropped ▸ .same _ _
      have hCleared := Passes.of_assigned hFollows
        (s := { s with connections := s.connections + 1 })
        (t := { s with connections := s.connections + 1 }.clear) (assignments_clear _) rfl
      have hIdle' : ({ s with connections := s.connections + 1 } : Radio).clear.operation = none :=
        (operation_clear _).trans hIdle
      refine Pursues.congr (Pursues.after (hNumbered.trans hCleared) (ask_pursues rfl rfl ?_ ?_))
        (by simp)
      · intro t hSession
        exact ⟨congrArg Session.state hSession, rfl⟩
      · intro t answer hCalled
        apply replace_pursues
        · exact hCalled.operation.trans hIdle'
        · exact congrArg Session.link hCalled.session
        · exact congrArg Session.filter hCalled.session
        · exact congrArg Session.state hCalled.session
        · rfl

end LockRelay.Radio
