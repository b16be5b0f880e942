import LockRelay.Proofs.Session.Admission
import LockRelay.Proofs.Session.Silence

/-! How a connect ends. It is refused for its serial number and touches nothing, or it fails and leaves
the session with nothing, or it succeeds and leaves the session bound to the device that discovery
found first. What it found and asked of that device can be read off the record, so a connect is
followed through it from where it starts, over the points where it waits, to where it returns. -/
namespace LockRelay

/-- The filter of a discovery that was run. -/
def Effect.discovered? : Effect → Option DiscoveryFilter
  | .call (.discover filter) true => some filter
  | _ => none

/-- The call that an effect is, if it is one on the device. -/
def Effect.callOn? (d : DeviceId) : Effect → Option Call
  | .call made _ => if made.device? = some d then some made else none
  | _ => none

namespace Radio

variable {s t : Radio} {m : Mover} {filter : DiscoveryFilter} {before : List DiscoveryFilter}
  {d : DeviceId} {k : ConnectionId}

/-- The discoveries that were run, oldest first. -/
def discoveries (s : Radio) : List DiscoveryFilter := s.trace.filterMap Effect.discovered?

/-- The last call that was made on a device. -/
def lastCall (s : Radio) (d : DeviceId) : Option Call :=
  (s.trace.filterMap (Effect.callOn? d)).getLast?

theorem discoveries_of_recorded (added : List Effect) (hTrace : t.trace = s.trace ++ added) :
    t.discoveries = s.discoveries ++ added.filterMap Effect.discovered? := by
  unfold discoveries
  rw [hTrace, List.filterMap_append]

/-- An effect that is no call leaves the last call on every device as it was. -/
theorem lastCall_record {effect : Effect} (hEffect : effect.callOn? d = none) :
    (s.record effect).lastCall d = s.lastCall d := by
  unfold lastCall record
  simp [hEffect]

/-- Only a connect runs discovery. -/
theorem Move.discoveries_eq (hMover : ∀ k, m ≠ .connecting k) (hMove : s.Move m t) :
    t.discoveries = s.discoveries := by
  have hQuiet (added : List Effect) (hTrace : t.trace = s.trace ++ added)
      (hAdded : added.filterMap Effect.discovered? = []) : t.discoveries = s.discoveries := by
    rw [discoveries_of_recorded added hTrace, hAdded, List.append_nil]
  cases hMove with
  | called d device call succeeded hDevice hMay hServed =>
      refine hQuiet [_] rfl ?_
      cases call <;> cases hDevice <;> rfl
  | discovered | assigned | adopted => exact absurd rfl (hMover _)
  | cleared => exact hQuiet _ (trace_clear s) rfl
  | readopted d endpoints => exact hQuiet _ (readopt_frame s d endpoints).2.2.2.1 rfl
  | demoted seen =>
      rcases dropped_cases s seen with ⟨hSame, -⟩ | ⟨-, -, hChanged⟩
      · rw [hSame]
      · refine hQuiet _ (congrArg trace hChanged) ?_
        cases s.session.onDisconnect <;> rfl
  | returned outcome => exact hQuiet [_] rfl rfl
  | delivered id d connection queue =>
      refine hQuiet _ (congrArg trace (foldl_frames _ connection queue)) ?_
      rw [List.filterMap_map]
      exact List.filterMap_eq_nil_iff.mpr fun _ _ => rfl
  | woken p =>
      unfold wake
      split_ifs <;> rfl
  | reacted event =>
      exact hQuiet [] ((react_frame s event).2.2.1.trans (List.append_nil _).symm) rfl
  | _ => rfl

theorem firstAdmitted_eq_some_iff : s.firstAdmitted filter = some d ↔
    d < s.devices.length ∧ filter.admits (s.device d).adverts = true ∧
      ∀ i < d, ¬filter.admits (s.device i).adverts = true := by
  unfold firstAdmitted
  rw [List.findIdx?_eq_some_iff_getElem]
  constructor
  · rintro ⟨hRange, hAdmits, hOthers⟩
    refine ⟨hRange, ?_, fun i hi => ?_⟩
    · rwa [device, List.getD_eq_getElem _ _ hRange]
    · rw [device, List.getD_eq_getElem _ _ (hi.trans hRange)]
      exact hOthers i hi
  · rintro ⟨hRange, hAdmits, hOthers⟩
    refine ⟨hRange, ?_, fun i hi => ?_⟩
    · rwa [device, List.getD_eq_getElem _ _ hRange] at hAdmits
    · have hOther := hOthers i hi
      rwa [device, List.getD_eq_getElem _ _ (hi.trans hRange)] at hOther

/-- The first device that is admitted stays the first, whoever comes into range later. -/
theorem Move.firstAdmitted_eq (hMove : s.Move m t) (hFirst : s.firstAdmitted filter = some d) :
    t.firstAdmitted filter = some d := by
  obtain ⟨hRange, hAdmits, hOthers⟩ := firstAdmitted_eq_some_iff.mp hFirst
  refine firstAdmitted_eq_some_iff.mpr ⟨hRange.trans_le hMove.length_le, ?_, fun i hi => ?_⟩
  · rwa [hMove.adverts hRange]
  · rw [hMove.adverts (hi.trans hRange)]
    exact hOthers i hi

/-- What a connect has done where it waits: `before` are the discoveries run before it. -/
def Seeks (s : Radio) (before : List DiscoveryFilter) (filter : DiscoveryFilter) : Point → Prop
  | .replacing request _ => request.filter = filter ∧ s.discoveries = before
  | .binding request d => request.filter = filter ∧ s.discoveries = before ++ [filter] ∧
      s.firstAdmitted filter = some d
  | .sending _ | .rebinding _ | .disconnecting _ => False

theorem Seeks.move {point : Point} (h : s.Seeks before filter point)
    (hMover : ∀ k, m ≠ .connecting k) (hMove : s.Move m t) : t.Seeks before filter point := by
  have hDiscoveries := hMove.discoveries_eq hMover
  cases point with
  | replacing request link => exact ⟨h.1, hDiscoveries.trans h.2⟩
  | binding request link =>
      exact ⟨h.1, hDiscoveries.trans h.2.1, hMove.firstAdmitted_eq h.2.2⟩
  | sending | rebinding | disconnecting => exact h

/-- If a device was discovered, the last call made on it takes its link down. -/
def Releases (s : Radio) (before : List DiscoveryFilter) (filter : DiscoveryFilter) : Prop :=
  s.discoveries = before ∨ s.discoveries = before ++ [filter] ∧
    ∀ d, s.firstAdmitted filter = some d → s.lastCall d = some (.disconnect d)

/-- The session is bound to the device that discovery found. -/
structure HoldsFirst (s : Radio) (filter : DiscoveryFilter) : Prop where
  state : s.session.state = .bound
  link : ∃ d, s.session.link = some d ∧ s.firstAdmitted filter = some d
  filter : s.session.filter = some filter

/-- How far a connect gets that has an admissible serial number. -/
def Attains (before : List DiscoveryFilter) (filter : DiscoveryFilter) (p : Radio × Progress) :
    Prop :=
  match p.2 with
  | .done (.connect (.error error)) => (∀ refusal, error ≠ .serial refusal) ∧
      p.1.session.link = none ∧ p.1.Releases before filter
  | .done (.connect (.ok ())) => p.1.HoldsFirst filter
  | .done _ => False
  | .waiting _ _ point => p.1.Seeks before filter point

/-- A call to a device leaves it as it is what was discovered, and who comes first. -/
theorem Called.discoveries (h : s.Called .refusing t) : t.discoveries = s.discoveries := by
  have hRefusing (k : ConnectionId) : Mover.refusing ≠ .connecting k := nofun
  refine h.moves.keeps (P := fun t => t.discoveries = s.discoveries) ?_ rfl
  rintro _ u v rfl hMove hSame
  exact (hMove.discoveries_eq hRefusing).trans hSame

theorem Called.firstAdmitted (h : s.Called m t) (hFirst : s.firstAdmitted filter = some d) :
    t.firstAdmitted filter = some d :=
  h.moves.keeps (P := fun t => t.firstAdmitted filter = some d)
    (fun _ _ _ _ hMove hFirst => hMove.firstAdmitted_eq hFirst) hFirst

/-- A connect has found a device and no link is held. -/
structure Found (s : Radio) (before : List DiscoveryFilter) (filter : DiscoveryFilter)
    (d : DeviceId) : Prop where
  idle : s.operation = none
  link : s.session.link = none
  discoveries : s.discoveries = before ++ [filter]
  first : s.firstAdmitted filter = some d

theorem Found.called (h : s.Found before filter d) (hCalled : s.Called .refusing t) :
    t.Found before filter d :=
  ⟨hCalled.operation.trans h.idle, (congrArg Session.link hCalled.session).trans h.link,
    hCalled.discoveries.trans h.discoveries, hCalled.firstAdmitted h.first⟩

variable {request : ConnectRequest}

/-- Giving a device up ends with the call that takes its link down. -/
theorem Found.reject (h : s.Found before filter d) (error : ConnectError)
    (hError : ∀ refusal, error ≠ .serial refusal) :
    Attains before filter (s.rejectDevice d error) := by
  have hCalled := disconnectLink_called (m := .refusing) (s := s) (d := d) ⟨h.idle, Or.inl h.link⟩
  have hFound := h.called hCalled
  obtain ⟨device, -, hState⟩ := disconnectLink_served s d
  have hLast : ((s.disconnectLink d).1.assign .disconnected).lastCall d = some (.disconnect d) := by
    refine (lastCall_record (s := (s.disconnectLink d).1) rfl).trans ?_
    unfold lastCall
    rw [hState]
    simp [record, Effect.callOn?, Call.device?]
  have hReleases : ((s.disconnectLink d).1.assign .disconnected).Releases before filter := by
    refine Or.inr ⟨?_, fun i hFirst => ?_⟩
    · rw [discoveries_of_recorded [.assigned .disconnected] rfl]
      exact (List.append_nil _).trans hFound.discoveries
    · obtain rfl : d = i := Option.some.inj (hFound.first.symm.trans hFirst)
      exact hLast
  exact ⟨hError, hFound.link, hReleases⟩

theorem Found.bind (h : s.Found before request.filter d) (connected : Except LinkError Bool) :
    Attains before request.filter (s.bindFound request d connected) := by
  obtain ⟨hBind, -⟩ := bindLink_called (m := .refusing) request.filter connected (s := s) (d := d)
    ⟨h.idle, Or.inl h.link⟩
  unfold bindFound
  rcases hResult : s.bindLink d request.filter connected with ⟨t, error | none | endpoints⟩
  all_goals rw [hResult] at hBind
  · exact (h.called hBind).reject _ nofun
  · exact (h.called hBind).reject _ nofun
  obtain ⟨device, hServed, hState⟩ := drops_served t d
  have hDrops : t.Called .refusing (t.drops d).1 := Called.of_served hServed hState rfl trivial rfl
  have hFound := (h.called hBind).called hDrops
  simp only
  rcases hResult' : t.drops d with ⟨u, error | ⟨⟩⟩
  all_goals rw [hResult'] at hFound
  · exact hFound.reject _ nofun
  · exact ⟨rfl, ⟨d, rfl, hFound.first⟩, rfl⟩

/-- What discovery finds is the first device in range that the filter admits. -/
theorem discover_cases (s : Radio) (filter : DiscoveryFilter) :
    (∃ error, (s.discover filter).2 = .error error ∧
        (s.discover filter).1.discoveries = s.discoveries) ∨
      (s.discover filter).2 = .ok ((s.discover filter).1.firstAdmitted filter) ∧
        (s.discover filter).1.discoveries = s.discoveries ++ [filter] := by
  unfold discover
  cases s.discoverFault with
  | some fault =>
      refine Or.inl ⟨fault.error, rfl, ?_⟩
      exact (discoveries_of_recorded [.call (.discover filter) false] rfl).trans (List.append_nil _)
  | none => exact Or.inr ⟨rfl, discoveries_of_recorded [.call (.discover filter) true] rfl⟩

theorem search_attains (request : ConnectRequest) (hIdle : s.operation = none)
    (hLink : s.session.link = none) (hBefore : s.discoveries = before) :
    Attains before request.filter (s.search request) := by
  obtain ⟨hDiscover, -⟩ := discover_called (s := s.assign .connecting) (k := request.connection)
    request.filter hLink
  have hAssigned (u : Radio) (state : LinkState) : (u.assign state).discoveries = u.discoveries :=
    (discoveries_of_recorded [.assigned state] rfl).trans (List.append_nil _)
  have hCases := discover_cases (s.assign .connecting) request.filter
  rw [hAssigned, hBefore] at hCases
  unfold search
  rcases hResult : (s.assign .connecting).discover request.filter with ⟨t, error | none | d⟩
  all_goals
    rw [hResult] at hDiscover hCases
    have hIdle' : t.operation = none := hDiscover.operation.trans hIdle
    have hLink' : t.session.link = none := (congrArg Session.link hDiscover.session).trans hLink
  · obtain ⟨-, -, hSame⟩ := hCases.resolve_right fun h => by cases h.1
    exact ⟨nofun, hLink', Or.inl ((hAssigned t _).trans hSame)⟩
  · obtain ⟨hNobody, hRun⟩ := hCases.resolve_left fun ⟨_, h, _⟩ => by cases h
    refine ⟨nofun, hLink', Or.inr ⟨(hAssigned t _).trans hRun, fun i hFirst => ?_⟩⟩
    cases (Except.ok.inj hNobody).trans hFirst
  · obtain ⟨hFirst, hRun⟩ := hCases.resolve_left fun ⟨_, h, _⟩ => by cases h
    have hFound : t.Found before request.filter d :=
      ⟨hIdle', hLink', hRun, (Except.ok.inj hFirst).symm⟩
    obtain ⟨hCalled, -⟩ := isConnected_called (m := .refusing) t d
    simp only [ask]
    rcases hCheck : t.isConnected d with ⟨u, answer | answer⟩
    all_goals rw [hCheck] at hCalled
    · exact (hFound.called hCalled).bind answer
    · exact ⟨rfl, (hFound.called hCalled).discoveries, (hFound.called hCalled).first⟩

theorem replace_attains (request : ConnectRequest) (connected : Except LinkError Bool)
    (hIdle : s.operation = none) (hLink : s.session.link = none)
    (hBefore : s.discoveries = before) :
    Attains before request.filter (s.replace request d connected) := by
  have hTaken := takeDown_called (m := .refusing) (s := s) (d := d) connected ⟨hIdle, Or.inl hLink⟩
  unfold replace
  rcases hResult : s.takeDown d connected with ⟨t, error | ⟨⟩⟩
  all_goals
    rw [hResult] at hTaken
    have hLink' : t.session.link = none := (congrArg Session.link hTaken.session).trans hLink
    have hBefore' : t.discoveries = before := hTaken.discoveries.trans hBefore
  · exact ⟨nofun, hLink', Or.inl hBefore'⟩
  · exact search_attains request (hTaken.operation.trans hIdle) hLink' hBefore'

theorem connect_attains {serial : UInt64} (hIdle : s.operation = none)
    (hFilter : DiscoveryFilter.forSerial serial = .ok filter) :
    Attains s.discoveries filter (s.connect serial) := by
  unfold connect
  rw [hFilter]
  simp only
  cases hLink : s.session.link with
  | none =>
      exact search_attains ⟨s.connections, filter, .idle⟩
        (s := { s with connections := s.connections + 1 }) hIdle hLink rfl
  | some d =>
      have hIdle' : ({ s with connections := s.connections + 1 } : Radio).clear.operation = none :=
        (operation_clear _).trans hIdle
      have hBefore : ({ s with connections := s.connections + 1 } : Radio).clear.discoveries =
          s.discoveries :=
        (discoveries_of_recorded _ (trace_clear _)).trans (List.append_nil _)
      obtain ⟨hCalled, -⟩ := isConnected_called (m := .refusing)
        ({ s with connections := s.connections + 1 } : Radio).clear d
      simp only [ask]
      rcases hCheck : ({ s with connections := s.connections + 1 } : Radio).clear.isConnected d with
        ⟨t, answer | answer⟩
      all_goals
        rw [hCheck] at hCalled
        have hBefore' : t.discoveries = s.discoveries := hCalled.discoveries.trans hBefore
      · exact replace_attains ⟨s.connections, filter, .disconnected⟩ answer
          (hCalled.operation.trans hIdle') (congrArg Session.link hCalled.session) hBefore'
      · exact ⟨rfl, hBefore'⟩

/-- A connect goes on from where it waits. -/
theorem Seeks.continueAt {point : Point} (h : s.Seeks before filter point)
    (connected : Except LinkError Bool) (hIdle : s.operation = none) (hLink : s.session.link = none) :
    Attains before filter (s.continueAt point connected) := by
  cases point with
  | replacing request d =>
      obtain ⟨rfl, hBefore⟩ := h
      exact replace_attains request connected hIdle hLink hBefore
  | binding request d =>
      obtain ⟨rfl, hRun, hFirst⟩ := h
      exact Found.bind ⟨hIdle, hLink, hRun, hFirst⟩ connected
  | sending | rebinding | disconnecting => exact h.elim

/-- While the connect of this number waits, it has done what it seeks for its filter. -/
structure Seeking (s : Radio) (k : ConnectionId) (before : List DiscoveryFilter)
    (filter : DiscoveryFilter) : Prop where
  asked : k < s.connections
  waits : ∀ suspended, s.operation = some suspended → suspended.point.mover = .connecting k →
    s.Seeks before filter suspended.point

/-- Where another operation waits, the connect does not. -/
theorem Seeking.of_other (hAsked : k < t.connections) (hIdle : s.operation = none)
    (hOther : m ≠ .connecting k) (hMoves : s.MovesBy (· = m) t) : t.Seeking k before filter := by
  refine ⟨hAsked, fun suspended hOperation hMover => ?_⟩
  exact absurd ((mover_of_moves hIdle hMoves hOperation).symm.trans hMover) hOther

theorem Attains.seeking {p : Radio × Progress} (h : Attains before filter p)
    (hAsked : k < (note p).1.connections) (hIdle : p.1.operation = none) :
    (note p).1.Seeking k before filter := by
  obtain ⟨t, outcome | ⟨d, answer, point⟩⟩ := p
  · exact ⟨hAsked, fun suspended hOperation => by cases hIdle.symm.trans hOperation⟩
  · refine ⟨hAsked, ?_⟩
    rintro suspended ⟨⟩ -
    exact h

theorem Seeking.move (h : s.Seeking k before filter) (hMover : ∀ j, m ≠ .connecting j)
    (hMove : s.Move m t) : t.Seeking k before filter := by
  refine ⟨h.asked.trans_le hMove.grows.connections, fun suspended hOperation hConnects => ?_⟩
  rcases hMove.operation_cases with hSame | hNone | ⟨other, hOther, hSame⟩
  · exact (h.waits suspended (hSame.symm.trans hOperation) hConnects).move hMover hMove
  · cases hNone.symm.trans hOperation
  · cases hOther.symm.trans hOperation
    exact absurd (hSame.symm.trans hConnects) (hMover k)

theorem Seeking.moves (h : s.Seeking k before filter) (hMover : ∀ j, m ≠ .connecting j)
    (hMoves : s.MovesBy (· = m) t) : t.Seeking k before filter := by
  refine hMoves.keeps (P := (Seeking · k before filter)) ?_ h
  rintro _ u v rfl hMove h
  exact h.move hMover hMove

theorem Seeking.start (h : s.Seeking k before filter) (operation : Operation) :
    (s.start operation).1.Seeking k before filter := by
  cases hOperation : s.operation with
  | none =>
      have hMoves := (start_concludes operation hOperation).moves
      refine .of_other (h.asked.trans_le (grows_of_moves hMoves).connections) hOperation ?_ hMoves
      exact fun hMover => h.asked.ne (Operation.connecting hMover).1
  | some suspended =>
      rw [start_of_busy hOperation]
      exact h

theorem Seeking.resume (h : s.Seeking k before filter) (hSound : s.Sound) :
    s.resume.1.Seeking k before filter := by
  cases hOperation : s.operation with
  | none =>
      rw [resume_of_idle hOperation]
      exact h
  | some suspended =>
      have hConcludes := hSound.resume_concludes hOperation
      have hAsked : k < s.resume.1.connections :=
        h.asked.trans_le (grows_of_moves hConcludes.moves).connections
      by_cases hMover : suspended.point.mover = .connecting k
      · have hSeeks := h.waits suspended hOperation hMover
        have hIdle : Seeks { s with operation := none } before filter suspended.point :=
          hSeeks.move (m := .scheduler) nofun (.resumed s)
        have hLeads := continueAt_leads (s := { s with operation := none }) rfl
          (hSound.suspended suspended hOperation)
        rw [resume_of_busy hOperation] at hAsked ⊢
        exact (hIdle.continueAt _ rfl (hSound.connecting hOperation hMover).1).seeking hAsked
          hLeads.idle
      · exact .of_other hAsked rfl hMover hConcludes.moves

theorem Seeking.poll (h : s.Seeking k before filter) (hSound : s.Sound) :
    s.poll.Seeking k before filter := by
  unfold Radio.poll
  cases hReady : s.ready with
  | nil => exact h
  | cons p rest =>
      have hPolled := polled_sound hSound hReady
      have hSeeking : Seeking { s with ready := rest } k before filter :=
        h.move (m := .scheduler) nofun (.polled s p rest hReady)
      cases p with
      | task id => exact hSeeking.moves (m := .task id) nofun (runTask_advances hPolled id).moves
      | caller => exact hSeeking.resume hPolled

theorem Seeking.turns (h : s.Seeking k before filter) (hSound : s.Sound) (n : Nat) :
    (s.run (turns n)).Seeking k before filter := by
  induction n generalizing s with
  | zero => exact h
  | succ n ih => exact ih (h.poll hSound) (hSound.moves hSound.poll_moves)

theorem Seeking.step (h : s.Seeking k before filter) (hSound : s.Sound) (event : Event) :
    (s.step event).Seeking k before filter := by
  cases event with
  | start operation => exact h.start operation
  | abandon => exact h.move (m := .scheduler) (by simp) (.abandoned s)
  | turn => exact h.poll hSound
  | settle =>
      rw [Radio.step, settle_eq_run]
      exact h.turns hSound _
  | device event => exact h.move (m := .device event) (by simp) (.reacted s event)

theorem Seeking.run (h : s.Seeking k before filter) (hSound : s.Sound) (history : List Event) :
    (s.run history).Seeking k before filter := by
  induction history generalizing s with
  | nil => exact h
  | cons event history ih => exact ih (h.step hSound event) (hSound.moves (hSound.step_moves event))

/-- An outcome that is returned changes nothing of what was attained. -/
theorem Attains.returned {p : Radio × Progress} {outcome : Outcome} (h : Attains before filter p)
    (hReturned : note p = (t, some outcome)) : Attains before filter (t, .done outcome) := by
  obtain ⟨u, other⟩ := p
  obtain rfl : other = .done outcome := note_eq hReturned
  obtain rfl : u.record (.returned outcome) = t := congrArg Prod.fst hReturned
  have hDiscoveries : (u.record (.returned outcome)).discoveries = u.discoveries :=
    (discoveries_of_recorded [.returned outcome] rfl).trans (List.append_nil _)
  rcases outcome with (error | ⟨⟩) | result | result
  · obtain ⟨hError, hLink, hReleases⟩ := h
    refine ⟨hError, hLink, hReleases.imp hDiscoveries.trans fun hFound => ?_⟩
    refine ⟨hDiscoveries.trans hFound.1, fun d hFirst => ?_⟩
    exact (lastCall_record (s := u) rfl).trans (hFound.2 d hFirst)
  · have hHolds : u.HoldsFirst filter := h
    exact ⟨hHolds.state, hHolds.link, hHolds.filter⟩
  · exact h.elim
  · exact h.elim

/-- The outcome of a connect that has waited is told where it goes on. -/
theorem Sound.connect_told (h : s.Sound) (hAsked : k < s.connections) {event : Event}
    {result : Except ConnectError Unit} (hTold : (Outcome.connect result, t) ∈ s.toldBy event)
    (hLast : t.connections = k + 1) :
    ∃ i rest suspended, (s.run (turns i)).ready = .caller :: rest ∧
      (s.run (turns i)).operation = some suspended ∧ suspended.point.mover = .connecting k ∧
      ({ s.run (turns i) with ready := rest } : Radio).resume = (t, some (.connect result)) := by
  rcases mem_toldBy hTold with ⟨operation, -, hStart⟩ | ⟨-, i, hTurn⟩
  · obtain ⟨hIdle, hEnded⟩ := start_ended hStart
    have hConcludes := start_concludes operation hIdle
    rw [hStart] at hConcludes
    have hConnections := hConcludes.connections
    cases operation with
    | connect serial => exact absurd (Nat.succ.inj (hConnections.symm.trans hLast)) hAsked.ne'
    | send data | disconnect => exact hEnded.ends.elim
  · have hTurns := h.moves (h.run_moves (turns i))
    obtain ⟨rest, suspended, hReady, hOperation, hResume⟩ := mem_toldByTurn hTurn
    have hPolled := polled_sound hTurns hReady
    have hEnds := (hPolled.resume_ended hOperation hResume).ends
    have hConcludes := hPolled.resume_concludes hOperation
    rw [hResume] at hConcludes
    refine ⟨i, rest, suspended, hReady, hOperation, ?_, hResume⟩
    have hNewest {j : ConnectionId} (hMover : suspended.point.mover = .connecting j) : j = k := by
      obtain ⟨-, hNumber⟩ := hPolled.connecting hOperation hMover
      exact Nat.succ.inj (hNumber.trans (hConcludes.connections.symm.trans hLast))
    rcases hPoint : suspended.point with request | request | data | data | link
    all_goals rw [hPoint] at hNewest hEnds
    · exact congrArg Mover.connecting (hNewest rfl)
    · exact congrArg Mover.connecting (hNewest rfl)
    all_goals exact hEnds.elim

/-- A connect that fails leaves the session with nothing, and asks nothing more of a device that was
found than to disconnect. Its callbacks are never invoked. -/
structure LeftUnbound (s : Radio) (filter : DiscoveryFilter) (t : Radio) : Prop where
  bare : t.Bare
  state : t.session.state ≠ .bound
  serial : t.session.serial = none
  notConnected : ∀ data, (t.start (.send data)).2 = some (.send (.error .notConnected))
  silent : ∀ after, (t.run after).heardBy s.connections = []
  releases : t.Releases s.discoveries filter

/-- How a connect can end: refused for its serial number, with nothing done, or failed, with nothing
held, or with the session bound. -/
structure AllOrNothing (s : Radio) (serial : UInt64) (result : Except ConnectError Unit) (t : Radio) :
    Prop where
  refused : (∃ refusal, result = .error (.serial refusal)) ↔ UInt32.size ≤ serial.toNat
  untouched : ∀ refusal, result = .error (.serial refusal) →
    t = { s with
      connections := s.connections + 1
      trace := s.trace ++ [.returned (.connect result)] }
  unbound : ∀ error, result = .error error → (∀ refusal, error ≠ .serial refusal) →
    s.LeftUnbound (.ofSerial serial.toUInt32) t
  bound : result = .ok () → t.HoldsFirst (.ofSerial serial.toUInt32)

/-- A connect for a number that does not fit is refused at once. -/
theorem start_connect_of_le {serial : UInt64} (hIdle : s.operation = none)
    (hRange : UInt32.size ≤ serial.toNat) : s.start (.connect serial) =
      ({ s with
          connections := s.connections + 1
          trace := s.trace ++ [.returned (.connect (.error (.serial ⟨serial⟩)))] },
        some (.connect (.error (.serial ⟨serial⟩)))) := by
  have hRefused : DiscoveryFilter.forSerial serial = .error ⟨serial⟩ := if_neg hRange.not_gt
  rw [start_connect hIdle, connect, hRefused]
  rfl

/-- What was attained is what the session is left with. -/
theorem Attains.allOrNothing {serial : UInt64} {result : Except ConnectError Unit}
    (h : Attains s.discoveries (.ofSerial serial.toUInt32) (t, .done (.connect result)))
    (hFits : serial.toNat < UInt32.size) (hRegular : t.Regular) (hNumbered : t.Numbered)
    (hIdle : t.operation = none) (hLast : t.connections = s.connections + 1)
    (hUnreported : ¬t.Reported s.connections) : s.AllOrNothing serial result t := by
  have hAccepted : ¬∃ refusal, result = .error (.serial refusal) := by
    rintro ⟨refusal, rfl⟩
    exact h.1 refusal rfl
  refine ⟨iff_of_false hAccepted hFits.not_ge, ?_, ?_, ?_⟩
  · exact fun refusal hRefused => absurd ⟨refusal, hRefused⟩ hAccepted
  · rintro error rfl -
    obtain ⟨-, hLink, hReleases⟩ := h
    have hBare := hRegular.bare hLink
    have hParted : t.Parted s.connections := by
      refine ⟨hLast ▸ Nat.lt_succ_self _, ?_, fun suspended hOperation => ?_⟩
      · rw [hBare.onNotify]
        exact nofun
      · cases hIdle.symm.trans hOperation
    refine ⟨hBare, fun hBound => hRegular.sound.bound hBound hLink, ?_, fun data => ?_,
      fun after => ?_, hReleases⟩
    · rw [Session.serial, hBare.filter]
      rfl
    · rw [start_send_of_unlinked hIdle hLink]
    · rw [hParted.silent hRegular.sound hNumbered after]
      refine List.filter_eq_nil_iff.mpr fun effect hEffect hSame => ?_
      exact hUnreported ⟨effect, hEffect, of_decide_eq_true hSame⟩
  · rintro rfl
    exact h

/-- A connect that ends where it starts. -/
theorem Regular.start_allOrNothing (h : s.Regular) (hNumbered : s.Numbered) {serial : UInt64}
    {result : Except ConnectError Unit}
    (hStart : s.start (.connect serial) = (t, some (.connect result))) :
    s.AllOrNothing serial result t := by
  obtain ⟨hIdle, hEnded⟩ := start_ended hStart
  rcases Nat.lt_or_ge serial.toNat UInt32.size with hFits | hRange
  · have hFilter : DiscoveryFilter.forSerial serial = .ok (.ofSerial serial.toUInt32) := if_pos hFits
    have hMover : (Operation.connect serial).mover s = .connecting s.connections := by
      simp only [Operation.mover, hFilter]
    have hConcludes := start_concludes (.connect serial) hIdle
    have hRegular := (h.started (.connect serial) hIdle).1
    rw [hStart] at hConcludes hRegular
    have hNote : note (s.connect serial) = (t, some (.connect result)) :=
      (start_connect hIdle serial).symm.trans hStart
    refine ((connect_attains hIdle hFilter).returned hNote).allOrNothing hFits hRegular ?_
      hEnded.idle hConcludes.connections (hEnded.unreported (hNumbered.fresh _) hMover)
    exact hNumbered.moves h.sound hConcludes.moves.moves
  · rw [start_connect_of_le hIdle hRange] at hStart
    obtain ⟨rfl, hOutcome⟩ := Prod.mk.inj hStart
    obtain rfl := Outcome.connect.inj (Option.some.inj hOutcome)
    refine ⟨iff_of_true ⟨_, rfl⟩ hRange, ?_, ?_, ?_⟩
    · rintro refusal ⟨⟩
      rfl
    · rintro error ⟨⟩ hError
      exact absurd rfl (hError _)
    · rintro ⟨⟩

/-- A connect that goes on from where it waited and ends. -/
theorem Seeking.allOrNothing {u : Radio} {serial : UInt64} {result : Except ConnectError Unit}
    {rest : List Participant} {suspended : Suspended}
    (h : u.Seeking s.connections s.discoveries (.ofSerial serial.toUInt32))
    (hFits : serial.toNat < UInt32.size) (hRegular : u.Regular) (hNumbered : u.Numbered)
    (hUnreported : u.Unreported) (hReady : u.ready = .caller :: rest)
    (hOperation : u.operation = some suspended)
    (hMover : suspended.point.mover = .connecting s.connections)
    (hResume : ({ u with ready := rest } : Radio).resume = (t, some (.connect result)))
    (hLast : t.connections = s.connections + 1) : s.AllOrNothing serial result t := by
  have hMove := Move.polled u _ rest hReady
  have hPolled := hRegular.move (m := .scheduler) rfl hMove
  have hEnded := hPolled.sound.resume_ended hOperation hResume
  have hResumed := (hPolled.resumed hOperation).1
  rw [hResume] at hResumed
  have hNote := (resume_of_busy (s := { u with ready := rest }) hOperation).symm.trans hResume
  have hSeeks : Seeks { u with ready := rest, operation := none } s.discoveries
      (.ofSerial serial.toUInt32) suspended.point := by
    have hWaits := (h.waits suspended hOperation hMover).move (m := .scheduler) nofun hMove
    exact hWaits.move (m := .scheduler) nofun (.resumed _)
  have hLink := (hPolled.sound.connecting hOperation hMover).1
  have hAttains := (hSeeks.continueAt (.ok suspended.answer) rfl hLink).returned hNote
  refine hAttains.allOrNothing hFits hResumed ?_ hEnded.idle hLast ?_
  · have hNumbered' := hNumbered.move hRegular.sound hMove
    exact hNumbered'.moves hPolled.sound (.head ⟨_, trivial, .resumed _⟩ hEnded.moves.moves)
  · have hFresh : Fresh suspended.point.mover u := hUnreported suspended hOperation
    exact hEnded.unreported (hFresh.of_heard rfl) hMover

/-- A connect that ends after it has waited. -/
theorem later_allOrNothing {devices : List Device} {before later : List Event} {event : Event}
    {serial : UInt64} {result : Except ConnectError Unit} (hReached : s = (initial devices).run before)
    (hIdle : s.operation = none)
    (hTold : (Outcome.connect result, t) ∈
      ((s.start (.connect serial)).1.run later).toldBy event)
    (hLast : t.connections = s.connections + 1) : s.AllOrNothing serial result t := by
  have hRegular : s.Regular := hReached ▸ run_regular devices before
  have hStarts := start_concludes (.connect serial) hIdle
  have hStarted := (hRegular.started (.connect serial) hIdle).1.sound
  have hAsked : s.connections < (s.start (.connect serial)).1.connections :=
    hStarts.connections ▸ Nat.lt_succ_self _
  have hRuns := hStarted.run_moves later
  obtain ⟨i, rest, suspended, hReady, hOperation, hMover, hResume⟩ :=
    (hStarted.moves hRuns).connect_told (hAsked.trans_le (grows_of_moves hRuns).connections) hTold
      hLast
  rw [← run_append] at hReady hOperation hResume
  rcases Nat.lt_or_ge serial.toNat UInt32.size with hFits | hRange
  · have hFilter : DiscoveryFilter.forSerial serial = .ok (.ofSerial serial.toUInt32) := if_pos hFits
    have hSeeking : Seeking (s.start (.connect serial)).1 s.connections s.discoveries
        (.ofSerial serial.toUInt32) := by
      rw [start_connect hIdle] at hAsked ⊢
      exact (connect_attains hIdle hFilter).seeking hAsked (connect_leads serial hIdle).idle
    have hLater : (s.start (.connect serial)).1.run (later ++ turns i) =
        (initial devices).run (before ++ .start (.connect serial) :: (later ++ turns i)) := by
      rw [hReached]
      exact (run_append _ before (.start (.connect serial) :: (later ++ turns i))).symm
    refine (hSeeking.run hStarted (later ++ turns i)).allOrNothing hFits ?_ ?_ ?_ hReady hOperation
      hMover hResume hLast
    all_goals rw [hLater]
    · exact run_regular devices _
    · exact run_numbered devices _
    · exact run_unreported devices _
  · rw [start_connect_of_le hIdle hRange] at hAsked hOperation hStarted
    have hNobody : InProgress (· ≠ .connecting s.connections)
        ({ s with
          connections := s.connections + 1
          trace := s.trace ++ [.returned (.connect (.error (.serial ⟨serial⟩)))] } : Radio) :=
      fun suspended hBusy => by cases hIdle.symm.trans hBusy
    have hOthers := hStarted.run_movesBy_others hAsked hNobody (later ++ turns i)
    exact absurd hMover (hNobody.moves hOthers suspended hOperation)

/-- Connecting is all or nothing, whatever is in range, whatever faults answer and whatever happens
while it waits. A connect that returns, no other having been asked for since, is told that its serial
number does not fit exactly if it does not, and then nothing was called and nothing has changed. If it
fails otherwise the session has nothing, and never invokes the callbacks that it was given; a device
that was found was asked last to disconnect. If it succeeds the session is bound, to the first device
in range that the filter admits. -/
theorem connect_all_or_nothing (devices : List Device) (before : List Event) (serial : UInt64)
    (hIdle : ((initial devices).run before).operation = none) :
    (UInt32.size ≤ serial.toNat → ∃ t, (Outcome.connect (.error (.serial ⟨serial⟩)), t) ∈
      ((initial devices).run before).toldBy (.start (.connect serial))) ∧
    ∀ during event rest result t, during ++ [event] = .start (.connect serial) :: rest →
      (Outcome.connect result, t) ∈
        (((initial devices).run before).run during).toldBy event →
      t.connections = ((initial devices).run before).connections + 1 →
      ((initial devices).run before).AllOrNothing serial result t := by
  refine ⟨fun hRange => ⟨_, mem_told.mpr (start_connect_of_le hIdle hRange)⟩, ?_⟩
  intro during event rest result t hHistory hTold hLast
  cases during with
  | nil =>
      obtain ⟨rfl, -⟩ := List.cons.inj hHistory
      exact (run_regular devices before).start_allOrNothing (run_numbered devices before)
        (mem_told.mp hTold)
  | cons first later =>
      obtain ⟨rfl, -⟩ := List.cons.inj hHistory
      exact later_allOrNothing rfl hIdle hTold hLast

/-- The service of the device that was found goes away while its answer is held back. -/
theorem connect_all_or_nothing_held_check :
    ((initial [.ofSerial 7]).run [.device (.hold 0)]).operation = none ∧
      ∃ t, (Outcome.connect (.error .incorrectDeviceSelected), t) ∈
          (((initial [.ofSerial 7]).run [.device (.hold 0)]).run [.start (.connect 7),
            .device (.offerService 0 false), .device (.release 0)]).toldBy .turn ∧
        t.lastCall 0 = some (.disconnect 0) ∧
        ((initial [.ofSerial 7]).run [.device (.hold 0)]).LeftUnbound (.ofSerial 7) t := by
  obtain ⟨-, hEnds⟩ := connect_all_or_nothing [.ofSerial 7] [.device (.hold 0)] 7 rfl
  have hTold : (Outcome.connect (.error .incorrectDeviceSelected),
      ((initial [.ofSerial 7]).run [.device (.hold 0), .start (.connect 7),
        .device (.offerService 0 false), .device (.release 0)]).poll) ∈
      (((initial [.ofSerial 7]).run [.device (.hold 0)]).run [.start (.connect 7),
        .device (.offerService 0 false), .device (.release 0)]).toldBy .turn :=
    List.mem_singleton.mpr rfl
  have hEnd := hEnds _ _ _ _ _ rfl hTold rfl
  have hLeft := hEnd.unbound _ rfl nofun
  refine ⟨rfl, _, hTold, ?_, hLeft⟩
  rfl

end Radio

end LockRelay
