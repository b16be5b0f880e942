import LockRelay.Proofs.Session.Moves

/-! Operations as chains of moves. Each function of an operation leads, from where the code calls
it, to an outcome that the state justifies or to a point where the operation waits. -/
namespace LockRelay

/-- The payload that an operation sends which waits here. -/
def Point.payload : Point → Option Bytes
  | .sending data | .rebinding data => some data
  | .replacing _ _ | .binding _ _ | .disconnecting _ => none

def Radio.Operation.payload : Radio.Operation → Option Bytes
  | .send data => some data
  | .connect _ | .disconnect => none

/-- Who moves when an operation is started. -/
def Radio.Operation.mover (s : Radio) : Radio.Operation → Mover
  | .connect serial =>
      match DiscoveryFilter.forSerial serial with
      | .ok _ => .connecting s.connections
      | .error _ => .refusing
  | .send _ => .sending
  | .disconnect => .disconnecting

theorem Radio.Operation.mover_operates (s : Radio) (operation : Radio.Operation) :
    (operation.mover s).operates = true := by
  cases operation with
  | connect serial =>
      simp only [mover]
      cases DiscoveryFilter.forSerial serial <;> rfl
  | send data => rfl
  | disconnect => rfl

/-- How many connections an operation asks for. -/
def Radio.Operation.asked : Radio.Operation → Nat
  | .connect _ => 1
  | .send _ | .disconnect => 0

def Outcome.isSend : Outcome → Bool
  | .send _ => true
  | .connect _ | .disconnect _ => false

/-- What the lock acknowledged by the time of an outcome. -/
def Outcome.acknowledges (payload : Option Bytes) : Outcome → List Bytes
  | .send (.ok ()) => payload.toList
  | _ => []

namespace Radio

def Progress.acknowledges (payload : Option Bytes) : Progress → List Bytes
  | .done outcome => outcome.acknowledges payload
  | .waiting _ _ _ => []

/-- Whether an operation can have got so far that moves. -/
def Progress.Of (m : Mover) : Progress → Prop
  | .done outcome => m.Ends outcome
  | .waiting _ _ point => point.mover = m

/-- How far an operation may have got that sends a payload, or none. -/
def MayStand (s : Radio) (payload : Option Bytes) : Progress → Prop
  | .done outcome => outcome.isSend = payload.isSome ∧ s.Justifies outcome
  | .waiting _ answer point => point.payload = payload ∧ s.WaitsAt answer point

/-- A chain of moves of an operation, which gets as far as `p` says. -/
structure Leads (m : Mover) (payload : Option Bytes) (s : Radio) (p : Radio × Progress) : Prop where
  moves : s.MovesBy (· = m) p.1
  mover : p.2.Of m
  idle : p.1.operation = none
  length : p.1.devices.length = s.devices.length
  connections : p.1.connections = s.connections
  acknowledged : p.1.acknowledged = s.acknowledged ++ p.2.acknowledges payload
  stands : p.1.MayStand payload p.2

variable {m : Mover} {payload : Option Bytes}

theorem Leads.after {s t : Radio} {p : Radio × Progress} (h : s.Advances (· = m) t)
    (h' : Leads m payload t p) : Leads m payload s p :=
  ⟨h.moves.trans h'.moves, h'.mover, h'.idle, h'.length.trans h.length,
    h'.connections.trans h.connections,
    by rw [h'.acknowledged, h.acknowledged], h'.stands⟩

/-- Nothing was written by the time of the outcome. -/
theorem Leads.done {s : Radio} {outcome : Outcome} (hIdle : s.operation = none)
    (hEnds : m.Ends outcome) (hSend : outcome.isSend = payload.isSome)
    (hNothing : outcome.acknowledges payload = []) (hJustified : s.Justifies outcome) :
    Leads m payload s (s, .done outcome) :=
  ⟨.refl, hEnds, hIdle, rfl, rfl, by simp [Progress.acknowledges, hNothing], hSend, hJustified⟩

/-- What a check of the connection tells, and that nothing else changes by it. -/
theorem isConnected_called (s : Radio) (d : DeviceId) :
    s.Called m (s.isConnected d).1 ∧
      (∀ i, ((s.isConnected d).1.device i).connected = (s.device i).connected) ∧
      (s.isConnected d).2.FitsTo ((s.isConnected d).1.device d).connected := by
  obtain ⟨hFits, device, hServed, hState⟩ := isConnected_served s d
  have hConnected := connected_of_served hServed hState rfl
  refine ⟨Called.of_served hServed hState rfl trivial rfl, hConnected, ?_⟩
  rw [hConnected]
  exact hFits

theorem ask_leads {s : Radio} {d : DeviceId} {point : Point}
    {next : Radio → Except LinkError Bool → Radio × Progress} (hIdle : s.operation = none)
    (hPoint : point.payload = payload)
    (hWaits : ∀ t, s.Called m t → t.WaitsAt (t.device d).connected point)
    (hMover : point.mover = m)
    (hNext : ∀ t answer, s.Called m t → (Answer.ready answer).FitsTo (t.device d).connected →
      Leads m payload t (next t answer)) : Leads m payload s (s.ask d point next) := by
  obtain ⟨hCalled, -, hFits⟩ := isConnected_called s d
  unfold ask
  cases hCheck : s.isConnected d with
  | mk t answer =>
      rw [hCheck] at hCalled hFits
      cases answer with
      | ready answer => exact (hNext t answer hCalled hFits).after hCalled.toAdvances
      | held answer =>
          have hAnswer : answer = (t.device d).connected := hFits
          refine ⟨hCalled.moves, hMover, hCalled.operation.trans hIdle, hCalled.length,
            hCalled.connections, ?_, hPoint, ?_⟩
          · exact hCalled.acknowledged.trans (List.append_nil _).symm
          · subst hAnswer
            exact hWaits t hCalled

theorem resolveEndpoints_called (s : Radio) (d : DeviceId) (filter : DiscoveryFilter) :
    s.Called m (s.resolveEndpoints d filter).1 ∧
      ∀ endpoints, (s.resolveEndpoints d filter).2 = .ok (some endpoints) →
        (s.resolveEndpoints d filter).1.JustSubscribed d ∧
          ((s.resolveEndpoints d filter).1.device d).connected = true := by
  obtain ⟨device, hServed, hState⟩ := resolve_served s d (Uuid.ofShort filter.serviceId)
  have hConnected {endpoints : Option Endpoints} :
      (s.resolve d (Uuid.ofShort filter.serviceId)).2 = .ok endpoints →
        (s.device d).connected = true := connected_of_resolve_ok s d _
  have hResolved := Called.of_served (m := m) hServed hState rfl trivial rfl
  unfold resolveEndpoints
  rcases hResolve : s.resolve d (Uuid.ofShort filter.serviceId) with ⟨t, error | none | endpoints⟩
  · rw [hResolve] at hResolved
    exact ⟨hResolved, by simp⟩
  · rw [hResolve] at hResolved
    exact ⟨hResolved, by simp⟩
  rw [hResolve] at hResolved hServed hState hConnected
  obtain ⟨device', hServed', hState'⟩ := subscribe_served t d endpoints.inbound
  have hSubscribed := Called.of_served (m := m) hServed' hState' rfl trivial rfl
  simp only
  rcases hSubscribe : t.subscribe d endpoints.inbound with ⟨u, error | ⟨⟩⟩
  · rw [hSubscribe] at hSubscribed
    exact ⟨hResolved.trans hSubscribed, by simp⟩
  · rw [hSubscribe] at hSubscribed hServed' hState'
    refine ⟨hResolved.trans hSubscribed, fun _ _ => ⟨?_, ?_⟩⟩
    · refine ⟨s.trace, Uuid.ofShort filter.serviceId, endpoints.inbound, [], by simp, ?_⟩
      have hTrace : t.trace =
          s.trace ++ [.call (.resolve d (Uuid.ofShort filter.serviceId)) true] :=
        congrArg trace hState
      have hTrace' : u.trace = t.trace ++ [.call (.subscribe d endpoints.inbound) true] :=
        congrArg trace hState'
      simp [hTrace', hTrace]
    · have hKept := connected_of_served hServed hState rfl d
      have hKept' := connected_of_served hServed' hState' rfl d
      exact hKept'.trans (hKept.trans (hConnected rfl))

theorem bindLink_called {s : Radio} {d : DeviceId} (filter : DiscoveryFilter)
    (connected : Except LinkError Bool) (hMay : s.MayCall (.connect d)) :
    s.Called m (s.bindLink d filter connected).1 ∧
      ∀ endpoints, (s.bindLink d filter connected).2 = .ok (some endpoints) →
        (s.bindLink d filter connected).1.JustSubscribed d ∧
          ((s.bindLink d filter connected).1.device d).connected = true := by
  unfold bindLink
  rcases connected with error | connected
  · exact ⟨.refl s, by simp⟩
  cases connected with
  | true => exact resolveEndpoints_called s d filter
  | false =>
      obtain ⟨device, hServed, hState⟩ := connectLink_served s d
      have hConnected := Called.of_served (m := m) hServed hState rfl hMay rfl
      simp only
      rcases hConnect : s.connectLink d with ⟨t, error | ⟨⟩⟩
      · rw [hConnect] at hConnected
        exact ⟨hConnected, by simp⟩
      · rw [hConnect] at hConnected
        obtain ⟨hResolved, hSubscribed⟩ := resolveEndpoints_called (m := m) t d filter
        exact ⟨hConnected.trans hResolved, hSubscribed⟩

theorem endpoints_of_resolveEndpoints_ok {s : Radio} {d : DeviceId} {filter : DiscoveryFilter}
    {endpoints : Endpoints} (h : (s.resolveEndpoints d filter).2 = .ok (some endpoints)) :
    endpoints = .ofLock := by
  unfold resolveEndpoints at h
  rcases hResolve : s.resolve d (Uuid.ofShort filter.serviceId) with ⟨t, error | none | found⟩
  all_goals simp only [hResolve] at h
  · cases h
  · cases h
  rcases hSubscribe : t.subscribe d found.inbound with ⟨u, error | ⟨⟩⟩
  all_goals simp only [hSubscribe] at h
  · cases h
  · obtain rfl := Option.some.inj (Except.ok.inj h)
    exact endpoints_of_resolve_ok s d _ (congrArg Prod.snd hResolve)

/-- A link that is bound uses the endpoints of a lock. -/
theorem endpoints_of_bindLink_ok {s : Radio} {d : DeviceId} {filter : DiscoveryFilter}
    {connected : Except LinkError Bool} {endpoints : Endpoints}
    (h : (s.bindLink d filter connected).2 = .ok (some endpoints)) : endpoints = .ofLock := by
  unfold bindLink at h
  rcases connected with error | _ | _
  · cases h
  · rcases hConnect : s.connectLink d with ⟨t, error | ⟨⟩⟩
    all_goals simp only [hConnect] at h
    · cases h
    · exact endpoints_of_resolveEndpoints_ok h
  · exact endpoints_of_resolveEndpoints_ok h

theorem disconnectLink_called {s : Radio} {d : DeviceId} (hMay : s.MayCall (.disconnect d)) :
    s.Called m (s.disconnectLink d).1 := by
  obtain ⟨device, hServed, hState⟩ := disconnectLink_served s d
  exact Called.of_served hServed hState rfl hMay rfl

theorem rejectDevice_leads {s : Radio} {k : ConnectionId} (d : DeviceId) (error : ConnectError)
    (hIdle : s.operation = none) (hLink : s.session.link = none) :
    Leads (.connecting k) none s (s.rejectDevice d error) := by
  have hCalled := disconnectLink_called (m := .connecting k) (s := s) (d := d)
    ⟨hIdle, Or.inl hLink⟩
  have hIdle' := hCalled.operation.trans hIdle
  have hLink' : (s.disconnectLink d).1.session.link = none := by rw [hCalled.session, hLink]
  have hAssigned := Advances.assigned (k := k) .disconnected hIdle' hLink' nofun
  refine Leads.after (hCalled.toAdvances.trans hAssigned) ?_
  exact Leads.done hIdle' trivial rfl rfl trivial

theorem bindFound_leads {s : Radio} (request : ConnectRequest) {d : DeviceId}
    (connected : Except LinkError Bool) (hIdle : s.operation = none)
    (hLink : s.session.link = none) (hRange : d < s.devices.length) (hNewest : s.Newest request) :
    Leads (.connecting request.connection) none s (s.bindFound request d connected) := by
  obtain ⟨hBind, hSubscribed⟩ :=
    bindLink_called (m := .connecting request.connection) request.filter connected (s := s)
      (d := d) ⟨hIdle, Or.inl hLink⟩
  unfold bindFound
  rcases hResult : s.bindLink d request.filter connected with ⟨t, error | none | endpoints⟩
  all_goals
    rw [hResult] at hBind
    have hIdle' : t.operation = none := hBind.operation.trans hIdle
    have hLink' : t.session.link = none := (congrArg Session.link hBind.session).trans hLink
    refine Leads.after hBind.toAdvances ?_
  · exact rejectDevice_leads d _ hIdle' hLink'
  · exact rejectDevice_leads d _ hIdle' hLink'
  rw [hResult] at hSubscribed
  obtain ⟨⟨before, service, inbound, after, hAfter, hTrace⟩, hConnected⟩ :=
    hSubscribed endpoints rfl
  obtain ⟨device, hServed, hState⟩ := drops_served t d
  have hDrops := Called.of_served (m := .connecting request.connection) hServed hState rfl trivial
    rfl
  simp only
  rcases hResult' : t.drops d with ⟨u, error | ⟨⟩⟩
  all_goals
    rw [hResult'] at hDrops
    have hIdle'' : u.operation = none := hDrops.operation.trans hIdle'
    have hLink'' : u.session.link = none := (congrArg Session.link hDrops.session).trans hLink'
    refine Leads.after hDrops.toAdvances ?_
  · exact rejectDevice_leads d _ hIdle'' hLink''
  · have hRange' : d < u.devices.length := by rw [hDrops.length, hBind.length]; exact hRange
    rw [hResult'] at hServed hState
    have hTrace' : u.trace = t.trace ++ [.call (.drops d) true] := congrArg trace hState
    have hNewest' : u.Newest request := by
      unfold Newest
      rw [hDrops.connections, hBind.connections]
      exact hNewest
    have hSubscribed' : u.JustSubscribed d := by
      refine ⟨before, service, inbound, after ++ [.call (.drops d) true], ?_, ?_⟩
      · intro e he
        rcases List.mem_append.mp he with he | he
        · exact hAfter e he
        · exact List.mem_singleton.mp he
      · rw [hTrace', hTrace]
        simp
    have hConnected' : (u.device d).connected = true :=
      (connected_of_served hServed hState rfl d).trans hConnected
    have hAdopted := Move.adopted u request d endpoints hIdle'' hLink'' hRange' hNewest'
      hSubscribed' hConnected' (endpoints_of_bindLink_ok (congrArg Prod.snd hResult))
    have hOpened : (u.adopt request d endpoints).Opened d request.connection := by
      refine ⟨rfl, hConnected', rfl, rfl, rfl, hNewest', ⟨u.nextTask, rfl, ?_⟩,
        ⟨u.nextTask + 1, ?_⟩⟩
      · simp [adopt, spawn, Radio.bound, assign, record]
      · simp [adopt, spawn, Radio.bound, assign, record]
    refine Leads.after ⟨hAdopted.by rfl, rfl, ?_, rfl, rfl⟩
      (Leads.done hIdle'' trivial rfl rfl ⟨d, request.connection, hOpened⟩)
    exact (acknowledged_record _ _).trans (List.append_nil _)

/-- Discovery touches no device, and what it finds is in range. -/
theorem discover_called {s : Radio} {k : ConnectionId} (filter : DiscoveryFilter)
    (hLink : s.session.link = none) :
    s.Called (.connecting k) (s.discover filter).1 ∧
      ∀ d, (s.discover filter).2 = .ok (some d) → d < (s.discover filter).1.devices.length := by
  have hCalled (scans : Nat) (fault : Option CallFault) (succeeded : Bool) :
      s.Called (.connecting k) ({ s with scans, discoverFault := fault }.record
        (.call (.discover filter) succeeded)) := by
    have hMove := Move.discovered (k := k) s scans fault filter succeeded hLink
    refine ⟨⟨hMove.by rfl, rfl, ?_, rfl, rfl⟩, rfl, rfl, ?_⟩
    · exact (acknowledged_record _ _).trans (List.append_nil _)
    · exact (assignments_record _ _).trans (List.append_nil _)
  unfold discover
  cases hFault : s.discoverFault with
  | some fault => exact ⟨hCalled s.scans fault.spend false, by simp⟩
  | none =>
      refine ⟨hCalled (s.scans + 1) none true, fun d hFound => ?_⟩
      obtain ⟨hRange, -⟩ := List.findIdx?_eq_some_iff_getElem.mp (Except.ok.inj hFound)
      exact hRange

theorem search_leads {s : Radio} (request : ConnectRequest) (hIdle : s.operation = none)
    (hLink : s.session.link = none) (hFallback : request.fallback ≠ .bound)
    (hNewest : s.Newest request) :
    Leads (.connecting request.connection) none s (s.search request) := by
  refine Leads.after (Advances.assigned .connecting hIdle hLink nofun) ?_
  unfold search
  obtain ⟨hDiscover, hFound⟩ :=
    discover_called (s := s.assign .connecting) (k := request.connection) request.filter hLink
  rcases hResult : (s.assign .connecting).discover request.filter with ⟨t, error | none | d⟩
  all_goals
    rw [hResult] at hDiscover
    have hIdle' : t.operation = none := hDiscover.operation.trans hIdle
    have hLink' : t.session.link = none := (congrArg Session.link hDiscover.session).trans hLink
    refine Leads.after hDiscover.toAdvances ?_
  · exact Leads.after (.assigned _ hIdle' hLink' hFallback)
      (Leads.done hIdle' trivial rfl rfl trivial)
  · exact Leads.after (.assigned _ hIdle' hLink' hFallback)
      (Leads.done hIdle' trivial rfl rfl trivial)
  · rw [hResult] at hFound
    have hRange := hFound d rfl
    have hNewest' (u : Radio) (hCalled : t.Called (.connecting request.connection) u) :
        u.Newest request := by
      unfold Newest
      rw [hCalled.connections, hDiscover.connections]
      exact hNewest
    refine ask_leads hIdle' rfl ?_ rfl ?_
    · intro u hCalled
      refine ⟨(congrArg Session.link hCalled.session).trans hLink', ?_, hNewest' u hCalled⟩
      rw [hCalled.length]
      exact hRange
    · intro u answer hCalled hFits
      apply bindFound_leads
      · exact hCalled.operation.trans hIdle'
      · exact (congrArg Session.link hCalled.session).trans hLink'
      · rw [hCalled.length]
        exact hRange
      · exact hNewest' u hCalled

theorem clear_advances {s : Radio} (hIdle : s.operation = none) (hMover : m.tearsDown = true) :
    s.Advances (· = m) s.clear := by
  refine ⟨(Move.cleared s hIdle hMover).by rfl, operation_clear s, ?_,
    congrArg List.length (devices_clear s), connections_clear s⟩
  unfold acknowledged
  rw [trace_clear]
  simp [Effect.acknowledged?]

theorem takeDown_called {s : Radio} {d : DeviceId} (connected : Except LinkError Bool)
    (hMay : s.MayCall (.disconnect d)) : s.Called m (s.takeDown d connected).1 := by
  unfold takeDown
  rcases connected with error | connected
  · exact .refl s
  cases connected with
  | true => exact disconnectLink_called hMay
  | false => exact .refl s

theorem replace_leads {s : Radio} (request : ConnectRequest) (d : DeviceId)
    (connected : Except LinkError Bool) (hIdle : s.operation = none)
    (hLink : s.session.link = none) (hFallback : request.fallback ≠ .bound)
    (hNewest : s.Newest request) :
    Leads (.connecting request.connection) none s (s.replace request d connected) := by
  have hTaken := takeDown_called (m := .connecting request.connection) (s := s) (d := d) connected
    ⟨hIdle, Or.inl hLink⟩
  unfold replace
  rcases hResult : s.takeDown d connected with ⟨t, error | ⟨⟩⟩
  all_goals
    rw [hResult] at hTaken
    have hIdle' : t.operation = none := hTaken.operation.trans hIdle
    have hLink' : t.session.link = none := (congrArg Session.link hTaken.session).trans hLink
    refine Leads.after hTaken.toAdvances ?_
  · exact Leads.done hIdle' trivial rfl rfl trivial
  · exact search_leads request hIdle' hLink' hFallback (hNewest.trans hTaken.connections.symm)

theorem connect_leads {s : Radio} (serial : UInt64) (hIdle : s.operation = none) :
    Leads ((Operation.connect serial).mover s) none { s with connections := s.connections + 1 }
      (s.connect serial) := by
  unfold connect
  cases hFilter : DiscoveryFilter.forSerial serial with
  | error error =>
      have hMover : (Operation.connect serial).mover s = .refusing := by
        simp only [Operation.mover, hFilter]
      rw [hMover]
      exact Leads.done hIdle trivial rfl rfl trivial
  | ok filter =>
      have hMover : (Operation.connect serial).mover s = .connecting s.connections := by
        simp only [Operation.mover, hFilter]
      rw [hMover]
      simp only
      cases hLink : s.session.link with
      | none => exact search_leads ⟨s.connections, filter, .idle⟩ hIdle hLink nofun rfl
      | some d =>
          simp only
          refine Leads.after (clear_advances hIdle rfl) (ask_leads ?_ rfl ?_ rfl ?_)
          · rw [operation_clear]
            exact hIdle
          · intro t hCalled
            refine ⟨?_, nofun, ?_⟩
            · rw [hCalled.session, link_clear]
            · exact (hCalled.connections.trans (connections_clear _)).symm
          · intro t answer hCalled hFits
            apply replace_leads ⟨s.connections, filter, .disconnected⟩
            · rw [hCalled.operation, operation_clear]
              exact hIdle
            · rw [hCalled.session, link_clear]
            · exact nofun
            · exact (hCalled.connections.trans (connections_clear _)).symm

theorem writeOut_leads {s : Radio} (data : Bytes) (hIdle : s.operation = none) :
    Leads .sending (some data) s (s.writeOut data) := by
  unfold writeOut
  cases hLink : s.session.link with
  | none => exact Leads.done hIdle trivial rfl rfl trivial
  | some d =>
  cases s.session.endpoints with
  | none => exact Leads.done hIdle trivial rfl rfl trivial
  | some endpoints =>
  simp only
  obtain ⟨device, hServed, hState⟩ := write_served s d endpoints.outbound data
  have hConnected : (s.write d endpoints.outbound data).2 = .ok () →
      (s.device d).connected = true := connected_of_write_ok
  rcases hResult : s.write d endpoints.outbound data with ⟨t, error | ⟨⟩⟩
  all_goals
    rw [hResult] at hServed hState
    have hMove := Move.called (m := .sending) s d device (.write d endpoints.outbound data) _ rfl
      ⟨hIdle, hLink⟩ hServed
    rw [← hState] at hMove
    have hLength := (congrArg (·.devices.length) hState).trans (length_setDevice s d device)
    have hConnections : t.connections = s.connections := (congrArg connections hState).trans rfl
    have hIdle' : t.operation = none := (congrArg operation hState).trans hIdle
    refine ⟨hMove.by rfl, trivial, hIdle', hLength, hConnections, ?_, ?_⟩
  · rw [hState]
    exact acknowledged_record _ _
  · exact ⟨rfl, trivial⟩
  · rw [hState]
    exact acknowledged_record _ _
  · rw [hResult] at hConnected
    have hLink' : t.session.link = some d := (congrArg (·.session.link) hState).trans hLink
    exact ⟨rfl, d, hLink', (connected_of_served hServed hState rfl d).trans (hConnected rfl)⟩

theorem rebind_leads {s : Radio} (data : Bytes) (connected : Except LinkError Bool)
    (hIdle : s.operation = none) (hState : s.session.state ≠ .bound) :
    Leads .sending (some data) s (s.rebind data connected) := by
  unfold rebind
  cases hLink : s.session.link with
  | none => exact Leads.done hIdle trivial rfl rfl trivial
  | some d =>
  cases s.session.filter with
  | none => exact Leads.done hIdle trivial rfl rfl trivial
  | some filter =>
  simp only
  obtain ⟨hBind, hSubscribed⟩ :=
    bindLink_called (m := .sending) filter connected (s := s) (d := d)
      ⟨hIdle, Or.inr ⟨hLink, hState⟩⟩
  rcases hResult : s.bindLink d filter connected with ⟨t, error | none | endpoints⟩
  all_goals
    rw [hResult] at hBind
    have hIdle' : t.operation = none := hBind.operation.trans hIdle
    have hLink' : t.session.link = some d := (congrArg Session.link hBind.session).trans hLink
    have hState' : t.session.state ≠ .bound := by
      have h : t.session.state = s.session.state := congrArg Session.state hBind.session
      rw [h]
      exact hState
    refine Leads.after hBind.toAdvances ?_
  · exact Leads.done hIdle' trivial rfl rfl trivial
  · have hCalled := disconnectLink_called (m := .sending) (s := t) (d := d)
      ⟨hIdle', Or.inr ⟨hLink', hState'⟩⟩
    refine Leads.after hCalled.toAdvances (Leads.done ?_ trivial rfl rfl trivial)
    exact hCalled.operation.trans hIdle'
  · rw [hResult] at hSubscribed
    obtain ⟨hJust, hConnected⟩ := hSubscribed endpoints rfl
    have hMove := Move.readopted t d endpoints hIdle' hLink' hState' hJust hConnected
      (endpoints_of_bindLink_ok (congrArg Prod.snd hResult))
    obtain ⟨hDevices, hOperation, hConnections, hTrace, -, -⟩ := readopt_frame t d endpoints
    refine Leads.after
      ⟨hMove.by rfl, hOperation, ?_, congrArg List.length hDevices, hConnections⟩
      (writeOut_leads data ?_)
    · unfold acknowledged
      rw [hTrace]
      simp [Effect.acknowledged?]
    · exact hOperation.trans hIdle'

/-- A link that is down is checked once more after the drop is reported. -/
theorem recheck_leads {s : Radio} {d : DeviceId} (data : Bytes) (hIdle : s.operation = none)
    (hLink : s.session.link = some d) : Leads .sending (some data) (s.dropped none)
      ((s.dropped none).ask d (.rebinding data) fun s answer => s.rebind data answer) := by
  obtain ⟨-, -, hOperation, -, hLink', -⟩ := dropped_frame s none
  refine ask_leads (hOperation.trans hIdle) rfl ?_ rfl ?_
  · intro t hCalled
    refine ⟨⟨d, ?_⟩, ?_⟩
    · rw [hCalled.session, hLink', hLink]
    · rw [hCalled.session]
      exact state_dropped_none s
  · intro t answer hCalled _
    apply rebind_leads
    · rw [hCalled.operation, hOperation, hIdle]
    · rw [hCalled.session]
      exact state_dropped_none s

theorem sendChecked_leads {s : Radio} {d : DeviceId} (data : Bytes)
    {connected : Except LinkError Bool} (hIdle : s.operation = none)
    (hLink : s.session.link = some d)
    (hAnswer : connected = .ok false → (s.device d).connected = false) :
    Leads .sending (some data) s (s.sendChecked data connected) := by
  unfold sendChecked
  rcases connected with error | connected
  · exact Leads.done hIdle trivial rfl rfl trivial
  cases connected with
  | true => exact writeOut_leads data hIdle
  | false =>
  rw [hLink]
  cases s.session.filter with
  | none => exact Leads.done hIdle trivial rfl rfl trivial
  | some filter =>
  simp only
  obtain ⟨hDevices, -, hOperation, hConnections, -, hAcknowledged⟩ := dropped_frame s none
  have hMove := Move.demoted (m := .sending) s none
    (fun _ _ => ⟨d, hLink, Or.inl (hAnswer rfl)⟩) rfl
  exact (recheck_leads data hIdle hLink).after
    ⟨hMove.by rfl, hOperation, hAcknowledged, congrArg List.length hDevices, hConnections⟩

theorem send_leads {s : Radio} (data : Bytes) (hIdle : s.operation = none) :
    Leads .sending (some data) s (s.send data) := by
  unfold send
  cases hLink : s.session.link with
  | none => exact Leads.done hIdle trivial rfl rfl trivial
  | some d =>
  cases s.session.endpoints with
  | none => exact Leads.done hIdle trivial rfl rfl trivial
  | some endpoints =>
  refine ask_leads hIdle rfl ?_ rfl ?_
  · intro t hCalled
    refine ⟨d, ?_, id⟩
    rw [hCalled.session, hLink]
  · intro t answer hCalled hFits
    refine sendChecked_leads data (hCalled.operation.trans hIdle) (d := d) ?_ ?_
    · rw [hCalled.session, hLink]
    · rintro rfl
      exact hFits.symm

theorem finishDisconnect_leads {s : Radio} (d : DeviceId) (connected : Except LinkError Bool)
    (hIdle : s.operation = none) (hLink : s.session.link = none) :
    Leads .disconnecting none s (s.finishDisconnect d connected) := by
  have hTaken := takeDown_called (m := .disconnecting) (s := s) (d := d) connected
    ⟨hIdle, Or.inl hLink⟩
  refine Leads.after hTaken.toAdvances (Leads.done ?_ trivial rfl rfl trivial)
  exact hTaken.operation.trans hIdle

theorem disconnect_leads {s : Radio} (hIdle : s.operation = none) :
    Leads .disconnecting none s s.disconnect := by
  have hIdle' : s.clear.operation = none := (operation_clear s).trans hIdle
  unfold disconnect
  cases hLink : s.session.link with
  | none =>
      exact Leads.after (clear_advances hIdle rfl) (Leads.done hIdle' trivial rfl rfl trivial)
  | some d =>
      refine Leads.after (clear_advances hIdle rfl) (ask_leads hIdle' rfl ?_ rfl ?_)
      · intro t hCalled
        exact congrArg Session.link hCalled.session
      · intro t answer hCalled _
        apply finishDisconnect_leads
        · exact hCalled.operation.trans hIdle'
        · exact congrArg Session.link hCalled.session

/-- An operation goes on from where it waited, with the answer that it waited for. -/
theorem continueAt_leads {s : Radio} {answer : Bool} {point : Point} (hIdle : s.operation = none)
    (hWaits : s.WaitsAt answer point) :
    Leads point.mover point.payload s (s.continueAt point (.ok answer)) := by
  cases point with
  | replacing request d => exact replace_leads request d _ hIdle hWaits.1 hWaits.2.1 hWaits.2.2
  | binding request d => exact bindFound_leads request _ hIdle hWaits.1 hWaits.2.1 hWaits.2.2
  | sending data =>
      obtain ⟨d, hLink, hAnswer⟩ := hWaits
      exact sendChecked_leads data hIdle hLink fun h => hAnswer (Except.ok.inj h)
  | rebinding data => exact rebind_leads data _ hIdle hWaits.2
  | disconnecting d => exact finishDisconnect_leads d _ hIdle hWaits

/-- How a step of the caller ends that sends a payload, or none, and asks for so many connections:
with an outcome, or waiting. -/
structure Concludes (m : Mover) (payload : Option Bytes) (asked : Nat) (s : Radio)
    (p : Radio × Option Outcome) : Prop where
  moves : s.MovesBy (· = m) p.1
  length : p.1.devices.length = s.devices.length
  connections : p.1.connections = s.connections + asked
  acknowledged :
    p.1.acknowledged = s.acknowledged ++ (p.2.map (·.acknowledges payload)).getD []
  stands : match p.2 with
    | some outcome =>
        p.1.operation = none ∧ outcome.isSend = payload.isSome ∧ p.1.Justifies outcome
    | none => ∃ suspended, p.1.operation = some suspended ∧ suspended.point.payload = payload
  ends : ∀ outcome, p.2 = some outcome → m.Ends outcome

theorem Leads.note {s : Radio} {p : Radio × Progress} (h : Leads m payload s p) :
    Concludes m payload 0 s (Radio.note p) := by
  obtain ⟨t, outcome | ⟨d, answer, point⟩⟩ := p
  · have hMove := Move.returned (m := m) t outcome h.idle h.stands.2
    refine ⟨h.moves.trans (hMove.by rfl), h.length, h.connections, ?_, ⟨h.idle, h.stands.1, ?_⟩, ?_⟩
    · refine (acknowledged_record t _).trans ?_
      exact (List.append_nil _).trans h.acknowledged
    · exact h.stands.2.recorded _
    · rintro _ ⟨⟩
      exact h.mover
  · have hMove := Move.suspended t d answer point h.idle h.stands.2 h.mover
    exact ⟨h.moves.trans (hMove.by rfl), h.length, h.connections, h.acknowledged,
      ⟨_, rfl, h.stands.1⟩, nofun⟩

/-- While an operation is in progress no other one is started. -/
theorem start_of_busy {s : Radio} {suspended : Suspended} (hBusy : s.operation = some suspended)
    (operation : Operation) : s.start operation = (s, none) := by
  simp [start, hBusy]

theorem start_connect {s : Radio} (hIdle : s.operation = none) (serial : UInt64) :
    s.start (.connect serial) = note (s.connect serial) := by
  simp [start, hIdle]

theorem start_disconnect {s : Radio} (hIdle : s.operation = none) :
    s.start .disconnect = note s.disconnect := by
  simp [start, hIdle]

theorem resume_of_idle {s : Radio} (hIdle : s.operation = none) : s.resume = (s, none) := by
  simp [resume, hIdle]

theorem resume_of_busy {s : Radio} {suspended : Suspended} (hBusy : s.operation = some suspended) :
    s.resume =
      note ({ s with operation := none }.continueAt suspended.point (.ok suspended.answer)) := by
  simp only [resume, hBusy]

theorem start_concludes {s : Radio} (operation : Operation) (hIdle : s.operation = none) :
    Concludes (operation.mover s) operation.payload operation.asked s (s.start operation) := by
  unfold start
  simp only [hIdle, Option.isSome_none, Bool.false_eq_true, if_false]
  cases operation with
  | connect serial =>
      have hNoted := (connect_leads serial hIdle).note
      have hNumbered := Move.numbered (m := (Operation.connect serial).mover s) s hIdle
      exact ⟨hNoted.moves.head ⟨_, rfl, hNumbered⟩, hNoted.length, hNoted.connections,
        hNoted.acknowledged, hNoted.stands, hNoted.ends⟩
  | send data => exact (send_leads data hIdle).note
  | disconnect => exact (disconnect_leads hIdle).note

/-- An operation that goes on does so where nothing waits any more. -/
theorem resume_concludes {s : Radio} {suspended : Suspended}
    (hOperation : s.operation = some suspended)
    (hWaits : s.WaitsAt suspended.answer suspended.point) :
    Concludes suspended.point.mover suspended.point.payload 0 { s with operation := none }
      s.resume := by
  have hContinued := (continueAt_leads (s := { s with operation := none }) rfl hWaits).note
  rw [resume_of_busy hOperation]
  exact hContinued

end Radio

end LockRelay
