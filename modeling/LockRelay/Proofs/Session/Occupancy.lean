import LockRelay.Proofs.Session.Representation

/-! Which devices a session keeps connected. An operation touches one device only, and wherever it
ends or waits it has freed that device or holds it, unless the device refuses to be disconnected. So
as long as every teardown gets through, no device is connected but the one that is held. -/
namespace LockRelay

/-- Whether an operation that waits here is taking a link down. -/
def Point.takesDown : Point → Bool
  | .replacing _ _ | .disconnecting _ => true
  | .binding _ _ | .sending _ | .rebinding _ => false

namespace Radio

variable {s t u : Radio} {d : DeviceId} {o : Option DeviceId}

/-- No device is connected but the one given, if one is. -/
def OnlyUp (s : Radio) (o : Option DeviceId) : Prop :=
  ∀ i, (s.device i).connected = true → o = some i

/-- A device was asked to disconnect and failed. -/
def DisconnectFailed (s : Radio) : Prop := ∃ d, Effect.call (.disconnect d) false ∈ s.trace

theorem DisconnectFailed.mono (h : s.DisconnectFailed) (hTrace : s.trace <+: t.trace) :
    t.DisconnectFailed :=
  h.imp fun _ hFailed => hTrace.subset hFailed

/-- The session stays, and only one device may have been connected or disconnected. -/
structure Touches (s : Radio) (d : DeviceId) (t : Radio) : Prop where
  session : t.session = s.session
  others : ∀ i, i ≠ d → (t.device i).connected = (s.device i).connected

theorem OnlyUp.of_connected (h : s.OnlyUp o)
    (hSame : ∀ i, (t.device i).connected = true → (s.device i).connected = true) : t.OnlyUp o :=
  fun i hUp => h i (hSame i hUp)

theorem OnlyUp.of_devices (h : s.OnlyUp o) (hDevices : t.devices = s.devices) : t.OnlyUp o := by
  refine h.of_connected fun i hUp => ?_
  unfold device at hUp ⊢
  rwa [← hDevices]

theorem OnlyUp.of_none (h : s.OnlyUp none) (o : Option DeviceId) : s.OnlyUp o :=
  fun i hUp => nomatch h i hUp

theorem OnlyUp.touched (h : s.OnlyUp (some d)) (hTouches : s.Touches d t) : t.OnlyUp (some d) := by
  intro i hUp
  by_cases hi : i = d
  · rw [hi]
  · exact h i ((hTouches.others i hi).symm.trans hUp)

/-- A device that is found down leaves none that is up. -/
theorem OnlyUp.checked (h : s.OnlyUp (some d)) :
    s.OnlyUp (if (s.device d).connected then some d else none) := by
  intro i hUp
  have hSame := h i hUp
  obtain rfl := Option.some.inj hSame
  rw [if_pos hUp]

theorem Touches.refl (s : Radio) (d : DeviceId) : s.Touches d s := ⟨rfl, fun _ _ => rfl⟩

theorem Touches.trans (h : s.Touches d t) (h' : t.Touches d u) : s.Touches d u :=
  ⟨h'.session.trans h.session, fun i hi => (h'.others i hi).trans (h.others i hi)⟩

/-- A call touches the device that it goes to. -/
theorem Touches.of_served {device : Device} {call : Call} {succeeded : Bool}
    (hState : t = (s.setDevice d device).record (.call call succeeded)) : s.Touches d t := by
  subst hState
  refine ⟨rfl, fun i hi => ?_⟩
  rw [device_record, device_setDevice, if_neg fun hSame => hi hSame.1]

theorem resolveEndpoints_touches (s : Radio) (d : DeviceId) (filter : DiscoveryFilter) :
    s.Touches d (s.resolveEndpoints d filter).1 := by
  obtain ⟨device, -, hState⟩ := resolve_served s d (Uuid.ofShort filter.serviceId)
  unfold resolveEndpoints
  rcases hResolve : s.resolve d (Uuid.ofShort filter.serviceId) with ⟨t, error | none | endpoints⟩
  all_goals
    rw [hResolve] at hState
    have hResolved : s.Touches d t := .of_served hState
  · exact hResolved
  · exact hResolved
  obtain ⟨device', -, hState'⟩ := subscribe_served t d endpoints.inbound
  simp only
  rcases hSubscribe : t.subscribe d endpoints.inbound with ⟨u, error | ⟨⟩⟩
  all_goals
    rw [hSubscribe] at hState'
    exact hResolved.trans (.of_served hState')

theorem bindLink_touches (s : Radio) (d : DeviceId) (filter : DiscoveryFilter)
    (connected : Except LinkError Bool) : s.Touches d (s.bindLink d filter connected).1 := by
  unfold bindLink
  rcases connected with error | connected
  · exact .refl s d
  cases connected with
  | true => exact resolveEndpoints_touches s d filter
  | false =>
      obtain ⟨device, -, hState⟩ := connectLink_served s d
      simp only
      rcases hConnect : s.connectLink d with ⟨t, error | ⟨⟩⟩
      all_goals
        rw [hConnect] at hState
        have hConnected : s.Touches d t := .of_served hState
      · exact hConnected
      · exact hConnected.trans (resolveEndpoints_touches t d filter)

theorem disconnectLink_touches (s : Radio) (d : DeviceId) :
    s.Touches d (s.disconnectLink d).1 := by
  obtain ⟨device, -, hState⟩ := disconnectLink_served s d
  exact .of_served hState

/-- A device out of range is not connected. -/
theorem connected_of_length_le (hRange : s.devices.length ≤ d) :
    (s.device d).connected = false := by
  rw [device, List.getD_eq_getElem?_getD, List.getElem?_eq_none hRange]
  rfl

/-- The last device that is connected is free once it was disconnected. -/
theorem disconnectLink_vacates (h : s.OnlyUp (some d)) :
    ((s.disconnectLink d).2 = .ok () → (s.disconnectLink d).1.OnlyUp none) ∧
      ((s.disconnectLink d).2 ≠ .ok () → (s.disconnectLink d).1.DisconnectFailed) := by
  obtain ⟨device, hServed, hState⟩ := disconnectLink_served s d
  rcases hResult : s.disconnectLink d with ⟨t, error | ⟨⟩⟩
  all_goals rw [hResult] at hServed hState
  · refine ⟨nofun, fun _ => ⟨d, ?_⟩⟩
    rw [hState]
    exact List.mem_append_right _ (List.mem_singleton.mpr rfl)
  · refine ⟨fun _ i hUp => ?_, fun hFailed => absurd rfl hFailed⟩
    have hSame := h.touched (.of_served hState) i hUp
    obtain rfl := Option.some.inj hSame
    rw [hState, device_record, device_setDevice] at hUp
    split_ifs at hUp with hRange
    · cases hServed.connected.symm.trans hUp
    · have hOut : s.devices.length ≤ d := by simpa using hRange
      cases (connected_of_length_le hOut).symm.trans hUp

/-- So it is once its link was taken down, if it was told right that it is connected. -/
theorem takeDown_vacates {answer : Bool} (h : s.OnlyUp (if answer then some d else none)) :
    ((s.takeDown d (.ok answer)).2 = .ok () → (s.takeDown d (.ok answer)).1.OnlyUp none) ∧
      ((s.takeDown d (.ok answer)).2 ≠ .ok () →
        (s.takeDown d (.ok answer)).1.DisconnectFailed) := by
  cases answer with
  | true => exact disconnectLink_vacates h
  | false => exact ⟨fun _ => h, fun hFailed => absurd rfl hFailed⟩

/-- The device that can be connected where an operation waits: the one that it is going to free,
unless it was told that this one is down already, and otherwise the one that is held. -/
def inHand (s : Radio) (answer : Bool) : Point → Option DeviceId
  | .replacing _ d | .disconnecting d => if answer then some d else none
  | .binding _ _ => none
  | .sending _ | .rebinding _ => s.session.link

/-- How far an operation gets. Unless a device could not be disconnected, none is connected but the
one that is held or that the operation waits with. -/
def Vacates (p : Radio × Progress) : Prop :=
  ¬p.1.DisconnectFailed → p.1.OnlyUp (match p.2 with
    | .done _ => p.1.session.link
    | .waiting _ answer point => p.1.inHand answer point)

/-- An outcome that leaves connected what is held. -/
theorem Vacates.done {outcome : Outcome} (h : s.OnlyUp s.session.link) :
    Vacates (s, .done outcome) := fun _ => h

theorem rejectDevice_vacates (error : ConnectError) (h : s.OnlyUp (some d)) :
    Vacates (s.rejectDevice d error) := by
  intro hNever
  obtain ⟨hFree, hFailed⟩ := disconnectLink_vacates h
  have hOk : (s.disconnectLink d).2 = .ok () := by
    by_contra hError
    exact hNever ((hFailed hError).mono (List.prefix_append _ _))
  exact ((hFree hOk).of_none _).of_devices rfl

variable {request : ConnectRequest}

theorem bindFound_vacates (connected : Except LinkError Bool) (h : s.OnlyUp (some d)) :
    Vacates (s.bindFound request d connected) := by
  have hBind := h.touched (bindLink_touches s d request.filter connected)
  unfold bindFound
  rcases hResult : s.bindLink d request.filter connected with ⟨t, error | none | endpoints⟩
  all_goals rw [hResult] at hBind
  · exact rejectDevice_vacates _ hBind
  · exact rejectDevice_vacates _ hBind
  obtain ⟨device, -, hState⟩ := drops_served t d
  have hDrops := hBind.touched (.of_served hState)
  simp only
  rcases hResult' : t.drops d with ⟨u, error | ⟨⟩⟩
  all_goals rw [hResult'] at hDrops
  · exact rejectDevice_vacates _ hDrops
  · exact .done (hDrops.of_devices rfl)

/-- A check that no fault answers tells whether the device is connected, now or later. -/
theorem ask_vacates {point : Point} {next : Radio → Except LinkError Bool → Radio × Progress}
    (h : s.OnlyUp o)
    (hPoint : ∀ t : Radio, t.session = s.session → t.OnlyUp o →
      t.OnlyUp (t.inHand (t.device d).connected point))
    (hNext : ∀ (t : Radio) (answer : Except LinkError Bool), t.session = s.session → t.OnlyUp o →
      ((s.device d).faults .isConnected = none → answer = .ok (t.device d).connected) →
      Vacates (next t answer)) : Vacates (s.ask d point next) := by
  obtain ⟨hCalled, hSame, hFits⟩ := isConnected_called (m := .sending) s d
  have hOnly : (s.isConnected d).1.OnlyUp o := h.of_connected fun i hUp => (hSame i).symm.trans hUp
  have hAnswered (hNone : (s.device d).faults .isConnected = none) (error : LinkError) :
      (s.isConnected d).2 ≠ .ready (.error error) := by
    unfold isConnected
    simp only [hNone]
    split_ifs <;> exact nofun
  unfold ask
  rcases hCheck : s.isConnected d with ⟨t, (error | answer) | answer⟩
  all_goals rw [hCheck] at hCalled hOnly hFits hAnswered
  · exact hNext t _ hCalled.session hOnly fun hNone => absurd rfl (hAnswered hNone error)
  · exact hNext t _ hCalled.session hOnly fun _ => congrArg Except.ok hFits
  · obtain rfl : answer = (t.device d).connected := hFits
    exact fun _ => hPoint t hCalled.session hOnly

theorem search_vacates (h : s.OnlyUp none) : Vacates (s.search request) := by
  have hDiscover : ((s.assign .connecting).discover request.filter).1.devices = s.devices := by
    unfold discover
    split <;> rfl
  unfold search
  rcases hResult : (s.assign .connecting).discover request.filter with ⟨t, error | none | d⟩
  all_goals
    rw [hResult] at hDiscover
    have hNobody : t.OnlyUp none := h.of_devices hDiscover
  · exact .done (hNobody.of_none _)
  · exact .done (hNobody.of_none _)
  · exact ask_vacates hNobody (fun _ _ hNobody => hNobody)
      fun u answer _ hNobody _ => bindFound_vacates answer (hNobody.of_none _)

theorem replace_vacates {answer : Bool} (h : s.OnlyUp (if answer then some d else none)) :
    Vacates (s.replace request d (.ok answer)) := by
  obtain ⟨hFree, hFailed⟩ := takeDown_vacates h
  unfold replace
  rcases hResult : s.takeDown d (.ok answer) with ⟨t, error | ⟨⟩⟩
  all_goals rw [hResult] at hFree hFailed
  · exact fun hNever => absurd (hFailed nofun) hNever
  · exact search_vacates (hFree rfl)

/-- The link that is held can be checked. -/
def Checkable (s : Radio) : Prop :=
  ∀ d, s.session.link = some d → (s.device d).faults .isConnected = none

/-- A session that lets go of its link still has a hand on it until it was checked. -/
theorem clear_ask_vacates {point : Point}
    {next : Radio → Except LinkError Bool → Radio × Progress} (h : s.OnlyUp s.session.link)
    (hCheckable : s.Checkable) (hLink : s.session.link = some d)
    (hPoint : ∀ (t : Radio) answer, t.inHand answer point = if answer then some d else none)
    (hNext : ∀ (t : Radio) answer, t.OnlyUp (if answer then some d else none) →
      Vacates (next t (.ok answer))) : Vacates (s.clear.ask d point next) := by
  have hOnly : s.clear.OnlyUp (some d) := (hLink ▸ h).of_devices (devices_clear s)
  have hNone : (s.clear.device d).faults .isConnected = none := by
    unfold device
    rw [devices_clear]
    exact hCheckable d hLink
  refine ask_vacates hOnly (fun t _ hOnly => ?_) fun t answer _ hOnly hAnswer => ?_
  · rw [hPoint]
    exact hOnly.checked
  · rw [hAnswer hNone]
    exact hNext t _ hOnly.checked

theorem connect_vacates (serial : UInt64) (h : s.OnlyUp s.session.link)
    (hCheckable : (DiscoveryFilter.forSerial serial).toBool → s.Checkable) :
    Vacates (s.connect serial) := by
  have hNumbered : Radio.OnlyUp { s with connections := s.connections + 1 } s.session.link :=
    h.of_devices rfl
  unfold connect
  cases hFilter : DiscoveryFilter.forSerial serial with
  | error error => exact .done hNumbered
  | ok filter =>
  simp only
  cases hLink : s.session.link with
  | none => exact search_vacates (hLink ▸ hNumbered)
  | some d =>
      rw [hFilter] at hCheckable
      exact clear_ask_vacates (s := { s with connections := s.connections + 1 }) hNumbered
        (hCheckable rfl) hLink (fun _ _ => rfl) fun t answer hOnly => replace_vacates hOnly

theorem writeOut_vacates (data : Bytes) (h : s.OnlyUp s.session.link) :
    Vacates (s.writeOut data) := by
  unfold writeOut
  cases hLink : s.session.link with
  | none => exact .done h
  | some d =>
  cases s.session.endpoints with
  | none => exact .done h
  | some endpoints =>
  obtain ⟨device, -, hState⟩ := write_served s d endpoints.outbound data
  have hTouches : s.Touches d (s.write d endpoints.outbound data).1 := .of_served hState
  have hLink' : (s.write d endpoints.outbound data).1.session.link = some d := by
    rw [hTouches.session, hLink]
  have hWritten := (hLink ▸ h).touched hTouches
  rw [← hLink'] at hWritten
  simp only
  rcases hResult : s.write d endpoints.outbound data with ⟨t, error | ⟨⟩⟩
  all_goals
    rw [hResult] at hWritten
    exact .done hWritten

theorem rebind_vacates (data : Bytes) (connected : Except LinkError Bool)
    (h : s.OnlyUp s.session.link) : Vacates (s.rebind data connected) := by
  unfold rebind
  cases hLink : s.session.link with
  | none => exact .done h
  | some d =>
  cases s.session.filter with
  | none => exact .done h
  | some filter =>
  have hTouches := bindLink_touches s d filter connected
  simp only
  rcases hResult : s.bindLink d filter connected with ⟨t, error | none | endpoints⟩
  all_goals
    rw [hResult] at hTouches
    have hLink' : t.session.link = some d := (congrArg Session.link hTouches.session).trans hLink
    have hBound : t.OnlyUp t.session.link := hLink' ▸ (hLink ▸ h).touched hTouches
  · exact .done hBound
  · have hGone := disconnectLink_touches t d
    have hLink'' : (t.disconnectLink d).1.session.link = some d := by
      rw [hGone.session, hLink']
    exact .done (hLink'' ▸ (hLink' ▸ hBound).touched hGone)
  · obtain ⟨hDevices, -, -, -, hKept, -⟩ := readopt_frame t d endpoints
    exact writeOut_vacates data (hKept ▸ hBound.of_devices hDevices)

theorem sendChecked_vacates (data : Bytes) (connected : Except LinkError Bool)
    (h : s.OnlyUp s.session.link) : Vacates (s.sendChecked data connected) := by
  unfold sendChecked
  rcases connected with error | (_ | _)
  · exact .done h
  · cases hLink : s.session.link with
    | none => exact .done h
    | some d =>
    cases s.session.filter with
    | none => exact .done h
    | some filter =>
    obtain ⟨hDevices, -, -, -, hKept, -⟩ := dropped_frame s none
    have hDropped : (s.dropped none).OnlyUp s.session.link := h.of_devices hDevices
    refine ask_vacates hDropped (fun t hSession hOnly => ?_) fun t answer hSession hOnly _ => ?_
    all_goals
      have hHeld : t.OnlyUp t.session.link := by
        rw [hSession, hKept]
        exact hOnly
    · exact hHeld
    · exact rebind_vacates data answer hHeld
  · exact writeOut_vacates data h

theorem send_vacates (data : Bytes) (h : s.OnlyUp s.session.link) : Vacates (s.send data) := by
  unfold send
  cases hLink : s.session.link with
  | none => exact .done h
  | some d =>
  cases s.session.endpoints with
  | none => exact .done h
  | some endpoints =>
  refine ask_vacates h (fun t hSession hOnly => ?_) fun t answer hSession hOnly _ => ?_
  all_goals have hHeld : t.OnlyUp t.session.link := hSession ▸ hOnly
  · exact hHeld
  · exact sendChecked_vacates data answer hHeld

theorem finishDisconnect_vacates {answer : Bool}
    (h : s.OnlyUp (if answer then some d else none)) :
    Vacates (s.finishDisconnect d (.ok answer)) := by
  obtain ⟨hFree, hFailed⟩ := takeDown_vacates h
  unfold finishDisconnect
  rcases hResult : s.takeDown d (.ok answer) with ⟨t, error | ⟨⟩⟩
  all_goals rw [hResult] at hFree hFailed
  · exact fun hNever => absurd (hFailed nofun) hNever
  · exact .done ((hFree rfl).of_none _)

theorem disconnect_vacates (h : s.OnlyUp s.session.link) (hCheckable : s.Checkable) :
    Vacates s.disconnect := by
  unfold disconnect
  cases hLink : s.session.link with
  | none => exact .done ((hLink ▸ h).of_devices (devices_clear s))
  | some d =>
      exact clear_ask_vacates h hCheckable hLink (fun _ _ => rfl)
        fun t answer hOnly => finishDisconnect_vacates hOnly

theorem continueAt_vacates {answer : Bool} {point : Point} (h : s.OnlyUp (s.inHand answer point)) :
    Vacates (s.continueAt point (.ok answer)) := by
  cases point with
  | replacing request d => exact replace_vacates h
  | binding request d => exact bindFound_vacates _ (h.of_none _)
  | sending data => exact sendChecked_vacates data _ h
  | rebinding data => exact rebind_vacates data _ h
  | disconnecting d => exact finishDisconnect_vacates h

/-! Between turns. -/

/-- Unless a device could not be disconnected, none is connected but the one that is held, or that
the operation in progress waits with. -/
def Exclusive (s : Radio) : Prop :=
  ¬s.DisconnectFailed → s.OnlyUp (match s.operation with
    | none => s.session.link
    | some suspended => s.inHand suspended.answer suspended.point)

theorem initial_exclusive {devices : List Device}
    (hDown : ∀ device ∈ devices, device.connected = false) : (initial devices).Exclusive := by
  rintro - i hUp
  by_cases hRange : i < devices.length
  · have hMember : (initial devices).device i ∈ devices := by
      unfold initial device
      rw [List.getD_eq_getElem _ _ hRange]
      exact List.getElem_mem hRange
    cases (hDown _ hMember).symm.trans hUp
  · cases (connected_of_length_le (not_lt.mp hRange)).symm.trans hUp

theorem Vacates.note {p : Radio × Progress} (h : Vacates p) (hIdle : p.1.operation = none) :
    (note p).1.Exclusive := by
  obtain ⟨t, outcome | ⟨d, answer, point⟩⟩ := p
  · intro hNever
    have hIdle' : (t.record (.returned outcome)).operation = none := hIdle
    have hOnly := h fun hFailed => hNever (hFailed.mono (List.prefix_append _ _))
    simp only [Radio.note, hIdle']
    exact hOnly.of_devices rfl
  · exact h

/-- A step that keeps the link and what is waited for, and connects nothing. -/
theorem Exclusive.of_same (h : s.Exclusive)
    (hConnected : ∀ i, (t.device i).connected = true → (s.device i).connected = true)
    (hLink : t.session.link = s.session.link) (hOperation : t.operation = s.operation)
    (hTrace : s.trace <+: t.trace) : t.Exclusive := by
  intro hNever
  have hOnly := (h fun hFailed => hNever (hFailed.mono hTrace)).of_connected hConnected
  rw [hOperation]
  cases hWaits : s.operation with
  | none =>
      rw [hWaits] at hOnly
      exact hLink ▸ hOnly
  | some suspended =>
      rw [hWaits] at hOnly
      have hSame : t.inHand suspended.answer suspended.point =
          s.inHand suspended.answer suspended.point := by
        cases suspended.point <;> simp [inHand, hLink]
      change t.OnlyUp (t.inHand suspended.answer suspended.point)
      rw [hSame]
      exact hOnly

/-- A watcher only asks. -/
theorem watchDrops_connected (s : Radio) (id : TaskId) (d : DeviceId) (pending : Nat)
    (i : DeviceId) :
    ((s.watchDrops id d pending).device i).connected = (s.device i).connected := by
  induction pending generalizing s with
  | zero => rfl
  | succ pending ih =>
      obtain ⟨-, hSame, -⟩ := isConnected_called (m := .task id) s d
      have hDropped (t : Radio) (seen : Option Nat) : (t.dropped seen).device i = t.device i := by
        unfold device
        rw [(dropped_frame t seen).1]
      unfold watchDrops
      rcases hCheck : s.isConnected d with ⟨t, (error | answer) | answer⟩
      all_goals rw [hCheck] at hSame
      · exact (ih _).trans ((congrArg Device.connected (hDropped t _)).trans (hSame i))
      · cases answer with
        | true => exact (ih t).trans (hSame i)
        | false => exact (ih _).trans ((congrArg Device.connected (hDropped t _)).trans (hSame i))
      · exact hSame i

theorem runTask_connected (s : Radio) (id : TaskId) (i : DeviceId) :
    ((s.runTask id).device i).connected = (s.device i).connected := by
  unfold runTask
  rcases s.task? id with _ | (⟨d, connection, queue⟩ | ⟨d, pending, _ | check⟩)
  · rfl
  · simp only [foldl_frames]
    rfl
  · exact watchDrops_connected s id d pending i
  · have hDropped : (s.dropped (some check.generation)).device i = s.device i := by
      unfold device
      rw [(dropped_frame s _).1]
    cases hAnswer : check.answer with
    | true => simpa [hAnswer] using watchDrops_connected s id d pending i
    | false =>
        simp only [hAnswer, Bool.false_eq_true, if_false]
        exact (watchDrops_connected _ id d pending i).trans (congrArg Device.connected hDropped)

theorem Exclusive.ran (h : s.Exclusive) (hSound : s.Sound) (id : TaskId) :
    (s.runTask id).Exclusive := by
  have hRan := runTask_advances hSound id
  refine h.of_same (fun i hUp => (runTask_connected s id i).symm.trans hUp) ?_ hRan.operation
    (grows_of_moves hRan.moves).trace
  exact congrArg (·.1) (binding_of_moves rfl hRan.moves)

/-- Devices connect nothing, unless one comes into range that is connected. -/
theorem connected_of_react {event : DeviceEvent}
    (hAppear : ∀ device, event = .appear device → device.connected = false) (i : DeviceId)
    (hUp : ((s.react event).device i).connected = true) : (s.device i).connected = true := by
  obtain ⟨-, -, -, -, -, -, hDown⟩ := react_frame s event
  by_cases hRange : i < s.devices.length
  · by_contra hNot
    cases (hDown i hRange (Bool.eq_false_of_not_eq_true hNot)).symm.trans hUp
  · have hOut := not_lt.mp hRange
    by_cases hEvent : ∃ device, event = .appear device
    · obtain ⟨device, rfl⟩ := hEvent
      rw [react, Radio.device, List.getD_eq_getElem?_getD, List.getElem?_append_right hOut] at hUp
      rcases hIndex : i - s.devices.length with _ | n
      · rw [hIndex] at hUp
        cases (hAppear device rfl).symm.trans hUp
      · rw [hIndex] at hUp
        cases hUp
    · have hLength := react_length (s := s) event fun device hSame => hEvent ⟨device, hSame⟩
      cases (connected_of_length_le (hLength.le.trans hOut)).symm.trans hUp

theorem Exclusive.reacted (h : s.Exclusive) {event : DeviceEvent}
    (hAppear : ∀ device, event = .appear device → device.connected = false) :
    (s.react event).Exclusive := by
  obtain ⟨hSession, hOperation, hTrace, -⟩ := react_frame s event
  exact h.of_same (connected_of_react hAppear) (by rw [hSession]) hOperation
    (hTrace ▸ List.prefix_rfl)

/-- A teardown breaks off before it knows whether its link is connected: its check fails, or it is
abandoned where it waits for the answer. -/
def BreaksOff (s : Radio) : Event → Prop
  | .start operation =>
      s.operation = none ∧ (Event.start operation).TearsDown ∧ ¬s.Checkable
  | .abandon => ∃ suspended, s.operation = some suspended ∧ suspended.point.takesDown = true
  | .turn | .settle | .device _ => False

theorem Exclusive.start (h : s.Exclusive) {operation : Operation}
    (hThrough : ¬s.BreaksOff (.start operation)) : (s.start operation).1.Exclusive := by
  rcases Option.eq_none_or_eq_some s.operation with hIdle | ⟨suspended, hOperation⟩
  · intro hNever
    have hConcludes := start_concludes operation hIdle
    have hOnly : s.OnlyUp s.session.link := by
      have hHeld := h fun hFailed => hNever (hFailed.mono (grows_of_moves hConcludes.moves).trace)
      rwa [hIdle] at hHeld
    have hCheckable (hTearsDown : (Event.start operation).TearsDown) : s.Checkable := by
      by_contra hNot
      exact hThrough ⟨hIdle, hTearsDown, hNot⟩
    revert hNever
    simp only [Radio.start, hIdle, Option.isSome_none, Bool.false_eq_true, if_false]
    cases operation with
    | connect serial =>
        refine (connect_vacates serial hOnly fun hAccepted => hCheckable ?_).note
          (connect_leads serial hIdle).idle
        cases hFilter : DiscoveryFilter.forSerial serial with
        | ok filter => exact ⟨filter, hFilter⟩
        | error error => cases hFilter ▸ hAccepted
    | send data => exact (send_vacates data hOnly).note (send_leads data hIdle).idle
    | disconnect =>
        exact (disconnect_vacates hOnly (hCheckable trivial)).note (disconnect_leads hIdle).idle
  · rw [start_of_busy hOperation]
    exact h

theorem Exclusive.resume (h : s.Exclusive) (hSound : s.Sound) : s.resume.1.Exclusive := by
  rcases Option.eq_none_or_eq_some s.operation with hIdle | ⟨⟨answer, point⟩, hOperation⟩
  · rw [resume_of_idle hIdle]
    exact h
  · intro hNever
    have hGrows := grows_of_moves (hSound.resume_concludes hOperation).moves
    have hOnly := h fun hFailed => hNever (hFailed.mono hGrows.trace)
    rw [hOperation] at hOnly
    have hLeads := continueAt_leads (s := { s with operation := none }) rfl
      (hSound.suspended _ hOperation)
    revert hNever
    rw [resume_of_busy hOperation]
    exact (continueAt_vacates (s := { s with operation := none }) hOnly).note hLeads.idle

theorem Exclusive.poll (h : s.Exclusive) (hSound : s.Sound) : s.poll.Exclusive := by
  unfold Radio.poll
  cases hReady : s.ready with
  | nil => exact h
  | cons p rest =>
      have hPolled := polled_sound hSound hReady
      have hSame : Exclusive { s with ready := rest } := h
      cases p with
      | task id => exact hSame.ran hPolled id
      | caller => exact hSame.resume hPolled

theorem Exclusive.turns (h : s.Exclusive) (hSound : s.Sound) (n : Nat) :
    (s.run (turns n)).Exclusive := by
  induction n generalizing s with
  | zero => exact h
  | succ n ih => exact ih (h.poll hSound) (hSound.moves hSound.poll_moves)

theorem Exclusive.abandoned (h : s.Exclusive) (hThrough : ¬s.BreaksOff .abandon) :
    s.abandon.Exclusive := by
  intro hNever
  have hOnly := h hNever
  cases hOperation : s.operation with
  | none =>
      rw [hOperation] at hOnly
      exact hOnly.of_devices rfl
  | some suspended =>
      rw [hOperation] at hOnly
      change s.OnlyUp (s.inHand suspended.answer suspended.point) at hOnly
      have hHeld : s.OnlyUp s.session.link := by
        cases hPoint : suspended.point with
        | replacing request d =>
            exact absurd ⟨suspended, hOperation, by rw [hPoint]; rfl⟩ hThrough
        | disconnecting d =>
            exact absurd ⟨suspended, hOperation, by rw [hPoint]; rfl⟩ hThrough
        | binding request d =>
            rw [hPoint] at hOnly
            exact hOnly.of_none _
        | sending data | rebinding data =>
            rw [hPoint] at hOnly
            exact hOnly
      exact hHeld.of_devices rfl

theorem Exclusive.step (h : s.Exclusive) (hSound : s.Sound) {event : Event}
    (hAppear : ∀ device, event = .device (.appear device) → device.connected = false)
    (hThrough : ¬s.BreaksOff event) : (s.step event).Exclusive := by
  cases event with
  | start operation => exact h.start hThrough
  | abandon => exact h.abandoned hThrough
  | turn => exact h.poll hSound
  | settle =>
      rw [Radio.step, settle_eq_run]
      exact h.turns hSound _
  | device event =>
      exact h.reacted fun device hSame => hAppear device (congrArg Event.device hSame)

theorem run_exclusive {devices : List Device} {history : List Event}
    (hDown : ∀ device ∈ devices, device.connected = false)
    (hAppear : ∀ device, .device (.appear device) ∈ history → device.connected = false)
    (hThrough : ¬(initial devices).Meets BreaksOff history) :
    ((initial devices).run history).Exclusive := by
  induction history using List.reverseRecOn with
  | nil => exact initial_exclusive hDown
  | append_singleton history event ih =>
      rw [meets_concat, not_or] at hThrough
      rw [run_concat]
      have hBefore := ih (fun device hMember => hAppear device (List.mem_append_left _ hMember))
        hThrough.1
      refine hBefore.step (run_sound devices history) (fun device hSame => ?_) hThrough.2
      exact hAppear device (hSame ▸ List.mem_append_right _ (List.mem_singleton.mpr rfl))

/-- As long as every device that is asked to disconnect does and no teardown breaks off, then
whenever no operation is in progress, no device is connected but the one that the session holds: one
at most, and none while the session has no serial number. -/
theorem connected_only_link (devices : List Device) (history : List Event)
    (hDown : ∀ device ∈ devices, device.connected = false)
    (hAppear : ∀ device, .device (.appear device) ∈ history → device.connected = false)
    (hDisconnects : ∀ d,
      Effect.call (.disconnect d) false ∉ ((initial devices).run history).trace)
    (hThrough : ¬(initial devices).Meets BreaksOff history)
    (hIdle : ((initial devices).run history).operation = none) :
    (∀ d, (((initial devices).run history).device d).connected = true →
        ((initial devices).run history).session.link = some d) ∧
      (∀ d e, (((initial devices).run history).device d).connected = true →
        (((initial devices).run history).device e).connected = true → d = e) ∧
      (((initial devices).run history).session.serial = none →
        ∀ d, (((initial devices).run history).device d).connected = false) := by
  have hExclusive := run_exclusive hDown hAppear hThrough
  have hRepresented := run_represented devices history
  generalize (initial devices).run history = s at hDisconnects hIdle hExclusive hRepresented ⊢
  have hOnly : s.OnlyUp s.session.link := by
    have hHeld := hExclusive fun ⟨d, hFailed⟩ => hDisconnects d hFailed
    rwa [hIdle] at hHeld
  refine ⟨hOnly, fun d e hUp hUp' => ?_, fun hSerial d => ?_⟩
  · exact Option.some.inj ((hOnly d hUp).symm.trans (hOnly e hUp'))
  · by_contra hUp
    have hLink := hOnly d (Bool.eq_true_of_not_eq_false hUp)
    rcases hRepresented.parts with ⟨e, hEquipped⟩ | hBare
    · obtain ⟨serial, filter, hSome, -⟩ := hEquipped.filter
      cases hSerial.symm.trans hSome
    · cases hBare.link.symm.trans hLink

/-- A switch to another lock that waits for the one held, and a send to it that cannot subscribe
when the link is made again: the device stays connected, and held. -/
theorem connected_only_link_after_switch :
    let history : List Event := [.start (.connect 7), .device (.hold 0), .start (.connect 8),
      .device (.release 0), .settle, .device (.drop 1), .device (.fault 1 .subscribe
        (CallFault.make .noAdapter none)), .start (.send [1])]
    (((initial [.ofSerial 7, .ofSerial 8]).run history).device 1).connected = true ∧
      ((initial [.ofSerial 7, .ofSerial 8]).run history).operation = none ∧
      ∀ d, (((initial [.ofSerial 7, .ofSerial 8]).run history).device d).connected = true →
        ((initial [.ofSerial 7, .ofSerial 8]).run history).session.link = some d := by
  intro history
  refine ⟨rfl, rfl, (connected_only_link [.ofSerial 7, .ofSerial 8] history ?_ ?_ ?_ ?_ rfl).1⟩
  · simp [Device.ofSerial]
  · simp [history]
  · intro d hFailed
    repeat rcases hFailed with _ | ⟨_, hFailed⟩
  · have hChecked : ((initial [.ofSerial 7, .ofSerial 8]).run (history.take 2)).Checkable := by
      rintro d ⟨⟩
      rfl
    simp only [history, meets_cons, not_or]
    refine ⟨fun h => h.2.2 nofun, nofun, fun h => h.2.2 hChecked, nofun, nofun, nofun, nofun,
      fun h => h.2.1, not_meets_nil⟩

end Radio

end LockRelay
