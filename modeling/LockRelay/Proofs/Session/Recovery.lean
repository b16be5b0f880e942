import LockRelay.Proofs.Session.Representation

/-! How a session recovers. Where no device fails a call, holds an answer back or refuses a write,
every call has its effect. So whatever has happened before, a connect binds the device that
discovery finds, and a send reaches the device that is held, whether its link is up or not. -/
namespace LockRelay

namespace Device

/-- No call to the device fails, waits or is refused. -/
structure Willing (device : Device) : Prop where
  faults : ∀ call, device.faults call = none
  holds : device.holds = 0
  writes : device.refusesWrites = false

/-- A device without its connection and its counts of connections and subscriptions. -/
def lasting (device : Device) : Device :=
  { device with connected := false, connects := 0, subscriptions := 0 }

theorem Willing.of_lasting {device other : Device} (h : device.Willing)
    (hSame : other.lasting = device.lasting) : other.Willing := by
  refine ⟨fun call => ?_, ?_, ?_⟩
  · show other.lasting.faults call = none
    rw [hSame]
    exact h.faults call
  · show other.lasting.holds = 0
    rw [hSame]
    exact h.holds
  · show other.lasting.refusesWrites = false
    rw [hSame]
    exact h.writes

end Device

namespace Radio

variable {s t u : Radio} {m : Mover} {d : DeviceId} {filter : DiscoveryFilter} {data : Bytes}

/-! The endpoints that are used. -/

/-- A session knows no endpoints but those of a lock. -/
def KnowsLock (s : Radio) : Prop :=
  ∀ endpoints, s.session.endpoints = some endpoints → endpoints = .ofLock

theorem KnowsLock.of_same (h : s.KnowsLock) (hSession : t.session = s.session) : t.KnowsLock := by
  unfold KnowsLock
  rw [hSession]
  exact h

theorem KnowsLock.move (h : s.KnowsLock) (hMove : s.Move m t) : t.KnowsLock := by
  cases hMove with
  | assigned state => exact h
  | cleared => exact nofun
  | adopted request d endpoints hIdle hLink hRange hNewest hSubscribed hConnected hEndpoints =>
      rintro _ ⟨⟩
      exact hEndpoints
  | readopted d endpoints hIdle hLink hState hSubscribed hConnected hEndpoints =>
      intro found hFound
      rw [endpoints_readopt] at hFound
      obtain rfl := Option.some.inj hFound
      exact hEndpoints
  | demoted seen =>
      rcases dropped_cases s seen with ⟨hSame, -⟩ | ⟨-, -, hChanged⟩
      · rw [hSame]
        exact h
      · rw [hChanged]
        exact h
  | delivered id d connection queue =>
      rw [foldl_frames]
      exact h.of_same rfl
  | woken p =>
      unfold wake
      split_ifs <;> exact h.of_same rfl
  | reacted event => exact h.of_same (react_frame s event).1
  | _ => exact h.of_same rfl

theorem run_knowsLock (devices : List Device) (history : List Event) :
    ((initial devices).run history).KnowsLock := by
  have hInitial : (initial devices).KnowsLock := nofun
  exact ((initial_sound devices).run_moves history).keeps (fun _ _ _ _ hMove h => h.move hMove)
    hInitial

/-! Calls that have their effect. -/

/-- No call fails, waits or is refused. -/
structure Faultless (s : Radio) : Prop where
  discovers : s.discoverFault = none
  willing : ∀ d, (s.device d).Willing

/-- What calls keep, other than writes: what the session is bound to and what the devices are. -/
structure Retains (s t : Radio) : Prop where
  link : t.session.link = s.session.link
  endpoints : t.session.endpoints = s.session.endpoints
  filter : t.session.filter = s.session.filter
  discoverFault : t.discoverFault = s.discoverFault
  devices : t.devices.map Device.lasting = s.devices.map Device.lasting

theorem Retains.trans (h : s.Retains t) (h' : t.Retains u) : s.Retains u :=
  ⟨h'.link.trans h.link, h'.endpoints.trans h.endpoints, h'.filter.trans h.filter,
    h'.discoverFault.trans h.discoverFault, h'.devices.trans h.devices⟩

theorem Retains.recorded (s : Radio) (e : Effect) : s.Retains (s.record e) :=
  ⟨rfl, rfl, rfl, rfl, rfl⟩

theorem Retains.set (device : Device) (hSame : device.lasting = (s.device d).lasting) (e : Effect) :
    s.Retains ((s.setDevice d device).record e) := by
  refine ⟨rfl, rfl, rfl, rfl, ?_⟩
  calc (s.devices.set d device).map Device.lasting
      = (s.devices.map Device.lasting).set d device.lasting := List.map_set
    _ = (s.devices.map Device.lasting).set d (s.device d).lasting := by rw [hSame]
    _ = (s.setDevice d (s.device d)).devices.map Device.lasting := List.map_set.symm
    _ = s.devices.map Device.lasting := by rw [setDevice_self]

theorem Retains.dropped (s : Radio) : s.Retains (s.dropped none) := by
  rcases dropped_cases s none with ⟨hSame, -⟩ | ⟨-, -, hChanged⟩
  · rw [hSame]
    exact ⟨rfl, rfl, rfl, rfl, rfl⟩
  · rw [hChanged]
    exact ⟨rfl, rfl, rfl, rfl, rfl⟩

theorem lasting_device (s : Radio) (d : DeviceId) :
    (s.device d).lasting = (s.devices.map Device.lasting).getD d {} := by
  unfold device
  rw [List.getD_eq_getElem?_getD, List.getD_eq_getElem?_getD, List.getElem?_map]
  cases s.devices[d]? <;> rfl

theorem Retains.device (h : s.Retains t) (d : DeviceId) :
    (t.device d).lasting = (s.device d).lasting := by
  rw [lasting_device, lasting_device, h.devices]

theorem Retains.length (h : s.Retains t) : t.devices.length = s.devices.length := by
  simpa using congrArg List.length h.devices

theorem Retains.hasService (h : s.Retains t) (d : DeviceId) :
    (t.device d).hasService = (s.device d).hasService := by
  show (t.device d).lasting.hasService = (s.device d).hasService
  rw [h.device]
  rfl

theorem Retains.written (h : s.Retains t) (d : DeviceId) :
    (t.device d).written = (s.device d).written := by
  show (t.device d).lasting.written = (s.device d).written
  rw [h.device]
  rfl

theorem Retains.faultless (h : s.Retains t) (hFaultless : s.Faultless) : t.Faultless :=
  ⟨h.discoverFault.trans hFaultless.discovers,
    fun d => (hFaultless.willing d).of_lasting (h.device d)⟩

theorem firstAdmitted_eq (s : Radio) (filter : DiscoveryFilter) :
    s.firstAdmitted filter =
      (s.devices.map Device.lasting).findIdx? fun device => filter.admits device.adverts := by
  rw [List.findIdx?_map]
  rfl

theorem Retains.firstAdmitted (h : s.Retains t) (filter : DiscoveryFilter) :
    t.firstAdmitted filter = s.firstAdmitted filter := by
  rw [firstAdmitted_eq, firstAdmitted_eq, h.devices]

/-- A call that no fault answers is the device's to answer. -/
theorem attempt_of_ok {α : Type} {kind : LinkCall} (call : Call)
    (act : Device → Except LinkError (α × Device)) {value : α} {device : Device}
    (hFault : (s.device d).faults kind = none) (hAct : act (s.device d) = .ok (value, device)) :
    s.attempt d kind call act = ((s.setDevice d device).record (.call call true), .ok value) := by
  unfold attempt
  simp only [hFault, hAct]

theorem Faultless.connectLink (h : s.Faultless) (hRange : d < s.devices.length) :
    ∃ t, s.connectLink d = (t, .ok ()) ∧ s.Retains t ∧ (t.device d).connected = true := by
  refine ⟨_, attempt_of_ok _ _ ((h.willing d).faults .connect) rfl, .set _ ?_ _, ?_⟩
  · rfl
  · rw [device_record, device_setDevice, if_pos ⟨rfl, hRange⟩]
    rfl

theorem Faultless.disconnectLink (h : s.Faultless) (d : DeviceId) :
    ∃ t, s.disconnectLink d = (t, .ok ()) ∧ s.Retains t := by
  refine ⟨_, attempt_of_ok _ _ ((h.willing d).faults .disconnect) rfl, .set _ ?_ _⟩
  rfl

theorem Faultless.drops (h : s.Faultless) (d : DeviceId) :
    ∃ t, s.drops d = (t, .ok ()) ∧ s.Retains t ∧ t.device d = s.device d := by
  refine ⟨_, attempt_of_ok _ _ ((h.willing d).faults .drops) rfl, .set _ rfl _, ?_⟩
  rw [setDevice_self, device_record]

/-- The lock service is found where it is offered, and its notifications can be subscribed to. -/
theorem Faultless.resolveEndpoints (h : s.Faultless) (hConnected : (s.device d).connected = true)
    (hService : (s.device d).hasService = true)
    (hFilter : Uuid.ofShort filter.serviceId = lockService) :
    ∃ t, s.resolveEndpoints d filter = (t, .ok (some .ofLock)) ∧ s.Retains t ∧
      (t.device d).connected = true := by
  have hFound : (s.device d).resolve lockService = .ok (some .ofLock) := by
    simp [Device.resolve, hConnected, hService, Endpoints.ofLock]
  have hResolve : s.resolve d lockService = (s.record (.call (.resolve d lockService) true),
      .ok (some .ofLock)) := by
    have hAttempt := attempt_of_ok (.resolve d lockService)
      (fun device => (device.resolve lockService).map (·, device))
      ((h.willing d).faults .resolve) (congrArg (Except.map (·, s.device d)) hFound)
    rwa [setDevice_self] at hAttempt
  have hRetains := Retains.recorded s (.call (.resolve d lockService) true)
  have hSubscribe := attempt_of_ok (s := s.record (.call (.resolve d lockService) true))
    (.subscribe d inboundCharacteristic)
    (fun device => (device.subscribe inboundCharacteristic).map ((), ·))
    (((hRetains.faultless h).willing d).faults .subscribe) (by simp [Device.subscribe]; rfl)
  unfold Radio.resolveEndpoints
  rw [hFilter, hResolve]
  simp only
  rw [show Endpoints.ofLock.inbound = inboundCharacteristic from rfl, Radio.subscribe, hSubscribe]
  refine ⟨_, rfl, hRetains.trans (.set _ ?_ _), ?_⟩
  · rfl
  · rw [device_record, device_setDevice]
    split_ifs <;> exact hConnected

theorem Faultless.bindLink (h : s.Faultless) (hRange : d < s.devices.length)
    (hService : (s.device d).hasService = true)
    (hFilter : Uuid.ofShort filter.serviceId = lockService) :
    ∃ t, s.bindLink d filter (.ok (s.device d).connected) = (t, .ok (some .ofLock)) ∧
      s.Retains t ∧ (t.device d).connected = true := by
  unfold Radio.bindLink
  cases hConnected : (s.device d).connected with
  | true => exact h.resolveEndpoints hConnected hService hFilter
  | false =>
      obtain ⟨t, hConnect, hRetains, hUp⟩ := h.connectLink hRange
      simp only [hConnect]
      obtain ⟨u, hResolve, hRetains', hUp'⟩ :=
        (hRetains.faultless h).resolveEndpoints hUp ((hRetains.hasService d).trans hService) hFilter
      exact ⟨u, hResolve, hRetains.trans hRetains', hUp'⟩

theorem Faultless.ask (h : s.Faultless) (d : DeviceId) (point : Point)
    (next : Radio → Except LinkError Bool → Radio × Progress) :
    ∃ t, s.ask d point next = next t (.ok (t.device d).connected) ∧ s.Retains t ∧
      t.session = s.session := by
  refine ⟨s.record (.call (.isConnected d) true), ?_, .recorded s _, rfl⟩
  unfold Radio.ask isConnected
  simp [(h.willing d).faults, (h.willing d).holds]

/-! Connecting. -/

/-- A connect succeeded with a device that the filter admits. -/
structure ConnectsTo (d : DeviceId) (filter : DiscoveryFilter) (p : Radio × Progress) : Prop where
  done : p.2 = .done (.connect (.ok ()))
  bound : p.1.BoundUp d
  filter : p.1.session.filter = some filter

theorem Faultless.bindFound {request : ConnectRequest} (h : s.Faultless)
    (hRange : d < s.devices.length) (hService : (s.device d).hasService = true)
    (hFilter : Uuid.ofShort request.filter.serviceId = lockService) :
    ConnectsTo d request.filter (s.bindFound request d (.ok (s.device d).connected)) := by
  obtain ⟨t, hBind, hRetains, hUp⟩ := h.bindLink hRange hService hFilter
  obtain ⟨u, hDrops, -, hSame⟩ := (hRetains.faultless h).drops d
  unfold Radio.bindFound
  simp only [hBind, hDrops]
  refine ⟨rfl, ⟨rfl, rfl, ?_⟩, rfl⟩
  exact (congrArg Device.connected hSame).trans hUp

theorem lt_of_firstAdmitted (h : s.firstAdmitted filter = some d) : d < s.devices.length :=
  (List.findIdx?_eq_some_iff_getElem.mp h).1

theorem Faultless.search (h : s.Faultless) (request : ConnectRequest)
    (hFirst : s.firstAdmitted request.filter = some d) (hService : (s.device d).hasService = true)
    (hFilter : Uuid.ofShort request.filter.serviceId = lockService) :
    ConnectsTo d request.filter (s.search request) := by
  have hFound : ((s.assign .connecting).discover request.filter) =
      ({ s.assign .connecting with scans := s.scans + 1 }.record
        (.call (.discover request.filter) true), .ok (some d)) := by
    have hNone : (s.assign .connecting).discoverFault = none := h.discovers
    have hFirst' : (s.assign .connecting).firstAdmitted request.filter = some d := hFirst
    unfold discover
    simp only [hNone, hFirst']
    rfl
  have hRetains : s.Retains ({ s.assign .connecting with scans := s.scans + 1 }.record
      (.call (.discover request.filter) true)) := ⟨rfl, rfl, rfl, rfl, rfl⟩
  unfold Radio.search
  simp only [hFound]
  obtain ⟨t, hAsk, hRetains', -⟩ := (hRetains.faultless h).ask d (.binding request d)
    fun s answer => s.bindFound request d answer
  have hBefore := hRetains.trans hRetains'
  rw [hAsk]
  refine (hBefore.faultless h).bindFound ?_ ?_ hFilter
  · rw [hBefore.length]
    exact lt_of_firstAdmitted hFirst
  · exact (hBefore.hasService d).trans hService

theorem Faultless.replace (h : s.Faultless) (request : ConnectRequest) (link : DeviceId)
    (answer : Bool) (hFirst : s.firstAdmitted request.filter = some d)
    (hService : (s.device d).hasService = true)
    (hFilter : Uuid.ofShort request.filter.serviceId = lockService) :
    ConnectsTo d request.filter (s.replace request link (.ok answer)) := by
  unfold Radio.replace takeDown
  cases answer with
  | true =>
      obtain ⟨t, hDown, hRetains⟩ := h.disconnectLink link
      simp only [hDown]
      apply (hRetains.faultless h).search request
      · exact (hRetains.firstAdmitted _).trans hFirst
      · exact (hRetains.hasService d).trans hService
      · exact hFilter
  | false => exact h.search request hFirst hService hFilter

theorem serviceId_of_forSerial {serial : UInt64}
    (h : DiscoveryFilter.forSerial serial = .ok filter) :
    Uuid.ofShort filter.serviceId = lockService := by
  rw [DiscoveryFilter.eq_ofSerial h]
  exact ofShort_lockServiceId

theorem Faultless.of_devices (h : s.Faultless) (hDevices : t.devices = s.devices)
    (hDiscover : t.discoverFault = s.discoverFault) : t.Faultless := by
  refine ⟨hDiscover.trans h.discovers, fun d => ?_⟩
  unfold device
  rw [hDevices]
  exact h.willing d

theorem discoverFault_clear (s : Radio) : s.clear.discoverFault = s.discoverFault := by
  unfold clear
  cases s.session.dropTask <;> cases s.session.notifyTask <;> rfl

/-- Whatever is held is taken down, and the device that discovery finds is bound. -/
theorem Faultless.connect {serial : UInt64} (h : s.Faultless)
    (hSerial : DiscoveryFilter.forSerial serial = .ok filter)
    (hFirst : s.firstAdmitted filter = some d) (hService : (s.device d).hasService = true) :
    ConnectsTo d filter (s.connect serial) := by
  have hFilter := serviceId_of_forSerial hSerial
  unfold Radio.connect
  rw [hSerial]
  simp only
  have hNumbered : Faultless { s with connections := s.connections + 1 } := h.of_devices rfl rfl
  cases hLink : s.session.link with
  | none => exact hNumbered.search ⟨s.connections, filter, .idle⟩ hFirst hService hFilter
  | some link =>
      simp only
      generalize hClear : Radio.clear { s with connections := s.connections + 1 } = t
      have hDevices : t.devices = s.devices := hClear ▸ devices_clear _
      have hCleared : t.Faultless :=
        hNumbered.of_devices hDevices (hClear ▸ discoverFault_clear _)
      obtain ⟨u, hAsk, hRetains, -⟩ := hCleared.ask link
        (.replacing ⟨s.connections, filter, .disconnected⟩ link)
        fun v answer => v.replace ⟨s.connections, filter, .disconnected⟩ link answer
      rw [hAsk]
      have hFirst' : t.firstAdmitted filter = some d := by
        unfold firstAdmitted
        rw [hDevices]
        exact hFirst
      have hService' : (t.device d).hasService = true := by
        unfold device
        rw [hDevices]
        exact hService
      apply (hRetains.faultless hCleared).replace ⟨s.connections, filter, .disconnected⟩
      · exact (hRetains.firstAdmitted _).trans hFirst'
      · exact (hRetains.hasService d).trans hService'
      · exact hFilter

/-! Sending. -/

/-- A send succeeded, and wrote its payload to one device and to no other. -/
structure Delivers (s : Radio) (d : DeviceId) (data : Bytes) (p : Radio × Progress) : Prop where
  done : p.2 = .done (.send (.ok ()))
  written : ∀ i, (p.1.device i).written =
    if i = d then (s.device i).written ++ [data] else (s.device i).written

theorem Delivers.after {p : Radio × Progress} (h : s.Retains t) (h' : t.Delivers d data p) :
    s.Delivers d data p := by
  refine ⟨h'.done, fun i => ?_⟩
  rw [h'.written, h.written]

/-- A session over the lock service of a device in range. -/
structure Serves (s : Radio) (d : DeviceId) : Prop where
  link : s.session.link = some d
  endpoints : s.session.endpoints = some .ofLock
  filter : ∃ filter, s.session.filter = some filter ∧
    Uuid.ofShort filter.serviceId = lockService
  inRange : d < s.devices.length
  hasService : (s.device d).hasService = true

theorem Equipped.link (h : s.Equipped d) : s.session.link = some d := by
  obtain ⟨k, notify, watch, queue, pending, check, hBy⟩ := h.linked
  exact hBy.link

/-- A session that has its parts is ready to serve, if its device has the service. -/
theorem Equipped.serves (h : s.Equipped d) (hSound : s.Sound) (hKnows : s.KnowsLock)
    (hService : (s.device d).hasService = true) : s.Serves d := by
  obtain ⟨endpoints, hEndpoints⟩ := Option.ne_none_iff_exists'.mp h.endpoints
  obtain ⟨serial, filter, -, hFilter, hSerial⟩ := h.filter
  refine ⟨h.link, ?_, ⟨filter, hFilter, serviceId_of_forSerial hSerial⟩,
    hSound.inRange d h.link, hService⟩
  rw [hEndpoints, hKnows endpoints hEndpoints]

theorem Retains.serves (h : s.Retains t) (hServes : s.Serves d) : t.Serves d := by
  refine ⟨h.link.trans hServes.link, h.endpoints.trans hServes.endpoints, ?_, ?_, ?_⟩
  · rw [h.filter]
    exact hServes.filter
  · rw [h.length]
    exact hServes.inRange
  · exact (h.hasService d).trans hServes.hasService

theorem Faultless.writeOut (h : s.Faultless) (hServes : s.Serves d) (data : Bytes)
    (hConnected : (s.device d).connected = true) : s.Delivers d data (s.writeOut data) := by
  have hWritten : (s.device d).write outboundCharacteristic data =
      .ok { s.device d with written := (s.device d).written ++ [data] } := by
    simp [Device.write, hConnected, (h.willing d).writes]
  have hWrite := attempt_of_ok (.write d outboundCharacteristic data)
    (fun device => (device.write outboundCharacteristic data).map ((), ·))
    ((h.willing d).faults .write) (congrArg (Except.map ((), ·)) hWritten)
  unfold Radio.writeOut
  rw [hServes.link, hServes.endpoints]
  simp only
  rw [show Endpoints.ofLock.outbound = outboundCharacteristic from rfl, Radio.write, hWrite]
  refine ⟨rfl, fun i => ?_⟩
  simp only [device_record, device_setDevice, hServes.inRange, and_true]
  split_ifs with hi
  · rw [hi]
  · rfl

theorem Retains.readopted (s : Radio) (d : DeviceId)
    (hEndpoints : s.session.endpoints = some .ofLock) : s.Retains (s.readopt d .ofLock) := by
  obtain ⟨hDevices, -, -, -, hLink, -⟩ := readopt_frame s d .ofLock
  have hDiscover : (s.abort s.session.notifyTask).discoverFault = s.discoverFault := by
    cases s.session.notifyTask <;> rfl
  refine ⟨hLink, (endpoints_readopt s d _).trans hEndpoints.symm, filter_readopt s d _, ?_,
    congrArg _ hDevices⟩
  unfold readopt
  simp only
  cases (s.abort s.session.notifyTask).session.onNotify <;> exact hDiscover

theorem Faultless.rebind (h : s.Faultless) (hServes : s.Serves d) (data : Bytes) :
    s.Delivers d data (s.rebind data (.ok (s.device d).connected)) := by
  obtain ⟨filter, hFilter, hService⟩ := hServes.filter
  obtain ⟨t, hBind, hRetains, hUp⟩ := h.bindLink hServes.inRange hServes.hasService hService
  unfold Radio.rebind
  rw [hServes.link, hFilter]
  simp only [hBind]
  have hReadopts := Retains.readopted t d (hRetains.endpoints.trans hServes.endpoints)
  have hAfter := hRetains.trans hReadopts
  refine Delivers.after hAfter ((hAfter.faultless h).writeOut (hAfter.serves hServes) data ?_)
  unfold device
  rw [(readopt_frame t d .ofLock).1]
  exact hUp

theorem Faultless.sendChecked (h : s.Faultless) (hServes : s.Serves d) (data : Bytes) :
    s.Delivers d data (s.sendChecked data (.ok (s.device d).connected)) := by
  unfold Radio.sendChecked
  cases hConnected : (s.device d).connected with
  | true => exact h.writeOut hServes data hConnected
  | false =>
      obtain ⟨filter, hFilter, -⟩ := hServes.filter
      rw [hServes.link, hFilter]
      simp only
      have hDropped := Retains.dropped s
      obtain ⟨t, hAsk, hRetains, -⟩ := (hDropped.faultless h).ask d (.rebinding data)
        fun s answer => s.rebind data answer
      have hAfter := hDropped.trans hRetains
      rw [hAsk]
      exact .after hAfter ((hAfter.faultless h).rebind (hAfter.serves hServes) data)

theorem Faultless.send (h : s.Faultless) (hServes : s.Serves d) (data : Bytes) :
    s.Delivers d data (s.send data) := by
  unfold Radio.send
  rw [hServes.link, hServes.endpoints]
  simp only
  obtain ⟨t, hAsk, hRetains, -⟩ := h.ask d (.sending data) fun s answer => s.sendChecked data answer
  rw [hAsk]
  exact .after hRetains ((hRetains.faultless h).sendChecked (hRetains.serves hServes) data)

/-- Wherever a history has led, once nothing fails, waits or is refused any more and no operation is
in progress: a connect for a lock whose device is found and has the service binds the session to
this device and serial number, and if the session has a serial number, then it has a device, and
every send is written to this device, to no other and just once, if it has the service. -/
theorem recovers (devices : List Device) (history : List Event)
    (hIdle : ((initial devices).run history).operation = none)
    (hFaultless : ((initial devices).run history).Faultless) :
    (∀ serial filter d, DiscoveryFilter.forSerial serial = .ok filter →
        ((initial devices).run history).firstAdmitted filter = some d →
        (((initial devices).run history).device d).hasService = true →
        ∃ t, ((initial devices).run history).start (.connect serial) =
            (t, some (.connect (.ok ()))) ∧
          t.session.state = .bound ∧ t.session.link = some d ∧
          t.session.serial.map UInt32.toUInt64 = some serial) ∧
      (((initial devices).run history).session.serial.isSome →
        ∃ d, ((initial devices).run history).session.link = some d ∧
          ((((initial devices).run history).device d).hasService = true → ∀ data,
            ∃ t, ((initial devices).run history).start (.send data) = (t, some (.send (.ok ()))) ∧
              ∀ i, (t.device i).written =
                if i = d then (((initial devices).run history).device i).written ++ [data]
                else (((initial devices).run history).device i).written)) := by
  have hSound := run_sound devices history
  have hKnows := run_knowsLock devices history
  have hRepresented := run_represented devices history
  generalize (initial devices).run history = s at *
  refine ⟨fun serial filter d hSerial hFirst hService => ?_, fun hSome => ?_⟩
  · obtain ⟨hDone, hBound, hFilter⟩ := hFaultless.connect hSerial hFirst hService
    rcases hConnect : s.connect serial with ⟨t, progress⟩
    rw [hConnect] at hDone hBound hFilter
    obtain rfl : progress = .done (.connect (.ok ())) := hDone
    refine ⟨t.record (.returned (.connect (.ok ()))), ?_, hBound.state, hBound.link, ?_⟩
    · simp [start, hIdle, hConnect, note]
    · show (t.session.filter.map DiscoveryFilter.serial).map UInt32.toUInt64 = some serial
      rw [hFilter]
      exact congrArg some (DiscoveryFilter.forSerial_ok hSerial).2
  · obtain ⟨d, hEquipped⟩ : ∃ d, s.Equipped d := by
      refine hRepresented.parts.resolve_right fun hBare => ?_
      rw [Session.serial, hBare.filter] at hSome
      cases hSome
    have hLink := hEquipped.link
    refine ⟨d, hLink, fun hService data => ?_⟩
    have hServes := hEquipped.serves hSound hKnows hService
    obtain ⟨hDone, hWritten⟩ := hFaultless.send hServes data
    rcases hSend : s.send data with ⟨t, progress⟩
    rw [hSend] at hDone hWritten
    obtain rfl : progress = .done (.send (.ok ())) := hDone
    refine ⟨t.record (.returned (.send (.ok ()))), ?_, hWritten⟩
    simp [start, hIdle, hSend, note]

/-- A link that could not be bound again for one failure, and a send that was abandoned on it:
another send gets through, and so does a connect for another lock. -/
theorem recovers_after_abandoned_send :
    let s := (initial [.ofSerial 7, .ofSerial 8]).run [.start (.connect 7), .device (.drop 0),
      .device (.fault 0 .subscribe (CallFault.make .noAdapter (some 1))), .start (.send [1]),
      .device (.hold 0), .start (.send [2]), .abandon]
    s.session.state = .disconnected ∧ (s.device 0).connected = true ∧
      (∃ t, s.start (.connect 8) = (t, some (.connect (.ok ()))) ∧ t.session.link = some 1) ∧
      ∃ d, s.session.link = some d ∧
        ∃ t, s.start (.send [3]) = (t, some (.send (.ok ()))) ∧ (t.device d).written = [[3]] := by
  intro s
  have hFaultless : s.Faultless := by
    refine ⟨rfl, fun d => ?_⟩
    rcases d with _ | _ | d
    · exact ⟨fun call => by cases call <;> rfl, rfl, rfl⟩
    · exact ⟨fun call => by cases call <;> rfl, rfl, rfl⟩
    · exact ⟨fun call => by cases call <;> rfl, rfl, rfl⟩
  obtain ⟨hConnects, hSends⟩ := recovers [.ofSerial 7, .ofSerial 8] _ rfl hFaultless
  obtain ⟨t, hStart, -, hLink, -⟩ := hConnects 8 (.ofSerial 8) 1 rfl (by decide) rfl
  obtain ⟨d, hHeld, hSend⟩ := hSends rfl
  obtain rfl : d = 0 := (Option.some.inj hHeld).symm
  obtain ⟨u, hStart', hWritten⟩ := hSend rfl [3]
  exact ⟨rfl, rfl, ⟨t, hStart, hLink⟩, 0, hHeld, u, hStart', hWritten 0⟩

end Radio

end LockRelay
