import LockRelay.Proofs.Session.BackgroundMoves

/-! What devices have acknowledged. A write goes to the link that the session holds, which is in
range, so each device has acknowledged its own part of what the record says, and a lock that is the
only one in range all of it. -/
namespace LockRelay.Radio

/-- The payloads that went to one device. -/
def sentTo (d : DeviceId) (deliveries : List (DeviceId × Bytes)) : List Bytes :=
  (deliveries.filter (·.1 == d)).map Prod.snd

theorem sentTo_append (d : DeviceId) (deliveries later : List (DeviceId × Bytes)) :
    sentTo d (deliveries ++ later) = sentTo d deliveries ++ sentTo d later := by
  simp [sentTo]

theorem sentTo_of_forall {d : DeviceId} {deliveries : List (DeviceId × Bytes)}
    (h : ∀ delivery ∈ deliveries, delivery.1 = d) :
    sentTo d deliveries = deliveries.map Prod.snd := by
  have hAll : deliveries.filter (·.1 == d) = deliveries :=
    List.filter_eq_self.mpr fun delivery hDelivery => by simp [h delivery hDelivery]
  rw [sentTo, hAll]

theorem sentTo_eq_nil {d : DeviceId} {deliveries : List (DeviceId × Bytes)}
    (h : ∀ delivery ∈ deliveries, delivery.1 ≠ d) : sentTo d deliveries = [] := by
  have hNone : deliveries.filter (·.1 == d) = [] :=
    List.filter_eq_nil_iff.mpr fun delivery hDelivery => by simp [h delivery hDelivery]
  rw [sentTo, hNone, List.map_nil]

/-- Between two sessions the devices in range acknowledged so much, each what went to it. -/
structure Receives (s : Radio) (deliveries : List (DeviceId × Bytes)) (t : Radio) : Prop where
  acknowledged : t.acknowledged = s.acknowledged ++ deliveries.map Prod.snd
  written : ∀ d < s.devices.length,
    (t.device d).written = (s.device d).written ++ sentTo d deliveries
  inRange : ∀ delivery ∈ deliveries, delivery.1 < s.devices.length
  length : s.devices.length ≤ t.devices.length

variable {s t u : Radio} {deliveries later : List (DeviceId × Bytes)}

theorem Receives.of_same (hLength : s.devices.length ≤ t.devices.length)
    (hWritten : ∀ d < s.devices.length, (t.device d).written = (s.device d).written)
    (hAcknowledged : t.acknowledged = s.acknowledged) : s.Receives [] t :=
  ⟨hAcknowledged.trans (List.append_nil _).symm,
    fun d hRange => (hWritten d hRange).trans (List.append_nil _).symm, nofun, hLength⟩

theorem Receives.refl (s : Radio) : s.Receives [] s :=
  .of_same (Nat.le_refl _) (fun _ _ => rfl) rfl

theorem Receives.trans (h : s.Receives deliveries t) (h' : t.Receives later u)
    (hInRange : ∀ delivery ∈ later, delivery.1 < s.devices.length) :
    s.Receives (deliveries ++ later) u := by
  refine ⟨?_, fun d hRange => ?_, ?_, h.length.trans h'.length⟩
  · rw [h'.acknowledged, h.acknowledged, List.map_append, List.append_assoc]
  · rw [h'.written d (hRange.trans_le h.length), h.written d hRange, sentTo_append,
      List.append_assoc]
  · intro delivery hDelivery
    exact (List.mem_append.mp hDelivery).elim (h.inRange delivery) (hInRange delivery)

/-- An effect other than an acknowledged write, recorded while no device changes. -/
theorem Receives.recorded (e : Effect) (hEffect : e.acknowledged? = none)
    (hDevices : t.devices = s.devices) (hTrace : t.trace = s.trace ++ [e]) : s.Receives [] t := by
  refine .of_same (congrArg List.length hDevices).ge (fun d _ => ?_) ?_
  · unfold device
    rw [hDevices]
  · simp [Radio.acknowledged, hTrace, hEffect]

/-- What a change leaves of one device, it leaves of every device. -/
theorem kept_setDevice {α : Type} (f : Device → α) {d : DeviceId} {device : Device}
    (h : f device = f (s.device d)) (i : DeviceId) :
    f ((s.setDevice d device).device i) = f (s.device i) := by
  rw [device_setDevice]
  split_ifs with hi
  · rw [h, hi.1]
  · rfl

/-- Only writes are acknowledged, and they go to the device that the session holds. -/
theorem Sound.call_receives {d : DeviceId} {device : Device} {call : Call} {succeeded : Bool}
    (hSound : s.Sound) (hDevice : call.device? = some d) (hMay : s.MayCall call)
    (hServed : (s.device d).Served device call succeeded) :
    ∃ deliveries,
      s.Receives deliveries ((s.setDevice d device).record (.call call succeeded)) ∧
      ∀ delivery ∈ deliveries, s.session.link = some delivery.1 := by
  have hLength := (length_setDevice s d device).ge
  have hWritten := hServed.written
  rw [Call.writtenAfter_eq] at hWritten
  cases hPayload : (Effect.call call succeeded).acknowledged? with
  | none =>
      rw [hPayload] at hWritten
      refine ⟨[], .of_same hLength (fun i _ => ?_) ?_, nofun⟩
      · exact kept_setDevice Device.written (hWritten.trans (List.append_nil _)) i
      · rw [acknowledged_record, hPayload]
        exact List.append_nil _
  | some payload =>
      have hLink : s.session.link = some d := by
        cases call with
        | write i outbound data =>
            cases hDevice
            exact hMay.2
        | _ => cases hPayload
      have hRange := hSound.inRange d hLink
      refine ⟨[(d, payload)], ⟨?_, fun i _ => ?_, by simpa using hRange, hLength⟩, by simpa⟩
      · rw [acknowledged_record, hPayload]
        rfl
      · rw [device_record, device_setDevice]
        by_cases hi : i = d
        · subst hi
          rw [if_pos ⟨rfl, hRange⟩, hWritten, hPayload]
          simp [sentTo]
        · rw [if_neg fun hSame => hi hSame.1]
          simp [sentTo, Ne.symm hi]

/-- What nothing sets that devices do on their own stays as it is. -/
theorem react_kept {α : Type} (f : Device → α) (event : DeviceEvent)
    (hKept : ∀ (device : Device) (connected hasService refusesWrites : Bool)
      (faults : LinkCall → Option CallFault) (holds : Nat),
      f { device with connected, hasService, refusesWrites, faults, holds } = f device)
    {i : DeviceId} (hRange : i < s.devices.length) :
    f ((s.react event).device i) = f (s.device i) := by
  have hSet (d : DeviceId) (connected hasService refusesWrites : Bool)
      (faults : LinkCall → Option CallFault) (holds : Nat) :
      f ((s.setDevice d { s.device d with
        connected, hasService, refusesWrites, faults, holds }).device i) = f (s.device i) :=
    kept_setDevice f (hKept (s.device d) connected hasService refusesWrites faults holds) i
  cases event with
  | appear device =>
      have hSame : (s.react (.appear device)).device i = s.device i := by
        unfold react Radio.device
        simp only [List.getD_eq_getElem?_getD, List.getElem?_append_left hRange]
      rw [hSame]
  | notify d payload =>
      obtain ⟨ready, hNotify⟩ := notify_eq s d payload
      rw [react, hNotify]
      rfl
  | drop d =>
      obtain ⟨ready, hDrop⟩ := dropLink_eq s d
      rw [react, hDrop]
      exact hSet d false _ _ _ _
  | discoverFault fault => rfl
  | release d => rfl
  | offerService d present => exact hSet d _ present _ _ _
  | refuseWrites d refuse => exact hSet d _ _ refuse _ _
  | fault d call fault => exact hSet d _ _ _ ((s.device d).setFault call fault).faults _
  | hold d => exact hSet d _ _ _ _ ((s.device d).holds + 1)

/-- Devices acknowledge nothing on their own. -/
theorem react_written (event : DeviceEvent) {i : DeviceId} (hRange : i < s.devices.length) :
    ((s.react event).device i).written = (s.device i).written :=
  react_kept Device.written event (fun _ _ _ _ _ _ => rfl) hRange

theorem Move.receives {m : Mover} (hSound : s.Sound) (hMove : s.Move m t) :
    ∃ deliveries, s.Receives deliveries t ∧
      ∀ delivery ∈ deliveries, s.session.link = some delivery.1 := by
  have hNothing (h : s.Receives [] t) : ∃ deliveries, s.Receives deliveries t ∧
      ∀ delivery ∈ deliveries, s.session.link = some delivery.1 := ⟨[], h, nofun⟩
  have hRecorded (e : Effect) (hEffect : e.acknowledged? = none) (hDevices : t.devices = s.devices)
      (hTrace : t.trace = s.trace ++ [e]) := hNothing (.recorded e hEffect hDevices hTrace)
  cases hMove with
  | called d device call succeeded hDevice hMay hServed =>
      exact hSound.call_receives hDevice hMay hServed
  | discovered scans fault filter succeeded hLink => exact hRecorded _ rfl rfl rfl
  | assigned state hIdle hLink hState => exact hRecorded (.assigned state) rfl rfl rfl
  | cleared hIdle => exact hRecorded _ rfl (devices_clear s) (trace_clear s)
  | adopted request d endpoints hIdle hLink hRange hNewest hSubscribed =>
      exact hRecorded (.assigned .bound) rfl rfl rfl
  | readopted d endpoints hIdle hLink hState hSubscribed =>
      obtain ⟨hDevices, -, -, hTrace, -, -⟩ := readopt_frame s d endpoints
      exact hRecorded _ rfl hDevices hTrace
  | demoted seen hDropped =>
      obtain ⟨hDevices, -, -, -, -, hAcknowledged⟩ := dropped_frame s seen
      refine hNothing (.of_same (congrArg List.length hDevices).ge (fun d _ => ?_) hAcknowledged)
      unfold device
      rw [hDevices]
  | returned outcome hIdle hJustified => exact hRecorded (.returned outcome) rfl rfl rfl
  | delivered task d connection queue hTask =>
      have hAcknowledged := acknowledged_frames
        (s.setTask task (.notifications d connection [])) connection queue
      refine hNothing (.of_same ?_ (fun i _ => ?_) hAcknowledged)
      · rw [foldl_frames]
        exact Nat.le_refl _
      · rw [foldl_frames]
        rfl
  | woken p =>
      unfold wake
      split_ifs
      · exact ⟨[], .refl s, nofun⟩
      · exact ⟨[], .of_same (Nat.le_refl _) (fun _ _ => rfl) rfl, nofun⟩
  | reacted event =>
      obtain ⟨-, -, hTrace, -, -, hLength, -⟩ := react_frame s event
      refine hNothing (.of_same hLength (fun i hRange => react_written event hRange) ?_)
      unfold acknowledged
      rw [hTrace]
  | _ => exact hNothing (.of_same (Nat.le_refl _) (fun _ _ => rfl) rfl)

/-- Only a device's own move brings one into range. -/
theorem Move.length_eq {m : Mover} (hDevice : ∀ event, m ≠ .device event) (hMove : s.Move m t) :
    t.devices.length = s.devices.length := by
  cases hMove with
  | called i device call succeeded => exact length_setDevice s i device
  | cleared => rw [devices_clear]
  | readopted i endpoints => rw [(readopt_frame s i endpoints).1]
  | demoted seen => rw [(dropped_frame s seen).1]
  | delivered id i connection queue =>
      rw [foldl_frames]
      rfl
  | woken p =>
      unfold wake
      split_ifs <;> rfl
  | reacted event => exact absurd rfl (hDevice event)
  | _ => rfl

/-- Devices that are in range stay there. -/
theorem Move.length_le {m : Mover} (hMove : s.Move m t) : s.devices.length ≤ t.devices.length := by
  by_cases hDevice : ∃ event, m = .device event
  · obtain ⟨event, rfl⟩ := hDevice
    cases hMove with
    | reacted => exact (react_frame s event).2.2.2.2.2.1
    | cleared hIdle hTearsDown => cases hTearsDown
    | demoted seen hDropped hObserves => cases hObserves
    | called i device call succeeded => exact (length_setDevice s i device).ge
    | _ => exact Nat.le_refl _
  · exact (hMove.length_eq fun event hSame => hDevice ⟨event, hSame⟩).ge

/-- There is a lock in range; as long as it is the only one, it has what the record says. -/
structure Agrees (s : Radio) : Prop where
  inRange : 0 < s.devices.length
  written : s.devices.length = 1 → (s.device 0).written = s.acknowledged

theorem Agrees.move {m : Mover} (h : s.Agrees) (hSound : s.Sound) (hMove : s.Move m t) :
    t.Agrees := by
  obtain ⟨deliveries, hReceives, -⟩ := hMove.receives hSound
  have hLength := hReceives.length
  have hInRange := h.inRange
  refine ⟨by omega, fun hOne => ?_⟩
  have hOne' : s.devices.length = 1 := by omega
  have hAll : ∀ delivery ∈ deliveries, delivery.1 = 0 := fun delivery hDelivery =>
    Nat.lt_one_iff.mp (hOne' ▸ hReceives.inRange delivery hDelivery)
  rw [hReceives.written 0 hInRange, hReceives.acknowledged, sentTo_of_forall hAll, h.written hOne']

theorem Agrees.moves (h : s.Agrees) (hSound : s.Sound) (hMoves : s.Moves t) : t.Agrees :=
  hSound.keeps hMoves (fun _ _ _ _ hSound hMove h => h.move hSound hMove) h

end LockRelay.Radio
