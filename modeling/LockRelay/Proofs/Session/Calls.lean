import Mathlib
import LockRelay.Session.Background

/-! What a call changes. It goes to one device, is recorded, and leaves the session and its tasks
alone. Of a device, only a connection or a disconnection that succeeds changes whether it is
connected, and only a write that succeeds adds to what it has acknowledged. None changes what it
advertises. -/
namespace LockRelay

/-- A lock that a filter for its serial number admits, as it comes into range. -/
def Device.ofSerial (serial : UInt32) : Device := { adverts := [.ofLock serial 0] }

/-- The endpoints that a lock offers. -/
def Endpoints.ofLock : Endpoints := ⟨outboundCharacteristic, inboundCharacteristic⟩

/-- Whether a device is connected after a call, given whether it was before. -/
def Call.connectedAfter (call : Call) (succeeded before : Bool) : Bool :=
  match call, succeeded with
  | .connect _, true => true
  | .disconnect _, true => false
  | _, _ => before

/-- What a device has acknowledged after a call, given what it had before. -/
def Call.writtenAfter (call : Call) (succeeded : Bool) (before : List Bytes) : List Bytes :=
  match call, succeeded with
  | .write _ _ data, true => before ++ [data]
  | _, _ => before

/-- How a device can change by a call. -/
structure Device.Served (before after : Device) (call : Call) (succeeded : Bool) : Prop where
  connected : after.connected = call.connectedAfter succeeded before.connected
  written : after.written = call.writtenAfter succeeded before.written
  holds : after.holds ≤ before.holds
  adverts : after.adverts = before.adverts

namespace Radio

@[simp] theorem device_record (s : Radio) (e : Effect) (d : DeviceId) :
    (s.record e).device d = s.device d := rfl

theorem device_setDevice (s : Radio) (d i : DeviceId) (device : Device) :
    (s.setDevice d device).device i =
      if i = d ∧ d < s.devices.length then device else s.device i := by
  unfold setDevice Radio.device
  rw [List.getD_eq_getElem?_getD, List.getD_eq_getElem?_getD, List.getElem?_set]
  by_cases hi : d = i
  · subst hi
    by_cases hd : d < s.devices.length
    · simp [hd]
    · simp [hd]
  · simp [hi, Ne.symm hi]

@[simp] theorem setDevice_self (s : Radio) (d : DeviceId) : s.setDevice d (s.device d) = s := by
  unfold setDevice Radio.device
  have hSet : s.devices.set d (s.devices.getD d {}) = s.devices := by
    apply List.ext_getElem?
    intro i
    rw [List.getElem?_set]
    by_cases hi : d = i
    · subst hi
      by_cases hd : d < s.devices.length
      · simp [hd]
      · simp [hd]
    · simp [hi]
  rw [hSet]

@[simp] theorem length_setDevice (s : Radio) (d : DeviceId) (device : Device) :
    (s.setDevice d device).devices.length = s.devices.length := by
  simp [setDevice]

/-- A call changes one device and is recorded. What the device makes of it matters only when no
fault answers in its place. -/
theorem attempt_served {α : Type} (s : Radio) (d : DeviceId) (kind : LinkCall) (call : Call)
    (act : Device → Except LinkError (α × Device))
    (hAct : ∀ value device, act (s.device d) = .ok (value, device) →
      (s.device d).Served device call true) :
    ∃ device, (s.device d).Served device call (s.attempt d kind call act).2.toBool ∧
      (s.attempt d kind call act).1 =
        (s.setDevice d device).record (.call call (s.attempt d kind call act).2.toBool) := by
  have hFailed (device : Device) (hConnected : device.connected = (s.device d).connected)
      (hWritten : device.written = (s.device d).written)
      (hHolds : device.holds = (s.device d).holds)
      (hAdverts : device.adverts = (s.device d).adverts) :
      (s.device d).Served device call false := by
    cases call <;> exact ⟨hConnected, hWritten, Nat.le_of_eq hHolds, hAdverts⟩
  unfold attempt
  cases hFault : (s.device d).faults kind with
  | some fault =>
      simp only [hFault]
      exact ⟨(s.device d).setFault kind fault.spend, hFailed _ rfl rfl rfl rfl, rfl⟩
  | none =>
      simp only [hFault]
      cases hResult : act (s.device d) with
      | error error => exact ⟨s.device d, hFailed _ rfl rfl rfl rfl, by simp [Except.toBool]⟩
      | ok answer => exact ⟨answer.2, hAct _ _ hResult, rfl⟩

/-- A call that neither connects nor disconnects leaves every device connected or not as it was. -/
theorem connected_setDevice {s : Radio} {d : DeviceId} {device : Device} {call : Call}
    {succeeded : Bool} (hServed : (s.device d).Served device call succeeded)
    (hCall : call.connectedAfter succeeded (s.device d).connected = (s.device d).connected)
    (i : DeviceId) : ((s.setDevice d device).device i).connected = (s.device i).connected := by
  rw [device_setDevice]
  split_ifs with hi
  · rw [hServed.connected, hCall, hi.1]
  · rfl

theorem connected_of_served {s t : Radio} {d : DeviceId} {device : Device} {call : Call}
    {succeeded : Bool} (hServed : (s.device d).Served device call succeeded)
    (hState : t = (s.setDevice d device).record (.call call succeeded))
    (hCall : call.connectedAfter succeeded (s.device d).connected = (s.device d).connected)
    (i : DeviceId) : (t.device i).connected = (s.device i).connected := by
  rw [hState, device_record]
  exact connected_setDevice hServed hCall i

private theorem ok_of_map_eq_ok {ε α β : Type} {f : α → β} {x : Except ε α} {b : β}
    (h : x.map f = .ok b) : ∃ a, x = .ok a ∧ f a = b := by
  cases x with
  | error error => cases h
  | ok a => exact ⟨a, rfl, Except.ok.inj h⟩

theorem connectLink_served (s : Radio) (d : DeviceId) :
    ∃ device, (s.device d).Served device (.connect d) (s.connectLink d).2.toBool ∧
      (s.connectLink d).1 =
        (s.setDevice d device).record (.call (.connect d) (s.connectLink d).2.toBool) := by
  apply attempt_served
  rintro value device ⟨⟩
  exact ⟨rfl, rfl, Nat.le_refl _, rfl⟩

theorem disconnectLink_served (s : Radio) (d : DeviceId) :
    ∃ device, (s.device d).Served device (.disconnect d) (s.disconnectLink d).2.toBool ∧
      (s.disconnectLink d).1 =
        (s.setDevice d device).record (.call (.disconnect d) (s.disconnectLink d).2.toBool) := by
  apply attempt_served
  rintro value device ⟨⟩
  exact ⟨rfl, rfl, Nat.le_refl _, rfl⟩

theorem drops_served (s : Radio) (d : DeviceId) :
    ∃ device, (s.device d).Served device (.drops d) (s.drops d).2.toBool ∧
      (s.drops d).1 = (s.setDevice d device).record (.call (.drops d) (s.drops d).2.toBool) := by
  apply attempt_served
  rintro value device ⟨⟩
  exact ⟨rfl, rfl, Nat.le_refl _, rfl⟩

theorem resolve_served (s : Radio) (d : DeviceId) (service : Uuid) :
    ∃ device, (s.device d).Served device (.resolve d service) (s.resolve d service).2.toBool ∧
      (s.resolve d service).1 = (s.setDevice d device).record
        (.call (.resolve d service) (s.resolve d service).2.toBool) := by
  apply attempt_served
  intro value device hAct
  obtain ⟨answer, -, ⟨⟩⟩ := ok_of_map_eq_ok hAct
  exact ⟨rfl, rfl, Nat.le_refl _, rfl⟩

theorem subscribe_served (s : Radio) (d : DeviceId) (inbound : Uuid) :
    ∃ device, (s.device d).Served device (.subscribe d inbound) (s.subscribe d inbound).2.toBool ∧
      (s.subscribe d inbound).1 = (s.setDevice d device).record
        (.call (.subscribe d inbound) (s.subscribe d inbound).2.toBool) := by
  apply attempt_served
  intro value device hAct
  obtain ⟨subscribed, hSubscribed, ⟨⟩⟩ := ok_of_map_eq_ok hAct
  unfold Device.subscribe at hSubscribed
  split at hSubscribed <;> cases hSubscribed
  exact ⟨rfl, rfl, Nat.le_refl _, rfl⟩

theorem write_served (s : Radio) (d : DeviceId) (outbound : Uuid) (data : Bytes) :
    ∃ device, (s.device d).Served device (.write d outbound data)
        (s.write d outbound data).2.toBool ∧
      (s.write d outbound data).1 = (s.setDevice d device).record
        (.call (.write d outbound data) (s.write d outbound data).2.toBool) := by
  apply attempt_served
  intro value device hAct
  obtain ⟨acknowledged, hAcknowledged, ⟨⟩⟩ := ok_of_map_eq_ok hAct
  unfold Device.write at hAcknowledged
  split at hAcknowledged
  · cases hAcknowledged
  split at hAcknowledged <;> cases hAcknowledged
  exact ⟨rfl, rfl, Nat.le_refl _, rfl⟩

/-- A write goes through only while the device is connected. -/
theorem connected_of_write_ok {s : Radio} {d : DeviceId} {outbound : Uuid} {data : Bytes}
    (h : (s.write d outbound data).2 = .ok ()) : (s.device d).connected = true := by
  unfold write attempt at h
  cases hFault : (s.device d).faults .write with
  | some fault => simp [hFault] at h
  | none =>
      cases hConnected : (s.device d).connected with
      | true => rfl
      | false => simp [hFault, Device.write, hConnected, Except.map] at h

/-- Endpoints are looked up only while the device is connected. -/
theorem connected_of_resolve_ok (s : Radio) (d : DeviceId) (service : Uuid)
    {endpoints : Option Endpoints} (h : (s.resolve d service).2 = .ok endpoints) :
    (s.device d).connected = true := by
  unfold resolve attempt at h
  cases hFault : (s.device d).faults .resolve with
  | some fault => simp [hFault] at h
  | none =>
      cases hConnected : (s.device d).connected with
      | true => rfl
      | false => simp [hFault, Device.resolve, hConnected, Except.map] at h

/-- Endpoints that are found are those of a lock. -/
theorem endpoints_of_resolve_ok (s : Radio) (d : DeviceId) (service : Uuid) {endpoints : Endpoints}
    (h : (s.resolve d service).2 = .ok (some endpoints)) : endpoints = .ofLock := by
  unfold resolve attempt at h
  cases hFault : (s.device d).faults .resolve with
  | some fault => simp [hFault] at h
  | none =>
      simp only [hFault] at h
      unfold Device.resolve at h
      split_ifs at h <;> cases h
      rfl

/-- The answer that a check is going to give was read from the device, if no fault gives it. -/
def Answer.FitsTo (answer : Answer) (connected : Bool) : Prop :=
  match answer with
  | .ready (.ok read) | .held read => read = connected
  | .ready (.error _) => True

def Answer.succeeded : Answer → Bool
  | .ready answer => answer.toBool
  | .held _ => true

theorem isConnected_served (s : Radio) (d : DeviceId) :
    (s.isConnected d).2.FitsTo (s.device d).connected ∧
      ∃ device, (s.device d).Served device (.isConnected d) (s.isConnected d).2.succeeded ∧
        (s.isConnected d).1 = (s.setDevice d device).record
          (.call (.isConnected d) (s.isConnected d).2.succeeded) := by
  unfold isConnected
  cases hFault : (s.device d).faults .isConnected with
  | some fault =>
      simp only [hFault]
      refine ⟨trivial, (s.device d).setFault .isConnected fault.spend, ?_, rfl⟩
      exact ⟨rfl, rfl, Nat.le_refl _, rfl⟩
  | none =>
      simp only [hFault]
      by_cases hHolds : (s.device d).holds = 0
      · rw [if_pos hHolds]
        refine ⟨rfl, s.device d, ⟨rfl, rfl, Nat.le_refl _, rfl⟩, ?_⟩
        simp [Answer.succeeded, Except.toBool]
      · rw [if_neg hHolds]
        refine ⟨rfl, { s.device d with holds := (s.device d).holds - 1 }, ?_, rfl⟩
        exact ⟨rfl, rfl, Nat.sub_le _ _, rfl⟩

end Radio

end LockRelay
