import LockRelay.Session.State

/-! The calls that a session makes. A fault set for a call answers in place of the device. Only
connection checks can be held back; every other call answers at once. -/
namespace LockRelay.Radio

/-- Puts a call to a device and records it. -/
def attempt {α : Type} (s : Radio) (d : DeviceId) (kind : LinkCall) (call : Call)
    (act : Device → Except LinkError (α × Device)) : Radio × Except LinkError α :=
  let device := s.device d
  match device.faults kind with
  | some fault =>
      ((s.setDevice d (device.setFault kind fault.spend)).record (.call call false),
        .error fault.error)
  | none =>
      match act device with
      | .ok (value, device) => ((s.setDevice d device).record (.call call true), .ok value)
      | .error error => (s.record (.call call false), .error error)

def connectLink (s : Radio) (d : DeviceId) : Radio × Except LinkError Unit :=
  s.attempt d .connect (.connect d) fun device => .ok ((), device.connect)

def resolve (s : Radio) (d : DeviceId) (service : Uuid) :
    Radio × Except LinkError (Option Endpoints) :=
  s.attempt d .resolve (.resolve d service) fun device =>
    (device.resolve service).map (·, device)

def subscribe (s : Radio) (d : DeviceId) (inbound : Uuid) : Radio × Except LinkError Unit :=
  s.attempt d .subscribe (.subscribe d inbound) fun device =>
    (device.subscribe inbound).map ((), ·)

def write (s : Radio) (d : DeviceId) (outbound : Uuid) (data : Bytes) :
    Radio × Except LinkError Unit :=
  s.attempt d .write (.write d outbound data) fun device =>
    (device.write outbound data).map ((), ·)

def disconnectLink (s : Radio) (d : DeviceId) : Radio × Except LinkError Unit :=
  s.attempt d .disconnect (.disconnect d) fun device => .ok ((), device.disconnect)

def drops (s : Radio) (d : DeviceId) : Radio × Except LinkError Unit :=
  s.attempt d .drops (.drops d) fun device => .ok ((), device)

/-- The first device in range that the filter admits. -/
def firstAdmitted (s : Radio) (filter : DiscoveryFilter) : Option DeviceId :=
  s.devices.findIdx? fun device => filter.admits device.adverts

def discover (s : Radio) (filter : DiscoveryFilter) :
    Radio × Except LinkError (Option DeviceId) :=
  match s.discoverFault with
  | some fault =>
      ({ s with discoverFault := fault.spend }.record (.call (.discover filter) false),
        .error fault.error)
  | none =>
      ({ s with scans := s.scans + 1 }.record (.call (.discover filter) true),
        .ok (s.firstAdmitted filter))

/-- The answer to a connection check, which may be held back after it was read. -/
inductive Answer where
  | ready (answer : Except LinkError Bool)
  | held (answer : Bool)

def isConnected (s : Radio) (d : DeviceId) : Radio × Answer :=
  let device := s.device d
  match device.faults .isConnected with
  | some fault =>
      ((s.setDevice d (device.setFault .isConnected fault.spend)).record
        (.call (.isConnected d) false), .ready (.error fault.error))
  | none =>
      let s := s.record (.call (.isConnected d) true)
      if device.holds = 0 then (s, .ready (.ok device.connected))
      else (s.setDevice d { device with holds := device.holds - 1 }, .held device.connected)

end LockRelay.Radio
