import Mathlib
import LockRelay.Session.Background

/-! A session does not look at the numbers of connections: operating and then renaming them gives
what renaming and then operating gives. The same holds of what has been recorded so far, since no
operation reads the record. -/
namespace LockRelay

/-- Other numbers for connections, so many more of them given out, and something recorded before. -/
structure Renaming where
  number : ConnectionId → ConnectionId
  extra : Nat
  before : List Effect

def ConnectRequest.renumber (f : ConnectionId → ConnectionId) (request : ConnectRequest) :
    ConnectRequest :=
  { request with connection := f request.connection }

def Point.renumber (f : ConnectionId → ConnectionId) : Point → Point
  | .replacing request d => .replacing (request.renumber f) d
  | .binding request d => .binding (request.renumber f) d
  | point => point

def Suspended.renumber (f : ConnectionId → ConnectionId) (suspended : Suspended) : Suspended :=
  { suspended with point := suspended.point.renumber f }

def Task.renumber (f : ConnectionId → ConnectionId) : Task → Task
  | .notifications d connection queue => .notifications d (f connection) queue
  | .drops d pending check => .drops d pending check

def Effect.renumber (f : ConnectionId → ConnectionId) : Effect → Effect
  | .frame connection payload => .frame (f connection) payload
  | .dropReported connection => .dropReported (f connection)
  | effect => effect

def Session.renumber (f : ConnectionId → ConnectionId) (session : Session) : Session :=
  { session with
    onNotify := session.onNotify.map f
    onDisconnect := session.onDisconnect.map f }

namespace Radio

def Progress.renumber (f : ConnectionId → ConnectionId) : Progress → Progress
  | .done outcome => .done outcome
  | .waiting d answer point => .waiting d answer (point.renumber f)

def rename (r : Renaming) (s : Radio) : Radio :=
  { s with
    session := s.session.renumber r.number
    tasks := s.tasks.map fun (id, task) => (id, task.renumber r.number)
    operation := s.operation.map (Suspended.renumber r.number)
    connections := s.connections + r.extra
    trace := r.before ++ s.trace.map (Effect.renumber r.number) }

variable (r : Renaming) (s : Radio)

theorem record_rename (effect : Effect) :
    (s.rename r).record (effect.renumber r.number) = (s.record effect).rename r := by
  simp [record, rename]

theorem assign_rename (state : LinkState) :
    (s.rename r).assign state = (s.assign state).rename r :=
  record_rename r { s with session := { s.session with state } } (.assigned state)

theorem abort_rename (id : Option TaskId) :
    (s.rename r).abort id = (s.abort id).rename r := by
  cases id with
  | none => rfl
  | some id => simp [abort, forget, rename, List.filter_map, Function.comp_def]

theorem dropped_rename (seen : Option Nat) :
    (s.rename r).dropped seen = (s.dropped seen).rename r := by
  have hGeneration : (s.rename r).session.generation = s.session.generation := rfl
  have hState : (s.rename r).session.state = s.session.state := rfl
  have hHeld : (s.rename r).session.onDisconnect = s.session.onDisconnect.map r.number := rfl
  have hAssigned := assign_rename r
    { s with session := { s.session with onDisconnect := none } } .disconnected
  simp only [dropped, hGeneration, hState, hHeld]
  split_ifs
  · rfl
  · cases s.session.onDisconnect with
    | none => exact hAssigned
    | some connection =>
        refine Eq.trans ?_ (record_rename r _ (.dropReported connection))
        exact congrArg (record · _) hAssigned
  · rfl

/-! Calls. -/

theorem called_rename (call : Call) (succeeded : Bool) :
    (s.rename r).record (.call call succeeded) = (s.record (.call call succeeded)).rename r :=
  record_rename r s (.call call succeeded)

theorem served_rename (d : DeviceId) (device : Device) (call : Call) (succeeded : Bool) :
    ((s.rename r).setDevice d device).record (.call call succeeded) =
      ((s.setDevice d device).record (.call call succeeded)).rename r :=
  called_rename r (s.setDevice d device) call succeeded

theorem attempt_rename {α : Type} (d : DeviceId) (kind : LinkCall) (call : Call)
    (act : Device → Except LinkError (α × Device)) :
    (s.rename r).attempt d kind call act = Prod.map (rename r) id (s.attempt d kind call act) := by
  have hDevice : (s.rename r).device d = s.device d := rfl
  simp only [attempt, hDevice]
  cases (s.device d).faults kind with
  | some fault => simp only [Prod.map, served_rename, id]
  | none =>
      simp only
      rcases act (s.device d) with error | ⟨value, device⟩
      · simp only [Prod.map, called_rename, id]
      · simp only [Prod.map, served_rename, id]

theorem discover_rename (filter : DiscoveryFilter) :
    (s.rename r).discover filter = Prod.map (rename r) id (s.discover filter) := by
  have hFault : (s.rename r).discoverFault = s.discoverFault := rfl
  have hRecorded (scans : Nat) (fault : Option CallFault) (succeeded : Bool) :
      { s.rename r with scans, discoverFault := fault }.record (.call (.discover filter) succeeded) =
        ({ s with scans, discoverFault := fault }.record
          (.call (.discover filter) succeeded)).rename r :=
    record_rename r { s with scans, discoverFault := fault } (.call (.discover filter) succeeded)
  simp only [discover, hFault]
  rcases s.discoverFault with _ | fault
  · exact Prod.ext (hRecorded (s.scans + 1) none true) rfl
  · exact Prod.ext (hRecorded s.scans fault.spend false) rfl

theorem isConnected_rename (d : DeviceId) :
    (s.rename r).isConnected d = Prod.map (rename r) id (s.isConnected d) := by
  have hDevice : (s.rename r).device d = s.device d := rfl
  have hRecorded := record_rename r s (.call (.isConnected d) true)
  simp only [isConnected, hDevice]
  cases (s.device d).faults .isConnected with
  | some fault => simp only [Prod.map, served_rename, id]
  | none =>
      simp only
      split_ifs
      · exact Prod.ext hRecorded rfl
      · exact Prod.ext (congrArg (setDevice · d _) hRecorded) rfl

/-! Operations. -/

variable {r s}

theorem ask_rename (d : DeviceId) (point : Point)
    {next next' : Radio → Except LinkError Bool → Radio × Progress}
    (hNext : ∀ s answer, next' (s.rename r) answer =
      Prod.map (rename r) (Progress.renumber r.number) (next s answer)) :
    (s.rename r).ask d (point.renumber r.number) next' =
      Prod.map (rename r) (Progress.renumber r.number) (s.ask d point next) := by
  simp only [ask, isConnected_rename]
  rcases s.isConnected d with ⟨t, answer | answer⟩
  · exact hNext t answer
  · rfl

variable (r s)

theorem resolveEndpoints_rename (d : DeviceId) (filter : DiscoveryFilter) :
    (s.rename r).resolveEndpoints d filter =
      Prod.map (rename r) id (s.resolveEndpoints d filter) := by
  simp only [resolveEndpoints, resolve, subscribe, attempt_rename]
  rcases s.attempt d .resolve _ _ with ⟨t, error | none | endpoints⟩
  · rfl
  · rfl
  · simp only [Prod.map, id]
    rw [attempt_rename]
    rcases t.attempt d .subscribe _ _ with ⟨u, error | ⟨⟩⟩ <;> rfl

theorem bindLink_rename (d : DeviceId) (filter : DiscoveryFilter)
    (connected : Except LinkError Bool) :
    (s.rename r).bindLink d filter connected =
      Prod.map (rename r) id (s.bindLink d filter connected) := by
  unfold bindLink connectLink
  rcases connected with error | _ | _
  · rfl
  · simp only
    rw [attempt_rename]
    rcases s.attempt d .connect _ _ with ⟨t, error | ⟨⟩⟩
    · rfl
    · exact resolveEndpoints_rename r t d filter
  · exact resolveEndpoints_rename r s d filter

theorem rejectDevice_rename (d : DeviceId) (error : ConnectError) :
    (s.rename r).rejectDevice d error =
      Prod.map (rename r) (Progress.renumber r.number) (s.rejectDevice d error) := by
  simp only [rejectDevice, disconnectLink, attempt_rename]
  exact Prod.ext (assign_rename r _ _) rfl

theorem adopt_rename (request : ConnectRequest) (d : DeviceId) (endpoints : Endpoints) :
    (s.rename r).adopt (request.renumber r.number) d endpoints =
      (s.adopt request d endpoints).rename r := by
  simp [adopt, spawn, bound, assign, record, rename, Session.renumber, ConnectRequest.renumber,
    Task.renumber, Effect.renumber]

theorem bindFound_rename (request : ConnectRequest) (d : DeviceId)
    (connected : Except LinkError Bool) :
    (s.rename r).bindFound (request.renumber r.number) d connected =
      Prod.map (rename r) (Progress.renumber r.number) (s.bindFound request d connected) := by
  have hFilter : (request.renumber r.number).filter = request.filter := rfl
  simp only [bindFound, drops, hFilter, bindLink_rename]
  rcases s.bindLink d request.filter connected with ⟨t, error | none | endpoints⟩
  · exact rejectDevice_rename r t d _
  · exact rejectDevice_rename r t d _
  · simp only [Prod.map, id]
    rw [attempt_rename]
    rcases t.attempt d .drops _ _ with ⟨u, error | ⟨⟩⟩
    · exact rejectDevice_rename r u d _
    · exact Prod.ext (adopt_rename r u request d endpoints) rfl

theorem search_rename (request : ConnectRequest) :
    (s.rename r).search (request.renumber r.number) =
      Prod.map (rename r) (Progress.renumber r.number) (s.search request) := by
  have hFilter : (request.renumber r.number).filter = request.filter := rfl
  simp only [search, hFilter, assign_rename, discover_rename]
  rcases (s.assign .connecting).discover request.filter with ⟨t, error | none | d⟩
  · exact Prod.ext (assign_rename r t _) rfl
  · exact Prod.ext (assign_rename r t _) rfl
  · exact ask_rename d (.binding request d) fun u answer => bindFound_rename r u request d answer

theorem clear_rename : (s.rename r).clear = s.clear.rename r := by
  have hDropTask : (s.rename r).session.dropTask = s.session.dropTask := rfl
  have hNotifyTask : (s.rename r).session.notifyTask = s.session.notifyTask := rfl
  simp only [clear, hDropTask, hNotifyTask, abort_rename, abort_rename]
  generalize (s.abort s.session.dropTask).abort s.session.notifyTask = t
  simp [disarm, assign, record, rename, Session.renumber, Effect.renumber]

theorem takeDown_rename (d : DeviceId) (connected : Except LinkError Bool) :
    (s.rename r).takeDown d connected = Prod.map (rename r) id (s.takeDown d connected) := by
  unfold takeDown
  rcases connected with error | _ | _
  · rfl
  · rfl
  · exact attempt_rename r s d _ _ _

theorem replace_rename (request : ConnectRequest) (d : DeviceId)
    (connected : Except LinkError Bool) :
    (s.rename r).replace (request.renumber r.number) d connected =
      Prod.map (rename r) (Progress.renumber r.number) (s.replace request d connected) := by
  simp only [replace, takeDown_rename]
  rcases s.takeDown d connected with ⟨t, error | ⟨⟩⟩
  · rfl
  · exact search_rename r t request

/-- The connection asked for is renamed to the one that is asked for after renaming. -/
theorem connect_rename (serial : UInt64)
    (hNumber : r.number s.connections = s.connections + r.extra) :
    (s.rename r).connect serial =
      Prod.map (rename r) (Progress.renumber r.number) (s.connect serial) := by
  have hNumbered : { s.rename r with connections := (s.rename r).connections + 1 } =
      ({ s with connections := s.connections + 1 } : Radio).rename r := by
    simp [rename, Nat.add_right_comm]
  have hConnections : (s.rename r).connections = r.number s.connections := hNumber.symm
  unfold connect
  simp only [hNumbered]
  generalize { s with connections := s.connections + 1 } = t
  have hLink : (s.rename r).session.link = s.session.link := rfl
  cases DiscoveryFilter.forSerial serial with
  | error error => rfl
  | ok filter =>
      simp only [hLink, hConnections]
      cases s.session.link with
      | none => exact search_rename r t ⟨s.connections, filter, .idle⟩
      | some d =>
          simp only [clear_rename]
          let request : ConnectRequest := ⟨s.connections, filter, .disconnected⟩
          exact ask_rename d (.replacing request d) fun u answer => replace_rename r u request d answer

theorem writeOut_rename (data : Bytes) :
    (s.rename r).writeOut data =
      Prod.map (rename r) (Progress.renumber r.number) (s.writeOut data) := by
  have hLink : (s.rename r).session.link = s.session.link := rfl
  have hEndpoints : (s.rename r).session.endpoints = s.session.endpoints := rfl
  simp only [writeOut, write, hLink, hEndpoints]
  rcases s.session.link with _ | d
  · rfl
  rcases s.session.endpoints with _ | endpoints
  · rfl
  simp only
  rw [attempt_rename]
  rcases s.attempt d .write _ _ with ⟨t, error | ⟨⟩⟩ <;> rfl

theorem readopt_rename (d : DeviceId) (endpoints : Endpoints) :
    (s.rename r).readopt d endpoints = (s.readopt d endpoints).rename r := by
  have hNotifyTask : (s.rename r).session.notifyTask = s.session.notifyTask := rfl
  simp only [readopt, hNotifyTask, abort_rename]
  generalize s.abort s.session.notifyTask = t
  have hNotify : (t.rename r).session.onNotify = t.session.onNotify.map r.number := rfl
  simp only [hNotify]
  cases t.session.onNotify with
  | none => simp [bound, assign, record, rename, Session.renumber, Effect.renumber]
  | some connection =>
      simp [bound, assign, record, spawn, rename, Session.renumber, Task.renumber, Effect.renumber]

theorem rebind_rename (data : Bytes) (connected : Except LinkError Bool) :
    (s.rename r).rebind data connected =
      Prod.map (rename r) (Progress.renumber r.number) (s.rebind data connected) := by
  have hLink : (s.rename r).session.link = s.session.link := rfl
  have hFilter : (s.rename r).session.filter = s.session.filter := rfl
  simp only [rebind, disconnectLink, hLink, hFilter]
  rcases s.session.link with _ | d
  · rfl
  rcases s.session.filter with _ | filter
  · rfl
  simp only
  rw [bindLink_rename]
  rcases s.bindLink d filter connected with ⟨t, error | none | endpoints⟩
  · rfl
  · simp only [Prod.map, id]
    rw [attempt_rename]
    rfl
  · simp only [Prod.map, id]
    rw [readopt_rename]
    exact writeOut_rename r (t.readopt d endpoints) data

theorem sendChecked_rename (data : Bytes) (connected : Except LinkError Bool) :
    (s.rename r).sendChecked data connected =
      Prod.map (rename r) (Progress.renumber r.number) (s.sendChecked data connected) := by
  have hLink : (s.rename r).session.link = s.session.link := rfl
  have hFilter : (s.rename r).session.filter = s.session.filter := rfl
  simp only [sendChecked, hLink, hFilter]
  rcases connected with error | _ | _
  · rfl
  · rcases s.session.link with _ | d
    · rfl
    rcases s.session.filter with _ | filter
    · rfl
    simp only
    rw [dropped_rename]
    exact ask_rename d (.rebinding data) fun t answer => rebind_rename r t data answer
  · exact writeOut_rename r s data

theorem send_rename (data : Bytes) :
    (s.rename r).send data = Prod.map (rename r) (Progress.renumber r.number) (s.send data) := by
  have hLink : (s.rename r).session.link = s.session.link := rfl
  have hEndpoints : (s.rename r).session.endpoints = s.session.endpoints := rfl
  simp only [send, hLink, hEndpoints]
  rcases s.session.link with _ | d
  · rfl
  rcases s.session.endpoints with _ | endpoints
  · rfl
  exact ask_rename d (.sending data) fun t answer => sendChecked_rename r t data answer

theorem finishDisconnect_rename (d : DeviceId) (connected : Except LinkError Bool) :
    (s.rename r).finishDisconnect d connected =
      Prod.map (rename r) (Progress.renumber r.number) (s.finishDisconnect d connected) := by
  simp only [finishDisconnect, takeDown_rename]
  rfl

theorem disconnect_rename :
    (s.rename r).disconnect = Prod.map (rename r) (Progress.renumber r.number) s.disconnect := by
  have hLink : (s.rename r).session.link = s.session.link := rfl
  simp only [disconnect, hLink, clear_rename]
  rcases s.session.link with _ | d
  · rfl
  exact ask_rename d (.disconnecting d) fun t answer => finishDisconnect_rename r t d answer

theorem continueAt_rename (point : Point) (answer : Except LinkError Bool) :
    (s.rename r).continueAt (point.renumber r.number) answer =
      Prod.map (rename r) (Progress.renumber r.number) (s.continueAt point answer) := by
  cases point with
  | replacing request d => exact replace_rename r s request d answer
  | binding request d => exact bindFound_rename r s request d answer
  | sending data => exact sendChecked_rename r s data answer
  | rebinding data => exact rebind_rename r s data answer
  | disconnecting d => exact finishDisconnect_rename r s d answer

theorem note_rename (p : Radio × Progress) :
    note (Prod.map (rename r) (Progress.renumber r.number) p) =
      Prod.map (rename r) id (note p) := by
  obtain ⟨t, outcome | ⟨d, answer, point⟩⟩ := p
  · exact Prod.ext (record_rename r t (.returned outcome)) rfl
  · rfl

theorem start_rename (operation : Operation)
    (hNumber : ∀ serial, operation = .connect serial →
      r.number s.connections = s.connections + r.extra) :
    (s.rename r).start operation = Prod.map (rename r) id (s.start operation) := by
  have hBusy : (s.rename r).operation.isSome = s.operation.isSome := by simp [rename]
  simp only [start, hBusy]
  split_ifs
  · rfl
  rw [← note_rename]
  cases operation with
  | connect serial => exact congrArg note (connect_rename r s serial (hNumber serial rfl))
  | send data => exact congrArg note (send_rename r s data)
  | disconnect => exact congrArg note (disconnect_rename r s)

theorem resume_rename : (s.rename r).resume = Prod.map (rename r) id s.resume := by
  have hOperation : (s.rename r).operation = s.operation.map (Suspended.renumber r.number) := rfl
  simp only [resume, hOperation]
  rcases s.operation with _ | suspended
  · rfl
  refine Eq.trans ?_ (note_rename r _)
  exact congrArg note (continueAt_rename r { s with operation := none } suspended.point _)

variable {r s}

/-- A renaming changes only the record of a session when it keeps every number there is. -/
theorem rename_of_kept (hNotify : ∀ k, s.session.onNotify = some k → r.number k = k)
    (hDisconnect : ∀ k, s.session.onDisconnect = some k → r.number k = k)
    (hTasks : ∀ id d k queue, (id, Task.notifications d k queue) ∈ s.tasks → r.number k = k)
    (hOperation : s.operation.map (Suspended.renumber r.number) = s.operation) :
    s.rename r = { s with
      connections := s.connections + r.extra
      trace := r.before ++ s.trace.map (Effect.renumber r.number) } := by
  have hKept {held : Option ConnectionId} (h : ∀ k, held = some k → r.number k = k) :
      held.map r.number = held := by
    cases held with
    | none => rfl
    | some k => exact congrArg some (h k rfl)
  have hSession : s.session.renumber r.number = s.session := by
    simp only [Session.renumber, hKept hNotify, hKept hDisconnect]
  have hTasks : (s.tasks.map fun (id, task) => (id, task.renumber r.number)) = s.tasks := by
    refine (List.map_congr_left fun ⟨id, task⟩ hMember => ?_).trans (List.map_id s.tasks)
    cases task with
    | notifications d k queue => simp [Task.renumber, hTasks id d k queue hMember]
    | drops d pending check => rfl
  simp only [rename, hSession, hTasks, hOperation]

end Radio

end LockRelay
