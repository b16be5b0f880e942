import LockRelay.Proofs.Session.Calls

/-! The moves of a session and its tasks: every event is a chain of them. A move carries what the
code has established when it makes it, so that an invariant needs one argument for each move
instead of one for each path through the operations. -/
namespace LockRelay

/-- The device that a call goes to. -/
def Call.device? : Call → Option DeviceId
  | .discover _ => none
  | .connect d | .isConnected d | .resolve d _ | .subscribe d _ | .write d _ _ | .disconnect d
  | .drops d => some d

/-- The payload that a lock acknowledged by an effect. -/
def Effect.acknowledged? : Effect → Option Bytes
  | .call (.write _ _ data) true => some data
  | _ => none

/-- The state that an effect assigns. -/
def Effect.assigned? : Effect → Option LinkState
  | .assigned state => some state
  | _ => none

theorem Call.writtenAfter_eq (call : Call) (succeeded : Bool) (before : List Bytes) :
    call.writtenAfter succeeded before =
      before ++ (Effect.call call succeeded).acknowledged?.toList := by
  cases call <;> cases succeeded <;> simp [Call.writtenAfter, Effect.acknowledged?]

/-- Who makes a move: an operation of the session, a background task, or a device. The scheduler
gives turns. -/
inductive Mover where
  | connecting (connection : ConnectionId)
  /-- A request for a connection that touches nothing. -/
  | refusing
  | sending
  | disconnecting
  | task (id : TaskId)
  | device (event : Radio.DeviceEvent)
  | scheduler

namespace Mover

/-- Whether an operation of the kind may end the connection that there is. -/
def tearsDown : Mover → Bool
  | .connecting _ | .disconnecting => true
  | _ => false

/-- Whether an operation of the session moves. -/
def operates : Mover → Bool
  | .connecting _ | .refusing | .sending | .disconnecting => true
  | .task _ | .device _ | .scheduler => false

/-- Operations are no device's work. -/
theorem ne_device_of_operates {m : Mover} (h : m.operates = true)
    (event : Radio.DeviceEvent) : m ≠ .device event := by
  rintro rfl
  cases h

/-- Who can find out that the link was dropped. -/
def observes : Mover → Bool
  | .sending | .task _ => true
  | _ => false

/-- Whether an outcome is one that the operation can have. -/
def Ends : Mover → Outcome → Prop
  | .connecting _, .connect _ | .refusing, .connect (.error _) => True
  | .sending, .send _ | .disconnecting, .disconnect _ => True
  | _, _ => False

end Mover

/-- The operation that waits at a point. -/
def Point.mover : Point → Mover
  | .replacing request _ | .binding request _ => .connecting request.connection
  | .sending _ | .rebinding _ => .sending
  | .disconnecting _ => .disconnecting

theorem Point.mover_operates (point : Point) : point.mover.operates = true := by
  cases point <;> rfl

namespace Radio

/-- All payloads that were acknowledged, oldest first. -/
def acknowledged (s : Radio) : List Bytes := s.trace.filterMap Effect.acknowledged?

@[simp] theorem acknowledged_record (s : Radio) (e : Effect) :
    (s.record e).acknowledged = s.acknowledged ++ e.acknowledged?.toList := by
  unfold acknowledged record
  cases h : e.acknowledged? <;> simp [h]

/-- All states that were assigned, oldest first. -/
def assignments (s : Radio) : List LinkState := s.trace.filterMap Effect.assigned?

@[simp] theorem assignments_record (s : Radio) (e : Effect) :
    (s.record e).assignments = s.assignments ++ e.assigned?.toList := by
  unfold assignments record
  cases h : e.assigned? <;> simp [h]

@[simp] theorem operation_abort (s : Radio) (id : Option TaskId) :
    (s.abort id).operation = s.operation := by
  cases id <;> rfl

@[simp] theorem trace_abort (s : Radio) (id : Option TaskId) : (s.abort id).trace = s.trace := by
  cases id <;> rfl

theorem link_clear (s : Radio) : s.clear.session.link = none := rfl

@[simp] theorem operation_clear (s : Radio) : s.clear.operation = s.operation := by
  have h := operation_abort (s.abort s.session.dropTask) s.session.notifyTask
  exact h.trans (operation_abort s s.session.dropTask)

@[simp] theorem devices_abort (s : Radio) (id : Option TaskId) :
    (s.abort id).devices = s.devices := by
  cases id <;> rfl

theorem devices_clear (s : Radio) : s.clear.devices = s.devices := by
  have h := devices_abort (s.abort s.session.dropTask) s.session.notifyTask
  exact h.trans (devices_abort s s.session.dropTask)

@[simp] theorem connections_abort (s : Radio) (id : Option TaskId) :
    (s.abort id).connections = s.connections := by
  cases id <;> rfl

@[simp] theorem connections_clear (s : Radio) : s.clear.connections = s.connections := by
  have h := connections_abort (s.abort s.session.dropTask) s.session.notifyTask
  exact h.trans (connections_abort s s.session.dropTask)

theorem trace_clear (s : Radio) : s.clear.trace = s.trace ++ [.assigned .disconnected] := by
  have h := trace_abort (s.abort s.session.dropTask) s.session.notifyTask
  exact congrArg (· ++ _) (h.trans (trace_abort s s.session.dropTask))

/-- A demotion takes effect on a bound link, unless it comes from a stale check. -/
theorem dropped_cases (s : Radio) (seen : Option Nat) :
    (s.dropped seen = s ∧ ¬(seen.all (· == s.session.generation) ∧ s.session.state = .bound)) ∨
    (seen.all (· == s.session.generation) ∧ s.session.state = .bound ∧
      s.dropped seen = { s with
        session := { s.session with state := .disconnected, onDisconnect := none }
        trace := s.trace ++
          .assigned .disconnected :: (s.session.onDisconnect.map Effect.dropReported).toList }) := by
  have hSeen : seen.any (· != s.session.generation) = !seen.all (· == s.session.generation) := by
    cases seen <;> rfl
  unfold dropped
  rw [hSeen]
  cases hAll : seen.all (· == s.session.generation) with
  | false => exact Or.inl ⟨rfl, by simp⟩
  | true =>
      simp only [Bool.not_true, Bool.false_eq_true, if_false]
      by_cases hState : s.session.state = .bound
      · rw [if_pos hState]
        refine Or.inr ⟨trivial, hState, ?_⟩
        cases s.session.onDisconnect <;> simp [assign, record]
      · rw [if_neg hState]
        exact Or.inl ⟨rfl, fun h => hState h.2⟩

/-- What a demotion leaves as it was. -/
theorem dropped_frame (s : Radio) (seen : Option Nat) :
    (s.dropped seen).devices = s.devices ∧ (s.dropped seen).tasks = s.tasks ∧
      (s.dropped seen).operation = s.operation ∧
      (s.dropped seen).connections = s.connections ∧
      (s.dropped seen).session.link = s.session.link ∧
      (s.dropped seen).acknowledged = s.acknowledged := by
  rcases dropped_cases s seen with ⟨hSame, -⟩ | ⟨-, -, hChanged⟩
  · rw [hSame]
    exact ⟨rfl, rfl, rfl, rfl, rfl, rfl⟩
  · rw [hChanged]
    refine ⟨rfl, rfl, rfl, rfl, rfl, ?_⟩
    unfold acknowledged
    cases s.session.onDisconnect <;> simp [Effect.acknowledged?]

@[simp] theorem generation_dropped (s : Radio) (seen : Option Nat) :
    (s.dropped seen).session.generation = s.session.generation := by
  rcases dropped_cases s seen with ⟨hSame, -⟩ | ⟨-, -, hChanged⟩
  · rw [hSame]
  · rw [hChanged]

/-- A demotion leaves a link bound only if it comes from a stale check. -/
theorem stale_of_dropped_bound {s : Radio} {seen : Option Nat}
    (hBound : (s.dropped seen).session.state = .bound) :
    ¬seen.all (· == (s.dropped seen).session.generation) := by
  rcases dropped_cases s seen with ⟨hSame, hState⟩ | ⟨-, -, hChanged⟩
  · rw [hSame] at hBound ⊢
    exact fun hFresh => hState ⟨hFresh, hBound⟩
  · rw [hChanged] at hBound
    cases hBound

/-- A demotion that no check stands behind leaves no link bound. -/
theorem state_dropped_none (s : Radio) : (s.dropped none).session.state ≠ .bound :=
  fun hBound => stale_of_dropped_bound hBound rfl

theorem readopt_frame (s : Radio) (d : DeviceId) (endpoints : Endpoints) :
    (s.readopt d endpoints).devices = s.devices ∧
      (s.readopt d endpoints).operation = s.operation ∧
      (s.readopt d endpoints).connections = s.connections ∧
      (s.readopt d endpoints).trace = s.trace ++ [.assigned .bound] ∧
      (s.readopt d endpoints).session.link = s.session.link ∧
      (s.readopt d endpoints).session.state = .bound := by
  have hLink : (s.abort s.session.notifyTask).session.link = s.session.link := by
    cases s.session.notifyTask <;> rfl
  unfold readopt
  simp only
  cases (s.abort s.session.notifyTask).session.onNotify <;>
    simp [bound, assign, record, spawn, hLink]

/-- A link that is bound again reports to the same connection. -/
theorem readopt_callbacks (s : Radio) (d : DeviceId) (endpoints : Endpoints) :
    (s.readopt d endpoints).session.onNotify = s.session.onNotify ∧
      (s.readopt d endpoints).session.onDisconnect = s.session.onDisconnect := by
  have hSession : (s.abort s.session.notifyTask).session = s.session := by
    cases s.session.notifyTask <;> rfl
  unfold readopt
  simp only [hSession]
  cases s.session.onNotify <;> simp [bound, assign, record, spawn]

/-- Whether a request was the last to be given a number. -/
def Newest (s : Radio) (request : ConnectRequest) : Prop :=
  request.connection + 1 = s.connections

/-- What holds where an operation waits for an answer that was read already. -/
def WaitsAt (s : Radio) (answer : Bool) : Point → Prop
  | .replacing request _ => s.session.link = none ∧ request.fallback ≠ .bound ∧ s.Newest request
  | .disconnecting _ => s.session.link = none
  | .binding request d => s.session.link = none ∧ d < s.devices.length ∧ s.Newest request
  | .sending _ =>
      ∃ d, s.session.link = some d ∧ (answer = false → (s.device d).connected = false)
  | .rebinding _ => (∃ d, s.session.link = some d) ∧ s.session.state ≠ .bound

/-- Only operations connect, disconnect and write, and while a link is held only on that link. A
link that is bound is neither connected nor disconnected. -/
def MayCall (s : Radio) : Call → Prop
  | .connect d | .disconnect d => s.operation = none ∧
      (s.session.link = none ∨ s.session.link = some d ∧ s.session.state ≠ .bound)
  | .write d _ _ => s.operation = none ∧ s.session.link = some d
  | _ => True

/-- The endpoints of the device have just been resolved and subscribed to. -/
def JustSubscribed (s : Radio) (d : DeviceId) : Prop :=
  ∃ before service inbound after, (∀ e ∈ after, e = Effect.call (.drops d) true) ∧
    s.trace = before ++ .call (.resolve d service) true :: .call (.subscribe d inbound) true :: after

/-- A drop of the device was reported to a watcher that is not done with it. -/
def Alarmed (s : Radio) (d : DeviceId) : Prop :=
  ∃ id pending check, (id, Task.drops d pending check) ∈ s.tasks ∧ (pending ≠ 0 ∨ check ≠ none)

/-- The device looks dropped: it is not connected, or a watcher's check of it has just failed. -/
def LooksDropped (s : Radio) (d : DeviceId) : Prop :=
  (s.device d).connected = false ∨
    s.Alarmed d ∧ ∃ before, s.trace = before ++ [.call (.isConnected d) false]

/-- A watcher with such a queue and check finds out that its link is down, unless it is bound again
before. -/
def Notices (s : Radio) (pending : Nat) (check : Option Check) : Prop :=
  pending ≠ 0 ∨ ∃ c, check = some c ∧ c.answer = false ∧ c.generation = s.session.generation

/-- The connection asked for last has just been made to a device. -/
structure Opened (s : Radio) (d : DeviceId) (k : ConnectionId) : Prop where
  link : s.session.link = some d
  connected : (s.device d).connected = true
  state : s.session.state = .bound
  onNotify : s.session.onNotify = some k
  onDisconnect : s.session.onDisconnect = some k
  newest : k + 1 = s.connections
  notifies : ∃ id, s.session.notifyTask = some id ∧ (id, Task.notifications d k []) ∈ s.tasks
  watches : ∃ id, (id, Task.drops d 0 none) ∈ s.tasks

/-- What an outcome tells about the state in which it is returned. -/
def Justifies (s : Radio) : Outcome → Prop
  | .connect (.ok ()) => ∃ d k, s.Opened d k
  | .send (.ok ()) => ∃ d, s.session.link = some d ∧ (s.device d).connected = true
  | _ => True

theorem Justifies.recorded {s : Radio} {outcome : Outcome} (h : s.Justifies outcome)
    (e : Effect) : (s.record e).Justifies outcome := by
  rcases outcome with (error | ⟨⟩) | (error | ⟨⟩) | result
  · trivial
  · obtain ⟨d, k, hOpened⟩ := h
    exact ⟨d, k, hOpened.link, hOpened.connected, hOpened.state, hOpened.onNotify,
      hOpened.onDisconnect, hOpened.newest, hOpened.notifies, hOpened.watches⟩
  · trivial
  · exact h
  · trivial

inductive Move : Radio → Mover → Radio → Prop where
  | called (s : Radio) {m : Mover} (d : DeviceId) (device : Device) (call : Call)
      (succeeded : Bool) (hDevice : call.device? = some d) (hMay : s.MayCall call)
      (hServed : (s.device d).Served device call succeeded) :
      Move s m ((s.setDevice d device).record (.call call succeeded))
  | discovered (s : Radio) {k : ConnectionId} (scans : Nat) (fault : Option CallFault)
      (filter : DiscoveryFilter) (succeeded : Bool) (hLink : s.session.link = none) :
      Move s (.connecting k)
        ({ s with scans, discoverFault := fault }.record (.call (.discover filter) succeeded))
  | assigned (s : Radio) {k : ConnectionId} (state : LinkState) (hIdle : s.operation = none)
      (hLink : s.session.link = none) (hState : state ≠ .bound) :
      Move s (.connecting k) (s.assign state)
  | cleared (s : Radio) {m : Mover} (hIdle : s.operation = none) (hMover : m.tearsDown = true) :
      Move s m s.clear
  | adopted (s : Radio) (request : ConnectRequest) (d : DeviceId) (endpoints : Endpoints)
      (hIdle : s.operation = none) (hLink : s.session.link = none) (hRange : d < s.devices.length)
      (hNewest : s.Newest request) (hSubscribed : s.JustSubscribed d)
      (hConnected : (s.device d).connected = true) (hEndpoints : endpoints = .ofLock) :
      Move s (.connecting request.connection) (s.adopt request d endpoints)
  | readopted (s : Radio) (d : DeviceId) (endpoints : Endpoints) (hIdle : s.operation = none)
      (hLink : s.session.link = some d) (hState : s.session.state ≠ .bound)
      (hSubscribed : s.JustSubscribed d) (hConnected : (s.device d).connected = true)
      (hEndpoints : endpoints = .ofLock) :
      Move s .sending (s.readopt d endpoints)
  | demoted (s : Radio) {m : Mover} (seen : Option Nat)
      (hDropped : seen.all (· == s.session.generation) → s.session.state = .bound →
        ∃ d, s.session.link = some d ∧ s.LooksDropped d) (hMover : m.observes = true) :
      Move s m (s.dropped seen)
  | suspended (s : Radio) {m : Mover} (d : DeviceId) (answer : Bool) (point : Point)
      (hIdle : s.operation = none) (hWaits : s.WaitsAt answer point) (hMover : point.mover = m) :
      Move s m { s with
        operation := some ⟨answer, point⟩
        waiting := s.waiting ++ [(d, .caller)] }
  | resumed (s : Radio) : Move s .scheduler { s with operation := none }
  | returned (s : Radio) {m : Mover} (outcome : Outcome) (hIdle : s.operation = none)
      (hJustified : s.Justifies outcome) : Move s m (s.record (.returned outcome))
  | abandoned (s : Radio) : Move s .scheduler s.abandon
  | numbered (s : Radio) {m : Mover} (hIdle : s.operation = none) :
      Move s m { s with connections := s.connections + 1 }
  | delivered (s : Radio) (id : TaskId) (d : DeviceId) (connection : ConnectionId)
      (queue : List Bytes) (hTask : s.task? id = some (.notifications d connection queue)) :
      Move s (.task id) (queue.foldl (fun s payload => s.record (.frame connection payload))
        (s.setTask id (.notifications d connection [])))
  | watched (s : Radio) (id : TaskId) (d : DeviceId) (pending : Nat) (check : Option Check)
      (hTask : s.task? id = some (.drops d pending check))
      (hSeen : s.session.state = .bound → (s.device d).connected = false →
        ¬s.Notices pending check) :
      Move s (.task id) (s.setTask id (.drops d 0 none))
  | watcherHeld (s : Radio) (id : TaskId) (d : DeviceId) (pending left : Nat)
      (check : Option Check) (hTask : s.task? id = some (.drops d pending check))
      (hAlarmed : pending ≠ 0 ∨ check ≠ none) :
      Move s (.task id) { s.setTask id
          (.drops d left (some ⟨s.session.generation, (s.device d).connected⟩)) with
        waiting := s.waiting ++ [(d, .task id)] }
  | polled (s : Radio) (p : Participant) (rest : List Participant) (hReady : s.ready = p :: rest) :
      Move s .scheduler { s with ready := rest }
  | woken (s : Radio) (p : Participant) : Move s .scheduler (s.wake p)
  | reacted (s : Radio) (event : DeviceEvent) : Move s (.device event) (s.react event)

/-- A chain of moves by some movers. -/
abbrev MovesBy (who : Mover → Prop) : Radio → Radio → Prop :=
  Relation.ReflTransGen fun s t => ∃ m, who m ∧ s.Move m t

/-- A chain of moves by anyone. -/
abbrev Moves : Radio → Radio → Prop := MovesBy fun _ => True

theorem Move.by {m : Mover} {who : Mover → Prop} {s t : Radio} (h : s.Move m t) (hWho : who m) :
    s.MovesBy who t :=
  .single ⟨m, hWho, h⟩

theorem MovesBy.mono {who who' : Mover → Prop} {s t : Radio} (hWho : ∀ m, who m → who' m)
    (h : s.MovesBy who t) : s.MovesBy who' t :=
  Relation.ReflTransGen.mono (fun _ _ ⟨m, hMover, hMove⟩ => ⟨m, hWho m hMover, hMove⟩) _ _ h

theorem MovesBy.among {m : Mover} {who : Mover → Prop} {s t : Radio} (h : s.MovesBy (· = m) t)
    (hWho : who m) : s.MovesBy who t :=
  h.mono fun m' (hSame : m' = m) => hSame ▸ hWho

theorem MovesBy.moves {who : Mover → Prop} {s t : Radio} (h : s.MovesBy who t) : s.Moves t :=
  h.mono fun _ _ => trivial

/-- What every move of some movers keeps holds after a chain of them. -/
theorem MovesBy.keeps {who : Mover → Prop} {s t : Radio} {P : Radio → Prop}
    (hMove : ∀ m s t, who m → s.Move m t → P s → P t) (hMoves : s.MovesBy who t) (h : P s) :
    P t := by
  induction hMoves with
  | refl => exact h
  | tail _ hLast ih =>
      obtain ⟨m, hWho, hLast⟩ := hLast
      exact hMove m _ _ hWho hLast ih

/-- A chain of moves that writes to no lock and keeps what the caller waits for. -/
structure Advances (who : Mover → Prop) (s t : Radio) : Prop where
  moves : s.MovesBy who t
  operation : t.operation = s.operation
  acknowledged : t.acknowledged = s.acknowledged
  length : t.devices.length = s.devices.length
  connections : t.connections = s.connections

variable {who : Mover → Prop} {m : Mover}

theorem Advances.refl (s : Radio) : s.Advances who s := ⟨.refl, rfl, rfl, rfl, rfl⟩

theorem Advances.trans {s t u : Radio} (h : s.Advances who t) (h' : t.Advances who u) :
    s.Advances who u :=
  ⟨h.moves.trans h'.moves, h'.operation.trans h.operation, h'.acknowledged.trans h.acknowledged,
    h'.length.trans h.length, h'.connections.trans h.connections⟩

theorem Advances.anyone {s t : Radio} (h : s.Advances who t) : s.Advances (fun _ => True) t :=
  ⟨h.moves.moves, h.operation, h.acknowledged, h.length, h.connections⟩

/-- A move that leaves the record as it was. -/
theorem Advances.silent {s t : Radio} (hMove : s.Move m t) (hOperation : t.operation = s.operation)
    (hTrace : t.trace = s.trace) (hLength : t.devices.length = s.devices.length)
    (hConnections : t.connections = s.connections) : s.Advances (· = m) t :=
  ⟨hMove.by rfl, hOperation, congrArg (List.filterMap Effect.acknowledged?) hTrace, hLength,
    hConnections⟩

theorem Advances.assigned {s : Radio} {k : ConnectionId} (state : LinkState)
    (hIdle : s.operation = none) (hLink : s.session.link = none) (hState : state ≠ .bound) :
    s.Advances (· = .connecting k) (s.assign state) := by
  refine ⟨(Move.assigned s state hIdle hLink hState).by rfl, rfl, ?_, rfl, rfl⟩
  exact (acknowledged_record _ _).trans (List.append_nil _)

/-- A chain of calls other than writes. It leaves all but the devices and the record as it was. -/
structure Called (m : Mover) (s t : Radio) : Prop extends Advances (· = m) s t where
  session : t.session = s.session
  tasks : t.tasks = s.tasks
  assignments : t.assignments = s.assignments

theorem Called.refl (s : Radio) : s.Called m s := ⟨.refl s, rfl, rfl, rfl⟩

theorem Called.trans {s t u : Radio} (h : s.Called m t) (h' : t.Called m u) : s.Called m u :=
  ⟨h.toAdvances.trans h'.toAdvances, h'.session.trans h.session, h'.tasks.trans h.tasks,
    h'.assignments.trans h.assignments⟩

theorem Called.of_served {s t : Radio} {d : DeviceId} {device : Device} {call : Call}
    {succeeded : Bool} (hServed : (s.device d).Served device call succeeded)
    (hState : t = (s.setDevice d device).record (.call call succeeded))
    (hDevice : call.device? = some d) (hMay : s.MayCall call)
    (hWrite : (Effect.call call succeeded).acknowledged? = none) : s.Called m t := by
  subst hState
  have hMove : s.Move m _ := .called s d device call succeeded hDevice hMay hServed
  refine ⟨⟨hMove.by rfl, rfl, ?_, length_setDevice s d device, rfl⟩, rfl, rfl, ?_⟩
  · rw [acknowledged_record, hWrite]
    exact List.append_nil _
  · exact (assignments_record _ _).trans (List.append_nil _)

end Radio

end LockRelay
