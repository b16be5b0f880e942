import LockRelay.Session.Operation

/-! The background tasks, what devices do on their own, and the turns in which everything runs. -/
namespace LockRelay.Radio

/-- Handles the drops that wait in a watcher's queue. Each is checked against the link, since a
send may have bound it again; the generation is read before the check. -/
def watchDrops (s : Radio) (id : TaskId) (d : DeviceId) : (pending : Nat) → Radio
  | 0 => s.setTask id (.drops d 0 none)
  | pending + 1 =>
      let generation := s.session.generation
      match s.isConnected d with
      | (s, .held answer) =>
          { s.setTask id (.drops d pending (some ⟨generation, answer⟩)) with
            waiting := s.waiting ++ [(d, .task id)] }
      | (s, .ready (.ok true)) => s.watchDrops id d pending
      | (s, .ready _) => (s.dropped (some generation)).watchDrops id d pending

/-- Runs a task until it has nothing left to do or waits. -/
def runTask (s : Radio) (id : TaskId) : Radio :=
  match s.task? id with
  | none => s
  | some (.notifications d connection queue) =>
      queue.foldl (fun s payload => s.record (.frame connection payload))
        (s.setTask id (.notifications d connection []))
  | some (.drops d pending none) => s.watchDrops id d pending
  | some (.drops d pending (some check)) =>
      let s := if check.answer then s else s.dropped (some check.generation)
      s.watchDrops id d pending

/-- Gives the first in the queue its turn. -/
def poll (s : Radio) : Radio :=
  match s.ready with
  | [] => s
  | .task id :: rest => { s with ready := rest }.runTask id
  | .caller :: rest => ({ s with ready := rest }.resume).1

def pollTimes : Nat → Radio → Radio
  | 0, s => s
  | n + 1, s => if s.ready.isEmpty then s else pollTimes n s.poll

/-- Lets everyone run who can. A turn of a task gives nobody else a turn, and an operation starts
two tasks at most, so three turns for each one waiting are enough. -/
def settle (s : Radio) : Radio := pollTimes (3 * s.ready.length) s

/-- Adds to a queue that keeps the newest `capacity` items. -/
def pushBounded {α : Type} (capacity : Nat) (queue : List α) (item : α) : List α :=
  (queue ++ [item]).drop (queue.length + 1 - capacity)

/-- Wakes the tasks that `select` picks, oldest first. -/
def wakeTasks (s : Radio) (select : Task → Bool) : Radio :=
  (s.tasks.filter fun (_, task) => select task).foldl (fun s (id, _) => s.wake (.task id)) s

/-- A device notifies on its inbound characteristic. -/
def notify (s : Radio) (d : DeviceId) (payload : Bytes) : Radio :=
  let deliver : Task → Task
    | .notifications device connection queue =>
        if device = d then
          .notifications device connection (pushBounded Task.notificationCapacity queue payload)
        else .notifications device connection queue
    | task => task
  let listens : Task → Bool
    | .notifications device _ _ => device == d
    | _ => false
  { s with tasks := s.tasks.map fun (id, task) => (id, deliver task) }.wakeTasks listens

/-- A device drops its link. A watcher that waits for a check is not woken by another drop. -/
def dropLink (s : Radio) (d : DeviceId) : Radio :=
  let report : Task → Task
    | .drops device pending check =>
        if device = d then .drops device (min Task.dropCapacity (pending + 1)) check
        else .drops device pending check
    | task => task
  let listens : Task → Bool
    | .drops device _ none => device == d
    | _ => false
  let s := s.setDevice d { s.device d with connected := false }
  { s with tasks := s.tasks.map fun (id, task) => (id, report task) }.wakeTasks listens

/-- Holds back the answer to one more connection check. -/
def hold (s : Radio) (d : DeviceId) : Radio :=
  s.setDevice d { s.device d with holds := (s.device d).holds + 1 }

/-- Lets everyone go on who waits for an answer of the device. -/
def release (s : Radio) (d : DeviceId) : Radio :=
  { s with
    ready := s.ready ++ (s.waiting.filter (·.1 == d)).map (·.2)
    waiting := s.waiting.filter (·.1 != d) }

/-- What happens to the devices on their own. -/
inductive DeviceEvent where
  /-- A device comes into range. -/
  | appear (device : Device)
  | notify (device : DeviceId) (payload : Bytes)
  | drop (device : DeviceId)
  | offerService (device : DeviceId) (present : Bool)
  | refuseWrites (device : DeviceId) (refuse : Bool)
  | fault (device : DeviceId) (call : LinkCall) (fault : Option CallFault)
  | discoverFault (fault : Option CallFault)
  | hold (device : DeviceId)
  | release (device : DeviceId)

def react (s : Radio) : DeviceEvent → Radio
  | .appear device => { s with devices := s.devices ++ [device] }
  | .notify d payload => s.notify d payload
  | .drop d => s.dropLink d
  | .offerService d present => s.setDevice d { s.device d with hasService := present }
  | .refuseWrites d refuse => s.setDevice d { s.device d with refusesWrites := refuse }
  | .fault d call fault => s.setDevice d ((s.device d).setFault call fault)
  | .discoverFault fault => { s with discoverFault := fault }
  | .hold d => s.hold d
  | .release d => s.release d

/-- What happens to a session. -/
inductive Event where
  | start (operation : Operation)
  /-- The operation in progress is dropped where it waits. -/
  | abandon
  /-- The first in the queue has its turn. -/
  | turn
  | settle
  | device (event : DeviceEvent)

def step (s : Radio) : Event → Radio
  | .start operation => (s.start operation).1
  | .abandon => s.abandon
  | .turn => s.poll
  | .settle => s.settle
  | .device event => s.react event

/-- The state after a history. -/
def run (s : Radio) (history : List Event) : Radio := history.foldl step s

/-- A session that has done nothing yet. -/
def initial (devices : List Device) : Radio := { devices }

end LockRelay.Radio
