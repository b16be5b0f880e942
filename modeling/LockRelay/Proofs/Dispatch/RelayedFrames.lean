import LockRelay.Proofs.Dispatch.Coherence
import LockRelay.Proofs.Session.Representation

/-! Which frames are put to the controller. While a session lasts they are frames of the device that was
bound for it, each put once and in the order of their notifications, and the serial number that goes
with them is the one that was asked for. What is put to the controller of a frame is the frame itself or
what the inbound cipher makes of it in its turn. Without a session, or for one that is made only now,
nothing is put to the controller, so no frame outlives its session. -/
namespace LockRelay

/-- The payload that an event brings. -/
def ChannelEvent.payload? : ChannelEvent → Option Bytes
  | .frame payload => some payload
  | .dropped => none

namespace Radio

variable {s t : Radio} {d : DeviceId} {k : ConnectionId} {pool : List Bytes}
  {before : Option ConnectionId} {P : ConnectionId → DiscoveryFilter → Prop}

theorem keeps_hushed (before : Option ConnectionId) :
    Keeps (fun m => ∀ event, m ≠ .device event) (Hushed before) where
  background _ _ hDevice := hDevice
  move hDevice hSound hFresh hMove hHushed := hHushed.move hSound hFresh hDevice hMove

theorem Hushed.stirred (h : s.Hushed before) (hProper : s.Proper P) (hStirs : s.Stirs t) :
    t.Hushed before :=
  (keeps_hushed before).stirs hProper
    (fun suspended _ => Mover.ne_device_of_operates suspended.point.mover_operates) hStirs h

/-- Who has the session is no earlier connection than the last of the first `n`. -/
def HeldSince (n : Nat) (s : Radio) : Prop :=
  n ≤ s.connections ∧ ∀ k, s.session.onNotify = some k → n ≤ k + 1

theorem keeps_heldSince (n : Nat) : Keeps (fun _ => True) (HeldSince n) where
  background _ _ _ := trivial
  move _ _ _ hMove h := by
    refine ⟨h.1.trans hMove.grows.connections, fun k hHeld => ?_⟩
    rcases hMove.held_before hHeld with hBefore | ⟨-, hNewest, -⟩
    · exact h.2 k hBefore
    · exact h.1.trans hNewest.ge

/-- A connection was asked for and is not being made any more. What it is handed comes from a pool. -/
structure Supplied (s : Radio) (d : DeviceId) (k : ConnectionId) (pool : List Bytes) : Prop where
  sourced : s.Sourced d k pool
  asked : k < s.connections
  waits : s.InProgress (· ≠ .connecting k)

theorem keeps_supplied (d : DeviceId) (k : ConnectionId) (pool : List Bytes) :
    Keeps (fun m => m ≠ .connecting k ∧ ∀ event, m ≠ .device event) (Supplied · d k pool) where
  background _ hConnects hDevice := ⟨hConnects k, hDevice⟩
  move hWho hSound _ hMove h :=
    ⟨h.sourced.move hSound hWho.1 hWho.2 hMove, h.asked.trans_le hMove.grows.connections,
      h.waits.move hWho.1 hMove⟩

theorem Supplied.stirred (h : s.Supplied d k pool) (hProper : s.Proper P) (hStirs : s.Stirs t) :
    t.Supplied d k pool :=
  (keeps_supplied d k pool).stirs hProper
    (fun suspended hOperation => ⟨h.waits suspended hOperation,
      Mover.ne_device_of_operates suspended.point.mover_operates⟩) hStirs h

/-- A connection that has the session is not being made any more. -/
theorem Draws.supplied (h : s.Draws d k pool) (hSound : s.Sound) (hNumbered : s.Numbered) :
    s.Supplied d k pool := by
  refine ⟨h.sourced, hNumbered.onNotify k h.onNotify, fun suspended hOperation hMover => ?_⟩
  obtain ⟨id, queue, hInbox, -⟩ := h
  cases hInbox.link.symm.trans (hSound.connecting hOperation hMover).1

theorem handedTo_eq_payloads (s : Radio) (k : ConnectionId) :
    s.handedTo k = (s.trace.filterMap (Effect.event? k)).filterMap ChannelEvent.payload? := by
  unfold handedTo
  rw [List.filterMap_filterMap]
  refine List.filterMap_congr fun effect _ => ?_
  cases effect with
  | frame i payload =>
      simp only [Effect.payloadTo?, Effect.event?]
      split_ifs <;> rfl
  | dropReported i =>
      simp only [Effect.payloadTo?, Effect.event?]
      split_ifs <;> rfl
  | _ => rfl

/-- A session with a serial number has someone's callbacks. -/
theorem Sound.onNotify_of_serial {serial : UInt32} (h : s.Sound)
    (hSerial : s.session.serial = some serial) : ∃ i, s.session.onNotify = some i := by
  rcases h.represented with hUnlinked | ⟨d, connection, notify, watch, queue, pending, check, hBy⟩
  · simp [Session.serial, hUnlinked.filter] at hSerial
  · exact ⟨connection, hBy.onNotify⟩

theorem Sound.filter_of_link (h : s.Sound) (hLink : s.session.link = some d) :
    ∃ filter, s.session.filter = some filter := by
  obtain ⟨connection, notify, watch, queue, pending, check, hBy⟩ := h.linked hLink
  exact Option.isSome_iff_exists.mp hBy.filter

end Radio

namespace Dispatcher

variable {d e : Dispatcher} {before : Option ConnectionId} {k : ConnectionId}

/-- A frame can be taken only from the queue of a session that was there before. -/
theorem Coherent.taken_from (h : d.Coherent) (hHushed : d.radio.Hushed before) {serial : UInt32}
    {frame : Bytes} {rest : List ChannelEvent} (hSerial : d.radio.session.serial = some serial)
    (hInbox : d.inbox = .frame frame :: rest) :
    ∃ k, before = some k ∧ d.channel = some k ∧ d.radio.session.onNotify = some k := by
  obtain ⟨i, hHeld⟩ := h.proper.sound.onNotify_of_serial hSerial
  cases hChannel : d.channel with
  | none => simp [inbox, hChannel] at hInbox
  | some k =>
      have hFrame : frame ∈ d.radio.handedTo k := by
        rw [Radio.handedTo_eq_payloads]
        refine List.mem_filterMap.mpr ⟨.frame frame, ?_, rfl⟩
        apply List.mem_of_mem_drop
        simp only [inbox, hChannel] at hInbox
        rw [hInbox]
        exact List.mem_cons_self
      have hHanded : d.radio.handedTo k ≠ [] := List.ne_nil_of_mem hFrame
      obtain rfl : i = k := by
        by_contra hOther
        exact hHanded (Radio.handedTo_of_unreported
          (h.proper.numbered.newest i k hHeld (h.channel k hChannel) hOther))
      rcases hHushed i hHeld with hBefore | ⟨device, hDraws⟩
      · exact ⟨i, hBefore, rfl, hHeld⟩
      · exact absurd (List.sublist_nil.mp hDraws.handed) hHanded

/-- Strides of a session that was not there before take no frame. -/
theorem Coherent.hushed_strides (h : d.Coherent) (hHushed : d.radio.Hushed before)
    (hStrides : d.Strides e) :
    e.radio.Hushed before ∧ (before = none → e.heard = d.heard) := by
  induction hStrides with
  | refl => exact ⟨hHushed, fun _ => rfl⟩
  | tail hFirst hLast ih =>
      have hCoherent := h.strides hFirst
      obtain ⟨hHushed, hSame⟩ := ih
      cases hLast with
      | stirred hRadio hChannel hTaken hAsked hHeard =>
          exact ⟨hHushed.stirred hCoherent.proper hRadio, fun hNone => hHeard.trans (hSame hNone)⟩
      | noted hRadio hChannel hTaken hAsked hHeard =>
          exact ⟨hRadio ▸ hHushed, fun hNone => hHeard.trans (hSame hNone)⟩
      | took serial frame rest hSerial hInbox hRadio =>
          refine ⟨hRadio ▸ hHushed, fun hNone => ?_⟩
          obtain ⟨k, hSome, -⟩ := hCoherent.taken_from hHushed hSerial hInbox
          cases hNone.symm.trans hSome

theorem Coherent.hushed_asks (h : d.Coherent) {serial : UInt64} (hAsks : d.Asks serial e)
    (hIdle : d.radio.operation = none) (hHushed : d.radio.Hushed before) :
    e.radio.Hushed before := by
  rw [hAsks.radio]
  exact (Radio.keeps_hushed before).moves h.proper.sound
    (Mover.ne_device_of_operates (Radio.Operation.mover_operates _ _))
    (h.proper.numbered.fresh _) (Radio.start_concludes (.connect serial) hIdle).moves hHushed

/-- Without a connection that is asked for, the session goes to nobody else. -/
theorem Coherent.held_strides (h : d.Coherent) (hHeld : d.radio.HeldSince d.radio.connections)
    (hStrides : d.Strides e) : e.radio.HeldSince e.radio.connections := by
  induction hStrides with
  | refl => exact hHeld
  | tail hFirst hLast ih =>
      have hProper := (h.strides hFirst).proper
      cases hLast with
      | stirred hRadio =>
          rw [hRadio.connections hProper.sound]
          exact (Radio.keeps_heldSince _).stirs hProper (fun _ _ => trivial) hRadio ih
      | noted hRadio => exact hRadio ▸ ih
      | took serial frame rest hSerial hInbox hRadio => exact hRadio ▸ ih

/-- The connection that the dispatcher listens to was asked for last. -/
theorem Coherent.listens_to_holder (h : d.Coherent) (hHeld : d.radio.HeldSince d.radio.connections)
    {i : ConnectionId} (hListens : d.channel = some i)
    (hNotify : d.radio.session.onNotify = some k) : k = i := by
  have hLast := h.channel i hListens
  have hBelow : k < i + 1 := (h.proper.numbered.onNotify k hNotify).trans_eq hLast.symm
  have hSince : i + 1 ≤ k + 1 := hLast.le.trans (hHeld.2 k hNotify)
  exact Nat.le_antisymm (Nat.le_of_lt_succ hBelow) (Nat.le_of_succ_le_succ hSince)

/-- No connection comes to have the session from the one that the dispatcher listens to. -/
theorem Coherent.same_holder (h : d.Coherent) {i : ConnectionId} (hListens : d.channel = some i)
    (hHeld : d.radio.session.onNotify = some i) (hStrides : d.Strides e)
    (hLater : e.radio.session.onNotify = some k) : k = i := by
  have hSince : d.radio.HeldSince d.radio.connections := by
    refine ⟨Nat.le_refl _, fun j hSame => ?_⟩
    obtain rfl := Option.some.inj (hHeld.symm.trans hSame)
    exact (h.channel i hListens).ge
  have hListens' := (queue_of_strides hStrides).1.trans hListens
  exact (h.strides hStrides).listens_to_holder (h.held_strides hSince hStrides) hListens' hLater

/-- Strides that bring a session to a connection take no frame. -/
theorem Coherent.quiet_strides (h : d.Coherent) (hHushed : d.radio.Hushed before)
    (hStrides : d.Strides e) (hBefore : before ≠ some k)
    (hHeld : e.radio.session.onNotify = some k) : e.heard = d.heard := by
  induction hStrides using Relation.ReflTransGen.head_induction_on with
  | refl => rfl
  | head hStride hRest ih =>
      have hCoherent := h.stride hStride
      obtain ⟨hHushed', -⟩ := h.hushed_strides hHushed (.single hStride)
      refine (ih hCoherent hHushed').trans ?_
      cases hStride with
      | stirred hRadio hChannel hTaken hAsked hHeard => exact hHeard
      | noted hRadio hChannel hTaken hAsked hHeard => exact hHeard
      | took serial frame rest hSerial hInbox hRadio hChannel =>
          obtain ⟨i, rfl, hListens, hTaker⟩ := h.taken_from hHushed hSerial hInbox
          have hSame := hCoherent.same_holder (hChannel.trans hListens) (hRadio ▸ hTaker) hRest hHeld
          exact absurd (congrArg some hSame.symm) hBefore

theorem arrived_of_channel (hChannel : d.channel = some k) :
    d.arrived.filterMap ChannelEvent.payload? = d.radio.handedTo k := by
  rw [Radio.handedTo_eq_payloads, arrived, hChannel]

/-- The account of a session. The frames that were taken for it went with the serial number that was
asked for and are, in order, part of what came into its queue. -/
structure Tally (k : ConnectionId) (serial : UInt64) (device : DeviceId) (pool : List Bytes)
    (takes : List (UInt32 × Bytes)) (d : Dispatcher) : Prop where
  supplied : d.radio.Supplied device k pool
  asked : d.asked[k]? = some serial
  carried : ∀ take ∈ takes, take.1.toUInt64 = serial
  handed : (takes.map Prod.snd).Sublist (d.radio.handedTo k)
  taken : d.channel = some k →
    (takes.map Prod.snd).Sublist ((d.arrived.take d.taken).filterMap ChannelEvent.payload?)

variable {serial : UInt64} {device : DeviceId} {pool : List Bytes}
  {takes : List (UInt32 × Bytes)}

/-- A session for a connection has the serial number that the connection was asked for with. -/
theorem Coherent.serial_eq (h : d.Coherent) (hAsked : d.asked[k]? = some serial)
    (hHeld : d.radio.session.onNotify = some k) {bound : UInt32}
    (hSerial : d.radio.session.serial = some bound) : bound.toUInt64 = serial := by
  obtain ⟨filter, hFilter, rfl⟩ := Option.map_eq_some_iff.mp hSerial
  obtain ⟨other, hOther, hMade⟩ := h.proper.requested.held k filter hHeld hFilter
  obtain rfl := Option.some.inj (hOther.symm.trans hAsked)
  exact (DiscoveryFilter.forSerial_ok hMade).2

theorem take_succ_of_drop {α : Type} {l rest : List α} {n : Nat} {x : α}
    (hDrop : l.drop n = x :: rest) : l.take (n + 1) = l.take n ++ [x] := by
  have hNext : l[n]? = some x := by rw [← List.head?_drop, hDrop, List.head?_cons]
  rw [List.take_add_one, hNext]
  rfl

/-- A frame is taken from the queue of the session. -/
theorem Tally.took (h : d.Tally k serial device pool takes) (hCoherent : d.Coherent)
    (hHushed : d.radio.Hushed (some k)) {bound : UInt32} {frame : Bytes}
    {rest : List ChannelEvent} (hSerial : d.radio.session.serial = some bound)
    (hInbox : d.inbox = .frame frame :: rest) (hRadio : e.radio = d.radio)
    (hChannel : e.channel = d.channel) (hTaken : e.taken = d.taken + 1) (hAsked : e.asked = d.asked) :
    e.Tally k serial device pool (takes ++ [(bound, frame)]) := by
  obtain ⟨i, hSome, hListens, hHeld⟩ := hCoherent.taken_from hHushed hSerial hInbox
  obtain rfl := Option.some.inj hSome
  have hArrived : e.arrived = d.arrived := by simp only [arrived, hRadio, hChannel]
  rw [inbox_eq_drop] at hInbox
  have hAll : ((takes ++ [(bound, frame)]).map Prod.snd).Sublist
      ((e.arrived.take e.taken).filterMap ChannelEvent.payload?) := by
    rw [hArrived, hTaken, take_succ_of_drop hInbox, List.filterMap_append, List.map_append]
    exact (h.taken hListens).append_right [frame]
  refine ⟨hRadio ▸ h.supplied, hAsked ▸ h.asked, ?_, ?_, fun _ => hAll⟩
  · intro take hTake
    rcases List.mem_append.mp hTake with hOld | hNew
    · exact h.carried take hOld
    · rw [List.mem_singleton.mp hNew]
      exact hCoherent.serial_eq h.asked hHeld hSerial
  · rw [← arrived_of_channel (hChannel.trans hListens)]
    exact hAll.trans ((List.take_sublist _ _).filterMap _)

theorem Tally.stride (h : d.Tally k serial device pool takes) (hCoherent : d.Coherent)
    (hHushed : d.radio.Hushed (some k)) (hStride : d.Stride e) :
    ∃ more, e.heard = d.heard.hearAll more ∧ e.Tally k serial device pool (takes ++ more) := by
  cases hStride with
  | stirred hRadio hChannel hTaken hAsked hHeard =>
      have hGrows := Radio.grows_of_moves (hRadio.reaches hCoherent.proper.sound).moves
      refine ⟨[], hHeard, ?_⟩
      rw [List.append_nil]
      refine ⟨h.supplied.stirred hCoherent.proper hRadio, hAsked ▸ h.asked, h.carried, ?_, ?_⟩
      · exact h.handed.trans (hGrows.trace.filterMap _).sublist
      · intro hListens
        have hBefore := h.taken (hChannel.symm.trans hListens)
        have hArrived : d.arrived <+: e.arrived := arrived_of_grows hGrows hChannel
        rw [hTaken]
        exact hBefore.trans ((hArrived.take _).sublist.filterMap _)
  | noted hRadio hChannel hTaken hAsked hHeard =>
      refine ⟨[], hHeard, ?_⟩
      rw [List.append_nil]
      refine ⟨hRadio ▸ h.supplied, hAsked ▸ h.asked, h.carried, hRadio ▸ h.handed, ?_⟩
      intro hListens
      have hArrived : e.arrived = d.arrived := by simp only [arrived, hRadio, hChannel]
      rw [hArrived]
      exact (h.taken (hChannel.symm.trans hListens)).trans
        ((List.take_sublist_take_left hTaken).filterMap _)
  | took bound frame rest hSerial hInbox hRadio hChannel hTaken hAsked hHeard =>
      exact ⟨[(bound, frame)], hHeard,
        h.took hCoherent hHushed hSerial hInbox hRadio hChannel hTaken hAsked⟩

theorem Tally.strides (h : d.Tally k serial device pool takes) (hCoherent : d.Coherent)
    (hHushed : d.radio.Hushed (some k)) (hStrides : d.Strides e) :
    ∃ more, e.heard = d.heard.hearAll more ∧ e.Tally k serial device pool (takes ++ more) := by
  induction hStrides with
  | refl => exact ⟨[], rfl, by rwa [List.append_nil]⟩
  | tail hFirst hLast ih =>
      obtain ⟨more, hHeard, hTally⟩ := ih
      obtain ⟨hHushed', -⟩ := hCoherent.hushed_strides hHushed hFirst
      obtain ⟨last, hHeard', hTally'⟩ := hTally.stride (hCoherent.strides hFirst) hHushed' hLast
      refine ⟨more ++ last, ?_, ?_⟩
      · rw [hHeard', hHeard, Heard.hearAll_append]
      · rwa [← List.append_assoc]

/-- Another connection is asked for. -/
theorem Tally.asks (h : d.Tally k serial device pool takes) (hCoherent : d.Coherent)
    {other : UInt64} (hAsks : d.Asks other e) (hIdle : d.radio.operation = none) :
    e.Tally k serial device pool takes := by
  have hConcludes := Radio.start_concludes (.connect other) hIdle
  have hGrows : d.radio.Grows e.radio := hAsks.radio ▸ Radio.grows_of_moves hConcludes.moves
  have hOther : (Radio.Operation.connect other).mover d.radio ≠ .connecting k := fun hMover =>
    h.supplied.asked.ne (Radio.Operation.connecting hMover).1
  refine ⟨?_, ?_, h.carried, h.handed.trans (hGrows.trace.filterMap _).sublist, ?_⟩
  · rw [hAsks.radio]
    exact (Radio.keeps_supplied device k pool).moves hCoherent.proper.sound
      ⟨hOther, Mover.ne_device_of_operates (Radio.Operation.mover_operates _ _)⟩
      (hCoherent.proper.numbered.fresh _) hConcludes.moves h.supplied
  · rw [hAsks.asked, List.getElem?_append_left (List.getElem?_eq_some_iff.mp h.asked).1]
    exact h.asked
  · intro hListens
    exact absurd (Option.some.inj (hAsks.channel.symm.trans hListens)) h.supplied.asked.ne'

/-- The payloads that a device notifies in a history, oldest first. -/
def notified (device : DeviceId) (history : List Event) : List Bytes :=
  history.flatMap fun
    | .device (.notify i payload) => if i = device then [payload] else []
    | _ => []

/-- In an event that finds the session there, what the device notifies is added to what may be taken. -/
theorem Tally.step (h : d.Tally k serial device pool takes) (hCoherent : d.Coherent)
    (hSteady : d.Steady) (hHeld : d.radio.session.onNotify = some k) (event : Event) :
    ∃ more, (d.step event).heard = d.heard.hearAll more ∧
      (d.step event).Tally k serial device (pool ++ notified device [event]) (takes ++ more) := by
  have hHushed : d.radio.Hushed (some k) := fun i hi => Or.inl (hHeld.symm.trans hi)
  have hArrives (hEvent : ∀ i, event ≠ .device i) :
      ∃ more, (d.step event).heard = d.heard.hearAll more ∧
        (d.step event).Tally k serial device pool (takes ++ more) := by
    rcases step_arrives d hEvent with hStrides | ⟨other, f, hAsks, hStrides⟩
    · exact h.strides hCoherent hHushed hStrides
    · have hIdle := hSteady.idle (by simp [hAsks.free])
      rw [← hAsks.heard]
      exact (h.asks hCoherent hAsks hIdle).strides (hCoherent.asks hAsks hIdle)
        (hCoherent.hushed_asks hAsks hIdle hHushed) hStrides
  cases event with
  | device i =>
      obtain ⟨-, hOperation, hTrace, -, hConnections, -⟩ := Radio.react_frame d.radio i
      have hNotified : notified device [.device i] =
          (d.radio.notifiedBy device (.device i)).map Prod.fst := by
        cases i <;> simp [notified, Radio.notifiedBy]
        split_ifs <;> rfl
      have hArrived : (d.step (.device i)).arrived = d.arrived := by
        simp only [Dispatcher.step, arrived, hTrace]
      have hHanded : (d.step (.device i)).radio.handedTo k = d.radio.handedTo k :=
        congrArg (List.filterMap _) hTrace
      refine ⟨[], rfl, ?_⟩
      rw [hNotified, List.append_nil]
      refine ⟨⟨h.supplied.sourced.reacted i, h.supplied.asked.trans_eq hConnections.symm, ?_⟩,
        h.asked, h.carried, hHanded ▸ h.handed, ?_⟩
      · exact fun suspended hWaits => h.supplied.waits suspended (hOperation.symm.trans hWaits)
      · rw [hArrived]
        exact h.taken
  | _ =>
      have hNothing : ∀ event : Event, (∀ i, event ≠ .device i) → notified device [event] = [] := by
        intro event hEvent
        cases event with
        | device i => exact absurd rfl (hEvent i)
        | _ => rfl
      rw [hNothing _ (by simp), List.append_nil]
      exact hArrives (by simp)

/-- An open succeeds in an event: the session has a connection afterwards that it did not have. -/
def Opens (d : Dispatcher) (event : Event) (k : ConnectionId) : Prop :=
  d.radio.session.onNotify ≠ some k ∧ (d.step event).radio.session.onNotify = some k

/-- Every event of a history finds the session with a connection. In the last of them the connection
may be torn down, or another one be opened in its place. -/
def Lasts (k : ConnectionId) : Dispatcher → List Event → Prop
  | _, [] => True
  | d, event :: rest => d.radio.session.onNotify = some k ∧ Lasts k (d.step event) rest

theorem Tally.run (h : d.Tally k serial device pool takes) (hCoherent : d.Coherent)
    (hSteady : d.Steady) {after : List Event} (hLasts : Lasts k d after) :
    ∃ more, (d.after after).heard = d.heard.hearAll more ∧
      (d.after after).Tally k serial device (pool ++ notified device after) (takes ++ more) := by
  induction after generalizing d pool takes with
  | nil =>
      refine ⟨[], rfl, ?_⟩
      rw [List.append_nil, notified, List.flatMap_nil, List.append_nil]
      exact h
  | cons event rest ih =>
      obtain ⟨hHeld, hRest⟩ := hLasts
      obtain ⟨first, hHeard, hTally⟩ := h.step hCoherent hSteady hHeld event
      obtain ⟨later, hHeard', hTally'⟩ := ih hTally (hCoherent.step hSteady event)
        (hSteady.step hCoherent.proper.sound event) hRest
      have hNotified : notified device (event :: rest) =
          notified device [event] ++ notified device rest := by simp [notified]
      refine ⟨first ++ later, ?_, ?_⟩
      · rw [Heard.hearAll_append, ← hHeard]
        exact hHeard'
      · rw [hNotified, ← List.append_assoc, ← List.append_assoc]
        exact hTally'

theorem after_coherent (devices : List Device) (cipher : Option ChannelCipher)
    (history : List Event) : ((initial devices cipher).after history).Coherent := by
  induction history using List.reverseRecOn with
  | nil => exact ⟨Radio.initial_proper devices, rfl, nofun⟩
  | append_singleton history event ih =>
      rw [after_concat]
      exact ih.step (after_steady devices cipher history) event

/-- An event that is no device's is a chain of strides from where a connection may have been asked for. -/
theorem Coherent.step_strides (h : d.Coherent) (hSteady : d.Steady) {event : Event}
    (hEvent : ∀ i, event ≠ .device i) :
    ∃ f : Dispatcher, f.Coherent ∧ f.radio.Hushed d.radio.session.onNotify ∧
      f.heard = d.heard ∧ f.Strides (d.step event) := by
  have hHushed : d.radio.Hushed d.radio.session.onNotify := fun _ => Or.inl
  rcases step_arrives d hEvent with hStrides | ⟨serial, f, hAsks, hStrides⟩
  · exact ⟨d, h, hHushed, rfl, hStrides⟩
  · have hIdle := hSteady.idle (by simp [hAsks.free])
    exact ⟨f, h.asks hAsks hIdle, h.hushed_asks hAsks hIdle hHushed, hAsks.heard, hStrides⟩

/-- Whose session an event leaves had it before, or has heard nothing. Without a session no frame is
taken in the event. -/
theorem Coherent.step_hushed (h : d.Coherent) (hSteady : d.Steady) (event : Event) :
    (d.step event).radio.Hushed d.radio.session.onNotify ∧
      (d.radio.session.onNotify = none → (d.step event).heard = d.heard) := by
  have hArrives (hEvent : ∀ i, event ≠ .device i) :
      (d.step event).radio.Hushed d.radio.session.onNotify ∧
        (d.radio.session.onNotify = none → (d.step event).heard = d.heard) := by
    obtain ⟨f, hCoherent, hHushed, hHeard, hStrides⟩ := h.step_strides hSteady hEvent
    rw [← hHeard]
    exact hCoherent.hushed_strides hHushed hStrides
  cases event with
  | device i =>
      have hSession : (d.radio.react i).session = d.radio.session := (Radio.react_frame d.radio i).1
      refine ⟨fun k hHeld => Or.inl ?_, fun _ => rfl⟩
      exact (congrArg Session.onNotify hSession).symm.trans hHeld
  | _ => exact hArrives (by simp)

/-- No frame is taken in the event in which an open succeeds, whoever had the session. -/
theorem Coherent.opens_quietly (h : d.Coherent) (hSteady : d.Steady) {event : Event}
    (hOpens : d.Opens event k) : (d.step event).heard = d.heard := by
  obtain ⟨hBefore, hHeld⟩ := hOpens
  have hArrives (hEvent : ∀ i, event ≠ .device i) : (d.step event).heard = d.heard := by
    obtain ⟨f, hCoherent, hHushed, hHeard, hStrides⟩ := h.step_strides hSteady hEvent
    exact (hCoherent.quiet_strides hHushed hStrides hBefore hHeld).trans hHeard
  cases event with
  | device i => rfl
  | _ => exact hArrives (by simp)

/-- Whatever happens, what has been heard only grows by frames that are taken. -/
theorem heard_of_strides (h : d.Strides e) : ∃ takes, e.heard = d.heard.hearAll takes := by
  induction h with
  | refl => exact ⟨[], rfl⟩
  | tail _ hLast ih =>
      obtain ⟨takes, hHeard⟩ := ih
      cases hLast with
      | stirred _ _ _ _ hSame => exact ⟨takes, hSame.trans hHeard⟩
      | noted _ _ _ _ hSame => exact ⟨takes, hSame.trans hHeard⟩
      | took serial frame _ _ _ _ _ _ _ hMore =>
          refine ⟨takes ++ [(serial, frame)], ?_⟩
          rw [hMore, hHeard, Heard.hearAll_append]
          rfl

theorem heard_step (d : Dispatcher) (event : Event) :
    ∃ takes, (d.step event).heard = d.heard.hearAll takes := by
  have hArrives (hEvent : ∀ i, event ≠ .device i) :
      ∃ takes, (d.step event).heard = d.heard.hearAll takes := by
    rcases step_arrives d hEvent with hStrides | ⟨serial, f, hAsks, hStrides⟩
    · exact heard_of_strides hStrides
    · rw [← hAsks.heard]
      exact heard_of_strides hStrides
  cases event with
  | device i => exact ⟨[], rfl⟩
  | _ => exact hArrives (by simp)

theorem heard_after (d : Dispatcher) (history : List Event) :
    ∃ takes, (d.after history).heard = d.heard.hearAll takes := by
  induction history generalizing d with
  | nil => exact ⟨[], rfl⟩
  | cons event rest ih =>
      obtain ⟨first, hFirst⟩ := heard_step d event
      obtain ⟨later, hLater⟩ := ih (d.step event)
      refine ⟨first ++ later, ?_⟩
      rw [Heard.hearAll_append, ← hFirst]
      exact hLater

/-- All that was put to the controller are frames that were taken, each as it is or unmasked in its
turn, and there the inbound cipher stands. -/
theorem unmasked_after (devices : List Device) (cipher : Option ChannelCipher)
    (history : List Event) : let d := (initial devices cipher).after history
    (d.inbound, d.relayed.map Relay.opened) =
      unmaskAll (cipher.map ChannelCipher.inbound) d.received := by
  intro d
  obtain ⟨takes, hHeard⟩ := heard_after (initial devices cipher) history
  obtain ⟨relays, hReceived, hRelayed, hUnmasked, -⟩ :=
    Heard.hearAll_follows (initial devices cipher).heard takes
  rw [← hHeard] at hReceived hRelayed hUnmasked
  have hReceived : d.received = takes.map Prod.snd := hReceived
  have hRelayed : d.relayed = relays := hRelayed
  rw [hReceived, hRelayed]
  exact hUnmasked

/-- The account of a session begins where an open succeeds. -/
theorem Coherent.opened (h : d.Coherent) (hSteady : d.Steady) {event : Event}
    (hOpens : d.Opens event k) :
    ∃ serial device, (d.step event).radio.session.link = some device ∧
      (d.step event).isBoundTo serial = true ∧ (d.step event).Tally k serial device [] [] := by
  obtain ⟨hBefore, hHeld⟩ := hOpens
  have hCoherent := h.step hSteady event
  obtain ⟨device, hDraws⟩ := ((h.step_hushed hSteady event).1 k hHeld).resolve_left hBefore
  have hSupplied := hDraws.supplied hCoherent.proper.sound hCoherent.proper.numbered
  obtain ⟨id, queue, hInbox, -⟩ := hDraws
  obtain ⟨filter, hFilter⟩ := hCoherent.proper.sound.filter_of_link hInbox.link
  obtain ⟨serial, hAsked, hMade⟩ := hCoherent.proper.requested.held k filter hHeld hFilter
  have hSame := (DiscoveryFilter.forSerial_ok hMade).2
  refine ⟨serial, device, hInbox.link, ?_, hSupplied, hAsked, nofun, List.nil_sublist _,
    fun _ => List.nil_sublist _⟩
  simp [isBoundTo, Session.serial, hFilter, hSame]

/-- Whatever has happened: what was put to the controller are frames that were taken, each as it is or,
with a cipher, unmasked at the counter that the frames taken before it have led to. An event that finds
no session, or in which an open succeeds, puts nothing to the controller. All that is put to the
controller while the session of an open lasts carries the serial number that was asked for. The frames
that are taken for it were notified since by the device that was bound, each is taken once and in the
order of their notifications, and what is put to the controller is what they are unmasked to. -/
theorem relayed_in_session (devices : List Device) (cipher : Option ChannelCipher)
    (history : List Event) (event : Event) :
    let d := (initial devices cipher).after history
    (d.inbound, d.relayed.map Relay.opened) =
      unmaskAll (cipher.map ChannelCipher.inbound) d.received ∧
    (d.radio.session.onNotify = none → (d.step event).relayed = d.relayed) ∧
    ∀ k, d.Opens event k → (d.step event).relayed = d.relayed ∧ ∃ serial device,
      (d.step event).asked[k]? = some serial ∧ (d.step event).isBoundTo serial = true ∧
      (d.step event).radio.session.link = some device ∧
      ∀ after, Lasts k (d.step event) after → ∃ frames relays,
        ((d.step event).after after).received = (d.step event).received ++ frames ∧
        frames.Sublist (notified device after) ∧
        ((d.step event).after after).relayed = (d.step event).relayed ++ relays ∧
        (∀ relay ∈ relays, relay.serial.toUInt64 = serial) ∧
        (relays.map Relay.frame).Sublist (notified device after) ∧
        relays.map Relay.opened = (unmaskAll (d.step event).inbound frames).2 := by
  intro d
  have hCoherent : d.Coherent := after_coherent devices cipher history
  have hSteady : d.Steady := after_steady devices cipher history
  refine ⟨unmasked_after devices cipher history, fun hNone => ?_, fun k hOpens => ?_⟩
  · exact congrArg Heard.relayed ((hCoherent.step_hushed hSteady event).2 hNone)
  obtain ⟨serial, device, hLink, hBound, hTally⟩ := hCoherent.opened hSteady hOpens
  have hQuiet := congrArg Heard.relayed (hCoherent.opens_quietly hSteady hOpens)
  refine ⟨hQuiet, serial, device, hTally.asked, hBound, hLink, fun after hLasts => ?_⟩
  obtain ⟨takes, hHeard, hAfter⟩ := hTally.run (hCoherent.step hSteady event)
    (hSteady.step hCoherent.proper.sound event) hLasts
  rw [List.nil_append] at hAfter
  obtain ⟨relays, hReceived, hRelayed, hUnmasked, hSerials⟩ :=
    Heard.hearAll_follows (d.step event).heard takes
  rw [← hHeard] at hReceived hRelayed hUnmasked
  have hFrames := hAfter.handed.trans hAfter.supplied.sourced.handed
  have hOpened := congrArg Prod.snd hUnmasked
  refine ⟨takes.map Prod.snd, relays, hReceived, hFrames, hRelayed, ?_, ?_, hOpened⟩
  · intro relay hRelay
    obtain ⟨take, hTake, hSame⟩ := hSerials relay hRelay
    rw [← hSame]
    exact hAfter.carried take hTake
  · have hSome := unmaskAll_sublist (d.step event).inbound (takes.map Prod.snd)
    have hMapped : relays.map Relay.frame = (relays.map Relay.opened).map Prod.fst := by
      rw [List.map_map]
      rfl
    rw [hMapped]
    exact (hOpened ▸ hSome).trans hFrames

/-- Two frames of a lock, with a drop and a send that binds the link again in between. -/
theorem relayed_in_session_across_rebind :
    (initial [.ofSerial 7] none).Opens (.run (.openChannel 7 [])) 0 ∧
      Lasts 0 ((initial [.ofSerial 7] none).step (.run (.openChannel 7 [])))
        [.device (.notify 0 [170]), .settle, .device (.drop 0), .reply (.ok (.sendPayload [1])),
          .settle, .device (.notify 0 [187]), .settle] ∧
      ∃ frames relays,
        (((initial [.ofSerial 7] none).step (.run (.openChannel 7 []))).after
          [.device (.notify 0 [170]), .settle, .device (.drop 0), .reply (.ok (.sendPayload [1])),
            .settle, .device (.notify 0 [187]), .settle]).relayed = relays ∧
        relays = [⟨7, [170], [170]⟩, ⟨7, [187], [187]⟩] ∧
        (relays.map Relay.frame).Sublist [[170], [187]] ∧
        relays.map Relay.opened = (unmaskAll none frames).2 := by
  have hOpens : (initial [.ofSerial 7] none).Opens (.run (.openChannel 7 [])) 0 := ⟨nofun, rfl⟩
  have hLasts : Lasts 0 ((initial [.ofSerial 7] none).step (.run (.openChannel 7 [])))
      [.device (.notify 0 [170]), .settle, .device (.drop 0), .reply (.ok (.sendPayload [1])),
        .settle, .device (.notify 0 [187]), .settle] :=
    ⟨rfl, rfl, rfl, rfl, rfl, rfl, rfl, trivial⟩
  obtain ⟨-, -, hSession⟩ :=
    relayed_in_session [.ofSerial 7] none [] (.run (.openChannel 7 []))
  obtain ⟨-, serial, device, -, -, hLink, hAfter⟩ := hSession 0 hOpens
  cases hLink
  obtain ⟨frames, relays, -, -, hRelayed, -, hSublist, hOpened⟩ := hAfter _ hLasts
  have hRelays : relays = [⟨7, [170], [170]⟩, ⟨7, [187], [187]⟩] := hRelayed.symm
  exact ⟨hOpens, hLasts, frames, relays, hRelayed, hRelays, hSublist, hOpened⟩

end Dispatcher

end LockRelay
