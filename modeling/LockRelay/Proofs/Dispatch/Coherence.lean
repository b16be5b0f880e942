import LockRelay.Proofs.Dispatch.Tuning
import LockRelay.Proofs.Session.Provenance

/-! What the session of a dispatcher keeps to through every stride, and how its connections belong to
the commands that asked for them. -/
namespace LockRelay

namespace Radio

variable {s t : Radio} {m : Mover} {P Q : ConnectionId → DiscoveryFilter → Prop}

/-- A session whose parts, numbers and callbacks are in order, and which is handed nothing but what
was asked for. -/
structure Proper (P : ConnectionId → DiscoveryFilter → Prop) (s : Radio) : Prop where
  regular : s.Regular
  numbered : s.Numbered
  unreported : s.Unreported
  requested : s.Requested P

theorem initial_proper (devices : List Device) : (initial devices).Proper P :=
  ⟨initial_regular devices, initial_numbered devices, nofun, initial_requested devices⟩

theorem Proper.sound (h : s.Proper P) : s.Sound := h.regular.sound

theorem Proper.mono (h : s.Proper P) (hMono : ∀ k filter, P k filter → Q k filter) : s.Proper Q :=
  ⟨h.regular, h.numbered, h.unreported, fun k filter hNotify hFilter =>
    hMono k filter (h.requested.held k filter hNotify hFilter),
    fun suspended request hOperation hRequest =>
      hMono _ _ (h.requested.waits suspended request hOperation hRequest)⟩

/-- Moves by no operation. -/
theorem Proper.background (h : s.Proper P) (hMover : m.operates = false)
    (hMoves : s.MovesBy (· = m) t) : t.Proper P := by
  have hConnects (k : ConnectionId) : m ≠ .connecting k := by
    rintro rfl
    cases hMover
  exact ⟨(h.regular.background hMover hMoves).1, h.numbered.moves h.sound hMoves.moves,
    h.unreported.background h.sound hMover hMoves, h.requested.moves hConnects hMoves⟩

theorem Proper.started (h : s.Proper P) {operation : Operation} (hIdle : s.operation = none)
    (hAsks : AsksFor P s operation) : (s.start operation).1.Proper P := by
  have hMoves := (start_concludes operation hIdle).moves
  exact ⟨(h.regular.started operation hIdle).1, h.numbered.moves h.sound hMoves.moves,
    (h.unreported.moves (h.numbered.fresh operation) h.sound hMoves).1,
    h.requested.start h.regular hAsks⟩

theorem Proper.resumed (h : s.Proper P) : s.resume.1.Proper P := by
  have hRegular : s.resume.1.Regular := by
    rcases Option.eq_none_or_eq_some s.operation with hNone | ⟨suspended, hOperation⟩
    · rw [resume_of_idle hNone]
      exact h.regular
    · exact (h.regular.resumed hOperation).1
  exact ⟨hRegular, h.numbered.moves h.sound h.sound.resume_reaches.moves,
    h.unreported.resume h.sound, h.requested.resume h.regular⟩

/-- Who makes a move of a session that no connection is asked for: an operation that was started or
that goes on, or one in the background. -/
inductive StirsBy (m : Mover) (s t : Radio) : Prop where
  | operation (hIdle : s.operation = none) {operation : Operation} (hAsked : operation.asked = 0)
      (hMover : m = operation.mover s) (hMoves : s.MovesBy (· = m) t)
  | waiting {suspended : Suspended} (hOperation : s.operation = some suspended)
      (hMover : m = suspended.point.mover)
      (hMoves : ({ s with operation := none } : Radio).MovesBy (· = m) t)
  | background (hMover : m.operates = false) (hDevice : ∀ event, m ≠ .device event)
      (hMoves : s.MovesBy (· = m) t)

theorem Stirs.stirsBy (h : s.Stirs t) (hSound : s.Sound) : ∃ m, StirsBy m s t := by
  have hNothing : StirsBy .scheduler s s := .background rfl nofun .refl
  cases h with
  | started operation hAsked =>
      rcases Option.eq_none_or_eq_some s.operation with hIdle | ⟨suspended, hOperation⟩
      · exact ⟨_, .operation hIdle hAsked rfl (start_concludes operation hIdle).moves⟩
      · rw [start_of_busy hOperation]
        exact ⟨_, hNothing⟩
  | resumed =>
      rcases Option.eq_none_or_eq_some s.operation with hNone | ⟨suspended, hOperation⟩
      · rw [resume_of_idle hNone]
        exact ⟨_, hNothing⟩
      · exact ⟨_, .waiting hOperation rfl (hSound.resume_concludes hOperation).moves⟩
  | ran id => exact ⟨.task id, .background rfl nofun (runTask_advances hSound id).moves⟩
  | polled hReady =>
      exact ⟨.scheduler, .background rfl nofun ((Move.polled s _ _ hReady).by rfl)⟩
  | woken p => exact ⟨.scheduler, .background rfl nofun ((Move.woken s p).by rfl)⟩
  | abandoned => exact ⟨.scheduler, .background rfl nofun ((Move.abandoned s).by rfl)⟩

theorem Stirs.connections (h : s.Stirs t) (hSound : s.Sound) : t.connections = s.connections := by
  cases h with
  | started operation hAsked =>
      rcases Option.eq_none_or_eq_some s.operation with hIdle | ⟨suspended, hOperation⟩
      · exact (start_concludes operation hIdle).connections.trans (by rw [hAsked]; rfl)
      · rw [start_of_busy hOperation]
  | resumed =>
      rcases Option.eq_none_or_eq_some s.operation with hNone | ⟨suspended, hOperation⟩
      · rw [resume_of_idle hNone]
      · exact (hSound.resume_concludes hOperation).connections
  | ran id => exact (runTask_advances hSound id).connections
  | polled => rfl
  | woken p => exact (wake_advances s p).connections
  | abandoned => rfl

theorem Proper.stirred (h : s.Proper P) (hStirs : s.Stirs t) : t.Proper P := by
  cases hStirs with
  | started operation hAsked =>
      rcases Option.eq_none_or_eq_some s.operation with hIdle | ⟨suspended, hOperation⟩
      · refine h.started hIdle ?_
        cases operation with
        | connect serial => cases hAsked
        | send | disconnect => trivial
      · rw [start_of_busy hOperation]
        exact h
  | resumed => exact h.resumed
  | ran id => exact h.background rfl (runTask_advances h.sound id).moves
  | polled hReady => exact h.background (m := .scheduler) rfl ((Move.polled s _ _ hReady).by rfl)
  | woken p => exact h.background (m := .scheduler) rfl ((Move.woken s p).by rfl)
  | abandoned => exact h.background (m := .scheduler) rfl ((Move.abandoned s).by rfl)

/-- What every move keeps that a mover may make whose connection, if it makes one, has not been
reported to. -/
structure Keeps (who : Mover → Prop) (R : Radio → Prop) : Prop where
  background : ∀ m, (∀ k, m ≠ .connecting k) → (∀ event, m ≠ .device event) → who m
  move : ∀ {m s t}, who m → s.Sound → Fresh m s → s.Move m t → R s → R t

variable {who : Mover → Prop} {R : Radio → Prop}

theorem Keeps.moves (h : Keeps who R) (hSound : s.Sound) (hWho : who m) (hFresh : Fresh m s)
    (hMoves : s.MovesBy (· = m) t) (hs : R s) : R t := by
  have hBoth : Fresh m t ∧ R t := by
    refine hSound.keeps (P := fun t => Fresh m t ∧ R t) hMoves ?_ ⟨hFresh, hs⟩
    rintro _ u v rfl hSound hMove ⟨hFresh, hu⟩
    exact ⟨hFresh.move hMove, h.move hWho hSound hFresh hMove hu⟩
  exact hBoth.2

theorem Keeps.stirs (h : Keeps who R) (hProper : s.Proper P) (hWaits : s.InProgress who)
    (hStirs : s.Stirs t) (hs : R s) : R t := by
  obtain ⟨m, hBy⟩ := hStirs.stirsBy hProper.sound
  cases hBy with
  | operation hIdle hAsked hMover hMoves =>
      have hConnects (k : ConnectionId) : m ≠ .connecting k := by
        rintro rfl
        cases hAsked.symm.trans (Operation.connecting hMover.symm).2
      have hFresh : Fresh m s := fun k hSame => absurd hSame (hConnects k)
      have hDevice := Mover.ne_device_of_operates (hMover ▸ Operation.mover_operates s _)
      exact h.moves hProper.sound (h.background m hConnects hDevice) hFresh hMoves hs
  | waiting hOperation hMover hMoves =>
      have hResumed := Move.resumed s
      have hIdle : R { s with operation := none } :=
        h.move (h.background .scheduler nofun nofun) hProper.sound nofun hResumed hs
      have hFresh : Fresh m s := hMover ▸ hProper.unreported _ hOperation
      exact h.moves (hProper.sound.move hResumed) (hMover ▸ hWaits _ hOperation)
        (hFresh.of_heard rfl) hMoves hIdle
  | background hMover hDevice hMoves =>
      have hConnects (k : ConnectionId) : m ≠ .connecting k := by
        rintro rfl
        cases hMover
      have hFresh : Fresh m s := fun k hSame => absurd hSame (hConnects k)
      exact h.moves hProper.sound (h.background m hConnects hDevice) hFresh hMoves hs

end Radio

namespace Dispatcher

variable {d e : Dispatcher}

/-- A connection was asked for with a filter. -/
def Wants (asked : List UInt64) (k : ConnectionId) (filter : DiscoveryFilter) : Prop :=
  ∃ serial, asked[k]? = some serial ∧ DiscoveryFilter.forSerial serial = .ok filter

/-- The session is in order, its connections are those that were asked for, and the dispatcher listens
to the last of them. -/
structure Coherent (d : Dispatcher) : Prop where
  proper : d.radio.Proper (Wants d.asked)
  asked : d.asked.length = d.radio.connections
  channel : ∀ k, d.channel = some k → k + 1 = d.radio.connections

theorem Coherent.of_same (h : d.Coherent) (hRadio : e.radio = d.radio) (hAsked : e.asked = d.asked)
    (hChannel : e.channel = d.channel) : e.Coherent := by
  refine ⟨?_, ?_, ?_⟩
  · rw [hRadio, hAsked]
    exact h.proper
  · rw [hRadio, hAsked]
    exact h.asked
  · rw [hRadio, hChannel]
    exact h.channel

theorem Coherent.stride (h : d.Coherent) (hStride : d.Stride e) : e.Coherent := by
  cases hStride with
  | stirred hRadio hChannel hTaken hAsked =>
      have hConnections := hRadio.connections h.proper.sound
      refine ⟨?_, ?_, ?_⟩
      · rw [hAsked]
        exact h.proper.stirred hRadio
      · rw [hAsked, hConnections]
        exact h.asked
      · rw [hChannel, hConnections]
        exact h.channel
  | noted hRadio hChannel hTaken hAsked => exact h.of_same hRadio hAsked hChannel
  | took serial frame rest hSerial hInbox hRadio hChannel hTaken hAsked =>
      exact h.of_same hRadio hAsked hChannel

theorem Coherent.asks (h : d.Coherent) {serial : UInt64} (hAsks : d.Asks serial e)
    (hIdle : d.radio.operation = none) : e.Coherent := by
  have hConnections : e.radio.connections = d.radio.connections + 1 :=
    hAsks.radio ▸ (Radio.start_concludes (.connect serial) hIdle).connections
  refine ⟨?_, ?_, ?_⟩
  · rw [hAsks.radio, hAsks.asked]
    have hMore : d.radio.Proper (Wants (d.asked ++ [serial])) := by
      refine h.proper.mono ?_
      rintro k filter ⟨other, hOther, hFilter⟩
      exact ⟨other, List.getElem?_append_left (List.getElem?_eq_some_iff.mp hOther).1 ▸ hOther,
        hFilter⟩
    refine hMore.started hIdle fun filter hFilter => ⟨serial, ?_, hFilter⟩
    rw [← h.asked]
    exact List.getElem?_concat_length
  · rw [hAsks.asked, hConnections, List.length_append, h.asked]
    rfl
  · rw [hAsks.channel, hConnections]
    rintro k ⟨⟩
    rfl

theorem Coherent.strides (h : d.Coherent) (hStrides : d.Strides e) : e.Coherent := by
  induction hStrides with
  | refl => exact h
  | tail _ hLast ih => exact ih.stride hLast

/-- Between events the dispatcher is steady besides. -/
theorem Coherent.step (h : d.Coherent) (hSteady : d.Steady) (event : Event) :
    (d.step event).Coherent := by
  have hArrives (hEvent : ∀ i, event ≠ .device i) : (d.step event).Coherent := by
    rcases step_arrives d hEvent with hStrides | ⟨serial, f, hAsks, hStrides⟩
    · exact h.strides hStrides
    · exact (h.asks hAsks (hSteady.idle (by simp [hAsks.free]))).strides hStrides
  cases event with
  | device i =>
      obtain ⟨-, -, -, -, hConnections, -⟩ := Radio.react_frame d.radio i
      have hMoves : d.radio.MovesBy (· = .device i) (d.radio.react i) :=
        (Radio.Move.reacted d.radio i).by rfl
      refine ⟨h.proper.background rfl hMoves, h.asked.trans hConnections.symm, fun k hListens => ?_⟩
      exact (h.channel k hListens).trans hConnections.symm
  | _ => exact hArrives (by simp)

end Dispatcher

end LockRelay
