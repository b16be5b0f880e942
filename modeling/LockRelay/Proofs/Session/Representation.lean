import LockRelay.Proofs.Advert.Targets
import LockRelay.Proofs.Session.DropReports
import LockRelay.Proofs.Session.Rebinding
import LockRelay.Proofs.Session.Requests

/-! What a session consists of. A link, its endpoints, the filter, the callback and two tasks are there
together or not at all, in every state that a history leads to, and what a send is told depends on
nothing else. -/
namespace LockRelay

namespace Radio

variable {s t : Radio} {m : Mover}

/-- A session with a link to a device has endpoints, the filter for its serial number, a callback and
two live tasks, which are all there are. -/
structure Equipped (s : Radio) (d : DeviceId) : Prop where
  linked : s.Linked d
  endpoints : s.session.endpoints ≠ none
  filter : ∃ serial filter, s.session.serial = some serial ∧ s.session.filter = some filter ∧
    DiscoveryFilter.forSerial serial.toUInt64 = .ok filter

/-- A session without a link has nothing else either, and no task is live. -/
structure Bare (s : Radio) : Prop extends s.Unlinked where
  endpoints : s.session.endpoints = none

/-- How the parts of a session and its state belong together. -/
structure Represented (s : Radio) : Prop where
  parts : (∃ d, s.Equipped d) ∨ s.Bare
  bound : s.session.state = .bound → ∃ d, s.Equipped d
  unbound : s.session.state = .idle ∨ s.session.state = .connecting → s.Bare

theorem Regular.bare (h : s.Regular) (hLink : s.session.link = none) : s.Bare := by
  refine ⟨h.sound.unlinked hLink, ?_⟩
  have hNone := h.furnished.endpoints
  rw [hLink] at hNone
  simpa using hNone

theorem Regular.equipped (h : s.Regular)
    (hRequested : s.Requested fun _ filter => ∃ serial, DiscoveryFilter.forSerial serial = .ok filter)
    {d : DeviceId} (hLink : s.session.link = some d) : s.Equipped d := by
  have hLinked := h.sound.linked hLink
  obtain ⟨k, notify, watch, queue, pending, check, hBy⟩ := id hLinked
  obtain ⟨filter, hFilter⟩ := Option.isSome_iff_exists.mp hBy.filter
  obtain ⟨serial, hAsked⟩ := hRequested.held k filter hBy.onNotify hFilter
  refine ⟨hLinked, ?_, filter.serial, filter, ?_, hFilter,
    (DiscoveryFilter.forSerial_ok hAsked).1⟩
  · have hSome := h.furnished.endpoints
    rw [hLink] at hSome
    simpa [Option.isSome_iff_ne_none] using hSome
  · rw [Session.serial, hFilter]
    rfl

theorem run_requested (devices : List Device) (history : List Event) :
    ((initial devices).run history).Requested
      fun _ filter => ∃ serial, DiscoveryFilter.forSerial serial = .ok filter := by
  induction history using List.reverseRecOn with
  | nil => exact initial_requested devices
  | append_singleton history event ih =>
      rw [run_concat]
      refine ih.step (run_regular devices history) fun operation _ => ?_
      cases operation with
      | connect serial => exact fun filter hFilter => ⟨serial, hFilter⟩
      | send data => trivial
      | disconnect => trivial

theorem run_represented (devices : List Device) (history : List Event) :
    ((initial devices).run history).Represented := by
  have hRegular := run_regular devices history
  have hRequested := run_requested devices history
  generalize (initial devices).run history = s at hRegular hRequested ⊢
  refine ⟨?_, fun hBound => ?_, fun hUnbound => ?_⟩
  · cases hLink : s.session.link with
    | none => exact Or.inr (hRegular.bare hLink)
    | some d => exact Or.inl ⟨d, hRegular.equipped hRequested hLink⟩
  · obtain ⟨d, hLink⟩ := Option.ne_none_iff_exists'.mp (hRegular.sound.bound hBound)
    exact ⟨d, hRegular.equipped hRequested hLink⟩
  · refine hRegular.bare ?_
    by_contra hLinked
    rcases hRegular.furnished.linked hLinked with hBound | hDropped
    · simp [hBound] at hUnbound
    · simp [hDropped] at hUnbound

/-! The state in which an operation returns. -/

theorem tearsDown_iff {operation : Operation} :
    (operation.mover s).tearsDown = false ↔ ¬(Event.start operation).TearsDown := by
  cases operation with
  | connect serial =>
      simp only [Operation.mover, Event.TearsDown]
      cases DiscoveryFilter.forSerial serial <;> simp [Mover.tearsDown]
  | send data => simp [Operation.mover, Mover.tearsDown, Event.TearsDown]
  | disconnect => simp [Operation.mover, Mover.tearsDown, Event.TearsDown]

theorem Regular.connecting_iff_of_told (h : s.Regular) {event : Event} {outcome : Outcome}
    (hTold : (outcome, t) ∈ s.toldBy event) :
    t.session.state = .connecting ↔ s.session.state = .connecting ∧
      ∃ operation, event = .start operation ∧ ¬event.TearsDown := by
  rcases mem_toldBy hTold with ⟨operation, rfl, hStart⟩ | ⟨hEvent, i, hTurn⟩
  · obtain ⟨hIdle, -⟩ := start_ended hStart
    obtain ⟨-, -, hState⟩ := h.started operation hIdle
    rw [hStart] at hState
    rw [hState outcome rfl, tearsDown_iff]
    simp
  · obtain ⟨rest, suspended, hReady, hOperation, hResume⟩ := mem_toldByTurn hTurn
    have hPolled := (h.turns i).regular.move (m := .scheduler) rfl (.polled _ _ _ hReady)
    obtain ⟨-, -, hState⟩ := hPolled.resumed hOperation
    rw [hResume] at hState
    refine iff_of_false (hState outcome rfl) ?_
    rintro ⟨-, operation, rfl, -⟩
    simp at hEvent

/-! What a send is told. -/

/-- All that a send needs to get at the lock. -/
structure Attached (s : Radio) : Prop where
  link : s.session.link ≠ none
  endpoints : s.session.endpoints ≠ none
  filter : s.session.filter ≠ none

theorem Attached.of_same (h : s.Attached) (hSession : t.session = s.session) : t.Attached := by
  refine ⟨?_, ?_, ?_⟩
  · rw [hSession]
    exact h.link
  · rw [hSession]
    exact h.endpoints
  · rw [hSession]
    exact h.filter

/-- The answer that there is no connection. -/
def Progress.RefusesToSend (p : Progress) : Prop := p = .done (.send (.error .notConnected))

theorem Attached.writeOut (h : s.Attached) (data : Bytes) :
    ¬(s.writeOut data).2.RefusesToSend := by
  obtain ⟨d, hLink⟩ := Option.ne_none_iff_exists'.mp h.link
  obtain ⟨endpoints, hEndpoints⟩ := Option.ne_none_iff_exists'.mp h.endpoints
  unfold Radio.writeOut
  rw [hLink, hEndpoints]
  simp only
  rcases s.write d endpoints.outbound data with ⟨t, error | ⟨⟩⟩ <;> simp [Progress.RefusesToSend]

theorem Attached.rebind (h : s.Attached) (data : Bytes) (connected : Except LinkError Bool)
    (hIdle : s.operation = none) (hState : s.session.state ≠ .bound) :
    ¬(s.rebind data connected).2.RefusesToSend := by
  obtain ⟨d, hLink⟩ := Option.ne_none_iff_exists'.mp h.link
  obtain ⟨filter, hFilter⟩ := Option.ne_none_iff_exists'.mp h.filter
  obtain ⟨hBind, -⟩ := bindLink_called (m := .sending) filter connected (s := s) (d := d)
    ⟨hIdle, Or.inr ⟨hLink, hState⟩⟩
  unfold Radio.rebind
  rw [hLink, hFilter]
  simp only
  rcases hResult : s.bindLink d filter connected with ⟨t, error | none | endpoints⟩
  · simp [Progress.RefusesToSend]
  · simp [Progress.RefusesToSend]
  · rw [hResult] at hBind
    have hAttached := h.of_same hBind.session
    obtain ⟨-, -, -, -, hLink', -⟩ := readopt_frame t d endpoints
    have hReadopted : (t.readopt d endpoints).Attached := by
      refine ⟨?_, ?_, ?_⟩
      · rw [hLink']
        exact hAttached.link
      · rw [endpoints_readopt]
        exact nofun
      · rw [filter_readopt]
        exact hAttached.filter
    exact hReadopted.writeOut data

theorem Attached.dropped (h : s.Attached) (seen : Option Nat) : (s.dropped seen).Attached := by
  rcases dropped_cases s seen with ⟨hSame, -⟩ | ⟨-, -, hChanged⟩
  · rw [hSame]
    exact h
  · rw [hChanged]
    exact ⟨h.link, h.endpoints, h.filter⟩

theorem ask_answers {d : DeviceId} {point : Point}
    {next : Radio → Except LinkError Bool → Radio × Progress}
    (hNext : ∀ t answer, s.Called .sending t → ¬(next t answer).2.RefusesToSend) :
    ¬(s.ask d point next).2.RefusesToSend := by
  obtain ⟨hCalled, -⟩ := isConnected_called (m := .sending) s d
  unfold ask
  rcases hCheck : s.isConnected d with ⟨t, answer | answer⟩
  · rw [hCheck] at hCalled
    exact hNext t answer hCalled
  · simp [Progress.RefusesToSend]

theorem Attached.sendChecked (h : s.Attached) (data : Bytes) (connected : Except LinkError Bool)
    (hIdle : s.operation = none) : ¬(s.sendChecked data connected).2.RefusesToSend := by
  obtain ⟨d, hLink⟩ := Option.ne_none_iff_exists'.mp h.link
  obtain ⟨filter, hFilter⟩ := Option.ne_none_iff_exists'.mp h.filter
  unfold Radio.sendChecked
  rcases connected with error | (_ | _)
  · simp [Progress.RefusesToSend]
  · rw [hLink, hFilter]
    refine ask_answers fun t answer hCalled => ?_
    have hOperation := (dropped_frame s none).2.2.1
    refine ((h.dropped none).of_same hCalled.session).rebind data answer ?_ ?_
    · exact hCalled.operation.trans (hOperation.trans hIdle)
    · rw [hCalled.session]
      exact state_dropped_none s
  · exact h.writeOut data

theorem Attached.send (h : s.Attached) (data : Bytes) (hIdle : s.operation = none) :
    ¬(s.send data).2.RefusesToSend := by
  obtain ⟨d, hLink⟩ := Option.ne_none_iff_exists'.mp h.link
  obtain ⟨endpoints, hEndpoints⟩ := Option.ne_none_iff_exists'.mp h.endpoints
  unfold Radio.send
  rw [hLink, hEndpoints]
  refine ask_answers fun t answer hCalled => ?_
  exact (h.of_same hCalled.session).sendChecked data answer (hCalled.operation.trans hIdle)

theorem Regular.attached (h : s.Regular) (hLink : s.session.link ≠ none) : s.Attached := by
  obtain ⟨d, hSome⟩ := Option.ne_none_iff_exists'.mp hLink
  obtain ⟨k, notify, watch, queue, pending, check, hBy⟩ := h.sound.linked hSome
  refine ⟨hLink, ?_, Option.isSome_iff_ne_none.mp hBy.filter⟩
  have hEndpoints := h.furnished.endpoints
  rw [hSome] at hEndpoints
  exact Option.isSome_iff_ne_none.mp hEndpoints

theorem note_eq {p : Radio × Progress} {outcome : Outcome} (h : note p = (t, some outcome)) :
    p.2 = .done outcome := by
  obtain ⟨u, outcome' | ⟨d, answer, point⟩⟩ := p
  · obtain rfl := Option.some.inj (congrArg Prod.snd h)
    rfl
  · cases congrArg Prod.snd h

/-- A send that starts without a link is refused at once. -/
theorem start_send_of_unlinked {data : Bytes} (hIdle : s.operation = none)
    (hLink : s.session.link = none) :
    s.start (.send data) = (s.record (.returned (.send (.error .notConnected))),
      some (.send (.error .notConnected))) := by
  simp [start, hIdle, send, hLink, note]

/-- A send is told that there is no connection exactly if it starts where there is no link. -/
theorem Regular.notConnected_iff_of_told (h : s.Regular) {event : Event}
    {result : Except SendError Unit} (hTold : (Outcome.send result, t) ∈ s.toldBy event) :
    result = .error .notConnected ↔ (∃ data, event = .start (.send data)) ∧ s.Bare := by
  rcases mem_toldBy hTold with ⟨operation, rfl, hStart⟩ | ⟨hEvent, i, hTurn⟩
  · obtain ⟨hIdle, hEnded⟩ := start_ended hStart
    obtain ⟨data, rfl⟩ := Operation.send_of_ends hEnded.ends
    refine ⟨?_, ?_⟩
    · rintro rfl
      refine ⟨⟨data, rfl⟩, h.bare ?_⟩
      by_contra hLinked
      have hSent : note (s.send data) = (t, some (.send (.error .notConnected))) := by
        simpa [start, hIdle] using hStart
      exact (h.attached hLinked).send data hIdle (note_eq hSent)
    · rintro ⟨-, hBare⟩
      rw [start_send_of_unlinked hIdle hBare.link] at hStart
      obtain ⟨-, hSame⟩ := Prod.mk.inj hStart
      exact (Outcome.send.inj (Option.some.inj hSame)).symm
  · obtain ⟨rest, suspended, hReady, hOperation, hResume⟩ := mem_toldByTurn hTurn
    have hPolled := (h.turns i).regular.move (m := .scheduler) rfl (.polled _ _ _ hReady)
    have hIdle := hPolled.move (m := .scheduler) rfl (.resumed _)
    have hEnded := hPolled.sound.resume_ended hOperation hResume
    have hSends := sending_of_ends hEnded.ends
    have hWaits := hPolled.sound.suspended suspended hOperation
    refine iff_of_false ?_ ?_
    · rintro rfl
      rw [resume_of_busy (s := { s.run (Radio.turns i) with ready := rest }) hOperation] at hResume
      have hDone := note_eq hResume
      cases hPoint : suspended.point with
      | sending data =>
          rw [hPoint] at hWaits hDone
          obtain ⟨d, hLink, -⟩ := hWaits
          have hAttached := hIdle.attached (Option.ne_none_iff_exists'.mpr ⟨d, hLink⟩)
          exact hAttached.sendChecked data _ rfl hDone
      | rebinding data =>
          rw [hPoint] at hWaits hDone
          obtain ⟨⟨d, hLink⟩, hState⟩ := hWaits
          have hAttached := hIdle.attached (Option.ne_none_iff_exists'.mpr ⟨d, hLink⟩)
          exact hAttached.rebind data _ rfl hState hDone
      | replacing | binding | disconnecting => rw [hPoint] at hSends; cases hSends
    · rintro ⟨⟨data, rfl⟩, -⟩
      simp at hEvent

/-- Whatever has happened, a session has all of its parts or none, as its state says. An operation
that returns leaves it connecting only if it found it so, and is a send or a connect that is refused
for its serial number. A send that starts is told that there is no connection exactly if the parts
are not there. -/
theorem represented_of_run (devices : List Device) (history : List Event) :
    ((initial devices).run history).Represented ∧
      (∀ event outcome t, (outcome, t) ∈ ((initial devices).run history).toldBy event →
        (t.session.state = .connecting ↔
          ((initial devices).run history).session.state = .connecting ∧
            ∃ operation, event = .start operation ∧ ¬event.TearsDown)) ∧
      (∀ event result t, (Outcome.send result, t) ∈ ((initial devices).run history).toldBy event →
        (result = .error .notConnected ↔ (∃ data, event = .start (.send data)) ∧
          ((initial devices).run history).Bare)) ∧
      (∀ data, ((initial devices).run history).operation = none →
        ((initial devices).run history).Bare →
          ∃ t, (Outcome.send (.error .notConnected), t) ∈
            ((initial devices).run history).toldBy (.start (.send data))) := by
  have hRegular := run_regular devices history
  refine ⟨run_represented devices history, fun event outcome t hTold => ?_,
    fun event result t hTold => ?_, fun data hIdle hBare => ?_⟩
  · exact hRegular.connecting_iff_of_told hTold
  · exact hRegular.notConnected_iff_of_told hTold
  · exact ⟨_, mem_told.mpr (start_send_of_unlinked hIdle hBare.link)⟩

/-- A send after the session was torn down. -/
theorem represented_of_run_after_disconnect :
    ((initial [.ofSerial 7]).run [.start (.connect 7), .start .disconnect]).Bare ∧
      ∃ t, (Outcome.send (.error .notConnected), t) ∈ ((initial [.ofSerial 7]).run
          [.start (.connect 7), .start .disconnect]).toldBy (.start (.send [1])) ∧
        t.session.state ≠ .connecting := by
  obtain ⟨-, hConnecting, hNotConnected, hTold⟩ :=
    represented_of_run [.ofSerial 7] [.start (.connect 7), .start .disconnect]
  obtain ⟨t, ht⟩ := hTold [1] rfl ⟨⟨rfl, rfl, rfl, rfl, rfl, rfl⟩, rfl⟩
  refine ⟨((hNotConnected _ _ _ ht).mp rfl).2, t, ht, fun hState => ?_⟩
  cases ((hConnecting _ _ _ ht).mp hState).1

/-- A connect is abandoned while it waits for the device that it has found, and a send is refused
then: it has returned, and the session is connecting. -/
theorem connecting_after_refused_send :
    ∃ t, (Outcome.send (.error .notConnected), t) ∈ ((initial [.ofSerial 7]).run
        [.device (.hold 0), .start (.connect 7), .abandon]).toldBy (.start (.send [1])) ∧
      t.operation = none ∧ t.session.state = .connecting :=
  ⟨_, List.mem_singleton.mpr rfl, rfl, rfl⟩

end Radio

end LockRelay
