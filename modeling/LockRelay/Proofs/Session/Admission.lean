import LockRelay.Proofs.Advert.Targets
import LockRelay.Proofs.Session.Acknowledged
import LockRelay.Proofs.Session.Representation

/-! Which devices a session is bound to. A device is found by discovery, which admits it by the filter
for the serial number asked for, and a link stays with the device and the filter that it was made
with. A filter admits a device exactly if the device advertises that serial number as a lock that is
neither updating nor waiting to be installed. -/
namespace LockRelay

namespace Radio

variable {s t : Radio} {m : Mover} {filter : DiscoveryFilter} {d : DeviceId}

/-- Devices in range go on advertising what they did. -/
theorem Move.adverts (hMove : s.Move m t) (hRange : d < s.devices.length) :
    (t.device d).adverts = (s.device d).adverts := by
  cases hMove with
  | called i device call succeeded hDevice hMay hServed =>
      exact kept_setDevice Device.adverts hServed.adverts d
  | cleared =>
      unfold device
      rw [devices_clear]
  | readopted i endpoints =>
      unfold device
      rw [(readopt_frame s i endpoints).1]
  | demoted seen =>
      unfold device
      rw [(dropped_frame s seen).1]
  | delivered id i connection queue =>
      rw [foldl_frames]
      rfl
  | woken p =>
      unfold wake
      split_ifs <;> rfl
  | reacted event => exact react_kept Device.adverts event (fun _ _ _ _ _ _ => rfl) hRange
  | _ => rfl

/-- A device in range is admitted by a filter, which is one for some serial number. -/
def Suits (s : Radio) (d : DeviceId) (filter : DiscoveryFilter) : Prop :=
  d < s.devices.length ∧ (∃ serial, DiscoveryFilter.forSerial serial = .ok filter) ∧
    filter.admits (s.device d).adverts = true

theorem Suits.move (h : s.Suits d filter) (hMove : s.Move m t) : t.Suits d filter :=
  ⟨h.1.trans_le hMove.length_le, h.2.1, hMove.adverts h.1 ▸ h.2.2⟩

theorem Suits.called (h : s.Suits d filter) (hCalled : s.Called m t) : t.Suits d filter :=
  hCalled.moves.keeps (P := (Suits · d filter)) (fun _ _ _ _ hMove h => h.move hMove) h

/-- What an operation has to go on with where it waits. -/
def Finds (s : Radio) : Point → Prop
  | .replacing request _ => ∃ serial, DiscoveryFilter.forSerial serial = .ok request.filter
  | .binding request d => s.Suits d request.filter
  | .sending _ | .rebinding _ | .disconnecting _ => True

/-- The session holds a device that its filter admits, and waits to bind only such a device. -/
structure Admitted (s : Radio) : Prop where
  held : ∀ d filter, s.session.link = some d → s.session.filter = some filter → s.Suits d filter
  waits : ∀ suspended, s.operation = some suspended → s.Finds suspended.point

theorem initial_admitted (devices : List Device) : (initial devices).Admitted := ⟨nofun, nofun⟩

theorem Finds.move {point : Point} (h : s.Finds point) (hMove : s.Move m t) : t.Finds point := by
  cases point with
  | replacing request i => exact h
  | binding request i => exact Suits.move h hMove
  | sending | rebinding | disconnecting => trivial

theorem Admitted.move (h : s.Admitted) (hMover : ∀ k, m ≠ .connecting k) (hMove : s.Move m t) :
    t.Admitted := by
  refine ⟨fun d filter hLink hFilter => ?_, fun suspended hOperation => ?_⟩
  · rcases hMove.binding_cases hMover with hSame | ⟨-, hNone⟩
    · have hLink' : s.session.link = some d := (congrArg (·.1) hSame).symm.trans hLink
      have hFilter' : s.session.filter = some filter := (congrArg (·.2.2) hSame).symm.trans hFilter
      exact (h.held d filter hLink' hFilter').move hMove
    · cases (congrArg (·.1) hNone).symm.trans hLink
  · rcases hMove.operation_cases with hSame | hNone | ⟨other, hOther, hSame⟩
    · exact (h.waits suspended (hSame.symm.trans hOperation)).move hMove
    · cases hNone.symm.trans hOperation
    · obtain rfl : other = suspended := Option.some.inj (hOther.symm.trans hOperation)
      rcases hPoint : other.point with request | request | data | data | i
      all_goals rw [hPoint] at hSame
      · exact absurd hSame.symm (hMover _)
      · exact absurd hSame.symm (hMover _)
      all_goals trivial

theorem Admitted.moves (h : s.Admitted) (hMover : ∀ k, m ≠ .connecting k)
    (hMoves : s.MovesBy (· = m) t) : t.Admitted := by
  refine hMoves.keeps ?_ h
  rintro _ u v rfl hMove h
  exact h.move hMover hMove

/-- How far a request for a connection gets: what it has found is admitted. -/
structure Chooses (p : Radio × Progress) : Prop where
  held : ∀ d filter, p.1.session.link = some d → p.1.session.filter = some filter →
    p.1.Suits d filter
  waits : match p.2 with
    | .done _ => True
    | .waiting _ _ point => p.1.Finds point

theorem Chooses.done {outcome : Outcome} (hLink : s.session.link = none) :
    Chooses (s, .done outcome) := by
  refine ⟨fun d filter hHeld => ?_, trivial⟩
  cases hLink.symm.trans hHeld

theorem Chooses.note {p : Radio × Progress} (h : Chooses p) (hIdle : p.1.operation = none) :
    (note p).1.Admitted := by
  obtain ⟨t, outcome | ⟨d, answer, point⟩⟩ := p
  · refine ⟨h.held, fun suspended hOperation => ?_⟩
    cases hIdle.symm.trans hOperation
  · refine ⟨h.held, ?_⟩
    rintro suspended ⟨⟩
    exact h.waits

variable {request : ConnectRequest}

theorem ask_chooses {point : Point} {next : Radio → Except LinkError Bool → Radio × Progress}
    (hLink : s.session.link = none) (hPoint : ∀ t, s.Called m t → t.Finds point)
    (hNext : ∀ t answer, s.Called m t → Chooses (next t answer)) :
    Chooses (s.ask d point next) := by
  obtain ⟨hCalled, -⟩ := isConnected_called (m := m) s d
  unfold ask
  rcases hCheck : s.isConnected d with ⟨t, answer | answer⟩
  all_goals rw [hCheck] at hCalled
  · exact hNext t answer hCalled
  · refine ⟨fun d filter hHeld => ?_, hPoint t hCalled⟩
    have hLink' : t.session.link = none := (congrArg Session.link hCalled.session).trans hLink
    cases hLink'.symm.trans hHeld

theorem rejectDevice_chooses (d : DeviceId) (error : ConnectError) (hIdle : s.operation = none)
    (hLink : s.session.link = none) : Chooses (s.rejectDevice d error) := by
  have hCalled := disconnectLink_called (m := .connecting 0) (s := s) (d := d) ⟨hIdle, Or.inl hLink⟩
  exact .done ((congrArg Session.link hCalled.session).trans hLink)

/-- The device that was found is bound with the filter that admitted it, or not at all. -/
theorem bindFound_chooses (connected : Except LinkError Bool) (hIdle : s.operation = none)
    (hLink : s.session.link = none) (hSuits : s.Suits d request.filter) :
    Chooses (s.bindFound request d connected) := by
  obtain ⟨hBind, -⟩ :=
    bindLink_called (m := .connecting request.connection) request.filter connected (s := s)
      (d := d) ⟨hIdle, Or.inl hLink⟩
  have hReject {t : Radio} (hCalled : s.Called (.connecting request.connection) t)
      (error : ConnectError) : Chooses (t.rejectDevice d error) :=
    rejectDevice_chooses d error (hCalled.operation.trans hIdle)
      ((congrArg Session.link hCalled.session).trans hLink)
  unfold bindFound
  rcases hResult : s.bindLink d request.filter connected with ⟨t, error | none | endpoints⟩
  all_goals rw [hResult] at hBind
  · exact hReject hBind _
  · exact hReject hBind _
  obtain ⟨device, hServed, hState⟩ := drops_served t d
  have hCalled := hBind.trans (Called.of_served hServed hState rfl trivial rfl)
  simp only
  rcases hResult' : t.drops d with ⟨u, error | ⟨⟩⟩
  all_goals rw [hResult'] at hCalled
  · exact hReject hCalled _
  · refine ⟨?_, trivial⟩
    rintro _ _ ⟨⟩ ⟨⟩
    have hSuits' : u.Suits d request.filter := hSuits.called hCalled
    exact hSuits'

/-- Discovery finds a device in range that the filter admits. -/
theorem admits_of_discover (hFound : (s.discover filter).2 = .ok (some d)) :
    d < s.devices.length ∧ filter.admits (s.device d).adverts = true := by
  unfold discover at hFound
  split at hFound
  · cases hFound
  · obtain ⟨hRange, hAdmits, -⟩ := List.findIdx?_eq_some_iff_getElem.mp (Except.ok.inj hFound)
    refine ⟨hRange, ?_⟩
    rw [device, List.getD_eq_getElem _ _ hRange]
    exact hAdmits

theorem search_chooses (hIdle : s.operation = none) (hLink : s.session.link = none)
    (hAsked : ∃ serial, DiscoveryFilter.forSerial serial = .ok request.filter) :
    Chooses (s.search request) := by
  obtain ⟨hDiscover, -⟩ := discover_called (s := s.assign .connecting) (k := request.connection)
    request.filter hLink
  unfold search
  rcases hResult : (s.assign .connecting).discover request.filter with ⟨t, error | none | d⟩
  all_goals
    rw [hResult] at hDiscover
    have hIdle' : t.operation = none := hDiscover.operation.trans hIdle
    have hLink' : t.session.link = none := (congrArg Session.link hDiscover.session).trans hLink
  · exact .done hLink'
  · exact .done hLink'
  · have hFound := admits_of_discover (congrArg Prod.snd hResult)
    have hSuits : t.Suits d request.filter :=
      Suits.called ⟨hFound.1, hAsked, hFound.2⟩ hDiscover
    refine ask_chooses (m := .connecting request.connection) hLink'
      (fun u hCalled => hSuits.called hCalled) fun u answer hCalled => ?_
    exact bindFound_chooses answer (hCalled.operation.trans hIdle')
      ((congrArg Session.link hCalled.session).trans hLink') (hSuits.called hCalled)

theorem replace_chooses (d : DeviceId) (connected : Except LinkError Bool)
    (hIdle : s.operation = none) (hLink : s.session.link = none)
    (hAsked : ∃ serial, DiscoveryFilter.forSerial serial = .ok request.filter) :
    Chooses (s.replace request d connected) := by
  have hTaken := takeDown_called (m := .connecting request.connection) (s := s) (d := d) connected
    ⟨hIdle, Or.inl hLink⟩
  unfold replace
  rcases hResult : s.takeDown d connected with ⟨t, error | ⟨⟩⟩
  all_goals
    rw [hResult] at hTaken
    have hLink' : t.session.link = none := (congrArg Session.link hTaken.session).trans hLink
  · exact .done hLink'
  · exact search_chooses (hTaken.operation.trans hIdle) hLink' hAsked

theorem connect_chooses (serial : UInt64) (h : s.Admitted) (hIdle : s.operation = none) :
    Chooses (s.connect serial) := by
  unfold connect
  cases hFilter : DiscoveryFilter.forSerial serial with
  | error error =>
      exact ⟨h.held, trivial⟩
  | ok filter =>
      simp only
      cases hLink : s.session.link with
      | none => exact search_chooses hIdle hLink ⟨serial, hFilter⟩
      | some d =>
          refine ask_chooses (m := .connecting s.connections) rfl
            (fun t _ => ⟨serial, hFilter⟩) fun t answer hCalled => ?_
          refine replace_chooses d answer ?_ ?_ ⟨serial, hFilter⟩
          · exact hCalled.operation.trans ((operation_clear _).trans hIdle)
          · exact congrArg Session.link hCalled.session

theorem Admitted.start (h : s.Admitted) (operation : Operation) :
    (s.start operation).1.Admitted := by
  rcases Option.eq_none_or_eq_some s.operation with hIdle | ⟨suspended, hOperation⟩
  · have hMoves := (start_concludes operation hIdle).moves
    cases operation with
    | connect serial =>
        rw [start_connect hIdle]
        exact (connect_chooses serial h hIdle).note (connect_leads serial hIdle).idle
    | send data => exact h.moves (m := .sending) (by simp) hMoves
    | disconnect => exact h.moves (m := .disconnecting) (by simp) hMoves
  · rw [start_of_busy hOperation]
    exact h

theorem Admitted.resume (h : s.Admitted) (hSound : s.Sound) : s.resume.1.Admitted := by
  rcases Option.eq_none_or_eq_some s.operation with hNone | ⟨⟨answer, point⟩, hOperation⟩
  · rw [resume_of_idle hNone]
    exact h
  have hIdle := h.move (m := .scheduler) nofun (.resumed s)
  have hWaits := hSound.suspended _ hOperation
  have hFinds := h.waits _ hOperation
  have hConcludes := hSound.resume_concludes hOperation
  have hLeads := continueAt_leads (s := { s with operation := none }) rfl hWaits
  rw [resume_of_busy hOperation] at hConcludes ⊢
  cases point with
  | replacing request d =>
      exact (replace_chooses (s := { s with operation := none }) d _ rfl hWaits.1 hFinds).note
        hLeads.idle
  | binding request d =>
      have hSuits : Suits { s with operation := none } d request.filter :=
        Suits.move hFinds (.resumed s)
      exact (bindFound_chooses (s := { s with operation := none }) _ rfl hWaits.1 hSuits).note
        hLeads.idle
  | sending data => exact hIdle.moves (m := .sending) nofun hConcludes.moves
  | rebinding data => exact hIdle.moves (m := .sending) nofun hConcludes.moves
  | disconnecting d => exact hIdle.moves (m := .disconnecting) nofun hConcludes.moves

/-- What the session says of the device that it is bound to is so. -/
theorem Admitted.announces (h : s.Admitted) {serial : UInt32} (hLink : s.session.link = some d)
    (hSerial : s.session.serial = some serial) :
    ∃ entry ∈ (s.device d).adverts, entry.Announces serial := by
  obtain ⟨filter, hFilter, rfl⟩ := Option.map_eq_some_iff.mp hSerial
  obtain ⟨-, ⟨asked, hAsked⟩, hAdmits⟩ := h.held d filter hLink hFilter
  obtain ⟨entry, hEntry, hAccepts⟩ := List.any_eq_true.mp hAdmits
  refine ⟨entry, hEntry, (DiscoveryFilter.accepts_ofSerial_iff _ _).mp ?_⟩
  rwa [← DiscoveryFilter.eq_ofSerial hAsked]

end Radio

end LockRelay
