import LockRelay.Proofs.Session.Numbers
import LockRelay.Proofs.Session.Told

/-! What a disconnect that succeeds says about the device. The session lets go of its link before it
asks the device anything, so a disconnect frees the device that the session was bound to last only
if the session still holds the link when it is called. -/
namespace LockRelay

theorem Point.disconnecting_of_ends {point : Point} {result : Except LinkError Unit}
    (h : point.mover.Ends (.disconnect result)) : ∃ d, point = .disconnecting d := by
  cases point with
  | disconnecting d => exact ⟨d, rfl⟩
  | _ => exact h.elim

namespace Radio

variable {s t : Radio} {m : Mover} {d : DeviceId}

/-- The device of the last link that the session has held, from a state on through a history. -/
def lastLink (s : Radio) : List Event → Option DeviceId
  | [] => s.session.link
  | event :: rest => ((s.step event).lastLink rest).or s.session.link

theorem lastLink_concat (s : Radio) (history : List Event) (event : Event) :
    s.lastLink (history ++ [event]) =
      (s.run (history ++ [event])).session.link.or (s.lastLink history) := by
  induction history generalizing s with
  | nil => rfl
  | cons first rest ih =>
      rw [List.cons_append, lastLink, ih, Option.or_assoc]
      rfl

/-- A link that is held is the last one. -/
theorem lastLink_of_link {history : List Event} (hLink : (s.run history).session.link = some d) :
    s.lastLink history = some d := by
  induction history using List.reverseRecOn with
  | nil => exact hLink
  | append_singleton history event _ => rw [lastLink_concat, hLink, Option.some_or]

/-! The calls that free a device. -/

theorem connected_setDevice_of_not_connected {device : Device} (hRange : d < s.devices.length)
    (hDevice : device.connected = false) : ((s.setDevice d device).device d).connected = false := by
  rw [device_setDevice, if_pos ⟨rfl, hRange⟩]
  exact hDevice

/-- A link that is taken down with success is down. -/
theorem takeDown_frees (connected : Except LinkError Bool) (hRange : d < s.devices.length)
    (hAnswer : connected = .ok false → (s.device d).connected = false)
    (hOk : (s.takeDown d connected).2 = .ok ()) :
    ((s.takeDown d connected).1.device d).connected = false := by
  unfold takeDown at hOk ⊢
  rcases connected with error | connected
  · cases hOk
  cases connected with
  | false => exact hAnswer rfl
  | true =>
      obtain ⟨device, hServed, hState⟩ := disconnectLink_served s d
      simp only at hOk ⊢
      rw [hOk] at hServed
      rw [hState]
      exact connected_setDevice_of_not_connected hRange hServed.connected

theorem finishDisconnect_frees {connected : Except LinkError Bool} (hRange : d < s.devices.length)
    (hAnswer : connected = .ok false → (s.device d).connected = false)
    (hTold : note (s.finishDisconnect d connected) = (t, some (.disconnect (.ok ())))) :
    (t.device d).connected = false := by
  have hFrees := takeDown_frees connected hRange hAnswer
  unfold finishDisconnect at hTold
  rcases hTaken : s.takeDown d connected with ⟨u, result⟩
  rw [hTaken] at hTold hFrees
  obtain ⟨hState, hOutcome⟩ := Prod.mk.inj hTold
  obtain rfl : result = .ok () := Outcome.disconnect.inj (Option.some.inj hOutcome)
  rw [← hState]
  exact hFrees rfl

/-- What a disconnect does that holds a link: it takes the link down at once, or waits with an
answer that was read from the device. -/
theorem disconnect_cases (hSound : s.Sound) (hLink : s.session.link = some d) :
    (∃ (u : Radio) (connected : Except LinkError Bool),
        s.disconnect = u.finishDisconnect d connected ∧ d < u.devices.length ∧
          (connected = .ok false → (u.device d).connected = false)) ∨
      ∃ (u : Radio) (answer : Bool), s.disconnect = (u, .waiting d answer (.disconnecting d)) ∧
        d < u.devices.length ∧ (answer = false → (u.device d).connected = false) := by
  have hRange : d < s.clear.devices.length := (devices_clear s).symm ▸ hSound.inRange d hLink
  obtain ⟨hCalled, -, hFits⟩ := isConnected_called (m := .disconnecting) s.clear d
  rcases hCheck : s.clear.isConnected d with ⟨u, answer | answer⟩
  all_goals
    rw [hCheck] at hCalled hFits
    have hRange' : d < u.devices.length := hCalled.length.symm ▸ hRange
  · refine Or.inl ⟨u, answer, by simp only [disconnect, hLink, ask, hCheck], hRange', ?_⟩
    rintro rfl
    exact hFits.symm
  · refine Or.inr ⟨u, answer, by simp only [disconnect, hLink, ask, hCheck], hRange', ?_⟩
    rintro rfl
    exact hFits.symm

theorem disconnect_frees (hSound : s.Sound) (hLink : s.session.link = some d)
    (hTold : note s.disconnect = (t, some (.disconnect (.ok ())))) :
    (t.device d).connected = false := by
  rcases disconnect_cases hSound hLink with
    ⟨u, connected, hEq, hRange, hAnswer⟩ | ⟨u, answer, hEq, -⟩
  all_goals rw [hEq] at hTold
  · exact finishDisconnect_frees hRange hAnswer hTold
  · cases hTold

/-- Where a disconnect waits, its link was the one given, and if it is to be told that the device is
not connected, the device is not. -/
def Parts (s : Radio) (d : DeviceId) : Prop :=
  ∀ answer i, s.operation = some ⟨answer, .disconnecting i⟩ →
    i = d ∧ i < s.devices.length ∧ (answer = false → (s.device i).connected = false)

theorem Parts.of_idle (hIdle : s.operation = none) : s.Parts d := by
  intro answer i hOperation
  cases hIdle.symm.trans hOperation

theorem disconnect_parts (hSound : s.Sound) (hIdle : s.operation = none)
    (hLink : s.session.link = some d) : (note s.disconnect).1.Parts d := by
  have hConcludes := (disconnect_leads hIdle).note
  rcases disconnect_cases hSound hLink with ⟨u, connected, hEq, -⟩ | ⟨u, answer, hEq, hRange, hDown⟩
  all_goals rw [hEq] at hConcludes ⊢
  · exact .of_idle hConcludes.stands.1
  · rintro _ _ ⟨⟩
    exact ⟨rfl, hRange, hDown⟩

/-- A device that is not connected stays so while an operation waits. -/
theorem Move.staysDown_of_waiting (hMove : s.Move m t) (hWaiting : s.operation ≠ none) :
    s.StaysDown t ∧ s.devices.length ≤ t.devices.length := by
  cases hMove with
  | called i device call succeeded hDevice hMay hServed =>
      refine ⟨staysDown_setDevice fun hDown => ?_, (length_setDevice s i device).ge⟩
      rw [hServed.connected, hDown]
      cases call with
      | connect e => exact absurd hMay.1 hWaiting
      | disconnect e => cases succeeded <;> rfl
      | _ => rfl
  | assigned state hIdle => exact absurd hIdle hWaiting
  | cleared hIdle => exact absurd hIdle hWaiting
  | adopted request i endpoints hIdle => exact absurd hIdle hWaiting
  | readopted i endpoints hIdle => exact absurd hIdle hWaiting
  | demoted seen =>
      have hDevices := (dropped_frame s seen).1
      refine ⟨fun i _ hDown => ?_, (congrArg List.length hDevices).ge⟩
      rw [device, hDevices]
      exact hDown
  | delivered id i connection queue =>
      rw [foldl_frames]
      exact ⟨fun _ _ hDown => hDown, Nat.le_refl _⟩
  | woken p =>
      unfold wake
      split_ifs <;> exact ⟨fun _ _ hDown => hDown, Nat.le_refl _⟩
  | reacted event =>
      obtain ⟨-, -, -, -, -, hLength, hDown⟩ := react_frame s event
      exact ⟨hDown, hLength⟩
  | _ => exact ⟨fun _ _ hDown => hDown, Nat.le_refl _⟩

/-- Nobody else touches a disconnect that waits. -/
theorem Parts.move (h : s.Parts d) (hMover : m ≠ .disconnecting) (hMove : s.Move m t) :
    t.Parts d := by
  intro answer i hOperation
  have hBefore : s.operation = some ⟨answer, .disconnecting i⟩ := by
    rcases hMove.operation_cases with hSame | hNone | ⟨other, hOther, hSame⟩
    · exact hSame.symm.trans hOperation
    · cases hNone.symm.trans hOperation
    · cases hOther.symm.trans hOperation
      exact absurd hSame.symm hMover
  obtain ⟨hSame, hRange, hDown⟩ := h answer i hBefore
  obtain ⟨hStays, hLength⟩ := hMove.staysDown_of_waiting (by rw [hBefore]; exact nofun)
  exact ⟨hSame, Nat.lt_of_lt_of_le hRange hLength, fun hFalse => hStays i hRange (hDown hFalse)⟩

theorem Parts.moves {who : Mover → Prop} (h : s.Parts d) (hWho : ∀ m, who m → m ≠ .disconnecting)
    (hMoves : s.MovesBy who t) : t.Parts d :=
  hMoves.keeps (P := (Parts · d)) (fun m _ _ hMover hMove h => h.move (hWho m hMover) hMove) h

/-- A disconnect that goes on comes to its end. -/
theorem Parts.resume (h : s.Parts d) (hSound : s.Sound) : s.resume.1.Parts d := by
  cases hOperation : s.operation with
  | none =>
      rw [resume_of_idle hOperation]
      exact h
  | some suspended =>
      have hConcludes := hSound.resume_concludes hOperation
      cases hPoint : suspended.point with
      | disconnecting i =>
          have hEnded : s.resume = note ({ s with operation := none }.finishDisconnect i
              (.ok suspended.answer)) := by
            simp only [Radio.resume, hOperation, hPoint, continueAt]
          rw [hEnded] at hConcludes ⊢
          exact .of_idle hConcludes.stands.1
      | _ =>
          have hIdle : ({ s with operation := none } : Radio).Parts d := .of_idle rfl
          refine hIdle.moves ?_ hConcludes.moves
          rintro _ rfl
          rw [hPoint]
          simp [Point.mover]

theorem Parts.poll (h : s.Parts d) (hSound : s.Sound) : s.poll.Parts d := by
  unfold Radio.poll
  cases hReady : s.ready with
  | nil => exact h
  | cons p rest =>
      have hPolled := polled_sound hSound hReady
      have hParts : ({ s with ready := rest } : Radio).Parts d := h
      cases p with
      | task id =>
          refine hParts.moves ?_ (runTask_advances hPolled id).moves
          rintro _ rfl
          exact nofun
      | caller => exact hParts.resume hPolled

theorem Parts.turns (h : s.Parts d) (hSound : s.Sound) (n : Nat) :
    (s.run (turns n)).Parts d := by
  induction n generalizing s with
  | zero => exact h
  | succ n ih => exact ih (h.poll hSound) (hSound.moves hSound.poll_moves)

theorem Operation.disconnect_of_ends {operation : Operation} {result : Except LinkError Unit}
    (h : (operation.mover s).Ends (.disconnect result)) : operation = .disconnect := by
  cases operation with
  | disconnect => rfl
  | send data => exact h.elim
  | connect serial =>
      simp only [mover] at h
      split at h <;> exact h.elim

theorem disconnect_of_unlinked (hLink : s.session.link = none) :
    note s.disconnect =
      (s.clear.record (.returned (.disconnect (.ok ()))), some (.disconnect (.ok ()))) := by
  unfold disconnect
  rw [hLink]
  rfl

/-- Only a disconnect that starts comes to wait with another link. -/
theorem Parts.start (h : s.Parts d) (hSound : s.Sound) {operation : Operation}
    (hLinked : operation = .disconnect → s.session.link = some d ∨ s.session.link = none) :
    (s.start operation).1.Parts d := by
  cases hOperation : s.operation with
  | some suspended =>
      rw [start_of_busy hOperation]
      exact h
  | none =>
  cases operation with
  | disconnect =>
      rw [start_disconnect hOperation]
      rcases hLinked rfl with hLink | hLink
      · exact disconnect_parts hSound hOperation hLink
      · rw [disconnect_of_unlinked hLink]
        exact .of_idle ((operation_clear s).trans hOperation)
  | connect serial =>
      refine h.moves ?_ (start_concludes (.connect serial) hOperation).moves
      rintro _ rfl
      simp only [Operation.mover]
      split <;> simp
  | send data =>
      refine h.moves ?_ (start_concludes (.send data) hOperation).moves
      rintro _ rfl
      simp [Operation.mover]

theorem Parts.step (h : s.Parts d) (hSound : s.Sound) {event : Event}
    (hLinked : event = .start .disconnect → s.session.link = some d ∨ s.session.link = none) :
    (s.step event).Parts d := by
  cases event with
  | start operation => exact h.start hSound fun hSame => hLinked (congrArg Event.start hSame)
  | abandon => exact .of_idle rfl
  | turn => exact h.poll hSound
  | settle =>
      unfold Radio.step
      rw [settle_eq_run]
      exact h.turns hSound _
  | device event =>
      have hMover : Mover.device event ≠ .disconnecting := nofun
      exact h.move hMover (.reacted s event)

/-- Where a disconnect waits, its link was the last one that the session has held. -/
theorem run_parts {devices : List Device} {history : List Event}
    (hLast : (initial devices).lastLink history = some d) :
    ((initial devices).run history).Parts d := by
  induction history using List.reverseRecOn with
  | nil => exact .of_idle rfl
  | append_singleton history event ih =>
      intro answer i hOperation
      have hUnlinked := (run_sound devices (history ++ [event])).suspended _ hOperation
      rw [lastLink_concat, hUnlinked, Option.none_or] at hLast
      have hStep := (ih hLast).step (run_sound devices history) fun (_ : event = _) => by
        cases hLink : ((initial devices).run history).session.link with
        | none => exact Or.inr rfl
        | some e => exact Or.inl ((lastLink_of_link hLink).symm.trans hLast)
      rw [← run_concat] at hStep
      exact hStep answer i hOperation

/-- Whenever a disconnect succeeds, the device that the session was bound to last is not connected,
unless the session held no link any more when it was called: then the device is left alone. -/
theorem connected_after_disconnect_iff (devices : List Device) (history : List Event)
    (event : Event) (t : Radio) (d : DeviceId)
    (hTold : (Outcome.disconnect (.ok ()), t) ∈ ((initial devices).run history).toldBy event)
    (hLast : (initial devices).lastLink history = some d) :
    (t.device d).connected = true ↔
      event = .start .disconnect ∧ ((initial devices).run history).session.link = none ∧
        (((initial devices).run history).device d).connected = true := by
  have hSound := run_sound devices history
  have hParts := run_parts hLast
  have hLinked (e : DeviceId) (hLink : ((initial devices).run history).session.link = some e) :
      e = d := Option.some.inj ((lastLink_of_link hLink).symm.trans hLast)
  generalize (initial devices).run history = s at hTold hSound hParts hLinked ⊢
  rcases mem_toldBy hTold with ⟨operation, rfl, hStart⟩ | ⟨hEvent, n, hTurn⟩
  · obtain ⟨hIdle, hEnded⟩ := start_ended hStart
    obtain rfl := Operation.disconnect_of_ends hEnded.ends
    rw [start_disconnect hIdle] at hStart
    cases hLink : s.session.link with
    | none =>
        rw [disconnect_of_unlinked hLink] at hStart
        obtain rfl := (Prod.mk.inj hStart).1
        rw [device_record, device, device, devices_clear]
        simp
    | some e =>
        obtain rfl := hLinked e hLink
        simp [disconnect_frees hSound hLink hStart]
  · have hFreed : (t.device d).connected = false := by
      have hSound' := hSound.moves (hSound.run_moves (turns n))
      have hParts' := hParts.turns hSound n
      generalize s.run (turns n) = u at hTurn hSound' hParts'
      obtain ⟨rest, suspended, hReady, hOperation, hResume⟩ := mem_toldByTurn hTurn
      have hEnded := (polled_sound hSound' hReady).resume_ended hOperation hResume
      obtain ⟨i, hPoint⟩ := Point.disconnecting_of_ends hEnded.ends
      obtain ⟨rfl, hRange, hDown⟩ := hParts' suspended.answer i (by rw [hOperation, ← hPoint])
      simp only [resume, hOperation, hPoint, continueAt] at hResume
      exact finishDisconnect_frees (s := { u with ready := rest, operation := none }) hRange
        (fun h => hDown (Except.ok.inj h)) hResume
    rcases hEvent with rfl | rfl <;> simp [hFreed]

/-- A disconnect whose check of the link is held back, until the device answers. -/
theorem connected_after_held_disconnect_iff :
    let history : List Event :=
      [.start (.connect 7), .device (.hold 0), .start .disconnect, .device (.release 0)]
    ∃ t, (Outcome.disconnect (.ok ()), t) ∈ ((initial [.ofSerial 7]).run history).toldBy .turn ∧
      (initial [.ofSerial 7]).lastLink history = some 0 ∧
      ((t.device 0).connected = true ↔
        Event.turn = .start .disconnect ∧
          ((initial [.ofSerial 7]).run history).session.link = none ∧
          (((initial [.ofSerial 7]).run history).device 0).connected = true) := by
  intro history
  have hTold : (Outcome.disconnect (.ok ()), ((initial [.ofSerial 7]).run history).poll) ∈
      ((initial [.ofSerial 7]).run history).toldBy .turn := List.mem_singleton.mpr rfl
  exact ⟨_, hTold, rfl, connected_after_disconnect_iff [.ofSerial 7] history .turn _ 0 hTold rfl⟩

/-- A disconnect that fails has let go of the link, so the next one succeeds and leaves the device
connected. -/
theorem connected_after_failed_disconnect :
    let history : List Event := [.start (.connect 7), .device (.fault 0 .disconnect
      (CallFault.make (.unavailable "busy") (some 1))), .start .disconnect]
    ∃ t, (Outcome.disconnect (.ok ()), t) ∈
        ((initial [.ofSerial 7]).run history).toldBy (.start .disconnect) ∧
      (initial [.ofSerial 7]).lastLink history = some 0 ∧ (t.device 0).connected = true :=
  ⟨_, List.mem_singleton.mpr rfl, rfl, rfl⟩

end Radio

end LockRelay
