import LockRelay.Dispatch.State
import LockRelay.Proofs.Session.Representation

/-! Which serial number the session is going to have, once the operation in progress has succeeded. -/
namespace LockRelay

def Point.aim (serial : Option UInt32) : Point → Option UInt32
  | .replacing request _ | .binding request _ => some request.filter.serial
  | .sending _ | .rebinding _ => serial
  | .disconnecting _ => none

theorem Point.aim_of_request {point : Point} {request : ConnectRequest}
    (h : point.request? = some request) (serial : Option UInt32) :
    point.aim serial = some request.filter.serial := by
  cases point with
  | replacing other d | binding other d =>
      obtain rfl : other = request := Option.some.inj h
      rfl
  | sending | rebinding | disconnecting => cases h

theorem Point.aim_of_sending {point : Point} (h : point.mover = .sending) (serial : Option UInt32) :
    point.aim serial = serial := by
  cases point with
  | sending data | rebinding data => rfl
  | replacing | binding | disconnecting => cases h

theorem Point.aim_of_disconnecting {point : Point} (h : point.mover = .disconnecting)
    (serial : Option UInt32) : point.aim serial = none := by
  cases point with
  | disconnecting d => rfl
  | replacing | binding | sending | rebinding => cases h

namespace Radio

/-- The serial number of the session after the operation in progress. -/
def aim (s : Radio) : Option UInt32 :=
  match s.operation with
  | some suspended => suspended.point.aim s.session.serial
  | none => s.session.serial

/-- The serial number of the session after an operation. -/
def Operation.aim (serial : Option UInt32) : Operation → Option UInt32
  | .connect asked => some asked.toUInt32
  | .send _ => serial
  | .disconnect => none

/-- An operation that waits is going to give the session a serial number, and one that has succeeded has
done so. -/
def Aims (serial : Option UInt32) : Radio × Option Outcome → Prop
  | (s, none) => s.aim = serial
  | (s, some outcome) => outcome.result = .ok () → s.session.serial = serial

variable {s t : Radio} {m : Mover} {request : ConnectRequest}

theorem aim_of_operation {suspended : Suspended} (h : s.operation = some suspended) :
    s.aim = suspended.point.aim s.session.serial := by
  unfold aim
  rw [h]

/-- A request that has succeeded has given the session its serial number. -/
theorem Pursues.aims {idles : Prop} {p : Radio × Progress} {payload : Option Bytes} {asked : Nat}
    (h : Pursues request idles s p) (hSound : (note p).1.Sound)
    (hConcludes : Concludes (.connecting request.connection) payload asked s (note p)) :
    Aims (some request.filter.serial) (note p) := by
  obtain ⟨t, outcome | ⟨d, answer, point⟩⟩ := p
  · intro hOk
    obtain ⟨-, -, hJustified⟩ := hConcludes.stands
    have hEnds := hConcludes.ends outcome rfl
    rcases outcome with (error | ⟨⟩) | result | result
    · cases hOk
    · obtain ⟨d, k, hOpened⟩ := hJustified
      obtain ⟨connection, notify, watch, queue, pending, check, hBy⟩ := hSound.linked hOpened.link
      obtain ⟨filter, hFilter⟩ := Option.isSome_iff_exists.mp hBy.filter
      obtain ⟨rfl, -⟩ := h.held filter hFilter
      exact congrArg (Option.map DiscoveryFilter.serial) hFilter
    · exact hEnds.elim
    · exact hEnds.elim
  · exact Point.aim_of_request h.stands.1 _

/-- A send leaves the serial number as it is. -/
theorem Concludes.aims_of_sending {payload : Option Bytes} {asked : Nat} {p : Radio × Option Outcome}
    (h : Concludes .sending payload asked s p) (hIdle : s.operation = none) :
    Aims s.session.serial p := by
  have hSerial := serial_of_binding (binding_of_moves rfl h.moves)
  obtain ⟨t, _ | outcome⟩ := p
  · obtain ⟨suspended, hOperation, -⟩ := h.stands
    have hSends := mover_of_moves hIdle h.moves hOperation
    exact (aim_of_operation hOperation).trans ((Point.aim_of_sending hSends _).trans hSerial)
  · exact fun _ => hSerial

/-- A disconnect has taken the serial number away. -/
theorem Concludes.aims_of_disconnecting {payload : Option Bytes} {asked : Nat}
    {p : Radio × Option Outcome} (h : Concludes .disconnecting payload asked s p)
    (hIdle : s.operation = none) (hNone : p.1.session.serial = none) : Aims none p := by
  obtain ⟨t, _ | outcome⟩ := p
  · obtain ⟨suspended, hOperation, -⟩ := h.stands
    have hDisconnects := mover_of_moves hIdle h.moves hOperation
    exact (aim_of_operation hOperation).trans (Point.aim_of_disconnecting hDisconnects _)
  · exact fun _ => hNone

/-- A connect whose serial number is refused ends at once. -/
theorem start_refused (hIdle : s.operation = none) {serial : UInt64} {error : SerialOutOfRange}
    (hFilter : DiscoveryFilter.forSerial serial = .error error) :
    (s.start (.connect serial)).2 = some (.connect (.error (.serial error))) := by
  simp [start, hIdle, connect, hFilter, note]

theorem Regular.start_aims (h : s.Regular) (hIdle : s.operation = none) (operation : Operation) :
    Aims (operation.aim s.session.serial) (s.start operation) := by
  have hConcludes := start_concludes operation hIdle
  have hSound := (h.started operation hIdle).1.sound
  cases operation with
  | connect asked =>
      cases hFilter : DiscoveryFilter.forSerial asked with
      | error error =>
          have hRefused := start_refused hIdle hFilter
          rcases hResult : s.start (.connect asked) with ⟨t, outcome⟩
          rw [hResult] at hRefused
          obtain rfl := hRefused
          simp [Aims, Outcome.result]
      | ok filter =>
          have hMover : (Operation.connect asked).mover s = .connecting s.connections := by
            simp only [Operation.mover, hFilter]
          obtain ⟨request, hConnection, rfl, hPursues⟩ :=
            connect_pursues h.sound h.furnished hIdle hFilter
          rw [hMover, ← hConnection] at hConcludes
          rw [start_connect hIdle] at hConcludes hSound ⊢
          have hAims := hPursues.aims hSound hConcludes
          have hSame : asked.toUInt32 = request.filter.serial := by
            rw [← (DiscoveryFilter.forSerial_ok hFilter).2, UInt32.toUInt32_toUInt64]
          simp only [Operation.aim, hSame]
          exact hAims
  | send data => exact hConcludes.aims_of_sending hIdle
  | disconnect =>
      have hSession := disconnect_session hIdle
      rw [start_disconnect hIdle] at hConcludes ⊢
      refine hConcludes.aims_of_disconnecting hIdle ?_
      rw [hSession]
      rfl

theorem Regular.resume_aims (h : s.Regular) {suspended : Suspended}
    (hOperation : s.operation = some suspended) : Aims s.aim s.resume := by
  have hConcludes := h.sound.resume_concludes hOperation
  have hSound := (h.resumed hOperation).1.sound
  have hWaits := h.sound.suspended suspended hOperation
  have hAim := aim_of_operation hOperation
  have hConnects {request : ConnectRequest} (hRequest : suspended.point.request? = some request) :
      Aims s.aim s.resume := by
    rw [hAim, Point.aim_of_request hRequest]
    rw [Point.connecting_of_request hRequest, resume_of_busy hOperation] at hConcludes
    rw [resume_of_busy hOperation] at hSound ⊢
    exact (h.continueAt_pursues hOperation hRequest).aims hSound hConcludes
  have hSends (hMover : suspended.point.mover = .sending) : Aims s.aim s.resume := by
    rw [hAim, Point.aim_of_sending hMover]
    rw [hMover] at hConcludes
    exact hConcludes.aims_of_sending rfl
  cases hPoint : suspended.point with
  | replacing request d => exact hConnects (by rw [hPoint]; rfl)
  | binding request d => exact hConnects (by rw [hPoint]; rfl)
  | sending data => exact hSends (by rw [hPoint]; rfl)
  | rebinding data => exact hSends (by rw [hPoint]; rfl)
  | disconnecting d =>
      rw [hPoint] at hConcludes hWaits
      have hResume := resume_of_busy hOperation
      rw [hPoint] at hResume
      have hSession : s.resume.1.session = s.session := by
        rw [hResume]
        exact finishDisconnect_session (s := { s with operation := none }) rfl hWaits
      rw [hAim, hPoint]
      refine hConcludes.aims_of_disconnecting rfl ?_
      rw [hSession, Session.serial, (h.sound.unlinked hWaits).filter]
      rfl

end Radio

end LockRelay
