import LockRelay.Proofs.Session.Admission

/-! A session that is made to do one thing at a time, with a journal of what it was asked for and what
came of it. Whoever drives it, each device has acknowledged, one after another and once each, just the
payloads of the sends that succeeded while the session was bound to it. -/
namespace LockRelay.Radio

/-- One thing that a session is made to do. -/
inductive Prompt where
  | start (operation : Operation)
  /-- The operation in progress gets the answer that it waits for. -/
  | resume
  /-- The operation in progress is dropped where it waits. -/
  | abandon
  /-- A background task runs until it has nothing left to do. -/
  | run (id : TaskId)
  /-- The first in the queue leaves it. -/
  | dequeue
  | wake (p : Participant)
  | device (event : DeviceEvent)

def Prompt.operation? : Prompt → Option Operation
  | .start operation => some operation
  | _ => none

def Prompt.event? : Prompt → Option DeviceEvent
  | .device event => some event
  | _ => none

def prompted (s : Radio) : Prompt → Radio × Option Outcome
  | .start operation => s.start operation
  | .resume => s.resume
  | .abandon => (s.abandon, none)
  | .run id => (s.runTask id, none)
  | .dequeue => ({ s with ready := s.ready.tail }, none)
  | .wake p => (s.wake p, none)
  | .device event => (s.react event, none)

/-- Where prompts lead, one after another. -/
def led (s : Radio) (prompts : List Prompt) : Radio :=
  prompts.foldl (fun s prompt => (s.prompted prompt).1) s

/-- What the caller is told on the way. -/
def tells (s : Radio) : List Prompt → List Outcome
  | [] => []
  | prompt :: rest => (s.prompted prompt).2.toList ++ (s.prompted prompt).1.tells rest

theorem led_append (s : Radio) (prompts later : List Prompt) :
    s.led (prompts ++ later) = (s.led prompts).led later := List.foldl_append

theorem tells_append (s : Radio) (prompts later : List Prompt) :
    s.tells (prompts ++ later) = s.tells prompts ++ (s.led prompts).tells later := by
  induction prompts generalizing s with
  | nil => rfl
  | cons prompt rest ih => simp [tells, ih, led]

/-- What a send of a payload delivers that ends in a session: nothing unless it succeeds, and then the
payload to the device that the session is bound to. -/
def delivery (payload : Option Bytes) (s : Radio) : Option Outcome → List (DeviceId × Bytes)
  | some (.send (.ok ())) =>
      match payload, s.session.link with
      | some data, some d => [(d, data)]
      | _, _ => []
  | _ => []

/-- A session with a journal. -/
structure Journal where
  radio : Radio
  /-- The devices that came into range, as they were then. -/
  arrived : List Device
  /-- The operations that were started, oldest first. -/
  started : List Operation := []
  /-- What the caller was told, oldest first. -/
  told : List Outcome := []
  /-- What sends delivered that succeeded. -/
  sent : List (DeviceId × Bytes) := []

namespace Journal

/-- The payload of the operation started last. -/
def payload (j : Journal) : Option Bytes := j.started.getLast?.bind Operation.payload

/-- Notes the operation that a prompt starts; while one is in progress none is. -/
def noteStart (j : Journal) : Prompt → Journal
  | .start operation =>
      if j.radio.operation.isSome then j else { j with started := j.started ++ [operation] }
  | .device (.appear device) => { j with arrived := j.arrived ++ [device] }
  | _ => j

/-- Notes where a prompt has led. -/
def noteEnd (j : Journal) : Radio × Option Outcome → Journal
  | (radio, outcome) =>
      { j with
        radio
        told := j.told ++ outcome.toList
        sent := j.sent ++ delivery j.payload radio outcome }

def add (j : Journal) (prompt : Prompt) : Journal :=
  (j.noteStart prompt).noteEnd (j.radio.prompted prompt)

def after (j : Journal) (prompts : List Prompt) : Journal := prompts.foldl add j

/-- A journal of a session that has done nothing yet. -/
def initial (devices : List Device) : Journal := { radio := Radio.initial devices, arrived := devices }

theorem after_append (j : Journal) (prompts later : List Prompt) :
    j.after (prompts ++ later) = (j.after prompts).after later := List.foldl_append

theorem radio_after (j : Journal) (prompts : List Prompt) :
    (j.after prompts).radio = j.radio.led prompts := by
  induction prompts generalizing j with
  | nil => rfl
  | cons prompt rest ih => exact ih (j.add prompt)

end Journal

/-! The history of a session as prompts. -/

def turnPrompts (s : Radio) : List Prompt :=
  match s.ready with
  | [] => []
  | .task id :: _ => [.dequeue, .run id]
  | .caller :: _ => [.dequeue, .resume]

def turnsPrompts : Nat → Radio → List Prompt
  | 0, _ => []
  | n + 1, s => if s.ready.isEmpty then [] else s.turnPrompts ++ turnsPrompts n s.poll

def stepPrompts (s : Radio) : Event → List Prompt
  | .start operation => [.start operation]
  | .abandon => [.abandon]
  | .turn => s.turnPrompts
  | .settle => turnsPrompts (3 * s.ready.length) s
  | .device event => [.device event]

def prompts (s : Radio) : List Event → List Prompt
  | [] => []
  | event :: rest => s.stepPrompts event ++ (s.step event).prompts rest

variable {s t : Radio} {j : Journal}

theorem Journal.after_turnPrompts (j : Journal) :
    (j.after j.radio.turnPrompts).radio = j.radio.poll := by
  unfold turnPrompts Radio.poll
  cases hReady : j.radio.ready with
  | nil => rfl
  | cons p rest =>
  have hTail : ({ j.radio with ready := j.radio.ready.tail } : Radio) =
      { j.radio with ready := rest } := by rw [hReady, List.tail_cons]
  cases p with
  | task id =>
      change ({ j.radio with ready := j.radio.ready.tail } : Radio).runTask id = _
      rw [hTail]
  | caller =>
      change ({ j.radio with ready := j.radio.ready.tail } : Radio).resume.1 = _
      rw [hTail]

theorem Journal.after_turnsPrompts (n : Nat) (j : Journal) :
    (j.after (turnsPrompts n j.radio)).radio = pollTimes n j.radio := by
  induction n generalizing j with
  | zero => rfl
  | succ n ih =>
      unfold turnsPrompts pollTimes
      split_ifs
      · rfl
      · rw [after_append, ← after_turnPrompts]
        exact ih _

theorem Journal.after_stepPrompts (j : Journal) (event : Event) :
    (j.after (j.radio.stepPrompts event)).radio = j.radio.step event := by
  cases event with
  | start operation =>
      rfl
  | abandon => rfl
  | turn => exact j.after_turnPrompts
  | settle => exact j.after_turnsPrompts _
  | device event => rfl

/-- A history is its prompts. -/
theorem Journal.after_prompts (j : Journal) (history : List Event) :
    (j.after (j.radio.prompts history)).radio = j.radio.run history := by
  induction history generalizing j with
  | nil => rfl
  | cons event rest ih =>
      have hStep := j.after_stepPrompts event
      have hRest := ih (j.after (j.radio.stepPrompts event))
      rw [hStep] at hRest
      rw [prompts, after_append]
      exact hRest

/-- Moves by anyone but a device. Who tears nothing down leaves the session bound as it is, and writes
to the device that it is bound to. -/
theorem Sound.receives {m : Mover} (hSound : s.Sound) (hDevice : ∀ event, m ≠ .device event)
    (hMoves : s.MovesBy (· = m) t) : ∃ deliveries, s.Receives deliveries t ∧
      (m.tearsDown = false → t.binding = s.binding ∧
        ∀ delivery ∈ deliveries, t.session.link = some delivery.1) := by
  have hBoth : t.devices.length = s.devices.length ∧ ∃ deliveries, s.Receives deliveries t ∧
      (m.tearsDown = false → t.binding = s.binding ∧
        ∀ delivery ∈ deliveries, t.session.link = some delivery.1) := by
    refine hSound.keeps (P := fun t => t.devices.length = s.devices.length ∧
      ∃ deliveries, s.Receives deliveries t ∧ (m.tearsDown = false → t.binding = s.binding ∧
        ∀ delivery ∈ deliveries, t.session.link = some delivery.1)) hMoves ?_
      ⟨rfl, [], .refl s, fun _ => ⟨rfl, nofun⟩⟩
    rintro _ u v rfl hSound hMove ⟨hLength, deliveries, hReceives, hKept⟩
    obtain ⟨later, hLater, hLink⟩ := hMove.receives hSound
    refine ⟨(hMove.length_eq hDevice).trans hLength, deliveries ++ later,
      hReceives.trans hLater (hLength ▸ hLater.inRange), fun hTearsDown => ?_⟩
    obtain ⟨hBinding, hDeliveries⟩ := hKept hTearsDown
    have hSame : v.binding = u.binding := binding_of_moves hTearsDown (hMove.by rfl)
    have hSameLink : v.session.link = u.session.link := congrArg (·.1) hSame
    refine ⟨hSame.trans hBinding, fun delivery hDelivery => ?_⟩
    rw [hSameLink]
    exact (List.mem_append.mp hDelivery).elim (hDeliveries delivery) (hLink delivery)
  exact hBoth.2

/-- An operation delivers its payload when a send succeeds, and otherwise nothing. -/
theorem Concludes.delivers {m : Mover} {payload : Option Bytes} {asked : Nat}
    {outcome : Option Outcome} (hSound : s.Sound) (hOperates : m.operates = true)
    (hSends : payload.isSome = true → m = .sending)
    (h : Concludes m payload asked s (t, outcome)) :
    s.Receives (delivery payload t outcome) t := by
  obtain ⟨deliveries, hReceives, hKept⟩ :=
    hSound.receives (Mover.ne_device_of_operates hOperates) h.moves
  have hAcknowledged : deliveries.map Prod.snd =
      (outcome.map (·.acknowledges payload)).getD [] :=
    List.append_cancel_left (hReceives.acknowledged.symm.trans h.acknowledged)
  have hNothing (hNone : (outcome.map (·.acknowledges payload)).getD [] = [])
      (hDelivery : delivery payload t outcome = []) :
      s.Receives (delivery payload t outcome) t := by
    rw [hNone, List.map_eq_nil_iff] at hAcknowledged
    rw [hDelivery]
    exact hAcknowledged ▸ hReceives
  rcases outcome with _ | result | (error | ⟨⟩) | result
  · exact hNothing rfl rfl
  · exact hNothing rfl rfl
  · exact hNothing rfl rfl
  · obtain ⟨-, hSend, d, hLink, -⟩ := h.stands
    obtain ⟨data, rfl⟩ := Option.isSome_iff_exists.mp hSend.symm
    obtain ⟨-, hDevices⟩ := hKept (hSends rfl ▸ rfl)
    obtain ⟨⟨i, written⟩, rfl, hWritten⟩ := List.map_eq_singleton_iff.mp hAcknowledged
    obtain rfl : written = data := hWritten
    obtain rfl : d = i := Option.some.inj (hLink.symm.trans (hDevices _ (List.mem_singleton_self _)))
    have hLink' : t.session.link = some d := hLink
    have hDelivery : delivery (some written) t (some (.send (.ok ()))) = [(d, written)] := by
      simp [delivery, hLink']
    rw [hDelivery]
    exact hReceives
  · exact hNothing rfl rfl

theorem Operation.sending_of_payload {operation : Operation}
    (h : operation.payload.isSome = true) : operation.mover s = .sending := by
  cases operation with
  | send data => rfl
  | connect | disconnect => cases h

theorem Point.sending_of_payload {point : Point} (h : point.payload.isSome = true) :
    point.mover = .sending := by
  cases point with
  | sending data | rebinding data => rfl
  | replacing | binding | disconnecting => cases h

/-- Moves by which nothing is sent. -/
theorem Advances.receives {m : Mover} (hSound : s.Sound)
    (hDevice : ∀ event, m ≠ .device event) (h : s.Advances (· = m) t) : s.Receives [] t := by
  obtain ⟨deliveries, hReceives, -⟩ := hSound.receives hDevice h.moves
  have hNothing : deliveries.map Prod.snd = [] := by
    apply List.append_cancel_left
    exact hReceives.acknowledged.symm.trans (h.acknowledged.trans (List.append_nil _).symm)
  exact List.map_eq_nil_iff.mp hNothing ▸ hReceives

namespace Journal

/-- What a journal says is so. -/
structure Faithful (j : Journal) : Prop where
  sound : j.radio.Sound
  admitted : j.radio.Admitted
  arrived : j.arrived.length = j.radio.devices.length
  written : ∀ d < j.radio.devices.length,
    (j.radio.device d).written = (j.arrived.getD d {}).written ++ sentTo d j.sent
  inRange : ∀ delivery ∈ j.sent, delivery.1 < j.radio.devices.length
  payload : ∀ suspended, j.radio.operation = some suspended →
    suspended.point.payload = j.payload

theorem initial_faithful (devices : List Device) : (initial devices).Faithful :=
  ⟨initial_sound devices, initial_admitted devices, rfl,
    fun _ _ => (List.append_nil _).symm, nofun, nofun⟩

/-- A step of the caller: nothing comes into range, and what is delivered is noted. -/
theorem Faithful.noteEnd (h : j.Faithful) {p : Radio × Option Outcome} (hSound : p.1.Sound)
    (hAdmitted : p.1.Admitted) (hLength : p.1.devices.length = j.radio.devices.length)
    (hReceives : j.radio.Receives (delivery j.payload p.1 p.2) p.1)
    (hPayload : ∀ suspended, p.1.operation = some suspended →
      suspended.point.payload = j.payload) : (j.noteEnd p).Faithful := by
  refine ⟨hSound, hAdmitted, h.arrived.trans hLength.symm, fun d hRange => ?_, ?_, hPayload⟩
  · have hRange' : d < j.radio.devices.length := hLength ▸ hRange
    change (p.1.device d).written = (j.arrived.getD d {}).written ++
      sentTo d (j.sent ++ delivery j.payload p.1 p.2)
    rw [hReceives.written d hRange', h.written d hRange', sentTo_append, List.append_assoc]
  · intro delivered hDelivered
    change delivered.1 < p.1.devices.length
    rw [hLength]
    exact (List.mem_append.mp hDelivered).elim (h.inRange delivered) (hReceives.inRange delivered)

/-- An operation of the session starts, or goes on. -/
theorem Faithful.concludes (h : j.Faithful) {p : Radio × Option Outcome} {m : Mover} {asked : Nat}
    (hOperates : m.operates = true) (hSends : j.payload.isSome = true → m = .sending)
    (hAdmitted : p.1.Admitted)
    (hConcludes : Concludes m j.payload asked { j.radio with operation := none } p) :
    (j.noteEnd p).Faithful := by
  have hSound : Sound { j.radio with operation := none } := h.sound.move (.resumed j.radio)
  obtain ⟨hAcknowledged, hWritten, hInRange, hLength⟩ :=
    Concludes.delivers hSound hOperates hSends hConcludes
  refine h.noteEnd (hSound.moves hConcludes.moves) hAdmitted hConcludes.length
    ⟨hAcknowledged, hWritten, hInRange, hLength⟩ fun suspended hOperation => ?_
  have hStands := hConcludes.stands
  rcases hOutcome : p.2 with _ | outcome
  all_goals rw [hOutcome] at hStands
  · obtain ⟨other, hOther, hPayload⟩ := hStands
    obtain rfl : other = suspended := Option.some.inj (hOther.symm.trans hOperation)
    exact hPayload
  · cases hStands.1.symm.trans hOperation

/-- Nothing of the session's operations moves. -/
theorem Faithful.advances (h : j.Faithful) {m : Mover} (hDevice : ∀ event, m ≠ .device event)
    (hConnects : ∀ k, m ≠ .connecting k) (hAdvances : j.radio.Advances (· = m) t) :
    (j.noteEnd (t, none)).Faithful := by
  refine h.noteEnd (h.sound.moves hAdvances.moves) (h.admitted.moves hConnects hAdvances.moves)
    hAdvances.length (hAdvances.receives h.sound hDevice) fun suspended hOperation => ?_
  exact h.payload suspended (hAdvances.operation.symm.trans hOperation)

theorem Faithful.start (h : j.Faithful) (operation : Operation) :
    (j.add (.start operation)).Faithful := by
  rcases Option.eq_none_or_eq_some j.radio.operation with hIdle | ⟨suspended, hBusy⟩
  · have hNoted : j.noteStart (.start operation) =
        { j with started := j.started ++ [operation] } := by simp [noteStart, hIdle]
    have hPayload : (j.noteStart (.start operation)).payload = operation.payload := by
      simp [hNoted, Journal.payload]
    have hFaithful : (j.noteStart (.start operation)).Faithful := by
      rw [hNoted]
      refine ⟨h.sound, h.admitted, h.arrived, h.written, h.inRange, fun suspended hOperation => ?_⟩
      cases hIdle.symm.trans hOperation
    have hSame : { (j.noteStart (.start operation)).radio with operation := none } = j.radio := by
      rw [hNoted, ← hIdle]
    have hConcludes : Concludes (operation.mover j.radio)
        (j.noteStart (.start operation)).payload operation.asked
        { (j.noteStart (.start operation)).radio with operation := none }
        (j.radio.start operation) := by
      rw [hSame, hPayload]
      exact start_concludes operation hIdle
    refine hFaithful.concludes (operation.mover_operates _) ?_ (h.admitted.start operation)
      hConcludes
    rw [hPayload]
    exact Operation.sending_of_payload
  · have hNoted : j.noteStart (.start operation) = j := by simp [noteStart, hBusy]
    have hStart : j.radio.prompted (.start operation) = (j.radio, none) :=
      start_of_busy hBusy operation
    rw [add, hNoted, hStart]
    exact h.advances (m := .scheduler) nofun nofun (.refl _)

theorem Faithful.resume (h : j.Faithful) : (j.add .resume).Faithful := by
  rcases Option.eq_none_or_eq_some j.radio.operation with hIdle | ⟨suspended, hBusy⟩
  · have hResume : j.radio.prompted .resume = (j.radio, none) := resume_of_idle hIdle
    rw [add, hResume]
    exact h.advances (m := .scheduler) nofun nofun (.refl _)
  · have hPayload := h.payload suspended hBusy
    have hConcludes := h.sound.resume_concludes hBusy
    rw [hPayload] at hConcludes
    refine h.concludes suspended.point.mover_operates ?_ (h.admitted.resume h.sound) hConcludes
    rw [← hPayload]
    exact Point.sending_of_payload

theorem Faithful.reacts (h : j.Faithful) {event : DeviceEvent}
    (hEvent : ∀ device, event ≠ .appear device) : (j.noteEnd (j.radio.react event, none)).Faithful := by
  have hMove := Move.reacted j.radio event
  have hLength := react_length (s := j.radio) event hEvent
  obtain ⟨-, hOperation, hTrace, -⟩ := react_frame j.radio event
  refine h.noteEnd (h.sound.move hMove) (h.admitted.move (m := .device event) nofun hMove)
    hLength ?_ fun suspended hWaits => h.payload suspended (hOperation.symm.trans hWaits)
  refine .of_same hLength.ge (fun d hRange => react_written event hRange) ?_
  exact congrArg (List.filterMap Effect.acknowledged?) hTrace

/-- Nothing was sent to a device that has just come into range. -/
theorem Faithful.appears (h : j.Faithful) (device : Device) :
    (j.add (.device (.appear device))).Faithful := by
  have hMove := Move.reacted j.radio (.appear device)
  have hShape : j.add (.device (.appear device)) = { j with
      radio := { j.radio with devices := j.radio.devices ++ [device] }
      arrived := j.arrived ++ [device] } := by
    simp [add, noteStart, Journal.noteEnd, prompted, react, delivery]
  rw [hShape]
  have hAdmitted := h.admitted.move (m := .device (.appear device)) (by simp) hMove
  refine ⟨h.sound.move hMove, hAdmitted, ?_, fun d hRange => ?_, ?_, h.payload⟩
  · simp [h.arrived]
  · rcases Nat.lt_or_ge d j.radio.devices.length with hBefore | hLast
    · rw [List.getD_append _ _ _ _ (h.arrived.symm ▸ hBefore), ← h.written d hBefore]
      exact react_written (.appear device) hBefore
    · have hLast : d = j.radio.devices.length := by
        simp only [List.length_append, List.length_singleton] at hRange
        omega
      have hNothing : sentTo d j.sent = [] :=
        sentTo_eq_nil fun delivered hSent => hLast ▸ (h.inRange delivered hSent).ne
      simp only [hNothing, List.append_nil, Radio.device]
      rw [hLast, List.getD_append_right _ _ _ _ (Nat.le_refl _), ← h.arrived,
        List.getD_append_right _ _ _ _ (Nat.le_refl _)]
  · intro delivered hSent
    exact (h.inRange delivered hSent).trans_le (by simp)

theorem Faithful.add (h : j.Faithful) (prompt : Prompt) : (j.add prompt).Faithful := by
  cases prompt with
  | start operation => exact h.start operation
  | resume => exact h.resume
  | abandon =>
      have hMove := Move.abandoned j.radio
      exact h.noteEnd (h.sound.move hMove) (h.admitted.move (m := .scheduler) nofun hMove) rfl
        (.of_same (Nat.le_refl _) (fun _ _ => rfl) rfl) nofun
  | run id => exact h.advances (m := .task id) nofun nofun (runTask_advances h.sound id)
  | dequeue =>
      refine h.advances (m := .scheduler) nofun nofun ?_
      cases hReady : j.radio.ready with
      | nil =>
          rw [List.tail_nil, ← hReady]
          exact .refl _
      | cons p rest =>
          exact .silent (.polled j.radio p rest hReady) rfl rfl rfl rfl
  | wake p =>
      refine h.advances (m := .scheduler) nofun nofun ?_
      have hMove := Move.woken j.radio p
      unfold wake at hMove ⊢
      split_ifs at hMove ⊢
      · exact .refl _
      · exact .silent hMove rfl rfl rfl rfl
  | device event =>
      cases event with
      | appear device => exact h.appears device
      | _ => exact h.reacts nofun

theorem Faithful.after (h : j.Faithful) (prompts : List Prompt) : (j.after prompts).Faithful := by
  induction prompts generalizing j with
  | nil => exact h
  | cons prompt prompts ih => exact ih (h.add prompt)

/-- Each device has acknowledged what was sent to it since it came into range, one payload after
another. -/
theorem Faithful.written_eq (h : j.Faithful) (d : DeviceId) :
    (j.radio.device d).written = (j.arrived.getD d {}).written ++ sentTo d j.sent := by
  rcases Nat.lt_or_ge d j.radio.devices.length with hRange | hBeyond
  · exact h.written d hRange
  · have hNothing : sentTo d j.sent = [] :=
      sentTo_eq_nil fun delivered hSent => ((h.inRange delivered hSent).trans_le hBeyond).ne
    rw [hNothing, Radio.device, List.getD_eq_default _ _ hBeyond,
      List.getD_eq_default _ _ (h.arrived ▸ hBeyond)]
    rfl

end Journal

end LockRelay.Radio
