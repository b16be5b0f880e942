import LockRelay.Proofs.Dispatch.LoopSteps

/-! Relaying goes the way of the relay loop: drops are passed, a frame is put to the controller, and
its reply is obeyed. -/
namespace LockRelay.Dispatcher

variable {d e f : Dispatcher} {P Q R : Rest} {events : List Event}

/-- The way begins with a reply that is taken. -/
theorem Goes.replied {reply : Reply} {replies : List Reply}
    (h : Goes events { d with replies } P f Q) (hReplies : d.replies = reply :: replies)
    (hGoes : ∀ frames replies results, R frames (reply :: replies) results =
      P frames replies results) : Goes events d R f Q := by
  have hFirst : Goes [] d R { d with replies } P := by
    refine ⟨[], [], [reply], [], ⟨.of_same rfl rfl, rfl, ?_, ?_, ?_⟩, fun more others results => ?_⟩
    · exact (List.append_nil _).symm
    · exact hReplies.symm.trans (List.append_nil _).symm
    · exact (List.append_nil _).symm
    · exact hGoes more others results
  exact hFirst.trans h

theorem obey_goes (h : d.Free) {reply : Reply} {replies : List Reply}
    (hReplies : d.replies = reply :: replies) :
    Goes [] d d.answering ({ d with replies }.obey reply).1
      (restOf [] ({ d with replies }.obey reply)) := by
  have hFree : ({ d with replies } : Dispatcher).Free := h.noted rfl rfl rfl rfl
  have hDiscards (error : RelayError) : Goes [] { d with replies }
      (fun frames replies results => (d.looping frames replies results).after [.discarded error])
      ({ d with replies }.record (.discarded error))
      (restOf [] ({ d with replies }.record (.discarded error), some (.ok ()))) := by
    rw [restOf_nil]
    exact (Goes.refl _ _).noted rfl rfl rfl rfl (operations_record _ _) (shown_record _ rfl)
  rcases reply with error | ⟨serial, message⟩ | payload | _
  · exact (hDiscards error).replied hReplies fun _ _ _ => rfl
  · exact (hDiscards .unexpectedCommand).replied hReplies fun _ _ _ => rfl
  · have hPerformed : Goes [] { d with replies } _ _ _ :=
      perform_goes hFree (.sendPayload payload) (by simp)
    exact hPerformed.replied hReplies fun _ _ _ => rfl
  · have hPerformed : Goes [] { d with replies } _ _ _ :=
      perform_goes hFree .closeChannel (by simp)
    exact hPerformed.replied hReplies fun _ _ _ => rfl

/-- What is left once a frame was looked for. -/
def restFrom : Dispatcher × Next → Rest
  | (d, .ended result) => fun _ _ _ => Course.ended d.cipher result
  | (d, .empty) => d.looping
  | (d, .relayed) => d.answering

theorem passDrops_goes (d : Dispatcher) (P : Rest) : Goes [] d P d.passDrops P := by
  have hFront := List.prefix_iff_eq_take.mp (List.takeWhile_prefix (· = ChannelEvent.dropped) (l := d.inbox))
  have hNothing : (d.inbox.takeWhile (· = ChannelEvent.dropped)).filterMap
      ChannelEvent.payload? = [] := by
    refine List.filterMap_eq_nil_iff.mpr fun event hEvent => ?_
    have hDropped : event = .dropped := by simpa using List.mem_takeWhile_imp hEvent
    rw [hDropped]
    rfl
  refine ⟨[], [], [], [], ⟨.of_same rfl (foldl_replicate _ _ _ _ fun _ => rfl), rfl, ?_, ?_, ?_⟩,
    fun _ _ _ => rfl⟩
  · change (d.arrived.take (d.taken + _)).filterMap ChannelEvent.payload? = _
    rw [List.take_add, ← inbox_eq_drop, ← hFront, List.filterMap_append, hNothing]
    rfl
  · simp [passDrops]
  · simp [shown, passDrops, Act.shown]

theorem openFrame_opened (d : Dispatcher) (frame : Bytes) :
    d.openFrame frame =
      ({ d with cipher := (Course.opened d.cipher frame).1 },
        (Course.opened d.cipher frame).2) := by
  rcases d with ⟨radio, _ | cipher⟩
  · rfl
  · rfl

theorem relayFrame_goes {serial : UInt32} {frame : Bytes} {rest : List ChannelEvent}
    (hSerial : d.radio.session.serial = some serial) (hInbox : d.inbox = .frame frame :: rest) :
    Goes [] d d.looping ({ d with taken := d.taken + 1 }.relayFrame serial frame).1
      (restFrom ({ d with taken := d.taken + 1 }.relayFrame serial frame)) := by
  have hTakes {e : Dispatcher} {acts : List Act} (hRadio : e.radio = d.radio)
      (hChannel : e.channel = d.channel) (hTaken : e.taken = d.taken + 1)
      (hReplies : e.replies = d.replies) (hOperations : e.operations = d.operations)
      (hShown : e.shown = d.shown ++ acts) : Takes [] d [] [frame] [] acts e := by
    refine ⟨.of_same hRadio hOperations, hChannel, ?_, ?_, hShown⟩
    · have hNext : d.arrived.drop d.taken = .frame frame :: rest := by rw [← inbox_eq_drop, hInbox]
      have hArrived : e.arrived = d.arrived := by simp only [arrived, hRadio, hChannel]
      unfold consumed
      rw [hArrived, hTaken, take_succ_of_drop hNext, List.filterMap_append]
      rfl
    · simpa using hReplies
  have hReceived : ({ d with taken := d.taken + 1 }.record (.received frame)).cipher = d.cipher := rfl
  unfold relayFrame
  rw [openFrame_opened, hReceived]
  rcases hOpened : Course.opened d.cipher frame with ⟨cipher, error | payload⟩
  · refine ⟨[], [frame], [], [.received frame], hTakes rfl rfl rfl rfl ?_ ?_, fun _ _ _ => ?_⟩
    · exact operations_record d (.received frame)
    · exact shown_record d rfl
    · simp only [looping, hSerial, List.singleton_append, Course.loop, hOpened]
      rfl
  · refine ⟨[], [frame], [], [.received frame, .relayed serial payload],
      hTakes rfl rfl rfl rfl ?_ ?_, fun _ _ _ => ?_⟩
    · exact (operations_record _ (.relayed serial payload)).trans (operations_record d (.received frame))
    · have hShown : ((d.record (.received frame)).record (.relayed serial payload)).shown =
          d.shown ++ [.received frame, .relayed serial payload] := by
        rw [shown_record _ rfl, shown_record _ rfl, List.append_assoc]
        rfl
      exact hShown
    · simp only [looping, hSerial, List.singleton_append, Course.loop, hOpened]
      rw [← hSerial]
      rfl

/-- As long as there is a session, events can come for it. -/
theorem Free.listening (h : d.Free) {serial : UInt32}
    (hSerial : d.radio.session.serial = some serial) : d.listening = true := by
  obtain ⟨k, hHeld⟩ := h.coherent.proper.sound.onNotify_of_serial hSerial
  have hBelow := h.coherent.proper.numbered.onNotify k hHeld
  cases hChannel : d.channel with
  | none => exact absurd (h.tuned.first hChannel) (Nat.ne_zero_of_lt hBelow)
  | some i =>
      obtain rfl := h.coherent.listens_to_holder h.held hChannel hHeld
      simp [Dispatcher.listening, hChannel, hHeld]

theorem takeFrame_goes (h : d.Free) :
    Goes [] d d.looping d.takeFrame.1 (restFrom d.takeFrame) := by
  have hPassed := passDrops_goes d d.looping
  unfold takeFrame
  cases hSerial : d.radio.session.serial with
  | none =>
      have hOver : d.looping = fun _ _ _ => Course.ended d.cipher (.ok ()) := by
        funext frames replies results
        rw [looping, hSerial, Course.loop_none]
      rw [hOver]
      exact .refl d _
  | some serial =>
      have hListening : d.passDrops.listening = true := h.listening hSerial
      simp only [hListening, if_true]
      split
      · rename_i frame rest hInbox
        exact hPassed.trans (relayFrame_goes hSerial hInbox)
      · exact hPassed

/-- A frame that was looked for was found, or nothing is left in the queue, or the session is gone. -/
def Found : Dispatcher × Next → Prop
  | (d, .ended result) => result = .ok () → d.radio.session.serial = none
  | (d, .empty) => d.radio.session.serial.isSome ∧ d.inbox = []
  | (_, .relayed) => True

theorem inbox_passDrops (d : Dispatcher) :
    d.passDrops.inbox = d.inbox.dropWhile (· = ChannelEvent.dropped) := by
  have hLeft : (d.inbox.takeWhile (· = ChannelEvent.dropped) ++
      d.inbox.dropWhile (· = ChannelEvent.dropped)).drop
        (d.inbox.takeWhile (· = ChannelEvent.dropped)).length =
      d.inbox.dropWhile (· = ChannelEvent.dropped) := List.drop_left
  rw [List.takeWhile_append_dropWhile] at hLeft
  calc
    d.passDrops.inbox = d.arrived.drop (d.taken + _) := inbox_eq_drop d.passDrops
    _ = d.inbox.drop _ := by rw [inbox_eq_drop d, List.drop_drop]
    _ = d.inbox.dropWhile _ := hLeft

theorem takeFrame_found (h : d.Free) : Found d.takeFrame := by
  unfold takeFrame
  cases hSerial : d.radio.session.serial with
  | none => exact fun _ => hSerial
  | some serial =>
      have hListening : d.passDrops.listening = true := h.listening hSerial
      have hSome : d.passDrops.radio.session.serial.isSome := Option.isSome_of_mem hSerial
      simp only [hListening, if_true]
      split
      · unfold relayFrame
        rw [openFrame_opened]
        rcases Course.opened _ _ with ⟨cipher, error | payload⟩
        · exact nofun
        · trivial
      · rename_i hInbox
        refine ⟨hSome, ?_⟩
        have hFirst := List.head?_dropWhile_not (p := (· = ChannelEvent.dropped)) (l := d.inbox)
        rw [← inbox_passDrops] at hFirst
        rcases hQueue : d.passDrops.inbox with _ | ⟨frame | _, rest⟩
        · rfl
        · exact absurd hQueue (hInbox frame rest)
        · simp [hQueue] at hFirst

/-- Where looking for a frame has led. -/
structure Looked (d : Dispatcher) (p : Dispatcher × Next) : Prop where
  free : p.1.Free
  kept : p.1.relaying = d.relaying ∧ p.1.replies = d.replies
  goes : Goes [] d d.looping p.1 (restFrom p)
  found : Found p

theorem takeFrame_looked (h : d.Free) : d.Looked d.takeFrame := by
  have hRadio := radio_takeFrame d
  refine ⟨⟨h.coherent.strides (takeFrame_strides d), takeFrame_tuned h.tuned,
    (congrArg Radio.operation hRadio).trans h.idle, hRadio ▸ h.held⟩, ?_, takeFrame_goes h,
    takeFrame_found h⟩
  obtain ⟨cipher, taken, acts, hTaken⟩ := takeFrame_eq d
  rw [hTaken]
  exact ⟨rfl, rfl⟩

/-- Where a reply has led. -/
structure Obeyed (d : Dispatcher) (replies : List Reply) (p : Handled) : Prop where
  manned : Manned p
  kept : p.1.relaying = d.relaying ∧ p.1.replies = replies
  goes : Goes [] d d.answering p.1 (restOf [] p)

theorem obey_obeyed (h : d.Free) {reply : Reply} {replies : List Reply}
    (hReplies : d.replies = reply :: replies) :
    d.Obeyed replies ({ d with replies }.obey reply) := by
  have hFree : ({ d with replies } : Dispatcher).Free := h.noted rfl rfl rfl rfl
  refine ⟨hFree.manned (obey_strides _ reply) (obey_answered hFree.tuned hFree.idle reply), ?_,
    obey_goes h hReplies⟩
  rcases reply with error | ⟨serial, message⟩ | payload | _
  · exact ⟨rfl, rfl⟩
  · exact ⟨rfl, rfl⟩
  · exact (perform_attempt { d with replies } (.sendPayload payload)).2
  · exact (perform_attempt { d with replies } .closeChannel).2

/-- A run that has not come to its end relays frames. Where it waits for a frame or for a reply it has
taken all that there are, unless somebody is going to wake it; a run that has come to its end without a
failure has no session left. -/
structure Attends (woken : Prop) (d : Dispatcher) : Prop where
  relaying : d.waiting ≠ none → d.relaying = true
  event : d.waiting = some .event → d.radio.session.serial.isSome ∧ (woken ∨ d.inbox = [])
  reply : d.waiting = some .reply → woken ∨ d.replies = []
  ended : d.waiting = none → ∃ result, d.acts.getLast? = some (.returned result) ∧
    (result = .ok () → d.radio.session.serial = none)

/-- The dispatcher has gone on for as long as it could, and the loop has gone along. -/
structure Brings (d : Dispatcher) (P : Rest) (e : Dispatcher) : Prop where
  goes : Goes [] d P e e.rest
  attends : Attends False e

theorem Goes.brings (h : Goes [] d P e Q) (h' : Brings e Q f) : Brings d P f :=
  ⟨h.trans h'.goes, h'.attends⟩

theorem Brings.of_operation {message : Bytes} (h : Goes [] d P e e.rest)
    (hRelaying : e.relaying = true) (hWaiting : e.waiting = some (.operation message)) :
    Brings d P e :=
  ⟨h, fun _ => hRelaying, by simp [hWaiting], by simp [hWaiting], by simp [hWaiting]⟩

theorem conclude_brings (d : Dispatcher) {result : Result}
    (hOver : result = .ok () → d.radio.session.serial = none) :
    Brings d (fun _ _ _ => Course.ended d.cipher result) (d.conclude result) :=
  ⟨conclude_goes d result, fun hWaiting => absurd rfl hWaiting, nofun, nofun,
    fun _ => ⟨result, List.getLast?_concat, hOver⟩⟩

theorem relay_brings (h : d.Free) (hRelaying : d.relaying = true) {replies : List Reply}
    (hReplies : d.replies = replies) : Brings d d.looping (relay replies d) := by
  have hLooks {d e : Dispatcher} {replies : List Reply} {next : Next} (h : d.Free)
      (hReplies : d.replies = replies) (hTaken : { d with replies }.takeFrame = (e, next)) :
      d.Looked (e, next) := by
    subst hReplies
    exact hTaken ▸ takeFrame_looked h
  have hObeys {e f : Dispatcher} {reply : Reply} {replies : List Reply} {result : Option Result}
      (h : e.Free) (hReplies : e.replies = reply :: replies)
      (hObeyed : { e with replies }.obey reply = (f, result)) : e.Obeyed replies (f, result) :=
    hObeyed ▸ obey_obeyed h hReplies
  fun_induction relay replies d with
  | case1 replies d e result hTaken =>
      have hLooked := hLooks h hReplies hTaken
      exact hLooked.goes.brings (conclude_brings e hLooked.found)
  | case2 replies d e hTaken =>
      have hLooked := hLooks h hReplies hTaken
      obtain ⟨hSerial, hInbox⟩ := hLooked.found
      have hWaits := Goes.waits e (some .event) e.looping
      exact ⟨hLooked.goes.trans hWaits, fun _ => hLooked.kept.1.trans hRelaying,
        fun _ => ⟨hSerial, Or.inr hInbox⟩, by simp, by simp⟩
  | case3 d e hTaken =>
      have hLooked := hLooks h hReplies hTaken
      have hWaits := Goes.waits e (some .reply) e.answering
      exact ⟨hLooked.goes.trans hWaits, fun _ => hLooked.kept.1.trans hRelaying, by simp,
        fun _ => Or.inr (hLooked.kept.2.trans hReplies), by simp⟩
  | case4 d e reply replies f hObeyed hTaken ih =>
      have hLooked := hLooks h hReplies hTaken
      have hObeyed := hObeys hLooked.free (hLooked.kept.2.trans hReplies) hObeyed
      have hKept := hObeyed.kept.1.trans (hLooked.kept.1.trans hRelaying)
      have hGoes := hLooked.goes.trans hObeyed.goes
      rw [restOf_nil] at hGoes
      exact hGoes.brings (ih hObeyed.manned.free hKept hObeyed.kept.2)
  | case5 d e reply replies f error hObeyed hTaken =>
      have hLooked := hLooks h hReplies hTaken
      have hObeyed := hObeys hLooked.free (hLooked.kept.2.trans hReplies) hObeyed
      exact (hLooked.goes.trans hObeyed.goes).brings (conclude_brings f (by simp))
  | case6 d e reply replies f hObeyed hTaken =>
      have hLooked := hLooks h hReplies hTaken
      have hObeyed := hObeys hLooked.free (hLooked.kept.2.trans hReplies) hObeyed
      obtain ⟨message, hWaiting⟩ := hObeyed.manned.answered.stands
      exact .of_operation (hLooked.goes.trans hObeyed.goes)
        (hObeyed.kept.1.trans (hLooked.kept.1.trans hRelaying)) hWaiting

theorem proceed_brings {p : Handled} (h : Manned p) (hRelaying : p.1.relaying = true) :
    Brings p.1 (restOf [] p) (proceed p) := by
  rcases p with ⟨e, _ | (error | ⟨⟩)⟩
  · obtain ⟨message, hWaiting⟩ := h.answered.stands
    exact .of_operation (.refl e _) hRelaying hWaiting
  · exact conclude_brings e nofun
  · have hRelays : proceed (e, some (.ok ())) = e.relay e.replies := if_pos hRelaying
    rw [hRelays, restOf_nil]
    exact relay_brings h.free hRelaying rfl

/-- The session goes on with the operation that is waited for. -/
theorem resumed_goes (hRegular : d.radio.Regular) (hBound : d.taken ≤ d.arrived.length)
    {message : Bytes} (hWaiting : d.waiting = some (.operation message)) :
    Goes [] d d.rest (({ d with waiting := none } : Dispatcher).awaiting message d.radio.resume).1
      (restOf message
        (({ d with waiting := none } : Dispatcher).awaiting message d.radio.resume)) := by
  have hAims : Radio.Aims d.radio.aim d.radio.resume := by
    cases hOperation : d.radio.operation with
    | none =>
        rw [Radio.resume_of_idle hOperation]
        rfl
    | some suspended => exact hRegular.resume_aims hOperation
  have hGrows := Radio.grows_of_moves hRegular.sound.resume_reaches.moves
  have hRest : d.rest = fun frames replies results =>
      (Course.await d.cipher results fun results =>
        d.messaging message d.radio.aim frames replies results).after [] := by
    funext frames replies results
    simp only [rest, hWaiting, Course.after_nil]
  rw [hRest]
  exact awaiting_goes { d with waiting := none } .resume hAims hGrows hBound rfl rfl rfl rfl rfl
    (List.append_nil _).symm (List.append_nil _).symm message

theorem resume_of_operation {message : Bytes} (hWaiting : d.waiting = some (.operation message)) :
    d.resume = proceed (followWith message
      (({ d with waiting := none } : Dispatcher).awaiting message d.radio.resume)) := by
  unfold resume
  simp only [hWaiting]
  rcases d.radio.resume with ⟨radio, _ | outcome⟩
  · simp only [awaiting, followWith, proceed]
  · rfl

theorem resumed_manned (h : d.Coherent) (hSteady : d.Steady)
    (hHeld : d.radio.HeldSince d.radio.connections) (message : Bytes) :
    Manned (({ d with waiting := none } : Dispatcher).awaiting message d.radio.resume) := by
  have hStrides (waiting : Option Wait) :
      d.Strides { d with radio := d.radio.resume.1, waiting } :=
    stirred_strides d waiting .resumed .resume rfl rfl rfl
  rcases hResult : d.radio.resume with ⟨radio, _ | outcome⟩
  all_goals simp only [hResult] at hStrides
  · obtain ⟨hTuned, -⟩ := hSteady.tuned.resumed h.proper.sound hResult (some (.operation message))
    exact ⟨⟨hTuned, message, rfl⟩, h.strides (hStrides _), fun _ => h.held_strides hHeld (hStrides _)⟩
  · obtain ⟨hTuned, hIdle⟩ := hSteady.tuned.resumed h.proper.sound hResult none
    exact ⟨⟨hTuned, hIdle rfl⟩, h.strides (hStrides _), fun _ => h.held_strides hHeld (hStrides _)⟩

/-- Whoever waits for an event or for a reply leaves the session free. -/
theorem free_of_waiting (h : d.Coherent) (hSteady : d.Steady)
    (hHeld : d.radio.HeldSince d.radio.connections) {wait : Wait} (hWaiting : d.waiting = some wait)
    (hOther : ∀ message, wait ≠ .operation message) :
    ({ d with waiting := none } : Dispatcher).Free := by
  have hIdle : d.radio.operation = none := by
    refine hSteady.idle fun message hOperation => hOther message ?_
    exact Option.some.inj (hWaiting.symm.trans hOperation)
  exact ⟨h.of_same rfl rfl rfl, hSteady.tuned.of_same rfl rfl rfl, hIdle, hHeld⟩

/-- The command that waits for the session goes on with it. -/
theorem operation_brings (h : d.Coherent) (hSteady : d.Steady)
    (hHeld : d.radio.HeldSince d.radio.connections) (hRelaying : d.relaying = true) {message : Bytes}
    (hWaiting : d.waiting = some (.operation message)) : Brings d d.rest d.resume := by
  have hResumed := resumed_goes h.proper.regular hSteady.tuned.taken hWaiting
  have hManned := resumed_manned h hSteady hHeld message
  have hKept : (({ d with waiting := none } : Dispatcher).awaiting message
      d.radio.resume).1.relaying = true := by
    rcases d.radio.resume with ⟨radio, _ | outcome⟩ <;> exact hRelaying
  rw [resume_of_operation hWaiting]
  exact (hResumed.trans (followWith_goes hManned message)).brings
    (proceed_brings (hManned.followWith message)
      ((followWith_sameAttempt message _).relaying.trans hKept))

/-- The loop looks at the events again. -/
theorem event_brings (hFree : ({ d with waiting := none } : Dispatcher).Free)
    (hRelaying : d.relaying = true) (hWaiting : d.waiting = some .event) :
    Brings d d.rest d.resume := by
  have hRelays : d.resume = relay d.replies { d with waiting := none } := by
    simp only [resume, hWaiting]
  have hRest : d.rest = d.looping := by
    funext frames replies results
    simp only [rest, hWaiting]
  rw [hRelays, hRest]
  exact (Goes.waits d none d.looping).brings (relay_brings hFree hRelaying rfl)

/-- The loop obeys the reply that has come. -/
theorem reply_brings (hFree : ({ d with waiting := none } : Dispatcher).Free)
    (hRelaying : d.relaying = true) (hWaiting : d.waiting = some .reply) {reply : Reply}
    {replies : List Reply} (hReplies : d.replies = reply :: replies) : Brings d d.rest d.resume := by
  have hObeys : d.resume = proceed ({ d with replies, waiting := none }.obey reply) := by
    simp only [resume, hWaiting, hReplies]
  have hRest : d.rest = d.answering := by
    funext frames replies results
    simp only [rest, hWaiting]
  have hObeyed := obey_obeyed hFree hReplies
  rw [hObeys, hRest]
  exact ((Goes.waits d none d.answering).trans hObeyed.goes).brings
    (proceed_brings hObeyed.manned (hObeyed.kept.1.trans hRelaying))

/-- The dispatcher goes on with what is in progress. -/
theorem resume_brings {woken : Prop} (h : d.Coherent) (hSteady : d.Steady)
    (hHeld : d.waiting ≠ none → d.radio.HeldSince d.radio.connections) (hAttends : d.Attends woken) :
    Brings d d.rest d.resume := by
  have hStays (hSame : d.resume = d) (hEvent : d.waiting ≠ some .event)
      (hReply : d.waiting = some .reply → d.replies = []) : Brings d d.rest d.resume := by
    rw [hSame]
    exact ⟨.refl d _, hAttends.relaying, fun hWaiting => absurd hWaiting hEvent,
      fun hWaiting => Or.inr (hReply hWaiting), hAttends.ended⟩
  cases hWaiting : d.waiting with
  | none => exact hStays (by simp [resume, hWaiting]) (by simp [hWaiting]) (by simp [hWaiting])
  | some wait =>
  have hRelaying := hAttends.relaying (by simp [hWaiting])
  have hHeld := hHeld (by simp [hWaiting])
  cases wait with
  | operation message => exact operation_brings h hSteady hHeld hRelaying hWaiting
  | event => exact event_brings (free_of_waiting h hSteady hHeld hWaiting (by simp)) hRelaying hWaiting
  | reply =>
      cases hReplies : d.replies with
      | nil => exact hStays (by simp [resume, hWaiting, hReplies]) (by simp [hWaiting]) fun _ => hReplies
      | cons reply replies =>
          exact reply_brings (free_of_waiting h hSteady hHeld hWaiting (by simp)) hRelaying hWaiting
            hReplies

end LockRelay.Dispatcher
