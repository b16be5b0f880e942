import LockRelay.Proofs.Session.Inbox

/-! Which of the payloads that a device notifies are handed over in the end. All are, in the order
in which they were notified, apart from those that wait when a send binds the link again: they are
lost with the task in whose queue they are. -/
namespace LockRelay.Radio

variable {s t : Radio} {d : DeviceId} {k : ConnectionId} {id : TaskId}

/-- The payload that a device notifies in an event, and whether its link is up. -/
def notifiedBy (s : Radio) (d : DeviceId) : Event → List (Bytes × Bool)
  | .device (.notify i payload) => if i = d then [(payload, (s.device d).connected)] else []
  | _ => []

/-- The payloads that a device notifies in a history, oldest first. -/
def notified (s : Radio) (d : DeviceId) : List Event → List (Bytes × Bool)
  | [] => []
  | event :: rest => s.notifiedBy d event ++ (s.step event).notified d rest

/-- No payload of a device meets a full queue in a history. -/
def HasRoom (s : Radio) (d : DeviceId) : List Event → Prop
  | [] => True
  | event :: rest =>
      (s.notifiedBy d event ≠ [] → s.undelivered.length < Task.notificationCapacity) ∧
        (s.step event).HasRoom d rest

/-- In an event the session gives up its notification task, while so many payloads wait. -/
inductive GivesUp : Radio → Event → Nat → Prop where
  | atOnce (s : Radio) (event : Event) (hEvent : event ≠ .settle)
      (hOther : (s.step event).session.notifyTask ≠ s.session.notifyTask) :
      GivesUp s event s.undelivered.length
  | settling (s : Radio) (i n : Nat) (hTurn : GivesUp (s.run (turns i)) .turn n) :
      GivesUp s .settle n

/-- Among the last payloads is one that was notified while the link was up. -/
def UpAmongLast (notified : List (Bytes × Bool)) (n : Nat) : Prop :=
  ∃ payload ∈ notified.rtake n, payload.2 = true

/-- In some event of a history the session gives up a payload that was notified while the link was
up. -/
def Loses (s : Radio) (d : DeviceId) (history : List Event) : Prop :=
  ∃ before event n, before ++ [event] <+: history ∧ (s.run before).GivesUp event n ∧
    UpAmongLast (s.notified d before) n

theorem notified_concat (s : Radio) (d : DeviceId) (history : List Event) (event : Event) :
    s.notified d (history ++ [event]) =
      s.notified d history ++ (s.run history).notifiedBy d event := by
  induction history generalizing s with
  | nil => exact List.append_nil _
  | cons first rest ih =>
      rw [List.cons_append, notified, ih, notified, List.append_assoc]
      rfl

theorem hasRoom_concat {history : List Event} {event : Event} :
    s.HasRoom d (history ++ [event]) ↔ s.HasRoom d history ∧
      ((s.run history).notifiedBy d event ≠ [] →
        (s.run history).undelivered.length < Task.notificationCapacity) := by
  induction history generalizing s with
  | nil => exact and_comm
  | cons first rest ih => exact (and_congr_right fun _ => ih).trans and_assoc.symm

theorem loses_concat {history : List Event} {event : Event} :
    s.Loses d (history ++ [event]) ↔ s.Loses d history ∨
      ∃ n, (s.run history).GivesUp event n ∧ UpAmongLast (s.notified d history) n := by
  constructor
  · rintro ⟨before, last, n, hPrefix, hLost⟩
    rcases List.prefix_concat_iff.mp hPrefix with hSame | hPrefix
    · obtain ⟨rfl, hLast⟩ := List.append_inj' hSame rfl
      obtain rfl := List.singleton_injective hLast
      exact Or.inr ⟨n, hLost⟩
    · exact Or.inl ⟨before, last, n, hPrefix, hLost⟩
  · rintro (⟨before, last, n, hPrefix, hLost⟩ | ⟨n, hLost⟩)
    · exact ⟨before, last, n, hPrefix.trans (List.prefix_append _ _), hLost⟩
    · exact ⟨history, event, n, List.prefix_rfl, hLost⟩

theorem not_loses_nil : ¬s.Loses d [] := by
  rintro ⟨before, event, n, hPrefix, -⟩
  simpa using List.prefix_nil.mp hPrefix

theorem givesUp_iff {event : Event} (hEvent : event ≠ .settle) {n : Nat} :
    s.GivesUp event n ↔ (s.step event).session.notifyTask ≠ s.session.notifyTask ∧
      n = s.undelivered.length := by
  constructor
  · intro h
    cases h with
    | atOnce _ _ _ hOther => exact ⟨hOther, rfl⟩
    | settling => exact absurd rfl hEvent
  · rintro ⟨hOther, rfl⟩
    exact .atOnce s event hEvent hOther

/-- Once nobody has a turn coming, further turns change nothing. -/
theorem run_turns_of_le {n i : Nat} (hReady : (s.run (turns n)).ready = []) (hLe : n ≤ i) :
    s.run (turns i) = s.run (turns n) := by
  obtain ⟨rest, rfl⟩ := Nat.exists_eq_add_of_le hLe
  rw [turns, List.replicate_add, run_append, ← turns, ← turns, ← pollTimes_eq_run rest]
  exact pollTimes_of_ready_nil hReady rest

/-- What is given up while everything settles is given up in one of its turns. -/
theorem givesUp_settle_iff {n : Nat} (hReady : s.settle.ready = []) :
    s.GivesUp .settle n ↔ ∃ i < 3 * s.ready.length, (s.run (turns i)).GivesUp .turn n := by
  rw [settle_eq_run] at hReady
  constructor
  · intro h
    cases h with
    | atOnce _ _ hEvent => exact absurd rfl hEvent
    | settling _ i _ hTurn =>
        by_contra hLate
        have hLe : 3 * s.ready.length ≤ i := Nat.le_of_not_lt fun hi => hLate ⟨i, hi, hTurn⟩
        rw [run_turns_of_le hReady hLe] at hTurn
        have hEvent : Event.turn ≠ .settle := nofun
        exact ((givesUp_iff hEvent).mp hTurn).1
          (congrArg (·.session.notifyTask) (poll_of_ready_nil hReady))
  · rintro ⟨i, -, hTurn⟩
    exact .settling s i n hTurn

/-- An account of the payloads that were notified: those that wait are the last of them, and those
before were either handed over or lost. -/
structure Account (s : Radio) (d : DeviceId) (k : ConnectionId) (id : TaskId)
    (notified waiting handed lost : List (Bytes × Bool)) : Prop where
  inbox : s.Inbox d k id (waiting.map Prod.fst) (handed.map Prod.fst)
  gone : ∃ gone, notified = gone ++ waiting ∧ handed.Sublist gone ∧ gone.Perm (handed ++ lost)

/-- There is an account in which a payload that was notified while the link was up is among the lost
ones under a condition. -/
def Accounted (s : Radio) (d : DeviceId) (k : ConnectionId) (notified : List (Bytes × Bool))
    (condition : Prop) : Prop :=
  ∃ id waiting handed lost, Account s d k id notified waiting handed lost ∧
    ((∃ payload ∈ lost, payload.2 = true) ↔ condition)

variable {notified waiting handed lost : List (Bytes × Bool)} {condition : Prop}

theorem Account.rtake_undelivered (h : Account s d k id notified waiting handed lost)
    (hSound : s.Sound) : notified.rtake s.undelivered.length = waiting := by
  obtain ⟨gone, rfl, -⟩ := h.gone
  rw [h.inbox.undelivered hSound, List.length_map, List.rtake, List.length_append,
    Nat.add_sub_cancel, List.drop_left]

/-- The device notifies nothing. -/
theorem Account.proceeds (h : Account s d k id notified waiting handed lost)
    (hStep : Proceeds d k id (waiting.map Prod.fst) (handed.map Prod.fst) t) :
    ∃ id' waiting' handed' lost', Account t d k id' notified waiting' handed' lost' ∧
      (id' = id ∧ lost' = lost ∨ id' ≠ id ∧ lost' = lost ++ waiting) := by
  obtain ⟨gone, hNotified, hHanded, hPerm⟩ := h.gone
  cases hStep with
  | waiting hInbox => exact ⟨id, waiting, handed, lost, ⟨hInbox, h.gone⟩, Or.inl ⟨rfl, rfl⟩⟩
  | handedOver hInbox =>
      rw [← List.map_append] at hInbox
      refine ⟨id, [], handed ++ waiting, lost, ⟨hInbox, notified, (List.append_nil _).symm, ?_, ?_⟩,
        Or.inl ⟨rfl, rfl⟩⟩
      · rw [hNotified]
        exact hHanded.append_right waiting
      · rw [hNotified, List.append_assoc]
        refine (hPerm.append_right waiting).trans ?_
        rw [List.append_assoc]
        exact List.perm_append_comm.append_left handed
  | lost other hOther hInbox =>
      refine ⟨other, [], handed, lost ++ waiting,
        ⟨hInbox, notified, (List.append_nil _).symm, ?_, ?_⟩, Or.inr ⟨hOther, rfl⟩⟩
      · rw [hNotified]
        exact hHanded.trans (List.sublist_append_left gone waiting)
      · rw [hNotified, ← List.append_assoc]
        exact hPerm.append_right waiting

theorem Accounted.proceeds {event : Event} (h : Accounted s d k notified condition)
    (hSound : s.Sound) (hEvent : event ≠ .settle)
    (hStep : ∀ {id queue handed}, s.Inbox d k id queue handed →
      Proceeds d k id queue handed (s.step event)) :
    Accounted (s.step event) d k notified
      (condition ∨ ∃ n, s.GivesUp event n ∧ UpAmongLast notified n) := by
  obtain ⟨id, waiting, handed, lost, hAccount, hLost⟩ := h
  obtain ⟨id', waiting', handed', lost', hAccount', hCases⟩ :=
    hAccount.proceeds (hStep hAccount.inbox)
  refine ⟨id', waiting', handed', lost', hAccount', ?_⟩
  have hGivesUp : (∃ n, s.GivesUp event n ∧ UpAmongLast notified n) ↔
      id' ≠ id ∧ ∃ payload ∈ waiting, payload.2 = true := by
    simp only [givesUp_iff hEvent, and_assoc, exists_and_left, exists_eq_left, UpAmongLast,
      hAccount.rtake_undelivered hSound, hAccount.inbox.notifyTask, hAccount'.inbox.notifyTask,
      ne_eq, Option.some.injEq]
  rw [hGivesUp, ← hLost]
  rcases hCases with ⟨hSame, rfl⟩ | ⟨hOther, rfl⟩
  · simp [hSame]
  · simp [hOther, or_and_right, exists_or]

/-- The queue of a subscription after more payloads. -/
def pushAll (queue payloads : List Bytes) : List Bytes :=
  payloads.foldl (pushBounded Task.notificationCapacity) queue

theorem pushAll_sublist (queue payloads : List Bytes) :
    (pushAll queue payloads).Sublist (queue ++ payloads) := by
  induction payloads generalizing queue with
  | nil => simp [pushAll]
  | cons payload rest ih =>
      have hPushed : (pushBounded Task.notificationCapacity queue payload).Sublist
          (queue ++ [payload]) := List.drop_sublist _ _
      have hRest := (ih (pushBounded Task.notificationCapacity queue payload)).trans
        (hPushed.append_right rest)
      rwa [List.append_assoc] at hRest

theorem pushAll_notifiedBy {queue : List Bytes} (s : Radio) (d : DeviceId) (event : Event)
    (hRoom : s.notifiedBy d event ≠ [] → queue.length < Task.notificationCapacity) :
    pushAll queue ((s.notifiedBy d event).map Prod.fst) =
      queue ++ (s.notifiedBy d event).map Prod.fst := by
  have hOne : s.notifiedBy d event = [] ∨ ∃ payload, s.notifiedBy d event = [payload] := by
    unfold notifiedBy
    split
    · split_ifs <;> simp
    · exact Or.inl rfl
  rcases hOne with hNone | ⟨payload, hSome⟩
  · simp [hNone, pushAll]
  · have hFits : queue.length + 1 - Task.notificationCapacity = 0 :=
      Nat.sub_eq_zero_of_le (hRoom (by simp [hSome]))
    simp [hSome, pushAll, pushBounded, hFits]

/-- What a device does adds a payload to the queue, or nothing. A full queue loses its oldest one. -/
theorem Inbox.reacted {queue handed : List Bytes} (h : s.Inbox d k id queue handed)
    (event : DeviceEvent) :
    (s.react event).Inbox d k id (pushAll queue ((s.notifiedBy d (.device event)).map Prod.fst))
      handed := by
  obtain ⟨hSession, -, hTrace, -⟩ := react_frame s event
  have hHanded := handedTo_of_quiet (k := k) [] (hTrace.trans (List.append_nil _).symm) nofun
  refine ⟨?_, ?_, ?_, ?_, hHanded.trans h.handed⟩
  · exact hSession ▸ h.link
  · exact hSession ▸ h.onNotify
  · exact hSession ▸ h.notifyTask
  · have hSame : (id, Task.notifications d k queue) ∈ s.tasks := h.task
    cases event with
    | notify i payload =>
        obtain ⟨ready, hNotify⟩ := notify_eq s i payload
        rw [react, hNotify]
        refine List.mem_map.mpr ⟨_, hSame, ?_⟩
        by_cases hi : i = d
        · subst hi
          simp [Task.notified, notifiedBy, pushAll]
        · simp [Task.notified, notifiedBy, pushAll, hi, Ne.symm hi]
    | drop i =>
        obtain ⟨ready, hDrop⟩ := dropLink_eq s i
        rw [react, hDrop]
        exact List.mem_map.mpr ⟨_, hSame, by simp [Task.dropped, notifiedBy, pushAll]⟩
    | _ => exact hSame

theorem Accounted.reacted (h : Accounted s d k notified condition) (hSound : s.Sound)
    (event : DeviceEvent)
    (hRoom : s.notifiedBy d (.device event) ≠ [] →
      s.undelivered.length < Task.notificationCapacity) :
    Accounted (s.react event) d k (notified ++ s.notifiedBy d (.device event)) condition := by
  obtain ⟨id, waiting, handed, lost, hAccount, hLost⟩ := h
  obtain ⟨gone, rfl, hGone⟩ := hAccount.gone
  have hInbox := hAccount.inbox.reacted event
  rw [pushAll_notifiedBy s d _ (hAccount.inbox.undelivered hSound ▸ hRoom), ← List.map_append]
    at hInbox
  exact ⟨id, _, handed, lost, ⟨hInbox, gone, List.append_assoc .., hGone⟩, hLost⟩

theorem Accounted.run_turns (h : Accounted s d k notified condition) (hUndisturbed : s.Undisturbed)
    (n : Nat) : Accounted (s.run (turns n)) d k notified (condition ∨
      ∃ i < n, ∃ c, (s.run (turns i)).GivesUp .turn c ∧ UpAmongLast notified c) := by
  induction n with
  | zero =>
      have hNothing : (condition ∨ ∃ i < 0, ∃ c, (s.run (turns i)).GivesUp .turn c ∧
          UpAmongLast notified c) ↔ condition := by simp
      rwa [hNothing]
  | succ n ih =>
      have hBefore : (s.run (turns n)).Undisturbed :=
        hUndisturbed.run fun event hEvent => List.eq_of_mem_replicate hEvent ▸ id
      have hEvent : Event.turn ≠ .settle := nofun
      have hTurn := ih.proceeds hBefore.sound hEvent (·.poll hBefore)
      rw [turns, List.replicate_succ', run_concat, ← turns]
      simpa only [Nat.exists_lt_succ_right, or_assoc] using hTurn

/-- An account is kept through every event that does not take the link down. -/
theorem Accounted.step (h : Accounted s d k notified condition) (hUndisturbed : s.Undisturbed)
    {event : Event} (hEvent : ¬event.TearsDown)
    (hRoom : s.notifiedBy d event ≠ [] → s.undelivered.length < Task.notificationCapacity) :
    Accounted (s.step event) d k (notified ++ s.notifiedBy d event)
      (condition ∨ ∃ n, s.GivesUp event n ∧ UpAmongLast notified n) := by
  have hNothing {e : Event} (he : e ≠ .settle) (hStep : ∀ {id queue handed},
      s.Inbox d k id queue handed → Proceeds d k id queue handed (s.step e)) :=
    h.proceeds hUndisturbed.sound he hStep
  cases event with
  | start operation =>
      simp only [notifiedBy, List.append_nil]
      exact hNothing (by simp) (·.started hUndisturbed hEvent)
  | abandon =>
      simp only [notifiedBy, List.append_nil]
      exact hNothing (by simp) fun h => .waiting (h.of_silent rfl rfl rfl)
  | turn =>
      simp only [notifiedBy, List.append_nil]
      exact hNothing (by simp) (·.poll hUndisturbed)
  | settle =>
      have hReady := hUndisturbed.orderly.ready_settle hUndisturbed.sound
      have hTurns := h.run_turns hUndisturbed (3 * s.ready.length)
      simp only [notifiedBy, List.append_nil, Radio.step]
      rw [settle_eq_run]
      have hGivesUp : (∃ n, s.GivesUp .settle n ∧ UpAmongLast notified n) ↔
          ∃ i < 3 * s.ready.length, ∃ c, (s.run (turns i)).GivesUp .turn c ∧
            UpAmongLast notified c := by
        simp only [givesUp_settle_iff hReady]
        grind
      rwa [hGivesUp]
  | device event =>
      have hReacted := h.reacted hUndisturbed.sound event hRoom
      obtain ⟨hSession, -⟩ := react_frame s event
      have hNever : ¬∃ n, s.GivesUp (.device event) n ∧ UpAmongLast notified n := by
        rintro ⟨n, hGivesUp, -⟩
        have hOther : Event.device event ≠ .settle := by simp
        exact ((givesUp_iff hOther).mp hGivesUp).1 (congrArg Session.notifyTask hSession)
      rwa [or_iff_left hNever]

theorem Accounted.run (h : Accounted s d k [] False) (hUndisturbed : s.Undisturbed)
    {history : List Event} (hHistory : ∀ event ∈ history, ¬event.TearsDown)
    (hRoom : s.HasRoom d history) :
    Accounted (s.run history) d k (s.notified d history) (s.Loses d history) := by
  induction history using List.reverseRecOn with
  | nil => exact (eq_false not_loses_nil).symm ▸ h
  | append_singleton history event ih =>
      obtain ⟨hBefore, hRoom⟩ := hasRoom_concat.mp hRoom
      have hHistory' : ∀ event ∈ history, ¬event.TearsDown :=
        fun event hEvent => hHistory event (List.mem_append_left _ hEvent)
      rw [run_concat, notified_concat, loses_concat]
      exact (ih hHistory' hBefore).step (hUndisturbed.run hHistory')
        (hHistory event (List.mem_append_right _ (List.mem_singleton_self event))) hRoom

theorem Connected.accounted (h : s.Connected d k) : Accounted s d k [] False := by
  obtain ⟨id, hNotifyTask, hTask⟩ := h.notifies
  refine ⟨id, [], [], [], ⟨⟨h.link, h.onNotify, hNotifyTask, hTask, ?_⟩, [], rfl, .slnil, .nil⟩, ?_⟩
  · exact handedTo_of_unreported h.unreported
  · simp

/-- Where nobody has a turn coming, no payload waits. -/
theorem Account.waiting_eq_nil (h : Account s d k id notified waiting handed lost)
    (hOrderly : s.Orderly) (hReady : s.ready = []) : waiting = [] := by
  by_contra hWaiting
  have hDue : (Task.notifications d k (waiting.map Prod.fst)).Due := by
    simpa [Task.Due] using hWaiting
  have hTurn := hOrderly.due id _ h.inbox.task hDue
  rw [hReady] at hTurn
  cases hTurn

/-- All payloads that were notified while the link was up have been handed over exactly if none of
them is lost. -/
theorem filter_eq_iff {gone : List (Bytes × Bool)} (hHanded : handed.Sublist gone)
    (hPerm : gone.Perm (handed ++ lost)) :
    handed.filter Prod.snd = gone.filter Prod.snd ↔ ¬∃ payload ∈ lost, payload.2 = true := by
  have hLength := (hPerm.filter Prod.snd).length_eq
  rw [List.filter_append, List.length_append] at hLength
  have hNone : (¬∃ payload ∈ lost, payload.2 = true) ↔ (lost.filter Prod.snd).length = 0 := by
    simp [List.filter_eq_nil_iff]
  rw [hNone]
  constructor
  · intro hSame
    rw [hSame] at hLength
    omega
  · intro hNothing
    exact (hHanded.filter Prod.snd).eq_of_length (by omega)

/-- Whenever a connect succeeds, from then on, while nobody takes the link down and no payload meets
a full queue, its callback has been handed, once everything has settled, payloads that the device
has notified, each once and in their order. Those that were notified while the link was up are all
among them, unless a send that binds the link again gives one up that waits. -/
theorem handedTo_settled_iff (devices : List Device) (history : List Event) (event : Event)
    (t : Radio)
    (hTold : (Outcome.connect (.ok ()), t) ∈ ((initial devices).run history).toldBy event) :
    ∃ d k, t.Opened d k ∧ ∀ after : List Event, (∀ event ∈ after, ¬event.TearsDown) →
      t.HasRoom d after →
        ∃ handed : List (Bytes × Bool), handed.Sublist (t.notified d after) ∧
          (t.run after).settle.handedTo k = handed.map Prod.fst ∧
          (handed.filter Prod.snd = (t.notified d after).filter Prod.snd ↔
            ¬t.Loses d (after ++ [.settle])) := by
  obtain ⟨before, d, k, rfl, hConnected⟩ := connected_of_told hTold
  refine ⟨d, k, hConnected.toOpened, fun after hAfter hRoom => ?_⟩
  have hUndisturbed : ((initial devices).run before).Undisturbed :=
    ⟨run_sound devices before, run_orderly devices before, hConnected.inProgress _⟩
  have hAfter' := hUndisturbed.run hAfter
  have hSettled : ((initial devices).run before).HasRoom d (after ++ [.settle]) :=
    hasRoom_concat.mpr ⟨hRoom, fun hNotified => absurd rfl hNotified⟩
  obtain ⟨id, waiting, handed, lost, hAccount, hLost⟩ :=
    hConnected.accounted.run hUndisturbed (not_tearsDown_settled hAfter) hSettled
  rw [run_concat] at hAccount
  obtain rfl := hAccount.waiting_eq_nil (hAfter'.orderly.step hAfter'.sound .settle)
    (hAfter'.orderly.ready_settle hAfter'.sound)
  obtain ⟨gone, hNotified, hHanded, hPerm⟩ := hAccount.gone
  simp only [notified_concat, notifiedBy, List.append_nil] at hNotified
  rw [hNotified, ← hLost]
  exact ⟨handed, hHanded, hAccount.inbox.handed, filter_eq_iff hHanded hPerm⟩

/-- A payload before a drop, one after the link was bound again, and time to settle in between. -/
theorem handedTo_settled_iff_after_rebind :
    ∃ t, (Outcome.connect (.ok ()), t) ∈
        ((initial [.ofSerial 7]).run []).toldBy (.start (.connect 7)) ∧
      t.HasRoom 0 [.device (.notify 0 [170]), .settle, .device (.drop 0), .start (.send [1]),
        .device (.notify 0 [187])] ∧
      ∃ handed : List (Bytes × Bool), handed.Sublist [([170], true), ([187], true)] ∧
        (t.run [.device (.notify 0 [170]), .settle, .device (.drop 0), .start (.send [1]),
          .device (.notify 0 [187])]).settle.handedTo 0 = handed.map Prod.fst ∧
        (handed.filter Prod.snd = [([170], true), ([187], true)] ↔
          ¬t.Loses 0 [.device (.notify 0 [170]), .settle, .device (.drop 0), .start (.send [1]),
            .device (.notify 0 [187]), .settle]) := by
  have hTold : (Outcome.connect (.ok ()), (initial [.ofSerial 7]).step (.start (.connect 7))) ∈
      ((initial [.ofSerial 7]).run []).toldBy (.start (.connect 7)) := List.mem_singleton.mpr rfl
  obtain ⟨d, k, hOpened, hAfter⟩ :=
    handedTo_settled_iff [.ofSerial 7] [] (.start (.connect 7)) _ hTold
  cases hOpened.link
  cases hOpened.onNotify
  have hRoom : ((initial [.ofSerial 7]).step (.start (.connect 7))).HasRoom 0
      [.device (.notify 0 [170]), .settle, .device (.drop 0), .start (.send [1]),
        .device (.notify 0 [187])] :=
    ⟨fun _ => by decide, nofun, nofun, nofun, fun _ => by decide, trivial⟩
  exact ⟨_, hTold, hRoom, hAfter _ (by simp [Event.TearsDown]) hRoom⟩

/-- A payload that still waits when its link is dropped and bound again is never handed over. -/
theorem not_handedTo_after_early_rebind :
    ∃ t, (Outcome.connect (.ok ()), t) ∈
        ((initial [.ofSerial 7]).run []).toldBy (.start (.connect 7)) ∧
      t.HasRoom 0 [.device (.notify 0 [170]), .device (.drop 0), .start (.send [1])] ∧
      t.notified 0 [.device (.notify 0 [170]), .device (.drop 0), .start (.send [1])] =
        [([170], true)] ∧
      (t.run [.device (.notify 0 [170]), .device (.drop 0), .start (.send [1])]).session.state =
        .bound ∧
      (t.run [.device (.notify 0 [170]), .device (.drop 0), .start (.send [1])]).settle.handedTo 0 =
        [] :=
  ⟨_, List.mem_singleton.mpr rfl, ⟨fun _ => by decide, nofun, nofun, trivial⟩, rfl, rfl, rfl⟩

end LockRelay.Radio
