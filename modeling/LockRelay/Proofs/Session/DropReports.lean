import LockRelay.Proofs.Session.Callbacks

/-! What a disconnect callback tells. It is invoked once at most, and only after the device has
dropped the link; and once the link is dropped it has been invoked when a send finds that out, or
when everything has settled. -/
namespace LockRelay

/-- Whether an effect is a report of a drop to a connection. -/
def Effect.reportsDropTo (k : ConnectionId) : Effect → Bool
  | .dropReported connection => connection == k
  | _ => false

namespace Radio

variable {s t : Radio} {m : Mover} {d : DeviceId} {k : ConnectionId}

/-- How often the disconnect callback of a connection was invoked. -/
def reports (s : Radio) (k : ConnectionId) : Nat := s.trace.countP (·.reportsDropTo k)

theorem reports_eq_countP_heard (s : Radio) (k : ConnectionId) :
    s.reports k = s.heard.countP (·.reportsDropTo k) := by
  unfold reports heard
  rw [List.countP_filter]
  congr 1
  funext effect
  cases effect <;> simp [Effect.reportsDropTo, Effect.connection?]

theorem reports_eq_zero (h : ¬s.Reported k) : s.reports k = 0 := by
  refine List.countP_eq_zero.mpr fun effect hEffect hReports => h ⟨effect, hEffect, ?_⟩
  cases effect with
  | dropReported connection => exact congrArg some (by simpa [Effect.reportsDropTo] using hReports)
  | _ => cases hReports

/-- A move reports a drop once, if at all. -/
theorem Move.reports_cases (hMove : s.Move m t) (k : ConnectionId) :
    t.reports k = s.reports k ∨ DropHeard m s t k ∧ t.reports k = s.reports k + 1 := by
  rw [reports_eq_countP_heard, reports_eq_countP_heard]
  rcases hMove.heard_cases with hSame | ⟨i, hDrop⟩ | ⟨i, queue, hPayloads⟩
  · exact Or.inl (by rw [hSame])
  · rw [hDrop.heard, List.countP_append]
    by_cases hi : i = k
    · subst hi
      exact Or.inr ⟨hDrop, by simp [Effect.reportsDropTo]⟩
    · exact Or.inl (by simp [Effect.reportsDropTo, hi])
  · rw [hPayloads.heard, List.countP_append]
    exact Or.inl (by simp [List.countP_map, Function.comp_def, Effect.reportsDropTo])

theorem Grows.reports (h : s.Grows t) (k : ConnectionId) : s.reports k ≤ t.reports k :=
  h.trace.sublist.countP_le

/-- Nobody but the operation that makes a connection hands over its disconnect callback. -/
theorem Move.onDisconnect_of (hMove : s.Move m t) (hMover : m ≠ .connecting k)
    (hHeld : t.session.onDisconnect = some k) : s.session.onDisconnect = some k := by
  cases hMove with
  | cleared => cases hHeld
  | adopted request d endpoints =>
      obtain rfl : request.connection = k := Option.some.inj hHeld
      exact absurd rfl hMover
  | readopted d endpoints => exact (readopt_callbacks s d endpoints).2.symm.trans hHeld
  | demoted seen =>
      rcases dropped_cases s seen with ⟨hSame, -⟩ | ⟨-, -, hChanged⟩
      · rwa [hSame] at hHeld
      · rw [hChanged] at hHeld
        cases hHeld
  | delivered id d connection queue =>
      rw [foldl_frames] at hHeld
      exact hHeld
  | woken p =>
      unfold wake at hHeld
      split_ifs at hHeld <;> exact hHeld
  | reacted event =>
      obtain ⟨hSession, -⟩ := react_frame s event
      rwa [hSession] at hHeld
  | _ => exact hHeld

/-- The disconnect callback of a connection was invoked once at most, and not at all while the
session still has it. -/
structure Single (s : Radio) (k : ConnectionId) : Prop where
  atMostOnce : s.reports k ≤ 1
  unused : s.session.onDisconnect = some k → s.reports k = 0

theorem Single.move (h : s.Single k) (hMover : m ≠ .connecting k) (hMove : s.Move m t) :
    t.Single k := by
  rcases hMove.reports_cases k with hSame | ⟨hDrop, hMore⟩
  · refine ⟨hSame ▸ h.atMostOnce, fun hHeld => ?_⟩
    rw [hSame]
    exact h.unused (hMove.onDisconnect_of hMover hHeld)
  · have hUnused := h.unused hDrop.onDisconnect
    refine ⟨by omega, fun hHeld => ?_⟩
    cases hHeld.symm.trans hDrop.taken

/-- As long as the session has the callbacks of the connection, its link is bound and up, and no
drop of it waits to be looked at. -/
structure Calm (s : Radio) (d : DeviceId) (k : ConnectionId) : Prop where
  unreported : s.reports k = 0
  held : s.session.onDisconnect = some k → s.session.onNotify = some k
  quiet : s.session.onNotify = some k → s.session.link = some d ∧ s.session.state = .bound ∧
    (s.device d).connected = true ∧ ¬s.Alarmed d

/-- Nothing that looks like a drop can be found while all is calm. -/
theorem Calm.not_looksDropped (h : s.Calm d k) (hNotify : s.session.onNotify = some k)
    {i : DeviceId} (hLink : s.session.link = some i) : ¬s.LooksDropped i := by
  obtain ⟨hLink', -, hUp, hNot⟩ := h.quiet hNotify
  obtain rfl : d = i := Option.some.inj (hLink'.symm.trans hLink)
  rintro (hDown | ⟨hAlarmed, -⟩)
  · cases hUp.symm.trans hDown
  · exact hNot hAlarmed

/-- A move after which the session is the same, the link is up if it was, and nothing more waits to
be looked at. -/
theorem Calm.of_same (h : s.Calm d k) (hReports : t.reports k = s.reports k)
    (hSession : t.session = s.session)
    (hUp : s.session.link = some d → s.session.state = .bound →
      (s.device d).connected = true → (t.device d).connected = true)
    (hAlarmed : s.session.onNotify = some k → t.Alarmed d → s.Alarmed d) : t.Calm d k := by
  refine ⟨hReports.trans h.unreported, ?_, ?_⟩
  · rw [hSession]
    exact h.held
  · rw [hSession]
    intro hNotify
    obtain ⟨hLink, hBound, hConnected, hNot⟩ := h.quiet hNotify
    exact ⟨hLink, hBound, hUp hLink hBound hConnected, fun hNew => hNot (hAlarmed hNotify hNew)⟩

/-- A move after which the session does not have the callbacks. -/
theorem Calm.of_other (h : s.Calm d k) (hReports : t.reports k = s.reports k)
    (hNotify : t.session.onNotify ≠ some k) (hDisconnect : t.session.onDisconnect ≠ some k) :
    t.Calm d k :=
  ⟨hReports.trans h.unreported, fun hHeld => absurd hHeld hDisconnect,
    fun hHeld => absurd hHeld hNotify⟩

theorem Alarmed.of_setTask {id : TaskId} {next : Task} {i : DeviceId}
    (hNext : ∀ pending check, next = .drops i pending check → pending = 0 ∧ check = none)
    {t : Radio} (hTasks : t.tasks = (s.setTask id next).tasks) (h : t.Alarmed i) : s.Alarmed i := by
  obtain ⟨id', pending, check, hTask, hAlarmed⟩ := h
  rw [hTasks] at hTask
  rcases mem_setTask hTask with ⟨-, hSame⟩ | ⟨-, hOld⟩
  · obtain ⟨rfl, rfl⟩ := hNext pending check hSame.symm
    simp at hAlarmed
  · exact ⟨id', pending, check, hOld, hAlarmed⟩

/-- Only a drop of the link gives its watcher something to look at. -/
theorem Alarmed.of_react {event : DeviceEvent} (hEvent : event ≠ .drop d)
    (h : (s.react event).Alarmed d) : s.Alarmed d := by
  obtain ⟨id, pending, check, hTask, hAlarmed⟩ := h
  refine ⟨id, pending, check, ?_, hAlarmed⟩
  cases event with
  | notify i payload =>
      obtain ⟨ready, hNotify⟩ := notify_eq s i payload
      rw [react, hNotify] at hTask
      obtain ⟨⟨id', task⟩, hMember, hSame⟩ := List.mem_map.mp hTask
      obtain ⟨rfl, hTask'⟩ := Prod.mk.inj hSame
      cases task with
      | notifications j connection queue =>
          simp only [Task.notified] at hTask'
          split_ifs at hTask'
      | drops j left seen => exact hTask' ▸ hMember
  | drop i =>
      obtain ⟨ready, hDrop⟩ := dropLink_eq s i
      rw [react, hDrop] at hTask
      obtain ⟨⟨id', task⟩, hMember, hSame⟩ := List.mem_map.mp hTask
      obtain ⟨rfl, hTask'⟩ := Prod.mk.inj hSame
      cases task with
      | notifications j connection queue => cases hTask'
      | drops j left seen =>
          simp only [Task.dropped] at hTask'
          split_ifs at hTask' with hj
          · cases hTask'
            exact absurd (congrArg DeviceEvent.drop hj.symm) hEvent
          · exact hTask' ▸ hMember
  | _ => exact hTask

theorem Calm.move (h : s.Calm d k) (hSound : s.Sound) (hMover : m ≠ .connecting k)
    (hDrop : m ≠ .device (.drop d)) (hMove : s.Move m t) : t.Calm d k := by
  -- A report would need a link that looks dropped.
  have hReports : t.reports k = s.reports k := by
    rcases hMove.reports_cases k with hSame | ⟨hHeard, -⟩
    · exact hSame
    · obtain ⟨i, hLink, hLooks⟩ := hHeard.link
      exact absurd hLooks (h.not_looksDropped (h.held hHeard.onDisconnect) hLink)
  cases hMove with
  | called i device call succeeded hDevice hMay hServed =>
      refine h.of_same hReports rfl (fun _ hBound hUp => ?_) fun _ => id
      exact (connected_of_mayCall hSound hMay hServed hBound d).trans hUp
  | assigned state hIdle hLink hState =>
      have hNotify : s.session.onNotify ≠ some k := by
        rw [(hSound.unlinked hLink).onNotify]
        exact nofun
      exact h.of_other hReports hNotify fun hHeld => hNotify (h.held hHeld)
  | cleared => exact h.of_other hReports nofun nofun
  | adopted request i endpoints =>
      have hOther : some request.connection ≠ some k :=
        fun hSame => hMover (congrArg Mover.connecting (Option.some.inj hSame))
      exact h.of_other hReports hOther hOther
  | readopted i endpoints hIdle hLink hState =>
      obtain ⟨hNotify, hDisconnect⟩ := readopt_callbacks s i endpoints
      have hOther : s.session.onNotify ≠ some k := fun hHeld => hState (h.quiet hHeld).2.1
      refine h.of_other hReports (hNotify ▸ hOther) ?_
      rw [hDisconnect]
      exact fun hHeld => hOther (h.held hHeld)
  | demoted seen hDropped =>
      rcases dropped_cases s seen with ⟨hSame, -⟩ | ⟨hSeen, hState, hChanged⟩
      · rw [hSame]
        exact h
      · obtain ⟨i, hLink, hLooks⟩ := hDropped hSeen hState
        have hOther : s.session.onNotify ≠ some k :=
          fun hHeld => h.not_looksDropped hHeld hLink hLooks
        rw [hChanged] at hReports ⊢
        exact h.of_other hReports hOther nofun
  | delivered id i connection queue hTask =>
      rw [foldl_frames] at hReports ⊢
      refine h.of_same hReports rfl (fun _ _ hUp => hUp) fun _ => Alarmed.of_setTask ?_ rfl
      exact fun _ _ hSame => nomatch hSame
  | watched id i pending check hTask =>
      refine h.of_same hReports rfl (fun _ _ hUp => hUp) fun _ => Alarmed.of_setTask ?_ rfl
      rintro _ _ ⟨⟩
      exact ⟨rfl, rfl⟩
  | watcherHeld id i pending left check hTask hAlarmed =>
      refine h.of_same hReports rfl (fun _ _ hUp => hUp) fun hNotify _ => ?_
      have hMember := mem_of_task? hTask
      obtain rfl : d = i := Option.some.inj
        ((h.quiet hNotify).1.symm.trans (hSound.link_of_drops hMember))
      exact ⟨id, pending, check, hMember, hAlarmed⟩
  | woken p =>
      unfold wake at hReports ⊢
      split_ifs
      · exact h
      · exact h.of_same rfl rfl (fun _ _ => id) fun _ => id
  | reacted event =>
      have hEvent : event ≠ .drop d := fun hSame => hDrop (congrArg Mover.device hSame)
      obtain ⟨hSession, -⟩ := react_frame s event
      exact h.of_same hReports hSession
        (fun hLink _ hUp => react_up s (hSound.inRange d hLink) hEvent hUp)
        fun _ => Alarmed.of_react hEvent
  | _ => exact h.of_same hReports rfl (fun _ _ => id) fun _ => id

/-- As long as no drop was reported to the connection, its link is bound and will be reported. -/
def Armed (s : Radio) (d : DeviceId) (k : ConnectionId) : Prop :=
  s.reports k = 0 →
    s.session.state = .bound ∧ s.session.link = some d ∧ s.session.onDisconnect = some k

/-- As long as no drop was reported to the connection, its link is down. -/
def Down (s : Radio) (d : DeviceId) (k : ConnectionId) : Prop :=
  s.reports k = 0 → (s.device d).connected = false

theorem Armed.of_same (h : s.Armed d k) (hSession : t.session = s.session)
    (hReports : s.reports k ≤ t.reports k) : t.Armed d k := by
  intro hNone
  rw [hSession]
  exact h (by omega)

theorem Armed.move (h : s.Armed d k) (hMover : m.tearsDown = false) (hMove : s.Move m t) :
    t.Armed d k := by
  have hReports := hMove.grows.reports k
  cases hMove with
  | assigned | adopted => cases hMover
  | cleared hIdle hTearsDown => cases hTearsDown.symm.trans hMover
  | readopted i endpoints hIdle hLink hState =>
      intro hNone
      exact absurd (h (by omega)).1 hState
  | demoted seen =>
      rcases dropped_cases s seen with ⟨hSame, -⟩ | ⟨-, -, hChanged⟩
      · rwa [hSame]
      -- The callback that was taken has been invoked.
      · intro hNone
        obtain ⟨-, -, hHeld⟩ := h (by omega)
        rw [hChanged, hHeld] at hNone
        simp [reports, List.countP_append, Effect.reportsDropTo] at hNone
  | delivered id i connection queue =>
      rw [foldl_frames] at hReports ⊢
      exact h.of_same rfl hReports
  | woken p =>
      unfold wake at hReports ⊢
      split_ifs
      · exact h
      · exact h.of_same rfl (Nat.le_refl _)
  | reacted event =>
      obtain ⟨hSession, -⟩ := react_frame s event
      exact h.of_same hSession hReports
  | _ => exact h.of_same rfl hReports

/-- A link that is armed is not connected by anybody while it is down. -/
theorem Down.move (h : s.Down d k) (hArmed : s.Armed d k) (hSound : s.Sound)
    (hMove : s.Move m t) : t.Down d k := by
  intro hNone
  have hReports := hMove.grows.reports k
  obtain ⟨hBound, hLink, -⟩ := hArmed (by omega)
  have hDown := h (by omega)
  have hSame (hDevices : t.devices = s.devices) : (t.device d).connected = false := by
    rw [device, hDevices]
    exact hDown
  cases hMove with
  | called i device call succeeded hDevice hMay hServed =>
      exact (connected_of_mayCall hSound hMay hServed hBound d).trans hDown
  | cleared => exact hSame (devices_clear s)
  | readopted i endpoints => exact hSame (readopt_frame s i endpoints).1
  | demoted seen => exact hSame (dropped_frame s seen).1
  | delivered id i connection queue =>
      rw [foldl_frames]
      exact hDown
  | woken p =>
      unfold wake
      split_ifs <;> exact hDown
  | reacted event =>
      obtain ⟨-, -, -, -, -, -, hStays⟩ := react_frame s event
      exact hStays d (hSound.inRange d hLink) hDown
  | _ => exact hDown

theorem Armed.moves (h : s.Armed d k) (hMoves : s.MovesBy (·.tearsDown = false) t) :
    t.Armed d k :=
  hMoves.keeps (P := (Armed · d k)) (fun _ _ _ hMover hMove h => h.move hMover hMove) h

theorem Down.moves (h : s.Down d k) (hArmed : s.Armed d k) (hSound : s.Sound)
    (hMoves : s.MovesBy (·.tearsDown = false) t) : t.Down d k := by
  have hBoth : t.Armed d k ∧ t.Down d k := by
    refine hSound.keeps (P := fun t => t.Armed d k ∧ t.Down d k) hMoves ?_ ⟨hArmed, h⟩
    intro m s t hMover hSound hMove ⟨hArmed, h⟩
    exact ⟨hArmed.move hMover hMove, h.move hArmed hSound hMove⟩
  exact hBoth.2

/-! A send that finds its link down. -/

/-- An event in which a send finds that its link is down and begins to bind it again: it starts and
its check is answered at once, or it goes on with the answer for which it waited. -/
def FindsDown (s : Radio) : Event → Prop
  | .start (.send _) => s.operation = none ∧ s.session.endpoints ≠ none ∧
      ∃ d, s.session.link = some d ∧ (s.isConnected d).2 = .ready (.ok false)
  | .turn => (∃ rest, s.ready = .caller :: rest) ∧ ∃ data, s.operation = some ⟨false, .sending data⟩
  | _ => False

theorem reports_dropped_none (hBound : s.session.state = .bound)
    (hHeld : s.session.onDisconnect = some k) : (s.dropped none).reports k = s.reports k + 1 := by
  rcases dropped_cases s none with ⟨-, hNot⟩ | ⟨-, -, hChanged⟩
  · exact absurd ⟨rfl, hBound⟩ hNot
  · rw [hChanged, hHeld]
    simp [reports, List.countP_append, Effect.reportsDropTo]

theorem sendChecked_reports (data : Bytes) (hSound : s.Sound) (hIdle : s.operation = none)
    (hBound : s.session.state = .bound) (hLink : s.session.link = some d)
    (hHeld : s.session.onDisconnect = some k) :
    0 < (note (s.sendChecked data (.ok false))).1.reports k := by
  obtain ⟨connection, notify, watch, queue, pending, check, hBy⟩ := hSound.linked hLink
  obtain ⟨filter, hFilter⟩ := Option.isSome_iff_exists.mp hBy.filter
  have hGrows := grows_of_moves (recheck_leads data hIdle hLink).note.moves
  have hReports := hGrows.reports k
  rw [reports_dropped_none hBound hHeld] at hReports
  unfold sendChecked
  rw [hLink, hFilter]
  exact Nat.lt_of_lt_of_le (Nat.succ_pos _) hReports

/-- A send that finds its link down has the drop reported before it binds the link again. -/
theorem Armed.reports_of_findsDown (h : s.Armed d k) (hSound : s.Sound) {event : Event}
    (hFinds : s.FindsDown event) : 0 < (s.step event).reports k := by
  have hGrows := (grows_of_moves (hSound.step_moves event)).reports k
  by_cases hNone : s.reports k = 0
  · obtain ⟨hBound, hLink, hHeld⟩ := h hNone
    cases event with
    | start operation =>
        cases operation with
        | send data =>
            obtain ⟨hIdle, hEndpoints, i, hLink', hAnswer⟩ := hFinds
            obtain ⟨endpoints, hEndpoints⟩ := Option.ne_none_iff_exists'.mp hEndpoints
            obtain ⟨hCalled, -, -⟩ := isConnected_called (m := .sending) s i
            have hChecked := hSound.moves hCalled.moves
            have hSend : s.send data = (s.isConnected i).1.sendChecked data (.ok false) := by
              unfold send ask
              rw [hLink', hEndpoints]
              simp only
              rcases hResult : s.isConnected i with ⟨u, answer⟩
              rw [hResult] at hAnswer
              obtain rfl : answer = .ready (.ok false) := hAnswer
              rfl
            unfold step start
            rw [hIdle]
            simp only [Option.isSome_none, Bool.false_eq_true, if_false]
            rw [hSend]
            refine sendChecked_reports data hChecked (d := i) (hCalled.operation.trans hIdle) ?_ ?_ ?_
            · rw [hCalled.session, hBound]
            · rw [hCalled.session, hLink']
            · rw [hCalled.session, hHeld]
        | connect | disconnect => cases hFinds
    | turn =>
        obtain ⟨⟨rest, hReady⟩, data, hOperation⟩ := hFinds
        have hPolled := polled_sound hSound hReady
        unfold step poll
        rw [hReady]
        simp only [resume, hOperation]
        exact sendChecked_reports data (hPolled.move (.resumed _)) rfl hBound hLink hHeld
    | _ => cases hFinds
  · omega

/-- Whether an event takes down the link that there is: a disconnect, or a connect unless its serial
number is refused. -/
def Event.TearsDown : Event → Prop
  | .start (.connect serial) => ∃ filter, DiscoveryFilter.forSerial serial = .ok filter
  | .start .disconnect => True
  | _ => False

theorem Event.admits_of_not_tearsDown {event : Event} (h : ¬event.TearsDown) :
    s.Admits (·.tearsDown = false) event := by
  cases event with
  | start operation =>
      intro _
      cases operation with
      | connect serial =>
          cases hFilter : DiscoveryFilter.forSerial serial with
          | ok filter => exact absurd ⟨filter, hFilter⟩ h
          | error error => simp only [Operation.mover, hFilter, Mover.tearsDown]
      | send data => rfl
      | disconnect => exact absurd trivial h
  | device event => rfl
  | abandon | turn | settle => trivial

theorem run_of_not_tearsDown (hSound : s.Sound) (hWaits : s.InProgress (·.tearsDown = false))
    (after : List Event) (hAfter : ∀ event ∈ after, ¬event.TearsDown) :
    s.MovesBy (·.tearsDown = false) (s.run after) := by
  have hBackground : Background (·.tearsDown = false) := ⟨rfl, fun _ => rfl⟩
  exact hSound.run_movesBy hBackground hWaits fun event hEvent _ _ =>
    Event.admits_of_not_tearsDown (hAfter event hEvent)

theorem not_tearsDown_settled {after : List Event} (hAfter : ∀ event ∈ after, ¬event.TearsDown) :
    ∀ event ∈ after ++ [.settle], ¬event.TearsDown := by
  intro event hEvent
  rcases List.mem_append.mp hEvent with hEvent | hEvent
  · exact hAfter event hEvent
  · exact List.mem_singleton.mp hEvent ▸ id

/-! The callback of one connection, from the moment in which its connect returns. -/

theorem Connected.single (h : s.Connected d k) : s.Single k := by
  have hNone := reports_eq_zero h.unreported
  exact ⟨by omega, fun _ => hNone⟩

theorem Connected.armed (h : s.Connected d k) : s.Armed d k :=
  fun _ => ⟨h.state, h.link, h.onDisconnect⟩

theorem Connected.calm (h : s.Connected d k) (hSound : s.Sound) : s.Calm d k := by
  refine ⟨reports_eq_zero h.unreported, fun _ => h.onNotify,
    fun _ => ⟨h.link, h.state, h.connected, ?_⟩⟩
  rintro ⟨id, pending, check, hTask, hAlarmed⟩
  obtain ⟨watch, hWatch⟩ := h.watches
  obtain ⟨-, hSame⟩ := hSound.watcher_unique hWatch hTask
  obtain ⟨-, rfl, rfl⟩ := Task.drops.inj hSame
  simp at hAlarmed

/-- Connections asked for later have other numbers. -/
theorem Connected.run_movesBy (h : s.Connected d k) (hSound : s.Sound) (who : DeviceEvent → Prop)
    (after : List Event) (hDevices : ∀ event, Event.device event ∈ after → who event) :
    s.MovesBy (fun m => m ≠ .connecting k ∧ ∀ event, m = .device event → who event)
      (s.run after) := by
  refine hSound.run_movesBy ⟨⟨nofun, nofun⟩, fun _ => ⟨nofun, nofun⟩⟩ ?_ ?_
  · intro suspended hOperation
    cases h.idle.symm.trans hOperation
  · intro event hEvent u hLater
    cases event with
    | start operation =>
        refine fun _ => ⟨fun hMover => ?_, fun event hMover => ?_⟩
        · rw [← h.newest, ← (Operation.connecting hMover).1] at hLater
          exact Nat.not_succ_le_self k hLater
        · have hOperates := operation.mover_operates u
          rw [hMover] at hOperates
          cases hOperates
    | device event =>
        refine ⟨nofun, ?_⟩
        rintro _ ⟨⟩
        exact hDevices event hEvent
    | abandon | turn | settle => trivial

theorem Connected.reports_le_one (h : s.Connected d k) (hSound : s.Sound) (after : List Event) :
    (s.run after).reports k ≤ 1 := by
  have hMoves := h.run_movesBy hSound (fun _ => True) after fun _ _ => trivial
  have hSingle : (s.run after).Single k :=
    hMoves.keeps (P := (Single · k)) (fun _ _ _ hWho hMove h => h.move hWho.1 hMove) h.single
  exact hSingle.atMostOnce

theorem Connected.reports_eq_zero_of_no_drop (h : s.Connected d k) (hSound : s.Sound)
    {after : List Event} (hDrop : Event.device (.drop d) ∉ after) :
    (s.run after).reports k = 0 := by
  have hOthers (event : DeviceEvent) (hEvent : Event.device event ∈ after) : event ≠ .drop d := by
    rintro rfl
    exact hDrop hEvent
  have hMoves := h.run_movesBy hSound (· ≠ .drop d) after hOthers
  have hCalm : (s.run after).Calm d k := by
    refine hSound.keeps (P := (Calm · d k)) hMoves ?_ (h.calm hSound)
    intro m s t ⟨hMover, hDevice⟩ hSound hMove h
    exact h.move hSound hMover (fun hSame => hDevice _ hSame rfl) hMove
  exact hCalm.unreported

theorem Connected.inProgress (h : s.Connected d k) (who : Mover → Prop) : s.InProgress who := by
  intro suspended hOperation
  cases h.idle.symm.trans hOperation

/-- Once the device has dropped the link, it stays down until the drop is reported. -/
theorem Connected.down_of_drop (h : s.Connected d k) (hSound : s.Sound) {after : List Event}
    (hAfter : ∀ event ∈ after, ¬event.TearsDown) (hDrop : Event.device (.drop d) ∈ after) :
    (s.run after).Armed d k ∧ (s.run after).Down d k := by
  obtain ⟨first, rest, rfl⟩ := List.append_of_mem hDrop
  have hFirst := run_of_not_tearsDown hSound (h.inProgress _)
    (first ++ [.device (.drop d)]) (by grind)
  have hBefore := run_of_not_tearsDown hSound (h.inProgress _) first (by grind)
  have hDropped : (s.run (first ++ [.device (.drop d)])).Down d k := by
    intro hNone
    have hStep := (hSound.moves hBefore).step_moves (.device (.drop d))
    have hGrows := (grows_of_moves hStep).reports k
    rw [run_concat] at hNone ⊢
    obtain ⟨-, hLink, -⟩ := h.armed.moves hBefore (by omega)
    have hRange := (hSound.moves hBefore).inRange d hLink
    obtain ⟨ready, hState⟩ := dropLink_eq (s.run first) d
    have hSet := device_setDevice (s.run first) d d
      { (s.run first).device d with connected := false }
    rw [if_pos ⟨rfl, hRange⟩] at hSet
    rw [step, react, hState]
    exact congrArg Device.connected hSet
  have hRest := run_of_not_tearsDown (hSound.moves hFirst) ((h.inProgress _).moves hFirst)
    rest (by grind)
  have hArmed := h.armed.moves hFirst
  have hSplit : s.run (first ++ .device (.drop d) :: rest) =
      (s.run (first ++ [.device (.drop d)])).run rest := by
    rw [← run_append, List.append_assoc, List.singleton_append]
  rw [hSplit]
  exact ⟨hArmed.moves hRest, hDropped.moves hArmed (hSound.moves hFirst) hRest⟩

/-- Once everything has settled, a drop of the link has been reported. -/
theorem Connected.reports_of_settled {devices : List Device} {before : List Event}
    (h : ((initial devices).run before).Connected d k) {after : List Event}
    (hAfter : ∀ event ∈ after, ¬event.TearsDown) (hDrop : Event.device (.drop d) ∈ after)
    (hHeld : (((initial devices).run before).run after).settle.waiting = []) :
    0 < (((initial devices).run before).run after).settle.reports k := by
  have hSound := run_sound devices before
  obtain ⟨hArmed, hDown⟩ := h.down_of_drop hSound (not_tearsDown_settled hAfter)
    (List.mem_append_left _ hDrop)
  rw [run_concat] at hArmed hDown
  obtain ⟨-, hConnected⟩ := run_settled devices (before ++ after)
  rw [run_append] at hConnected
  by_contra hNone
  have hZero : (((initial devices).run before).run after).settle.reports k = 0 := by omega
  obtain ⟨hBound, hLink, -⟩ := hArmed hZero
  obtain ⟨i, hLink', hUp⟩ := hConnected hHeld hBound
  cases hLink.symm.trans hLink'
  cases hUp.symm.trans (hDown hZero)

/-- Whenever a connect succeeds, from then on its disconnect callback is invoked once at most, and
only after the device has dropped the link. While nobody takes the link down, it has been invoked
after a send that finds the link down, and after a drop once everything has settled. -/
theorem dropReported_once (devices : List Device) (history : List Event) (event : Event) (t : Radio)
    (hTold : (Outcome.connect (.ok ()), t) ∈ ((initial devices).run history).toldBy event) :
    ∃ d k, t.Opened d k ∧ ∀ after : List Event,
      (t.run after).reports k ≤ 1 ∧
      (0 < (t.run after).reports k → Event.device (.drop d) ∈ after) ∧
      ((∀ event ∈ after, ¬event.TearsDown) →
        (∀ event, (t.run after).FindsDown event → 0 < ((t.run after).step event).reports k) ∧
        (Event.device (.drop d) ∈ after → (t.run after).settle.waiting = [] →
          0 < (t.run after).settle.reports k)) := by
  obtain ⟨before, d, k, rfl, hConnected⟩ := connected_of_told hTold
  have hSound := run_sound devices before
  refine ⟨d, k, hConnected.toOpened, fun after => ⟨hConnected.reports_le_one hSound after, ?_, ?_⟩⟩
  · intro hReported
    by_contra hDrop
    have hNone := hConnected.reports_eq_zero_of_no_drop hSound hDrop
    omega
  · intro hAfter
    have hMoves := run_of_not_tearsDown hSound (hConnected.inProgress _) after hAfter
    refine ⟨fun event hFinds => ?_, hConnected.reports_of_settled hAfter⟩
    exact (hConnected.armed.moves hMoves).reports_of_findsDown (hSound.moves hMoves) hFinds

/-- A lock that is connected and then drops the link: the next send reports it, and so does
settling. -/
theorem dropReported_once_after_connect :
    ∃ t, (Outcome.connect (.ok ()), t) ∈
        ((initial [.ofSerial 7]).run []).toldBy (.start (.connect 7)) ∧
      (t.run [.device (.drop 0)]).reports 0 ≤ 1 ∧
      0 < ((t.run [.device (.drop 0)]).step (.start (.send [1]))).reports 0 ∧
      0 < (t.run [.device (.drop 0)]).settle.reports 0 := by
  have hTold : (Outcome.connect (.ok ()), (initial [.ofSerial 7]).step (.start (.connect 7))) ∈
      ((initial [.ofSerial 7]).run []).toldBy (.start (.connect 7)) := List.mem_singleton.mpr rfl
  refine ⟨_, hTold, ?_⟩
  obtain ⟨d, k, hOpened, hAfter⟩ :=
    dropReported_once [.ofSerial 7] [] (.start (.connect 7)) _ hTold
  cases hOpened.link
  cases hOpened.onNotify
  obtain ⟨hOnce, -, hReported⟩ := hAfter [.device (.drop 0)]
  obtain ⟨hSend, hSettle⟩ := hReported (by simp [Event.TearsDown])
  exact ⟨hOnce, hSend (.start (.send [1])) ⟨rfl, nofun, 0, rfl, rfl⟩,
    hSettle (List.mem_singleton.mpr rfl) rfl⟩

end Radio

end LockRelay
