import LockRelay.Proofs.Session.Told

/-! What a send that succeeds says about the link. It was written to a link that is connected; the
link is bound as well, unless it was connected anew without being bound, or a watcher has taken a
check that failed for a drop. Both are read off the record of what has happened. -/
namespace LockRelay

/-- Whether the bound state is entered. -/
def Effect.binds : Effect → Bool
  | .assigned .bound => true
  | _ => false

/-- Whether a device is connected. -/
def Effect.connects (d : DeviceId) : Effect → Bool
  | .call (.connect i) true => i == d
  | _ => false

/-- An effect that neither assigns the state nor connects a device. -/
def Effect.Quiet : Effect → Prop
  | .assigned _ | .call (.connect _) true => False
  | _ => True

theorem Effect.Quiet.not_binds {e : Effect} (h : e.Quiet) : (!e.binds) = true := by
  cases e with
  | assigned state => exact h.elim
  | _ => rfl

theorem Effect.Quiet.not_connects {e : Effect} (h : e.Quiet) (d : DeviceId) :
    (!e.connects d) = true := by
  cases e with
  | call call succeeded =>
      cases call with
      | connect i =>
          cases succeeded with
          | true => exact h.elim
          | false => rfl
      | _ => rfl
  | _ => rfl

namespace Radio

/-- What has happened since the bound state was last entered. -/
def sinceBound (s : Radio) : List Effect := s.trace.rtakeWhile (!·.binds)

/-- What has happened since a device was last connected. -/
def sinceConnect (s : Radio) (d : DeviceId) : List Effect := s.trace.rtakeWhile (!·.connects d)

/-- Since a device was last connected its endpoints were resolved and then subscribed to. -/
def Subscribed (s : Radio) (d : DeviceId) : Prop :=
  ∃ service inbound,
    [.call (.resolve d service) true, .call (.subscribe d inbound) true] <:+: s.sinceConnect d

/-- A live task hands what a device notifies to the callback of the session. -/
def Feeds (s : Radio) (d : DeviceId) : Prop :=
  ∃ connection notify queue, s.session.onNotify = some connection ∧
    s.session.notifyTask = some notify ∧ (notify, .notifications d connection queue) ∈ s.tasks

structure FullyBound (s : Radio) (d : DeviceId) : Prop where
  state : s.session.state = .bound
  subscribed : s.Subscribed d
  feeds : s.Feeds d

/-- Since the bound state was last entered the device was connected once more, or a check of the
connection failed and was taken for a drop. -/
def Overlooked (s : Radio) (d : DeviceId) : Prop :=
  .call (.connect d) true ∈ s.sinceBound ∨
    [.call (.isConnected d) false, .assigned .disconnected] <:+: s.sinceBound

theorem rtakeWhile_append {α : Type} {p : α → Bool} (xs ys : List α) (h : ∀ y ∈ ys, p y) :
    (xs ++ ys).rtakeWhile p = xs.rtakeWhile p ++ ys := by
  induction ys using List.reverseRecOn with
  | nil => simp
  | append_singleton ys y ih =>
      rw [← List.append_assoc, List.rtakeWhile_concat_pos p _ y (h y (by simp)),
        ih fun z hz => h z (by simp [hz])]
      simp

/-- What the record keeps of a session that is bound, and of one that holds a link but is not. -/
structure Recorded (s : Radio) : Prop where
  undisturbed : s.session.state = .bound → ∀ e ∈ s.sinceBound, e.Quiet
  subscribed : ∀ d, s.session.link = some d → s.session.state = .bound → s.Subscribed d
  overlooked : ∀ d, s.session.link = some d → s.session.state ≠ .bound →
    (s.device d).connected = false ∨ s.Overlooked d

variable {s t : Radio}

theorem Overlooked.mono {d : DeviceId} {effects : List Effect} (h : s.Overlooked d)
    (hSince : t.sinceBound = s.sinceBound ++ effects) : t.Overlooked d := by
  unfold Overlooked
  rw [hSince]
  rcases h with hConnect | hCheck
  · exact Or.inl (List.mem_append_left _ hConnect)
  · exact Or.inr (hCheck.trans (List.prefix_append _ _).isInfix)

theorem Recorded.of_unlinked (hLink : s.session.link = none) (hState : s.session.state ≠ .bound) :
    s.Recorded := by
  refine ⟨fun hBound => absurd hBound hState, ?_, ?_⟩ <;>
  · intro d hLink'
    cases hLink.symm.trans hLink'

/-- A step that keeps the session, and is quiet on the record. -/
theorem Recorded.of_quiet (h : s.Recorded) (hSound : s.Sound) (effects : List Effect)
    (hQuiet : ∀ e ∈ effects, e.Quiet) (hTrace : t.trace = s.trace ++ effects)
    (hSession : t.session = s.session) (hDown : s.StaysDown t) : t.Recorded := by
  have hBound : t.sinceBound = s.sinceBound ++ effects := by
    unfold sinceBound
    rw [hTrace]
    exact rtakeWhile_append _ _ fun e he => (hQuiet e he).not_binds
  have hConnect (d : DeviceId) : t.sinceConnect d = s.sinceConnect d ++ effects := by
    unfold sinceConnect
    rw [hTrace]
    exact rtakeWhile_append _ _ fun e he => (hQuiet e he).not_connects d
  refine ⟨?_, ?_, ?_⟩
  · rw [hSession, hBound]
    intro hState e he
    rcases List.mem_append.mp he with he | he
    · exact h.undisturbed hState e he
    · exact hQuiet e he
  · rw [hSession]
    intro d hLink hState
    obtain ⟨service, inbound, hInfix⟩ := h.subscribed d hLink hState
    refine ⟨service, inbound, ?_⟩
    rw [hConnect]
    exact hInfix.trans (List.prefix_append _ _).isInfix
  · rw [hSession]
    intro d hLink hState
    rcases h.overlooked d hLink hState with hFalse | hOverlooked
    · exact Or.inl (hDown d (hSound.inRange d hLink) hFalse)
    · exact Or.inr (hOverlooked.mono hBound)

theorem Recorded.of_silent (h : s.Recorded) (hSound : s.Sound) (hTrace : t.trace = s.trace)
    (hSession : t.session = s.session) (hDown : s.StaysDown t) : t.Recorded :=
  h.of_quiet hSound [] (by simp) (hTrace.trans (List.append_nil _).symm) hSession
    hDown

/-- A link that is bound has just been subscribed to, and nothing has happened since. -/
theorem Recorded.of_bound {d : DeviceId} (hJust : s.JustSubscribed d)
    (hTrace : t.trace = s.trace ++ [.assigned .bound]) (hLink : t.session.link = some d)
    (hState : t.session.state = .bound) : t.Recorded := by
  refine ⟨?_, ?_, fun _ _ hNot => absurd hState hNot⟩
  · intro _ e he
    unfold sinceBound at he
    rw [hTrace, List.rtakeWhile_concat_neg _ _ _ (by simp [Effect.binds])] at he
    cases he
  · intro i hLink' _
    cases hLink.symm.trans hLink'
    obtain ⟨before, service, inbound, after, hAfter, hBefore⟩ := hJust
    refine ⟨service, inbound, ?_⟩
    have hSplit : t.trace = before ++ ([.call (.resolve d service) true,
        .call (.subscribe d inbound) true] ++ (after ++ [.assigned .bound])) := by
      simp [hTrace, hBefore]
    unfold sinceConnect
    rw [hSplit, rtakeWhile_append]
    · exact ((List.prefix_append _ _).isInfix).trans (List.suffix_append _ _).isInfix
    · intro e he
      simp only [List.mem_append, List.mem_cons, List.not_mem_nil, or_false] at he
      rcases he with (rfl | rfl) | he | rfl
      · rfl
      · rfl
      · rw [hAfter e he]
        rfl
      · rfl

/-- A link that has just been connected anew waits to be bound. -/
theorem Recorded.called {d : DeviceId} {device : Device} {call : Call} {succeeded : Bool}
    (h : s.Recorded) (hSound : s.Sound) (hDevice : call.device? = some d) (hMay : s.MayCall call)
    (hServed : (s.device d).Served device call succeeded) :
    ((s.setDevice d device).record (.call call succeeded)).Recorded := by
  by_cases hConnect : ∃ i, call = .connect i ∧ succeeded = true
  · obtain ⟨i, rfl, rfl⟩ := hConnect
    obtain ⟨-, hLink | ⟨hLink, hState⟩⟩ := hMay
    · exact .of_unlinked hLink fun hBound => hSound.bound hBound hLink
    · refine ⟨fun hBound => absurd hBound hState, fun _ _ hBound => absurd hBound hState, ?_⟩
      intro i' hLink' _
      cases hLink.symm.trans hLink'
      refine Or.inr (Or.inl ?_)
      unfold sinceBound record
      simp only
      rw [List.rtakeWhile_concat_pos _ _ _ rfl]
      simp
  · refine h.of_quiet hSound [.call call succeeded] ?_ rfl rfl ?_
    · intro e he
      rw [List.mem_singleton.mp he]
      cases call with
      | connect i =>
          cases succeeded with
          | true => exact hConnect ⟨i, rfl, rfl⟩
          | false => trivial
      | _ => trivial
    · refine staysDown_setDevice fun hFalse => ?_
      rw [hServed.connected, hFalse]
      cases hAfter : call.connectedAfter succeeded false with
      | false => rfl
      | true => exact absurd (connectedAfter_false hAfter) hConnect

theorem Recorded.demoted {seen : Option Nat} (h : s.Recorded)
    (hDropped : seen.all (· == s.session.generation) → s.session.state = .bound →
      ∃ d, s.session.link = some d ∧ s.LooksDropped d) : (s.dropped seen).Recorded := by
  rcases dropped_cases s seen with ⟨hSame, -⟩ | ⟨hSeen, hState, hChanged⟩
  · rw [hSame]
    exact h
  obtain ⟨d, hLink, hLooks⟩ := hDropped hSeen hState
  have hReported : ∀ e ∈ (s.session.onDisconnect.map Effect.dropReported).toList, e.Quiet := by
    cases s.session.onDisconnect <;> simp [Effect.Quiet]
  rw [hChanged]
  refine ⟨nofun, nofun, ?_⟩
  intro i hLink' _
  cases hLink.symm.trans hLink'
  rcases hLooks with hFalse | ⟨-, before, hBefore⟩
  · exact Or.inl hFalse
  · refine Or.inr (Or.inr ?_)
    unfold sinceBound
    simp only
    rw [hBefore, List.append_assoc, rtakeWhile_append]
    · exact (List.prefix_append _ _).isInfix.trans (List.suffix_append _ _).isInfix
    · intro e he
      simp only [List.mem_append, List.mem_cons, List.not_mem_nil, or_false] at he
      rcases he with rfl | rfl | he
      · rfl
      · rfl
      · exact (hReported e he).not_binds

theorem Recorded.move {m : Mover} (h : s.Recorded) (hSound : s.Sound) (hMove : s.Move m t) :
    t.Recorded := by
  cases hMove with
  | called d device call succeeded hDevice hMay hServed =>
      exact h.called hSound hDevice hMay hServed
  | discovered scans fault filter succeeded hLink =>
      refine h.of_quiet hSound [.call (.discover filter) succeeded] ?_ rfl rfl
        fun _ _ => id
      simp [Effect.Quiet]
  | assigned state hIdle hLink hState => exact .of_unlinked hLink hState
  | cleared hIdle => exact .of_unlinked rfl nofun
  | adopted request d endpoints hIdle hLink hRange hNewest hSubscribed =>
      exact .of_bound hSubscribed rfl rfl rfl
  | readopted d endpoints hIdle hLink hState hSubscribed =>
      obtain ⟨-, -, -, hTrace, hLink', hBound⟩ := readopt_frame s d endpoints
      exact .of_bound hSubscribed hTrace (hLink'.trans hLink) hBound
  | demoted seen hDropped => exact h.demoted hDropped
  | returned outcome hIdle hJustified =>
      refine h.of_quiet hSound [.returned outcome] ?_ rfl rfl fun _ _ => id
      simp [Effect.Quiet]
  | delivered task d connection queue hTask =>
      rw [foldl_frames]
      refine h.of_quiet hSound (queue.map (.frame connection)) ?_ rfl rfl fun _ _ => id
      simp [Effect.Quiet]
  | woken p =>
      unfold wake
      split_ifs
      · exact h
      · exact h.of_silent hSound rfl rfl fun _ _ => id
  | reacted event =>
      obtain ⟨hSession, -, hTrace, -, -, -, hDown⟩ := react_frame s event
      exact h.of_silent hSound hTrace hSession hDown
  | _ => exact h.of_silent hSound rfl rfl fun _ _ hFalse => hFalse

theorem Recorded.moves (h : s.Recorded) (hSound : s.Sound) (hMoves : s.Moves t) : t.Recorded :=
  hSound.keeps hMoves (fun _ _ _ _ hSound hMove h => h.move hSound hMove) h

theorem run_recorded (devices : List Device) (history : List Event) :
    ((initial devices).run history).Recorded := by
  have hRecorded : (initial devices).Recorded := .of_unlinked rfl nofun
  exact hRecorded.moves (initial_sound devices) ((initial_sound devices).run_moves history)

/-- Every link that is held and connected is bound, unless its record says why it is not. -/
theorem Recorded.bound_iff {d : DeviceId} (h : s.Recorded) (hLink : s.session.link = some d)
    (hConnected : (s.device d).connected = true) :
    s.session.state = .bound ↔ ¬s.Overlooked d := by
  constructor
  · rintro hState (hConnect | hCheck)
    · exact h.undisturbed hState _ hConnect
    · exact h.undisturbed hState (.assigned .disconnected) (hCheck.subset (by simp))
  · intro hNot
    by_contra hState
    rcases h.overlooked d hLink hState with hFalse | hOverlooked
    · simp [hConnected] at hFalse
    · exact hNot hOverlooked

theorem fullyBound_iff {d : DeviceId} (hSound : s.Sound) (h : s.Recorded)
    (hLink : s.session.link = some d) (hConnected : (s.device d).connected = true) :
    s.FullyBound d ↔ ¬s.Overlooked d := by
  rw [← h.bound_iff hLink hConnected]
  refine ⟨FullyBound.state, fun hState => ?_⟩
  obtain ⟨connection, notify, watch, queue, pending, check, hBy⟩ := hSound.linked hLink
  refine ⟨hState, h.subscribed d hLink hState, connection, notify, queue, hBy.onNotify,
    hBy.notifyTask, hBy.tasks.mem_iff.mpr (by simp)⟩

/-- Whenever a send succeeds, the session holds a link to a device. It is fully bound exactly when
since the last binding the device has not been connected without being bound, and no check that
failed was taken for a drop. -/
theorem send_ok_fullyBound_iff (devices : List Device) (history : List Event) (event : Event)
    (t : Radio)
    (hTold : (Outcome.send (.ok ()), t) ∈ ((initial devices).run history).toldBy event) :
    ∃ d, t.session.link = some d ∧ (t.FullyBound d ↔ ¬t.Overlooked d) := by
  have hSound := run_sound devices history
  obtain ⟨hMoves, d, hLink, hConnected⟩ := toldBy_moves hSound hTold
  have hRecorded := (run_recorded devices history).moves hSound hMoves
  exact ⟨d, hLink, fullyBound_iff (hSound.moves hMoves) hRecorded hLink hConnected⟩

theorem send_ok_fullyBound_iff_first_send :
    ∃ t, (Outcome.send (.ok ()), t) ∈
        ((initial [.ofSerial 7]).run [.start (.connect 7)]).toldBy (.start (.send [1])) ∧
      ∃ d, t.session.link = some d ∧ (t.FullyBound d ↔ ¬t.Overlooked d) := by
  refine ⟨_, List.mem_singleton.mpr rfl, ?_⟩
  exact send_ok_fullyBound_iff [.ofSerial 7] [.start (.connect 7)] (.start (.send [1])) _
    (List.mem_singleton.mpr rfl)

/-- A subscription that fails while a dropped link is bound again leaves the link connected, so the
next send goes through without one. -/
theorem send_ok_after_failed_subscription :
    ∃ t, (Outcome.send (.ok ()), t) ∈ ((initial [.ofSerial 7]).run
        [.start (.connect 7), .device (.drop 0), .device (.fault 0 .subscribe
          (CallFault.make .noAdapter (some 1))), .start (.send [1])]).toldBy (.start (.send [2])) ∧
      t.session.link = some 0 ∧ t.session.state = .disconnected ∧ ¬t.Subscribed 0 := by
  refine ⟨_, List.mem_singleton.mpr rfl, rfl, rfl, ?_⟩
  rintro ⟨service, inbound, hInfix⟩
  have hMember : Effect.call (.subscribe 0 inbound) true ∈
      [.call (.resolve 0 lockService) true, .call (.subscribe 0 inboundCharacteristic) false,
        .returned (.send (.error (.link .noAdapter))), .call (.isConnected 0) true,
        .call (.write 0 outboundCharacteristic [2]) true, .returned (.send (.ok ()))] :=
    hInfix.subset (List.mem_cons_of_mem _ (List.mem_singleton.mpr rfl))
  simp at hMember

end Radio

end LockRelay
