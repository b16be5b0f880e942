import LockRelay.Proofs.Dispatch.Renaming
import LockRelay.Proofs.Dispatch.Tuning

/-! What an open leaves behind that is refused because of its serial number. The session stays as it
was, callbacks included, but the dispatcher turns to the queue of a connection that is never made. -/
namespace LockRelay.Dispatcher

variable {d e : Dispatcher}

/-- Whatever happens from here on, the second dispatcher does what the first one does, with the same
devices and the same lock. -/
def FollowsAs (d e : Dispatcher) : Prop :=
  ∀ continuation, ∃ acts,
    (d.after continuation).acts = d.acts ++ acts ∧
    (e.after continuation).acts = e.acts ++ acts ∧
    (e.after continuation).radio.devices = (d.after continuation).radio.devices ∧
    (e.after continuation).radio.session.serial = (d.after continuation).radio.session.serial

theorem after_rename {seen : ConnectionId → List ChannelEvent} {asked : Nat}
    {r : Renaming} {acts : List Act} (hFits : r.Fits seen asked)
    (hSound : (d.rename r acts).radio.Sound) (hAsked : asked ≤ d.radio.connections)
    (continuation : List Event) :
    ∃ f : Dispatcher, ∀ r acts, r.Fits seen asked →
      (d.rename r acts).after continuation = f.rename r acts := by
  induction continuation generalizing d with
  | nil => exact ⟨d, fun _ _ _ => rfl⟩
  | cons event continuation ih =>
      obtain ⟨f, hStep⟩ := step_rename d seen hAsked event
      have hMoves := step_moves hSound event
      rw [hStep r acts hFits] at hMoves
      have hGrows : d.radio.connections + r.extra ≤ f.radio.connections + r.extra :=
        (Radio.grows_of_moves hMoves).connections
      obtain ⟨g, hRest⟩ := ih (hSound.moves hMoves) (hAsked.trans (Nat.le_of_add_le_add_right hGrows))
      refine ⟨g, fun r acts hFits => ?_⟩
      rw [← hRest r acts hFits, ← hStep r acts hFits]
      rfl

/-- Two renamings of one dispatcher go on alike. -/
theorem FollowsAs.of_rename {base : Dispatcher} {seen : ConnectionId → List ChannelEvent}
    {asked : Nat} {r r' : Renaming} {acts acts' : List Act} (hFits : r.Fits seen asked)
    (hFits' : r'.Fits seen asked) (hActs : base.acts = [])
    (hSound : (base.rename r acts).radio.Sound) (hAsked : asked ≤ base.radio.connections) :
    (base.rename r acts).FollowsAs (base.rename r' acts') := by
  intro continuation
  obtain ⟨f, hAfter⟩ := after_rename hFits hSound hAsked continuation
  refine ⟨f.acts, ?_⟩
  rw [hAfter r acts hFits, hAfter r' acts' hFits']
  simp only [rename, hActs, List.append_nil, true_and]
  exact ⟨rfl, rfl⟩

/-- Makes room for one more number in the place of `j`. -/
def skip (j k : Nat) : Nat := if k < j then k else k + 1

theorem skip_injective (j : Nat) : (skip j).Injective := by
  intro k l hSame
  unfold skip at hSame
  split_ifs at hSame <;> omega

/-- The state that a refused open leaves. -/
def refused (d : Dispatcher) (serial : UInt64) (message : Bytes) : Dispatcher :=
  { d with
    radio := { d.radio with
      connections := d.radio.connections + 1
      trace := d.radio.trace ++ [.returned (.connect (.error (.serial ⟨serial⟩)))] }
    channel := some d.radio.connections
    taken := 0
    relaying := false
    acts := d.acts ++ [.handling (.openChannel serial message),
      .returned (.error (.connect (.serial ⟨serial⟩)))] }

theorem step_eq_refused {serial : UInt64} (message : Bytes) (hFree : d.waiting = none)
    (hIdle : d.radio.operation = none) (hSerial : UInt32.size ≤ serial.toNat) :
    d.step (.handle (.openChannel serial message)) = d.refused serial message := by
  have hFilter : DiscoveryFilter.forSerial serial = .error ⟨serial⟩ :=
    if_neg (Nat.not_lt.mpr hSerial)
  have hOther (bound : UInt32) : (bound.toUInt64 == serial) = false := by
    rw [beq_eq_false_iff_ne]
    rintro rfl
    exact absurd bound.toNat_lt (Nat.not_lt.mpr hSerial)
  have hBound (f : Dispatcher) : f.isBoundTo serial = false := by
    unfold isBoundTo
    cases f.radio.session.serial with
    | none => rfl
    | some bound => exact hOther bound
  simp [step, start, hFree, perform, hBound, openConnection, operate, Radio.start, hIdle,
    Radio.connect, hFilter, Radio.note, Radio.record, Outcome.result, followWith, proceed, conclude,
    record, refused]

theorem events_eq_nil {s : Radio} {k : ConnectionId} (h : ¬s.Reported k) :
    s.trace.filterMap (Effect.event? k) = [] := by
  rw [List.filterMap_eq_nil_iff]
  intro effect hEffect
  by_contra hEvent
  refine h ⟨effect, hEffect, ?_⟩
  cases effect <;> simp_all [Effect.event?, Effect.connection?]

/-- Nothing has arrived for a connection that has just been asked for. -/
theorem refused_deaf (hNumbered : d.radio.Numbered) (serial : UInt64) (message : Bytes) :
    (d.refused serial message).inbox = [] ∧ (d.refused serial message).listening = false := by
  constructor
  · have hNew : ¬d.radio.Reported d.radio.connections :=
      fun hReported => (hNumbered.reported _ hReported).false
    simp [inbox, refused, events_eq_nil hNew, Effect.event?]
  · have hOther : d.radio.session.onNotify ≠ some d.radio.connections :=
      fun hHeld => (hNumbered.onNotify _ hHeld).false
    simp [listening, refused, hOther]

/-- A dispatcher without its record, of which only the events are kept. -/
def erased (d : Dispatcher) : Dispatcher :=
  { d with radio := { d.radio with trace := [] }, acts := [] }

def seen (d : Dispatcher) (k : ConnectionId) : List ChannelEvent :=
  d.radio.trace.filterMap (Effect.event? k)

theorem erased_fits (d : Dispatcher) (asked : Nat) :
    (⟨id, 0, d.radio.trace⟩ : Renaming).Fits d.seen asked :=
  ⟨Function.injective_id, fun _ => rfl, fun _ _ => rfl⟩

theorem rename_erased (d : Dispatcher) : d.erased.rename ⟨id, 0, d.radio.trace⟩ d.acts = d := by
  have hPoint (point : Point) : point.renumber id = point := by cases point <;> rfl
  have hOperation : d.radio.operation.map (Suspended.renumber id) = d.radio.operation := by
    cases d.radio.operation <;> simp [Suspended.renumber, hPoint]
  have hRadio := Radio.rename_of_kept (r := ⟨id, 0, d.radio.trace⟩) (s := d.erased.radio)
    (fun _ _ => rfl) (fun _ _ => rfl) (fun _ _ _ _ _ => rfl) hOperation
  unfold rename
  rw [hRadio]
  simp [erased]

/-- The last connection asked for, never reported to, is as good as one that is not made. -/
theorem skip_fits {j : ConnectionId} (hNumbered : d.radio.Numbered)
    (hLast : j + 1 = d.radio.connections) (hUnreported : ¬d.radio.Reported j)
    (serial : UInt64) (message : Bytes) :
    (⟨skip j, 1, (d.refused serial message).radio.trace⟩ : Renaming).Fits d.seen
      d.radio.connections := by
  have hLater (k : ConnectionId) (hAfter : j < k) : ¬d.radio.Reported k := fun hReported =>
    Nat.not_lt.mpr (hLast.ge.trans hAfter) (hNumbered.reported k hReported)
  have hTrace (k : ConnectionId) : (d.refused serial message).radio.trace.filterMap
      (Effect.event? k) = d.radio.trace.filterMap (Effect.event? k) := by
    simp [refused, Effect.event?]
  refine ⟨skip_injective j, fun k => ?_, fun k hAsked => ?_⟩
  · refine (hTrace (skip j k)).trans ?_
    unfold seen skip
    split_ifs with hEarlier
    · rfl
    · rcases Nat.eq_or_lt_of_le (Nat.not_lt.mp hEarlier) with rfl | hAfter
      · rw [events_eq_nil hUnreported, events_eq_nil (hLater _ (Nat.lt_succ_self _))]
      · rw [events_eq_nil (hLater k hAfter), events_eq_nil (hLater _ (Nat.lt_succ_of_lt hAfter))]
  · exact if_neg (Nat.not_lt.mpr (Nat.le_of_lt (hLast.trans_le hAsked)))

/-- A refused open changes the numbers, and nothing else, when it is not the first one. -/
theorem rename_erased_skip {i j : ConnectionId} (hSteady : d.Steady) (hSound : d.radio.Sound)
    (hNumbered : d.radio.Numbered) (hFree : d.waiting = none) (hChannel : d.channel = some j)
    (hHeld : d.radio.session.onNotify = some i) (hOther : i ≠ j) (serial : UInt64)
    (message : Bytes) :
    d.erased.rename ⟨skip j, 1, (d.refused serial message).radio.trace⟩
      (d.refused serial message).acts = d.refused serial message := by
  have hLast := hSteady.tuned.last j hChannel
  have hAsked := hNumbered.onNotify i hHeld
  have hTaken : d.taken = 0 := by
    have hCount := hSteady.tuned.taken
    have hUnreported := hNumbered.newest i j hHeld hLast hOther
    simpa [arrived, hChannel, events_eq_nil hUnreported] using hCount
  have hKept (k : ConnectionId) (hSame : d.radio.session.onNotify = some k) : skip j k = k := by
    rw [← Option.some.inj (hHeld.symm.trans hSame)]
    exact if_pos (Nat.lt_of_le_of_ne (Nat.le_of_lt_succ (hAsked.trans_eq hLast.symm)) hOther)
  have hMoved : skip j j = d.radio.connections := (if_neg (Nat.lt_irrefl j)).trans hLast
  have hIdle : d.radio.operation = none := hSteady.idle (by simp [hFree])
  have hRadio := Radio.rename_of_kept (s := d.erased.radio)
    (r := ⟨skip j, 1, (d.refused serial message).radio.trace⟩) hKept
    (fun k hSame => hKept k (hNumbered.onDisconnect k hSame))
    (fun _ _ k _ hMember => hKept k (hSound.notifies hMember))
    (by rw [show d.erased.radio.operation = none from hIdle]; rfl)
  unfold rename
  rw [hRadio]
  simp [erased, refused, hChannel, hMoved, hTaken, hSteady.relaying hFree]

/-- With the callbacks of another connection in the session, the queue that is listened to is as
dead as the one that a refused open turns to. -/
theorem refused_followsAs (hSteady : d.Steady) (hSound : d.radio.Sound)
    (hNumbered : d.radio.Numbered) (hFree : d.waiting = none)
    (hBound : d.radio.session.serial.isSome) (hDeaf : d.listening = false) (serial : UInt64)
    (message : Bytes) : d.FollowsAs (d.refused serial message) := by
  obtain ⟨i, hHeld⟩ : ∃ i, d.radio.session.onNotify = some i := by
    rcases hSound.represented with hUnlinked | ⟨_, i, _, _, _, _, _, hBy⟩
    · rw [Session.serial, hUnlinked.filter] at hBound
      cases hBound
    · exact ⟨i, hBy.onNotify⟩
  obtain ⟨j, hChannel⟩ : ∃ j, d.channel = some j := by
    cases hNone : d.channel with
    | none =>
        have hAsked := hNumbered.onNotify i hHeld
        rw [hSteady.tuned.first hNone] at hAsked
        cases hAsked
    | some j => exact ⟨j, rfl⟩
  have hLast := hSteady.tuned.last j hChannel
  have hOther : i ≠ j := by
    rintro rfl
    simp [listening, hChannel, hHeld] at hDeaf
  have hUnreported := hNumbered.newest i j hHeld hLast hOther
  have hSound' : (d.erased.rename ⟨id, 0, d.radio.trace⟩ d.acts).radio.Sound := by
    rw [rename_erased]
    exact hSound
  have hAlike : (d.erased.rename ⟨id, 0, d.radio.trace⟩ d.acts).FollowsAs
      (d.erased.rename ⟨skip j, 1, (d.refused serial message).radio.trace⟩
        (d.refused serial message).acts) :=
    .of_rename (erased_fits d d.radio.connections)
      (skip_fits hNumbered hLast hUnreported serial message) rfl hSound' (Nat.le_refl _)
  rw [rename_erased, rename_erased_skip hSteady hSound hNumbered hFree hChannel hHeld hOther]
    at hAlike
  exact hAlike

/-! Relaying at the bound lock tells the two apart while frames can still come. -/

theorem obey_acts (d : Dispatcher) (reply : Reply) : d.acts <+: (d.obey reply).1.acts := by
  have hObeyed := obey_rename ⟨id, 0, d.radio.trace⟩ d.acts d.erased reply
  rw [rename_erased] at hObeyed
  rw [hObeyed]
  exact List.prefix_append _ _

theorem relay_acts (d : Dispatcher) (replies : List Reply) :
    d.acts <+: (relay replies d).acts := by
  obtain ⟨f, hRelayed⟩ := relay_rename d.erased d.seen 0 replies
  have hSame := hRelayed _ d.acts (erased_fits d 0)
  rw [rename_erased] at hSame
  rw [hSame]
  exact List.prefix_append _ _

theorem relayFrame_acts (d : Dispatcher) (serial : UInt32) (frame : Bytes) :
    d.acts ++ [.received frame] <+: (d.relayFrame serial frame).1.acts := by
  unfold relayFrame openFrame
  cases (d.record (.received frame)).cipher with
  | none => exact List.prefix_append _ _
  | some cipher =>
      simp only
      rcases cipher.openFrame Aes.encrypt frame with ⟨cipher, error | payload⟩
      · exact List.prefix_rfl
      · exact List.prefix_append _ _

/-- While frames can come, relaying waits for one or does something with what has come. -/
theorem takeFrame_listening {serial : UInt32} (hBound : d.radio.session.serial = some serial)
    (hListening : d.listening = true) :
    d.takeFrame.2 = .empty ∧ d.takeFrame.1.acts = d.acts ∨
      ∃ act, act ≠ .returned (.ok ()) ∧ d.acts ++ [act] <+: d.takeFrame.1.acts := by
  have hListening' : d.passDrops.listening = true := hListening
  have hPassed : d.passDrops.acts <+: d.takeFrame.1.acts := by
    unfold takeFrame
    rw [hBound]
    simp only
    split
    · rename_i frame rest hInbox
      have hRelayed := relayFrame_acts { d.passDrops with taken := d.passDrops.taken + 1 } serial frame
      exact (List.prefix_append _ _).trans hRelayed
    · exact List.prefix_rfl
  rcases hInbox : d.inbox with _ | ⟨frame | _, rest⟩
  · have hNothing : d.passDrops = d := by
      simp [passDrops, hInbox]
    left
    unfold takeFrame
    simp only [hBound, hNothing, hInbox, hListening]
    exact ⟨rfl, trivial⟩
  · have hNothing : d.passDrops = d := by
      simp [passDrops, hInbox]
    refine Or.inr ⟨.received frame, by simp, ?_⟩
    unfold takeFrame
    simp only [hBound, hNothing, hInbox]
    exact relayFrame_acts { d with taken := d.taken + 1 } serial frame
  · refine Or.inr ⟨.dropSeen, by simp, List.IsPrefix.trans ?_ hPassed⟩
    simp [passDrops, hInbox, List.replicate_succ]

/-- Relaying adds to what taking the first frame did, unless it waits for a frame. -/
theorem takeFrame_relay_acts (d : Dispatcher) (replies : List Reply) :
    ({ d with replies }.takeFrame.2 = .empty →
        (relay replies d).acts = { d with replies }.takeFrame.1.acts) ∧
      { d with replies }.takeFrame.1.acts <+: (relay replies d).acts := by
  have hObeys {e f : Dispatcher} {reply : Reply} {replies : List Reply}
      {result : Option (Except DispatchError Unit)}
      (hObeyed : { e with replies }.obey reply = (f, result)) : e.acts <+: f.acts := by
    have hActs := obey_acts { e with replies } reply
    rw [hObeyed] at hActs
    exact hActs
  fun_cases relay replies d with
  | case1 left e result hTaken =>
      rw [hTaken]
      exact ⟨nofun, List.prefix_append _ _⟩
  | case2 left e hTaken =>
      rw [hTaken]
      exact ⟨fun _ => rfl, List.prefix_rfl⟩
  | case3 e hTaken =>
      rw [hTaken]
      exact ⟨nofun, List.prefix_rfl⟩
  | case4 e reply replies f hObeyed hTaken =>
      rw [hTaken]
      exact ⟨nofun, (hObeys hObeyed).trans (relay_acts f replies)⟩
  | case5 e reply replies f error hObeyed hTaken =>
      rw [hTaken]
      exact ⟨nofun, (hObeys hObeyed).trans (List.prefix_append _ _)⟩
  | case6 e reply replies f hObeyed hTaken =>
      rw [hTaken]
      exact ⟨nofun, hObeys hObeyed⟩

theorem relay_listening {serial : UInt32} (hBound : d.radio.session.serial = some serial)
    (hListening : d.listening = true) (replies : List Reply) :
    (relay replies d).acts ≠ d.acts ++ [.returned (.ok ())] := by
  obtain ⟨hWaits, hAdds⟩ := takeFrame_relay_acts d replies
  intro hEnded
  rcases takeFrame_listening (d := { d with replies }) hBound hListening with
    ⟨hEmpty, hSame⟩ | ⟨act, hAct, hPrefix⟩
  · have hSame' : d.acts ++ [.returned (.ok ())] = d.acts :=
      hEnded.symm.trans ((hWaits hEmpty).trans hSame)
    simp at hSame'
  · have hFirst := hPrefix.trans hAdds
    rw [hEnded] at hFirst
    have hLists := (List.prefix_append_right_inj d.acts).mp hFirst
    exact hAct (by simpa using hLists)

/-- Nothing comes from a queue that is empty and not listened to, and relaying ends at once. -/
theorem relay_deaf {serial : UInt32} (hBound : d.radio.session.serial = some serial)
    (hInbox : d.inbox = []) (hDeaf : d.listening = false) (replies : List Reply) :
    (relay replies d).acts = d.acts ++ [.returned (.ok ())] := by
  have hTaken (left : List Reply) :
      { d with replies := left }.takeFrame = ({ d with replies := left }, .ended (.ok ())) := by
    have hInbox' : ({ d with replies := left } : Dispatcher).inbox = [] := hInbox
    have hDeaf' : ({ d with replies := left } : Dispatcher).listening = false := hDeaf
    have hNothing : ({ d with replies := left } : Dispatcher).passDrops =
        { d with replies := left } := by
      simp [passDrops, hInbox']
    unfold takeFrame
    simp only [hBound, hNothing, hInbox', hDeaf']
    rfl
  cases replies <;> (unfold relay; rw [hTaken]; rfl)

/-- A run that is asked for the bound lock begins to relay at once. -/
theorem run_bound {serial : UInt32} (hFree : d.waiting = none)
    (hBound : d.radio.session.serial = some serial) :
    ∃ f : Dispatcher, f.radio = d.radio ∧ f.inbox = d.inbox ∧ f.listening = d.listening ∧
      f.acts = d.acts ++
        [.handling (.openChannel serial.toUInt64 []), .reused serial.toUInt64] ∧
      d.step (.run (.openChannel serial.toUInt64 [])) = relay d.replies f := by
  refine ⟨({ d with relaying := true }.record (.handling (.openChannel serial.toUInt64 []))).record
    (.reused serial.toUInt64), rfl, rfl, rfl, by simp [record], ?_⟩
  have hSame (f : Dispatcher) (hRadio : f.radio = d.radio) :
      f.isBoundTo serial.toUInt64 = true := by
    simp [isBoundTo, hRadio, hBound]
  simp [step, start, hFree, perform, hSame, record, sendMessage, proceed]

theorem run_deaf {serial : UInt32} (hFree : d.waiting = none)
    (hBound : d.radio.session.serial = some serial) (hInbox : d.inbox = [])
    (hDeaf : d.listening = false) :
    (d.step (.run (.openChannel serial.toUInt64 []))).acts = d.acts ++
      [.handling (.openChannel serial.toUInt64 []), .reused serial.toUInt64,
        .returned (.ok ())] := by
  obtain ⟨f, hRadio, hInbox', hListening, hActs, hStep⟩ := run_bound hFree hBound
  rw [hStep, relay_deaf (hRadio ▸ hBound) (hInbox'.trans hInbox) (hListening.trans hDeaf), hActs]
  simp

theorem run_listening {serial : UInt32} (hFree : d.waiting = none)
    (hBound : d.radio.session.serial = some serial) (hListens : d.listening = true) :
    (d.step (.run (.openChannel serial.toUInt64 []))).acts ≠ d.acts ++
      [.handling (.openChannel serial.toUInt64 []), .reused serial.toUInt64,
        .returned (.ok ())] := by
  obtain ⟨f, hRadio, -, hListening, hActs, hStep⟩ := run_bound hFree hBound
  have hDiffers := relay_listening (hRadio ▸ hBound) (hListening.trans hListens) d.replies
  rw [hActs] at hDiffers
  rw [hStep]
  simpa using hDiffers

/-- An open is refused whose serial number is too large, and the session stays bound to its lock. A
run at that lock then ends at once, so the open goes unnoticed exactly when nothing could come from
the queue that was listened to before. -/
theorem followsAs_refusedOpen_iff {devices : List Device} {cipher : Option ChannelCipher}
    {history : List Event} {serial : UInt64} {bound : UInt32} (message : Bytes)
    (hReached : (initial devices cipher).after history = d) (hFree : d.waiting = none)
    (hBound : d.radio.session.serial = some bound) (hSerial : UInt32.size ≤ serial.toNat)
    (hStep : d.step (.handle (.openChannel serial message)) = e) :
    e.acts = d.acts ++ [.handling (.openChannel serial message),
        .returned (.error (.connect (.serial ⟨serial⟩)))] ∧
      e.radio.session = d.radio.session ∧ e.radio.devices = d.radio.devices ∧
      e.waiting = none ∧
      (e.step (.run (.openChannel bound.toUInt64 []))).acts = e.acts ++
        [.handling (.openChannel bound.toUInt64 []), .reused bound.toUInt64, .returned (.ok ())] ∧
      (d.FollowsAs e ↔ d.listening = false) := by
  have hSteady : d.Steady := hReached ▸ after_steady devices cipher history
  have hSound : d.radio.Sound := hReached ▸ after_sound devices cipher history
  have hNumbered : d.radio.Numbered := hReached ▸ after_numbered devices cipher history
  have hIdle : d.radio.operation = none := hSteady.idle (by simp [hFree])
  rw [step_eq_refused message hFree hIdle hSerial] at hStep
  subst hStep
  obtain ⟨hInbox, hDeaf⟩ := refused_deaf hNumbered serial message
  have hRun := run_deaf (d := d.refused serial message) hFree hBound hInbox hDeaf
  refine ⟨rfl, rfl, rfl, hFree, hRun, fun hFollows => ?_, fun hNotListening => ?_⟩
  · by_contra hListens
    obtain ⟨acts, hActs, hActs', -⟩ := hFollows [.run (.openChannel bound.toUInt64 [])]
    obtain rfl := List.append_cancel_left (hActs'.symm.trans hRun)
    have hListening : d.listening = true := by simpa using hListens
    exact run_listening hFree hBound hListening hActs
  · exact refused_followsAs hSteady hSound hNumbered hFree (by simp [hBound]) hNotListening serial
      message

/-- A lock is opened, and then one whose serial number does not fit. -/
theorem followsAs_refusedOpen_iff_after_open :
    ∃ d e : Dispatcher, (initial [.ofSerial 7] none).after [.handle (.openChannel 7 [])] = d ∧
      d.waiting = none ∧ d.radio.session.serial = some 7 ∧
      UInt32.size ≤ (4294967296 : UInt64).toNat ∧
      d.step (.handle (.openChannel 4294967296 [])) = e ∧
      (d.FollowsAs e ↔ d.listening = false) := by
  have hReached : (initial [.ofSerial 7] none).after [.handle (.openChannel 7 [])] = _ := rfl
  have hBound : ((initial [.ofSerial 7] none).after [.handle (.openChannel 7 [])]).radio.session.serial =
      some 7 := by decide
  have hFits : UInt32.size ≤ (4294967296 : UInt64).toNat := by decide
  obtain ⟨-, -, -, -, -, hIff⟩ := followsAs_refusedOpen_iff [] hReached rfl hBound hFits rfl
  exact ⟨_, _, hReached, rfl, hBound, hFits, rfl, hIff⟩

/-- A payload has come from a lock when an open is refused. A run at the lock relays it without the
refused open, and ends without it afterwards. -/
theorem not_followsAs_refusedOpen :
    ∃ d : Dispatcher, (initial [.ofSerial 7] none).after
        [.handle (.openChannel 7 []), .device (.notify 0 [0xBB]), .settle] = d ∧
      d.radio.session.serial = some 7 ∧ d.inbox = [.frame [0xBB]] ∧
      ¬d.FollowsAs (d.step (.handle (.openChannel 4294967296 []))) := by
  refine ⟨_, rfl, by decide, by decide, fun hFollows => ?_⟩
  obtain ⟨acts, hActs, hActs', -⟩ := hFollows [.run (.openChannel 7 [])]
  have hLength := congrArg List.length hActs
  have hLength' := congrArg List.length hActs'
  rw [List.length_append] at hLength hLength'
  change 6 = 2 + acts.length at hLength
  change 7 = 4 + acts.length at hLength'
  omega

end LockRelay.Dispatcher
