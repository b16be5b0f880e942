import LockRelay.Dispatch.Relay
import LockRelay.Proofs.Session.BackgroundRenaming

/-! A dispatcher does not look at the numbers of connections. What it does under other numbers is
what it does, renamed, as long as the same events have arrived for the connections renamed. -/
namespace LockRelay

/-- The events recorded before are, for every connection, those that were seen, and the connections
still to be asked for are renamed to those that are still to be asked for. -/
structure Renaming.Fits (r : Renaming) (seen : ConnectionId → List ChannelEvent) (asked : Nat) :
    Prop where
  injective : r.number.Injective
  before : ∀ k, r.before.filterMap (Effect.event? (r.number k)) = seen k
  later : ∀ k, asked ≤ k → r.number k = k + r.extra

theorem Effect.event?_renumber {f : ConnectionId → ConnectionId} (hInjective : f.Injective)
    (effect : Effect) (k : ConnectionId) : (effect.renumber f).event? (f k) = effect.event? k := by
  cases effect <;> simp [Effect.renumber, Effect.event?, hInjective.eq_iff]

namespace Dispatcher

def rename (r : Renaming) (acts : List Act) (d : Dispatcher) : Dispatcher :=
  { d with
    radio := d.radio.rename r
    channel := d.channel.map r.number
    acts := acts ++ d.acts }

section Handling

variable (r : Renaming) (acts : List Act) (d : Dispatcher)

theorem record_rename (act : Act) :
    (d.rename r acts).record act = (d.record act).rename r acts := by
  simp [record, rename]

theorem conclude_rename (result : Except DispatchError Unit) :
    (d.rename r acts).conclude result = (d.conclude result).rename r acts := by
  simp only [conclude, record_rename]
  rfl

theorem operate_rename (operation : Radio.Operation) (message : Bytes)
    (hNumber : ∀ serial, operation = .connect serial →
      r.number d.radio.connections = d.radio.connections + r.extra) :
    (d.rename r acts).operate operation message =
      Prod.map (rename r acts) id (d.operate operation message) := by
  have hStart := Radio.start_rename r d.radio operation hNumber
  unfold operate
  rw [show (d.rename r acts).radio = d.radio.rename r from rfl, hStart]
  rcases d.radio.start operation with ⟨radio, _ | outcome⟩ <;> rfl

theorem sealPayload_rename (payload : Bytes) :
    (d.rename r acts).sealPayload payload =
      Prod.map (rename r acts) id (d.sealPayload payload) := by
  unfold sealPayload
  rw [show (d.rename r acts).cipher = d.cipher from rfl]
  cases d.cipher <;> rfl

theorem openFrame_rename (frame : Bytes) :
    (d.rename r acts).openFrame frame = Prod.map (rename r acts) id (d.openFrame frame) := by
  unfold openFrame
  rw [show (d.rename r acts).cipher = d.cipher from rfl]
  cases d.cipher <;> rfl

theorem sendPayload_rename (payload : Bytes) :
    (d.rename r acts).sendPayload payload =
      Prod.map (rename r acts) id (d.sendPayload payload) := by
  simp only [sendPayload, sealPayload_rename]
  rcases d.sealPayload payload with ⟨e, error | frame⟩
  · rfl
  · simp only [Prod.map, id_eq]
    rw [record_rename]
    exact operate_rename r acts (e.record (.sending frame)) _ _ nofun

theorem sendMessage_rename (message : Bytes) :
    (d.rename r acts).sendMessage message =
      Prod.map (rename r acts) id (d.sendMessage message) := by
  unfold sendMessage
  split_ifs
  · rfl
  · exact sendPayload_rename r acts d message

theorem followWith_rename (message : Bytes) (h : Handled) :
    followWith message (Prod.map (rename r acts) id h) =
      Prod.map (rename r acts) id (followWith message h) := by
  rcases h with ⟨e, _ | (error | ⟨⟩)⟩
  · rfl
  · rfl
  · exact sendMessage_rename r acts e message

theorem openConnection_rename (serial : UInt64) (message : Bytes)
    (hNumber : r.number d.radio.connections = d.radio.connections + r.extra) :
    (d.rename r acts).openConnection serial message =
      Prod.map (rename r acts) id (d.openConnection serial message) := by
  have hChannel : { d.rename r acts with
        channel := some (d.rename r acts).radio.connections, taken := 0 } =
      ({ d with channel := some d.radio.connections, taken := 0 } : Dispatcher).rename r acts := by
    simp [rename, Radio.rename, hNumber]
  simp only [openConnection, hChannel]
  exact operate_rename r acts { d with channel := some d.radio.connections, taken := 0 } _ _
    fun _ _ => hNumber

theorem perform_rename (command : Command)
    (hNumber : ∀ serial message, command = .openChannel serial message →
      r.number d.radio.connections = d.radio.connections + r.extra) :
    (d.rename r acts).perform command = Prod.map (rename r acts) id (d.perform command) := by
  unfold perform
  rw [record_rename]
  generalize hHandling : d.record (.handling command) = e
  have hRadio : e.radio = d.radio := by rw [← hHandling]; rfl
  cases command with
  | openChannel serial message =>
      have hBound : (e.rename r acts).isBoundTo serial = e.isBoundTo serial := rfl
      simp only [hBound]
      split_ifs
      · rw [record_rename]
        exact sendMessage_rename r acts (e.record (.reused serial)) message
      · rw [openConnection_rename r acts e serial message]
        · exact followWith_rename r acts message (e.openConnection serial message)
        · rw [hRadio]
          exact hNumber serial message rfl
  | sendPayload payload => exact sendPayload_rename r acts e payload
  | closeChannel => exact operate_rename r acts e _ _ nofun

theorem relayFrame_rename (serial : UInt32) (frame : Bytes) :
    (d.rename r acts).relayFrame serial frame =
      Prod.map (rename r acts) id (d.relayFrame serial frame) := by
  simp only [relayFrame, record_rename, openFrame_rename]
  rcases (d.record (.received frame)).openFrame frame with ⟨e, error | payload⟩
  · rfl
  · simp only [Prod.map, id_eq]
    rw [record_rename]

theorem obey_rename (reply : Reply) :
    (d.rename r acts).obey reply = Prod.map (rename r acts) id (d.obey reply) := by
  unfold obey
  rcases reply with error | ⟨serial, message⟩ | payload | _
  · exact Prod.ext (record_rename r acts d _) rfl
  · exact Prod.ext (record_rename r acts d _) rfl
  · exact perform_rename r acts d _ nofun
  · exact perform_rename r acts d _ nofun

theorem wake_rename : (d.rename r acts).wake = d.wake.rename r acts := by
  unfold wake
  rw [show (d.rename r acts).radio = d.radio.rename r from rfl, Radio.wake_rename]
  rfl

end Handling

/-! Relaying looks at the queue, so from here on only renamings are compared under which the same
events have arrived. -/

section Relaying

variable {r : Renaming} {acts : List Act} {seen : ConnectionId → List ChannelEvent}
  {asked : Nat}
variable (d : Dispatcher)

theorem listening_rename (hInjective : r.number.Injective) :
    (d.rename r acts).listening = d.listening := by
  have hSame : d.radio.session.onNotify.map r.number = d.channel.map r.number ↔
      d.radio.session.onNotify = d.channel := (Option.map_injective hInjective).eq_iff
  simp only [listening, rename, Radio.rename, Session.renumber, Option.isSome_map]
  rw [Bool.eq_iff_iff]
  simp [hSame]

/-- The queue when events were seen before those that are recorded. -/
def inboxAfter (seen : ConnectionId → List ChannelEvent) (d : Dispatcher) : List ChannelEvent :=
  match d.channel with
  | none => []
  | some k => (seen k ++ d.radio.trace.filterMap (Effect.event? k)).drop d.taken

theorem inbox_rename (hFits : r.Fits seen asked) : (d.rename r acts).inbox = d.inboxAfter seen := by
  have hEvent (k : ConnectionId) : Effect.event? (r.number k) ∘ Effect.renumber r.number =
      Effect.event? k := funext fun effect => effect.event?_renumber hFits.injective k
  unfold inbox inboxAfter
  rw [show (d.rename r acts).channel = d.channel.map r.number from rfl]
  cases d.channel with
  | none => rfl
  | some k =>
      simp only [Option.map_some, rename, Radio.rename]
      rw [List.filterMap_append, List.filterMap_map, hEvent, hFits.before]

theorem passDrops_rename (seen : ConnectionId → List ChannelEvent) (asked : Nat) :
    ∃ e : Dispatcher, ∀ r acts, r.Fits seen asked →
      (d.rename r acts).passDrops = e.rename r acts := by
  let count := ((d.inboxAfter seen).takeWhile (· = .dropped)).length
  refine ⟨{ d with
    taken := d.taken + count, acts := d.acts ++ List.replicate count .dropSeen }, ?_⟩
  intro r acts hFits
  simp only [passDrops, inbox_rename d hFits]
  simp [rename, count]

theorem takeFrame_rename (seen : ConnectionId → List ChannelEvent) (asked : Nat) :
    ∃ (e : Dispatcher) (next : Next), ∀ r acts, r.Fits seen asked →
      (d.rename r acts).takeFrame = (e.rename r acts, next) := by
  obtain ⟨e, hPassed⟩ := passDrops_rename d seen asked
  have hSerial (r : Renaming) (acts : List Act) :
      (d.rename r acts).radio.session.serial = d.radio.session.serial := rfl
  unfold takeFrame
  simp only [hSerial]
  cases d.radio.session.serial with
  | none => exact ⟨d, _, fun r acts _ => rfl⟩
  | some serial =>
      rcases hInbox : e.inboxAfter seen with _ | ⟨frame | _, rest⟩
      · refine ⟨e, if e.listening then .empty else .ended (.ok ()), fun r acts hFits => ?_⟩
        simp only [hPassed r acts hFits, inbox_rename e hFits, hInbox,
          listening_rename e hFits.injective]
      · rcases hRelayed : { e with taken := e.taken + 1 }.relayFrame serial frame with ⟨f, next⟩
        refine ⟨f, next, fun r acts hFits => ?_⟩
        have hRenamed := relayFrame_rename r acts { e with taken := e.taken + 1 } serial frame
        rw [hRelayed] at hRenamed
        simp only [hPassed r acts hFits, inbox_rename e hFits, hInbox]
        exact hRenamed
      · refine ⟨e, if e.listening then .empty else .ended (.ok ()), fun r acts hFits => ?_⟩
        simp only [hPassed r acts hFits, inbox_rename e hFits, hInbox,
          listening_rename e hFits.injective]

/-- Relaying that stops with the queue, for want of a frame or at the end. -/
theorem relay_stopped_rename {replies : List Reply} {e : Dispatcher} {next : Next}
    (hTaken : ∀ r acts, r.Fits seen asked →
      { d.rename r acts with replies }.takeFrame = (e.rename r acts, next))
    (hStopped : next ≠ .relayed) :
    ∃ f : Dispatcher, ∀ r acts, r.Fits seen asked →
      relay replies (d.rename r acts) = f.rename r acts := by
  cases next with
  | relayed => exact absurd rfl hStopped
  | empty =>
      refine ⟨{ e with waiting := some .event }, fun r acts hFits => ?_⟩
      cases replies <;> simp only [relay, hTaken r acts hFits] <;> rfl
  | ended result =>
      refine ⟨e.conclude result, fun r acts hFits => ?_⟩
      cases replies <;> simp only [relay, hTaken r acts hFits, conclude_rename]

theorem relay_rename (seen : ConnectionId → List ChannelEvent) (asked : Nat)
    (replies : List Reply) :
    ∃ e : Dispatcher, ∀ r acts, r.Fits seen asked →
      relay replies (d.rename r acts) = e.rename r acts := by
  have hTake (d : Dispatcher) (replies : List Reply) : ∃ (e : Dispatcher) (next : Next),
      ∀ r acts, r.Fits seen asked →
        { d.rename r acts with replies }.takeFrame = (e.rename r acts, next) :=
    takeFrame_rename { d with replies } seen asked
  induction replies generalizing d with
  | nil =>
      obtain ⟨e, next, hTaken⟩ := hTake d []
      cases next with
      | relayed =>
          refine ⟨{ e with waiting := some .reply }, fun r acts hFits => ?_⟩
          simp only [relay, hTaken r acts hFits]
          rfl
      | _ => exact relay_stopped_rename d hTaken nofun
  | cons reply replies ih =>
      obtain ⟨e, next, hTaken⟩ := hTake d (reply :: replies)
      cases next with
      | relayed =>
          have hObeyed (r : Renaming) (acts : List Act) :
              { e.rename r acts with replies }.obey reply =
                Prod.map (rename r acts) id ({ e with replies }.obey reply) :=
            obey_rename r acts { e with replies } reply
          rcases hReply : { e with replies }.obey reply with ⟨f, _ | (error | ⟨⟩)⟩
          · refine ⟨f, fun r acts hFits => ?_⟩
            simp only [relay, hTaken r acts hFits, hObeyed, hReply, Prod.map, id_eq]
          · refine ⟨f.conclude (.error error), fun r acts hFits => ?_⟩
            simp only [relay, hTaken r acts hFits, hObeyed, hReply, Prod.map, id_eq,
              conclude_rename]
          · obtain ⟨g, hRelayed⟩ := ih f
            refine ⟨g, fun r acts hFits => ?_⟩
            rw [relay, hTaken r acts hFits]
            simp only [hObeyed, hReply]
            exact hRelayed r acts hFits
      | _ => exact relay_stopped_rename d hTaken nofun

theorem proceed_rename (seen : ConnectionId → List ChannelEvent) (asked : Nat) (h : Handled) :
    ∃ e : Dispatcher, ∀ r acts, r.Fits seen asked →
      proceed (Prod.map (rename r acts) id h) = e.rename r acts := by
  rcases h with ⟨f, _ | (error | ⟨⟩)⟩
  · exact ⟨f, fun r acts _ => rfl⟩
  · exact ⟨f.conclude (.error error), fun r acts _ => conclude_rename r acts f _⟩
  · cases hRelaying : f.relaying with
    | false =>
        refine ⟨f.conclude (.ok ()), fun r acts _ => ?_⟩
        simp only [proceed, Prod.map, id_eq, rename, hRelaying, Bool.false_eq_true, if_false]
        exact conclude_rename r acts f _
    | true =>
        obtain ⟨e, hRelayed⟩ := relay_rename f seen asked f.replies
        refine ⟨e, fun r acts hFits => ?_⟩
        rw [← hRelayed r acts hFits]
        simp only [proceed, Prod.map, id_eq, rename, hRelaying, if_true]

theorem start_rename (seen : ConnectionId → List ChannelEvent) {asked : Nat}
    (hAsked : asked ≤ d.radio.connections) (relaying : Bool) (command : Command) :
    ∃ e : Dispatcher, ∀ r acts, r.Fits seen asked →
      (d.rename r acts).start relaying command = e.rename r acts := by
  have hWaiting (r : Renaming) (acts : List Act) : (d.rename r acts).waiting = d.waiting := rfl
  unfold start
  simp only [hWaiting]
  split_ifs
  · exact ⟨d, fun r acts _ => rfl⟩
  · obtain ⟨e, hProceeded⟩ := proceed_rename seen asked ({ d with relaying }.perform command)
    refine ⟨e, fun r acts hFits => ?_⟩
    rw [← hProceeded r acts hFits]
    exact congrArg proceed (perform_rename r acts { d with relaying } command
      fun _ _ _ => hFits.later _ hAsked)

theorem resume_rename (seen : ConnectionId → List ChannelEvent) (asked : Nat) :
    ∃ e : Dispatcher, ∀ r acts, r.Fits seen asked → (d.rename r acts).resume = e.rename r acts := by
  have hWaiting (r : Renaming) (acts : List Act) : (d.rename r acts).waiting = d.waiting := rfl
  have hReplies (r : Renaming) (acts : List Act) : (d.rename r acts).replies = d.replies := rfl
  have hRadio (r : Renaming) (acts : List Act) :
      (d.rename r acts).radio.resume = Prod.map (Radio.rename r) id d.radio.resume :=
    Radio.resume_rename r d.radio
  unfold resume
  simp only [hWaiting]
  rcases d.waiting with _ | message | _ | _
  · exact ⟨d, fun r acts _ => rfl⟩
  · simp only [hRadio]
    rcases d.radio.resume with ⟨radio, _ | outcome⟩
    · exact ⟨{ d with radio, waiting := some (.operation message) }, fun r acts _ => rfl⟩
    · obtain ⟨e, hProceeded⟩ := proceed_rename seen asked
        (followWith message ({ d with radio, waiting := none }, some outcome.result))
      refine ⟨e, fun r acts hFits => ?_⟩
      rw [← hProceeded r acts hFits, ← followWith_rename]
      rfl
  · exact relay_rename { d with waiting := none } seen asked d.replies
  · simp only [hReplies]
    rcases d.replies with _ | ⟨reply, replies⟩
    · exact ⟨d, fun r acts _ => rfl⟩
    · obtain ⟨e, hProceeded⟩ := proceed_rename seen asked
        ({ d with replies, waiting := none }.obey reply)
      refine ⟨e, fun r acts hFits => ?_⟩
      rw [← hProceeded r acts hFits, ← obey_rename]
      rfl

theorem poll_rename (seen : ConnectionId → List ChannelEvent) (asked : Nat) :
    ∃ e : Dispatcher, ∀ r acts, r.Fits seen asked → (d.rename r acts).poll = e.rename r acts := by
  have hReady (r : Renaming) (acts : List Act) :
      (d.rename r acts).radio.ready = d.radio.ready := rfl
  have hOthers : ∃ e : Dispatcher, ∀ r acts, r.Fits seen asked →
      (let f := { d.rename r acts with radio := (d.rename r acts).radio.poll }
       if f.waiting = some .event ∧ f.inbox ≠ [] then f.wake else f) = e.rename r acts := by
    have hPolled (r : Renaming) (acts : List Act) :
        { d.rename r acts with radio := (d.rename r acts).radio.poll } =
          ({ d with radio := d.radio.poll } : Dispatcher).rename r acts := by
      rw [show (d.rename r acts).radio = d.radio.rename r from rfl, Radio.poll_rename]
      rfl
    have hWaiting (r : Renaming) (acts : List Act) : (d.rename r acts).waiting = d.waiting := rfl
    simp only [hPolled]
    simp only [hWaiting]
    generalize ({ d with radio := d.radio.poll } : Dispatcher) = f
    refine ⟨if d.waiting = some .event ∧ f.inboxAfter seen ≠ [] then f.wake else f,
      fun r acts hFits => ?_⟩
    rw [inbox_rename f hFits]
    split_ifs
    · exact wake_rename r acts f
    · rfl
  unfold poll
  simp only [hReady]
  rcases hQueue : d.radio.ready with _ | ⟨id | _, rest⟩
  · exact hOthers
  · exact hOthers
  · exact resume_rename { d with radio := { d.radio with ready := rest } } seen asked

theorem pollTimes_rename (seen : ConnectionId → List ChannelEvent) (asked : Nat) (n : Nat) :
    ∃ e : Dispatcher, ∀ r acts, r.Fits seen asked →
      pollTimes n (d.rename r acts) = e.rename r acts := by
  induction n generalizing d with
  | zero => exact ⟨d, fun r acts _ => rfl⟩
  | succ n ih =>
      have hReady (r : Renaming) (acts : List Act) :
          (d.rename r acts).radio.ready = d.radio.ready := rfl
      obtain ⟨e, hPolled⟩ := poll_rename d seen asked
      obtain ⟨f, hRest⟩ := ih e
      unfold pollTimes
      simp only [hReady]
      split_ifs
      · exact ⟨d, fun r acts _ => rfl⟩
      · refine ⟨f, fun r acts hFits => ?_⟩
        rw [hPolled r acts hFits]
        exact hRest r acts hFits

theorem addReply_rename (r : Renaming) (acts : List Act) (reply : Reply) :
    (d.rename r acts).addReply reply = (d.addReply reply).rename r acts := by
  have hWaiting : (d.rename r acts).waiting = d.waiting := rfl
  unfold addReply
  simp only [hWaiting]
  split_ifs
  · exact wake_rename r acts { d with replies := d.replies ++ [reply] }
  · rfl

theorem step_rename (seen : ConnectionId → List ChannelEvent) {asked : Nat}
    (hAsked : asked ≤ d.radio.connections) (event : Event) :
    ∃ e : Dispatcher, ∀ r acts, r.Fits seen asked →
      (d.rename r acts).step event = e.rename r acts := by
  cases event with
  | handle command => exact start_rename d seen hAsked false command
  | run command => exact start_rename d seen hAsked true command
  | abandon => exact ⟨d.abandon, fun r acts _ => rfl⟩
  | turn => exact poll_rename d seen asked
  | settle =>
      exact pollTimes_rename d seen asked (2 * (d.radio.ready.length + d.replies.length) + 5)
  | reply reply => exact ⟨d.addReply reply, fun r acts _ => addReply_rename d r acts reply⟩
  | device event =>
      refine ⟨{ d with radio := d.radio.react event }, fun r acts _ => ?_⟩
      have hReacted := Radio.react_rename r d.radio event
      exact congrArg (fun radio => { d.rename r acts with radio }) hReacted

end Relaying

end Dispatcher

end LockRelay
