import LockRelay.Proofs.Cipher.ChannelCalls
import LockRelay.Proofs.Dispatch.RadioMoves
import LockRelay.Proofs.Session.Acknowledged

/-! The outbound cipher of a dispatcher and the lock at the other end. A payload is sealed before the
session is asked to send it, so a command that fails there uses blocks up which the lock never sees.
The two ends count the same blocks exactly as long as only empty payloads are lost like that. -/
namespace LockRelay

/-- What a command is to write, or nothing. -/
def Command.payload : Command → Bytes
  | .openChannel _ message => message
  | .sendPayload payload => payload
  | .closeChannel => []

/-- What a record of acts tells of payloads: that of the command in progress and whether its frame
went to the session, and those whose frames did, by how their commands ended. -/
structure Account where
  payload : Bytes := []
  sent : Bool := false
  delivered : List Bytes := []
  lost : List Bytes := []

def Account.add (a : Account) : Act → Account
  | .handling command => { a with payload := command.payload, sent := false }
  | .sending _ => { a with sent := true }
  | .returned (.ok ()) =>
      if a.sent then { a with sent := false, delivered := a.delivered ++ [a.payload] } else a
  | .returned (.error _) =>
      if a.sent then { a with sent := false, lost := a.lost ++ [a.payload] } else a
  | _ => a

namespace Dispatcher

def account (d : Dispatcher) : Account := d.acts.foldl Account.add {}

@[simp] theorem account_record (d : Dispatcher) (act : Act) :
    (d.record act).account = d.account.add act := by
  simp [account, record, List.foldl_append]

/-- The lock has recovered the payloads of the commands that succeeded with a write, one after
another, and its cipher has come as far as the dispatcher's. -/
def InStep (d : Dispatcher) (peer : ChannelCipher) : Prop :=
  (peer.openAll Aes.encrypt (d.radio.device 0).written).2 = d.account.delivered.map .ok ∧
    d.cipher.map (·.outbound.counter) =
      some (peer.openAll Aes.encrypt (d.radio.device 0).written).1.inbound.counter

variable (peer : ChannelCipher)

/-- The cipher at the other end after all frames that were acknowledged, and what it gave. -/
def opened (d : Dispatcher) : ChannelCipher × List (Except CipherError Bytes) :=
  peer.openAll Aes.encrypt d.radio.acknowledged

/-- The dispatcher is ahead by the blocks of what was lost and of what is in flight. Until something
was lost that has a block, the other end has recovered what was delivered. -/
structure Balanced (d : Dispatcher) (inFlight : Nat) : Prop where
  cipher : ∃ c, d.cipher = some c ∧ c.outbound.key = peer.inbound.key ∧
    c.outbound.nonce = peer.inbound.nonce ∧
    (d.opened peer).1.inbound.counter + blocksOf d.account.lost + inFlight = c.outbound.counter
  recovered : (∀ payload ∈ d.account.lost, payload = []) →
    (d.opened peer).2 = d.account.delivered.map .ok

/-- A frame has gone to the session, and the command that it belongs to has not ended. -/
structure InFlight (d : Dispatcher) (frame : Bytes) : Prop where
  sent : d.account.sent = true
  balanced : d.Balanced peer (CounterMode.blocksFor d.account.payload.length)
  length : frame.length = d.account.payload.length
  masked : (∀ payload ∈ d.account.lost, payload = []) →
    frame = CounterMode.mask (Aes.encrypt peer.inbound.key) (d.opened peer).1.inbound.inputBlock
      d.account.payload

variable {peer} {d : Dispatcher}

/-- Sealing moves the counter by the blocks of the payload, or fails and moves nothing. -/
theorem sealPayload_inFlight (h : d.Balanced peer 0) :
    (∃ error, d.sealPayload d.account.payload = (d, .error error)) ∨
      ∃ c frame, d.sealPayload d.account.payload = ({ d with cipher := some c }, .ok frame) ∧
        ({ d with cipher := some c }.record (.sending frame)).InFlight peer frame := by
  obtain ⟨⟨c, hCipher, hKey, hNonce, hCounter⟩, hRecovered⟩ := h
  rcases Nat.lt_or_ge StreamCipher.maxBlocks
    (c.outbound.counter + CounterMode.blocksFor d.account.payload.length) with hFits | hFits
  · left
    refine ⟨.counterExhausted, ?_⟩
    unfold sealPayload
    rw [hCipher]
    simp only
    rw [ChannelCipher.sealFrame_exhausted _ _ _ hFits, ← hCipher]
  · right
    refine ⟨{ c with outbound := c.outbound.advance _ hFits },
      CounterMode.mask (Aes.encrypt c.outbound.key) c.outbound.inputBlock d.account.payload, ?_, ?_⟩
    · unfold sealPayload
      rw [hCipher]
      simp only
      rw [ChannelCipher.sealFrame_fits _ _ _ hFits]
    · generalize hMasked : CounterMode.mask _ _ d.account.payload = frame
      generalize hNext : ({ c with outbound := c.outbound.advance _ hFits } : ChannelCipher) = next
      have hAccount : ({ d with cipher := some next }.record (.sending frame)).account =
          { d.account with sent := true } := account_record _ _
      subst hNext
      refine ⟨?_, ⟨⟨_, rfl, hKey, hNonce, ?_⟩, ?_⟩, ?_, ?_⟩
      · rw [hAccount]
      · rw [hAccount]
        exact congrArg (· + _) hCounter
      · rw [hAccount]
        exact hRecovered
      · rw [hAccount, ← hMasked, CounterMode.length_mask]
      · rw [hAccount]
        intro hLost
        have hOpened : (d.opened peer).1.inbound.counter = c.outbound.counter := by
          rw [← hCounter, blocksOf_eq_zero.mpr hLost]
          rfl
        obtain ⟨-, hPeerNonce⟩ := peer.inbound_openAll Aes.encrypt d.radio.acknowledged
        rw [← hMasked, hKey]
        unfold StreamCipher.inputBlock
        rw [hNonce, ← hOpened, ← hPeerNonce]
        rfl

/-- The lock acknowledges the frame in flight, and its command succeeds. -/
theorem InFlight.delivered {frame : Bytes} (h : d.InFlight peer frame) {radio : Radio}
    (hAcknowledged : radio.acknowledged = d.radio.acknowledged ++ [frame]) :
    ({ d with radio }.conclude (.ok ())).Balanced peer 0 ∧
      ({ d with radio }.conclude (.ok ())).account.sent = false := by
  obtain ⟨hSent, ⟨⟨c, hCipher, hKey, hNonce, hCounter⟩, hRecovered⟩, hLength, hMasked⟩ := h
  have hAccount : ({ d with radio }.conclude (.ok ())).account =
      { d.account with sent := false, delivered := d.account.delivered ++ [d.account.payload] } := by
    refine (account_record { d with radio } (.returned (.ok ()))).trans ?_
    exact if_pos hSent
  have hPeerKey : (d.opened peer).1.inbound.key = peer.inbound.key :=
    (peer.inbound_openAll Aes.encrypt d.radio.acknowledged).1
  have hFits : (d.opened peer).1.inbound.counter + CounterMode.blocksFor frame.length ≤
      StreamCipher.maxBlocks := by
    have hBound := c.outbound.counter_le
    rw [hLength]
    omega
  have hOpened : ({ d with radio }.conclude (.ok ())).opened peer =
      ({ (d.opened peer).1 with inbound := (d.opened peer).1.inbound.advance _ hFits },
        (d.opened peer).2 ++ [.ok (CounterMode.mask (Aes.encrypt peer.inbound.key)
          (d.opened peer).1.inbound.inputBlock frame)]) := by
    have hConcat : peer.openAll Aes.encrypt (d.radio.acknowledged ++ [frame]) =
        (((d.opened peer).1.openFrame Aes.encrypt frame).1,
          (d.opened peer).2 ++ [((d.opened peer).1.openFrame Aes.encrypt frame).2]) :=
      peer.openAll_concat Aes.encrypt d.radio.acknowledged frame
    rw [ChannelCipher.openFrame_fits _ _ _ hFits, hPeerKey] at hConcat
    exact (congrArg (peer.openAll Aes.encrypt) hAcknowledged).trans hConcat
  refine ⟨⟨⟨c, hCipher, hKey, hNonce, ?_⟩, ?_⟩, by rw [hAccount]⟩
  · rw [hOpened, hAccount, ← hCounter, ← hLength]
    simp only [StreamCipher.advance]
    omega
  · rw [hAccount, hOpened]
    intro hLost
    have hPayload := CounterMode.mask_mask (Aes.encrypt peer.inbound.key)
      (d.opened peer).1.inbound.inputBlock d.account.payload
    rw [← hMasked hLost] at hPayload
    simp [hRecovered hLost, hPayload]

/-- The command of the frame in flight fails; its blocks are used up all the same. -/
theorem InFlight.lost {frame : Bytes} (h : d.InFlight peer frame) {radio : Radio}
    (hAcknowledged : radio.acknowledged = d.radio.acknowledged) (error : DispatchError) :
    ({ d with radio }.conclude (.error error)).Balanced peer 0 ∧
      ({ d with radio }.conclude (.error error)).account.sent = false := by
  obtain ⟨hSent, ⟨⟨c, hCipher, hKey, hNonce, hCounter⟩, hRecovered⟩, -, -⟩ := h
  have hAccount : ({ d with radio }.conclude (.error error)).account =
      { d.account with sent := false, lost := d.account.lost ++ [d.account.payload] } := by
    refine (account_record { d with radio } (.returned (.error error))).trans ?_
    exact if_pos hSent
  have hOpened : ({ d with radio }.conclude (.error error)).opened peer = d.opened peer :=
    congrArg (peer.openAll Aes.encrypt) hAcknowledged
  refine ⟨⟨⟨c, hCipher, hKey, hNonce, ?_⟩, ?_⟩, by rw [hAccount]⟩
  · rw [hOpened, hAccount, blocksOf_concat, ← hCounter]
    omega
  · rw [hAccount, hOpened]
    exact fun hLost => hRecovered fun payload hPayload => hLost payload (by simp [hPayload])

theorem Balanced.of_same {e : Dispatcher} {inFlight : Nat} (h : d.Balanced peer inFlight)
    (hCipher : e.cipher = d.cipher) (hAccount : e.account = d.account)
    (hAcknowledged : e.radio.acknowledged = d.radio.acknowledged) : e.Balanced peer inFlight := by
  have hOpened : e.opened peer = d.opened peer :=
    congrArg (peer.openAll Aes.encrypt) hAcknowledged
  obtain ⟨hBalance, hRecovered⟩ := h
  exact ⟨by rw [hCipher, hOpened, hAccount]; exact hBalance,
    by rw [hOpened, hAccount]; exact hRecovered⟩

theorem InFlight.of_same {e : Dispatcher} {frame : Bytes} (h : d.InFlight peer frame)
    (hCipher : e.cipher = d.cipher) (hAccount : e.account = d.account)
    (hAcknowledged : e.radio.acknowledged = d.radio.acknowledged) : e.InFlight peer frame := by
  have hOpened : e.opened peer = d.opened peer :=
    congrArg (peer.openAll Aes.encrypt) hAcknowledged
  refine ⟨?_, ?_, ?_, ?_⟩
  · rw [hAccount]
    exact h.sent
  · rw [hAccount]
    exact h.balanced.of_same hCipher hAccount hAcknowledged
  · rw [hAccount]
    exact h.length
  · rw [hAccount, hOpened]
    exact h.masked

/-- No frame is in flight; a message that is still to be sent is the payload of the command. -/
structure Unsent (peer : ChannelCipher) (d : Dispatcher) (message : Bytes) : Prop where
  sent : d.account.sent = false
  balanced : d.Balanced peer 0
  message : message ≠ [] → d.account.payload = message

theorem Unsent.of_same {e : Dispatcher} {message : Bytes} (h : d.Unsent peer message)
    (hCipher : e.cipher = d.cipher) (hAccount : e.account = d.account)
    (hAcknowledged : e.radio.acknowledged = d.radio.acknowledged) : e.Unsent peer message :=
  ⟨by rw [hAccount]; exact h.sent, h.balanced.of_same hCipher hAccount hAcknowledged,
    by rw [hAccount]; exact h.message⟩

/-- Nothing is in progress. -/
structure Ready (peer : ChannelCipher) (d : Dispatcher) : Prop where
  relaying : d.relaying = false
  waiting : d.waiting = none
  operation : d.radio.operation = none
  unsent : d.Unsent peer []

/-- What is in progress when an operation of the session waits. -/
def Pending (peer : ChannelCipher) (d : Dispatcher) (message : Bytes) : Option Bytes → Prop
  | some frame => message = [] ∧ d.InFlight peer frame
  | none => d.Unsent peer message

theorem Pending.of_same {e : Dispatcher} {message : Bytes} {payload : Option Bytes}
    (h : d.Pending peer message payload) (hCipher : e.cipher = d.cipher)
    (hAccount : e.account = d.account)
    (hAcknowledged : e.radio.acknowledged = d.radio.acknowledged) :
    e.Pending peer message payload := by
  cases payload with
  | none => exact Unsent.of_same h hCipher hAccount hAcknowledged
  | some frame => exact ⟨h.1, h.2.of_same hCipher hAccount hAcknowledged⟩

/-- An operation of the session waits. -/
structure Waits (peer : ChannelCipher) (d : Dispatcher) : Prop where
  relaying : d.relaying = false
  progress : ∃ message suspended, d.waiting = some (.operation message) ∧
    d.radio.operation = some suspended ∧ d.Pending peer message suspended.point.payload

/-- Where a command may stand: it waits, or with its result nothing is in progress. -/
def Stands (peer : ChannelCipher) : Handled → Prop
  | (d, some result) => d.relaying = false ∧ (d.conclude result).Ready peer
  | (d, none) => d.Waits peer

theorem Ready.concluded (h : d.Ready peer) (result : Except DispatchError Unit) :
    (d.conclude result).Ready peer := by
  have hAccount : (d.conclude result).account = d.account := by
    refine (account_record d (.returned result)).trans ?_
    rcases result with error | ⟨⟩ <;> exact if_neg (by simp [h.unsent.sent])
  exact ⟨rfl, rfl, h.operation, h.unsent.of_same rfl hAccount rfl⟩

/-- The session ends the operation that sends the frame in flight. -/
theorem InFlight.concludes {frame : Bytes} (h : d.InFlight peer frame)
    (hRelaying : d.relaying = false) {radio : Radio} {outcome : Outcome} {asked : Nat}
    {m : Mover} (hConcludes : Radio.Concludes m (some frame) asked d.radio (radio, some outcome)) :
    Stands peer ({ d with radio, waiting := none }, some outcome.result) := by
  obtain ⟨hIdle, hSend, -⟩ := hConcludes.stands
  have hAcknowledged := hConcludes.acknowledged
  rcases outcome with result | result | result
  · cases hSend
  · rcases result with error | ⟨⟩
    · obtain ⟨hBalanced, hSent⟩ := h.lost (hAcknowledged.trans (List.append_nil _)) (.send error)
      exact ⟨hRelaying, rfl, rfl, hIdle, hSent, hBalanced.of_same rfl rfl rfl, by simp⟩
    · obtain ⟨hBalanced, hSent⟩ := h.delivered hAcknowledged
      exact ⟨hRelaying, rfl, rfl, hIdle, hSent, hBalanced.of_same rfl rfl rfl, by simp⟩
  · cases hSend

theorem suspends {message : Bytes} (payload : Option Bytes) (h : d.Pending peer message payload)
    (hRelaying : d.relaying = false) {radio : Radio} {asked : Nat}
    {m : Mover} (hConcludes : Radio.Concludes m payload asked d.radio (radio, none)) :
    ({ d with radio, waiting := some (.operation message) }).Waits peer := by
  obtain ⟨suspended, hSuspended, hPayload⟩ := hConcludes.stands
  have hAcknowledged := hConcludes.acknowledged.trans (List.append_nil _)
  refine ⟨hRelaying, message, suspended, rfl, hSuspended, ?_⟩
  rw [hPayload]
  exact h.of_same rfl rfl hAcknowledged

theorem operate_send_stands {frame : Bytes} (h : d.InFlight peer frame)
    (hRelaying : d.relaying = false) (hWaiting : d.waiting = none)
    (hIdle : d.radio.operation = none) : Stands peer (d.operate (.send frame) []) := by
  have hStart := Radio.start_concludes (.send frame) hIdle
  unfold operate
  rcases hResult : d.radio.start (.send frame) with ⟨radio, _ | outcome⟩
  all_goals rw [hResult] at hStart
  · exact suspends (some frame) ⟨rfl, h⟩ hRelaying hStart
  · have hConcluded := h.concludes hRelaying hStart
    rw [← hWaiting] at hConcluded
    exact hConcluded

theorem sendPayload_stands (h : d.Ready peer) :
    Stands peer (d.sendPayload d.account.payload) := by
  unfold sendPayload
  rcases sealPayload_inFlight h.unsent.balanced with ⟨error, hSeal⟩ | ⟨c, frame, hSeal, hInFlight⟩
  · rw [hSeal]
    exact ⟨h.relaying, h.concluded _⟩
  · rw [hSeal]
    exact operate_send_stands hInFlight h.relaying h.waiting h.operation

theorem sendMessage_stands {message : Bytes} (h : d.Ready peer)
    (hMessage : message ≠ [] → d.account.payload = message) :
    Stands peer (d.sendMessage message) := by
  unfold sendMessage
  split_ifs with hEmpty
  · exact ⟨h.relaying, h.concluded _⟩
  · rw [← hMessage hEmpty]
    exact sendPayload_stands h

/-- The session ends an operation that sends nothing, and the message follows if it may. -/
theorem Unsent.concludes {message : Bytes} (h : d.Unsent peer message)
    (hRelaying : d.relaying = false) {radio : Radio} {outcome : Outcome} {asked : Nat}
    {m : Mover} (hConcludes : Radio.Concludes m none asked d.radio (radio, some outcome)) :
    Stands peer (followWith message ({ d with radio, waiting := none }, some outcome.result)) := by
  obtain ⟨hIdle, hSend, -⟩ := hConcludes.stands
  have hAcknowledged : radio.acknowledged = d.radio.acknowledged := by
    have hNothing := hConcludes.acknowledged
    rcases outcome with result | result | result
    · exact hNothing.trans (List.append_nil _)
    · cases hSend
    · exact hNothing.trans (List.append_nil _)
  have hReady : ({ d with radio, waiting := none } : Dispatcher).Ready peer :=
    ⟨hRelaying, rfl, hIdle, h.sent, h.balanced.of_same rfl rfl hAcknowledged, by simp⟩
  rcases outcome.result with error | ⟨⟩
  · exact ⟨hRelaying, hReady.concluded _⟩
  · exact sendMessage_stands hReady h.message

theorem operate_stands (operation : Radio.Operation) {message : Bytes}
    (hOperation : operation.payload = none) (h : d.Unsent peer message)
    (hRelaying : d.relaying = false) (hWaiting : d.waiting = none)
    (hIdle : d.radio.operation = none) :
    Stands peer (followWith message (d.operate operation message)) := by
  have hStart := Radio.start_concludes operation hIdle
  rw [hOperation] at hStart
  unfold operate
  rcases hResult : d.radio.start operation with ⟨radio, _ | outcome⟩
  all_goals rw [hResult] at hStart
  · exact suspends none h hRelaying hStart
  · have hConcluded := h.concludes hRelaying hStart
    rw [← hWaiting] at hConcluded
    exact hConcluded

theorem perform_stands (h : d.Ready peer) (command : Command) :
    Stands peer (d.perform command) := by
  have hAccount : (d.record (.handling command)).account =
      { d.account with payload := command.payload, sent := false } := account_record _ _
  have hBalanced : (d.record (.handling command)).Balanced peer 0 := by
    obtain ⟨hBalance, hRecovered⟩ := h.unsent.balanced
    exact ⟨by rw [hAccount]; exact hBalance, by rw [hAccount]; exact hRecovered⟩
  have hReady : (d.record (.handling command)).Ready peer :=
    ⟨h.relaying, h.waiting, h.operation, by rw [hAccount], hBalanced, by simp⟩
  unfold perform
  cases command with
  | openChannel serial message =>
      simp only
      split_ifs with hBound
      · have hReused : ((d.record (.handling (.openChannel serial message))).record
            (.reused serial)).account = (d.record (.handling (.openChannel serial message))).account :=
          account_record _ _
        apply sendMessage_stands
        · exact ⟨h.relaying, h.waiting, h.operation, hReady.unsent.of_same rfl hReused rfl⟩
        · rw [hReused, hAccount]
          exact fun _ => rfl
      · refine operate_stands _ rfl ⟨hReady.unsent.sent, hBalanced.of_same rfl rfl rfl, ?_⟩ h.relaying
          h.waiting h.operation
        intro _
        exact congrArg Account.payload hAccount
  | sendPayload payload =>
      have hStands := sendPayload_stands hReady
      rw [hAccount] at hStands
      exact hStands
  | closeChannel =>
      have hStands := operate_stands .disconnect rfl hReady.unsent h.relaying h.waiting h.operation
      rw [followWith_nil] at hStands
      exact hStands

theorem proceed_stands {h : Handled} (hStands : Stands peer h) :
    (proceed h).Ready peer ∨ (proceed h).Waits peer := by
  rcases h with ⟨e, _ | (error | ⟨⟩)⟩
  · exact Or.inr hStands
  · exact Or.inl hStands.2
  · left
    unfold proceed
    simp only [hStands.1, Bool.false_eq_true, if_false]
    exact hStands.2

/-- Nothing is in progress, or an operation of the session waits. -/
def Kept (peer : ChannelCipher) (d : Dispatcher) : Prop := d.Ready peer ∨ d.Waits peer

/-- A step of tasks and devices, which the dispatcher takes no part in. -/
theorem Kept.of_same {e : Dispatcher} (h : d.Kept peer) (hRelaying : e.relaying = d.relaying)
    (hWaiting : e.waiting = d.waiting) (hCipher : e.cipher = d.cipher) (hActs : e.acts = d.acts)
    (hOperation : e.radio.operation = d.radio.operation)
    (hAcknowledged : e.radio.acknowledged = d.radio.acknowledged) : e.Kept peer := by
  have hAccount : e.account = d.account := congrArg (List.foldl Account.add {}) hActs
  rcases h with ⟨hFalse, hNone, hIdle, hUnsent⟩ | ⟨hFalse, message, suspended, hSome, hBusy, hPending⟩
  · left
    exact ⟨hRelaying.trans hFalse, hWaiting.trans hNone, hOperation.trans hIdle,
      hUnsent.of_same hCipher hAccount hAcknowledged⟩
  · right
    refine ⟨hRelaying.trans hFalse, message, suspended, hWaiting.trans hSome,
      hOperation.trans hBusy, hPending.of_same hCipher hAccount hAcknowledged⟩

theorem Kept.resume (h : d.Kept peer) (hSound : d.radio.Sound) : d.resume.Kept peer := by
  rcases h with hReady | ⟨hRelaying, message, suspended, hWaiting, hBusy, hPending⟩
  · have hSame : d.resume = d := by
      unfold Dispatcher.resume
      rw [hReady.waiting]
    rw [hSame]
    exact Or.inl hReady
  have hResumed := hSound.resume_concludes hBusy
  have hIdle : ({ d with radio := { d.radio with operation := none } } : Dispatcher).Pending peer
      message suspended.point.payload := hPending.of_same rfl rfl rfl
  unfold Dispatcher.resume
  rw [hWaiting]
  simp only
  rcases hResult : d.radio.resume with ⟨radio, _ | outcome⟩
  all_goals rw [hResult] at hResumed
  · right
    exact suspends _ hIdle hRelaying hResumed
  · apply proceed_stands
    cases hPayload : suspended.point.payload with
    | none =>
        rw [hPayload] at hIdle hResumed
        exact Unsent.concludes hIdle hRelaying hResumed
    | some frame =>
        rw [hPayload] at hIdle hResumed
        obtain ⟨rfl, hInFlight⟩ := hIdle
        rw [followWith_nil]
        exact hInFlight.concludes hRelaying hResumed

theorem Kept.start (h : d.Kept peer) (command : Command) :
    (d.start false command).Kept peer := by
  rcases h with hReady | hWaits
  · have hSame : { d with relaying := false } = d := by rw [← hReady.relaying]
    rw [start_of_free hReady.waiting, hSame]
    exact proceed_stands (perform_stands hReady command)
  · obtain ⟨hRelaying, message, suspended, hWaiting, hBusy, hPending⟩ := id hWaits
    unfold Dispatcher.start
    rw [if_pos (by simp [hWaiting])]
    exact Or.inr hWaits

theorem Kept.not_event (h : d.Kept peer) : d.waiting ≠ some .event ∧ d.waiting ≠ some .reply := by
  rcases h with hReady | ⟨-, message, suspended, hWaiting, -⟩
  · rw [hReady.waiting]
    exact ⟨nofun, nofun⟩
  · rw [hWaiting]
    exact ⟨nofun, nofun⟩

theorem Kept.poll (h : d.Kept peer) (hSound : d.radio.Sound) : d.poll.Kept peer := by
  unfold Dispatcher.poll
  split
  · rename_i ready hReady
    have hPolled := Radio.polled_advances hReady
    have hKept : ({ d with radio := { d.radio with ready } } : Dispatcher).Kept peer :=
      h.of_same rfl rfl rfl rfl rfl rfl
    exact hKept.resume (hSound.moves hPolled.moves)
  · rename_i hReady
    have hPolled := hSound.poll_advances fun rest hRest => hReady rest hRest
    have hKept : ({ d with radio := d.radio.poll } : Dispatcher).Kept peer :=
      h.of_same rfl rfl rfl rfl hPolled.operation hPolled.acknowledged
    simp only [h.not_event.1, false_and, if_false]
    exact hKept

theorem Kept.pollTimes (n : Nat) (h : d.Kept peer) (hSound : d.radio.Sound) :
    (Dispatcher.pollTimes n d).Kept peer := by
  induction n generalizing d with
  | zero => exact h
  | succ n ih =>
      unfold Dispatcher.pollTimes
      split_ifs
      · exact h
      · exact ih (h.poll hSound) (hSound.moves (poll_reaches hSound).moves)

/-- Commands are only handled, never followed by relaying nor dropped where they wait, and no other
lock comes into range. -/
def Event.Handles : Event → Prop
  | .run _ | .abandon | .device (.appear _) => False
  | _ => True

theorem Kept.step {event : Event} (h : d.Kept peer) (hSound : d.radio.Sound)
    (hEvent : event.Handles) : (d.step event).Kept peer := by
  cases event with
  | handle command => exact h.start command
  | run command => exact hEvent.elim
  | abandon => exact hEvent.elim
  | turn => exact h.poll hSound
  | settle => exact h.pollTimes _ hSound
  | reply reply =>
      unfold Dispatcher.step addReply
      simp only [h.not_event.2, if_false]
      exact h.of_same rfl rfl rfl rfl rfl rfl
  | device event =>
      obtain ⟨-, hOperation, hTrace, -, -, -, -⟩ := Radio.react_frame d.radio event
      refine h.of_same rfl rfl rfl rfl hOperation ?_
      exact congrArg (List.filterMap Effect.acknowledged?) hTrace

/-- What is kept of a dispatcher that only handles commands, with one lock in range. -/
structure Followed (peer : ChannelCipher) (d : Dispatcher) : Prop where
  sound : d.radio.Sound
  one : d.radio.devices.length = 1
  agrees : d.radio.Agrees
  kept : d.Kept peer

theorem Followed.after (h : d.Followed peer) {history : List Event}
    (hHistory : ∀ event ∈ history, event.Handles) : (d.after history).Followed peer := by
  induction history generalizing d with
  | nil => exact h
  | cons event history ih =>
      have hEvent := hHistory event (List.mem_cons_self ..)
      have hMoves := step_moves h.sound event
      have hNext : (d.step event).Followed peer := by
        refine ⟨h.sound.moves hMoves, ?_, h.agrees.moves h.sound hMoves, h.kept.step h.sound hEvent⟩
        refine (step_length h.sound ?_).trans h.one
        rintro device rfl
        exact hEvent
      exact ih hNext fun later hLater => hHistory later (List.mem_cons_of_mem event hLater)

theorem initial_followed {channel : ChannelCipher} {lock : Device} (hFresh : lock.written = [])
    (hSame : channel.outbound = peer.inbound) :
    (initial [lock] channel).Followed peer := by
  have hUnsent : (initial [lock] channel).Unsent peer [] := by
    refine ⟨rfl, ⟨⟨channel, rfl, by rw [hSame], by rw [hSame], ?_⟩, fun _ => rfl⟩, by simp⟩
    exact congrArg StreamCipher.counter hSame.symm
  exact ⟨Radio.initial_sound [lock], rfl, ⟨Nat.zero_lt_one, fun _ => hFresh⟩,
    Or.inl ⟨rfl, rfl, rfl, hUnsent⟩⟩

/-- While commands are handled with one lock in range, the lock follows the dispatcher exactly as
long as no payload with a byte in it was sealed by a command that then failed. -/
theorem inStep_iff {key outbound inbound : Bytes} {channel peer : ChannelCipher} {lock : Device}
    {history : List Event} (hChannel : ChannelCipher.new key outbound inbound = .ok channel)
    (hPeer : ChannelCipher.new key inbound outbound = .ok peer) (hFresh : lock.written = [])
    (hHistory : ∀ event ∈ history, event.Handles)
    (hDone : ((initial [lock] channel).after history).waiting = none) :
    ((initial [lock] channel).after history).InStep peer ↔
      ∀ payload ∈ ((initial [lock] channel).after history).account.lost, payload = [] := by
  obtain ⟨hOut, -⟩ := ChannelCipher.new_ok hChannel
  obtain ⟨-, hIn⟩ := ChannelCipher.new_ok hPeer
  have hSame : channel.outbound = peer.inbound := Except.ok.inj (hOut.symm.trans hIn)
  have hFollowed := (initial_followed hFresh hSame).after hHistory
  generalize (initial [lock] channel).after history = d at hFollowed hDone ⊢
  obtain ⟨-, hOne, hAgrees, hReady | ⟨-, message, suspended, hWaiting, -⟩⟩ := hFollowed
  · obtain ⟨⟨c, hCipher, -, -, hCounter⟩, hRecovered⟩ := hReady.unsent.balanced
    have hCounters : c.outbound.counter = (d.opened peer).1.inbound.counter ↔
        blocksOf d.account.lost = 0 := by omega
    unfold InStep
    rw [hAgrees.written hOne, hCipher, ← blocksOf_eq_zero, ← hCounters]
    constructor
    · rintro ⟨-, hSameCounter⟩
      exact Option.some.inj hSameCounter
    · intro hSameCounter
      exact ⟨hRecovered (blocksOf_eq_zero.mp (hCounters.mp hSameCounter)), congrArg some hSameCounter⟩
  · cases hDone.symm.trans hWaiting

/-- A lock that is opened and then written to. -/
theorem inStep_iff_one_payload :
    ∃ channel peer,
      ChannelCipher.new (List.replicate 16 7) (List.replicate 13 0) (List.replicate 13 1) =
        .ok channel ∧
      ChannelCipher.new (List.replicate 16 7) (List.replicate 13 1) (List.replicate 13 0) =
        .ok peer ∧
      (((initial [.ofSerial 7] channel).after [.handle (.openChannel 7 [1])]).InStep peer ↔
        ∀ payload ∈ ((initial [.ofSerial 7] channel).after
          [.handle (.openChannel 7 [1])]).account.lost, payload = []) := by
  have hChannel : ChannelCipher.new (List.replicate 16 7) (List.replicate 13 0)
      (List.replicate 13 1) = .ok _ := rfl
  have hPeer : ChannelCipher.new (List.replicate 16 7) (List.replicate 13 1)
      (List.replicate 13 0) = .ok _ := rfl
  refine ⟨_, _, hChannel, hPeer, inStep_iff hChannel hPeer rfl ?_ rfl⟩
  simp [Event.Handles]

/-- Without a session a payload is sealed all the same, and the lock misses its block. -/
theorem not_inStep_after_send_without_session :
    ∃ channel peer,
      ChannelCipher.new (List.replicate 16 7) (List.replicate 13 0) (List.replicate 13 1) =
        .ok channel ∧
      ChannelCipher.new (List.replicate 16 7) (List.replicate 13 1) (List.replicate 13 0) =
        .ok peer ∧
      ((initial [.ofSerial 7] channel).after [.handle (.sendPayload [1])]).waiting = none ∧
      ((initial [.ofSerial 7] channel).after [.handle (.sendPayload [1])]).radio.trace =
        [.returned (.send (.error .notConnected))] ∧
      ¬((initial [.ofSerial 7] channel).after [.handle (.sendPayload [1])]).InStep peer := by
  refine ⟨_, _, rfl, rfl, rfl, rfl, ?_⟩
  rintro ⟨-, hCounter⟩
  exact absurd (Option.some.inj hCounter) (by decide)

end Dispatcher

end LockRelay
