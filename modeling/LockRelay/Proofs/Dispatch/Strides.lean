import LockRelay.Proofs.Dispatch.Hearing
import LockRelay.Proofs.Session.Prompts

/-! Everything that a dispatcher does as a chain of strides: the session goes on, drops of the link
are taken, or a frame is taken and put to the controller. Only a command that it starts with can ask
for a connection, and does so before anything else. The acts tell of each operation that is put to the
session. -/
namespace LockRelay

/-- What a record of acts tells of opens and frames: the serial numbers with which connections were
asked for, the frames that were taken, and what was put to the controller, each payload with the frame
that was taken last before it. -/
structure Ledger where
  asked : List UInt64 := []
  received : List Bytes := []
  relayed : List Relay := []

/-- A command that finds its lock bound already asks for no connection. -/
def Ledger.add (l : Ledger) : Act → Ledger
  | .handling (.openChannel serial _) => { l with asked := l.asked ++ [serial] }
  | .reused _ => { l with asked := l.asked.dropLast }
  | .received frame => { l with received := l.received ++ [frame] }
  | .relayed serial payload =>
      { l with relayed := l.relayed ++ [⟨serial, l.received.getLastD [], payload⟩] }
  | _ => l

/-- The operations of the session that acts tell of, with those told of before. A command that finds
its lock bound already asks for no connection. -/
def addOperation (operations : List Radio.Operation) : Act → List Radio.Operation
  | .handling (.openChannel serial _) => operations ++ [.connect serial]
  | .reused _ => operations.dropLast
  | .handling .closeChannel => operations ++ [.disconnect]
  | .sending frame => operations ++ [.send frame]
  | _ => operations

namespace Radio

/-- What a dispatcher lets its session do, other than asking for a connection. -/
inductive Stirs (s : Radio) : Radio → Prop where
  | started (operation : Operation) (hAsked : operation.asked = 0) : Stirs s (s.start operation).1
  | resumed : Stirs s s.resume.1
  | ran (id : TaskId) : Stirs s (s.runTask id)
  | polled {p : Participant} {rest : List Participant} (hReady : s.ready = p :: rest) :
      Stirs s { s with ready := rest }
  | woken (p : Participant) : Stirs s (s.wake p)
  | abandoned : Stirs s s.abandon

end Radio

namespace Dispatcher

def ledger (d : Dispatcher) : Ledger := d.acts.foldl Ledger.add {}

/-- The serial numbers with which connections were asked for, by the numbers of the connections. -/
def asked (d : Dispatcher) : List UInt64 := d.ledger.asked

/-- The frames that were taken, as they came from the lock. -/
def received (d : Dispatcher) : List Bytes := d.ledger.received

/-- What was put to the controller. -/
def relayed (d : Dispatcher) : List Relay := d.ledger.relayed

/-- The cipher for what comes from the lock, as far as it has moved on. -/
def inbound (d : Dispatcher) : Option StreamCipher := d.cipher.map ChannelCipher.inbound

def heard (d : Dispatcher) : Heard := ⟨d.inbound, d.received, d.relayed⟩

/-- The operations that were put to the session, oldest first. -/
def operations (d : Dispatcher) : List Radio.Operation := d.acts.foldl addOperation []

theorem ledger_record (d : Dispatcher) (act : Act) :
    (d.record act).ledger = d.ledger.add act := by
  simp [ledger, record, List.foldl_append]

theorem operations_record (d : Dispatcher) (act : Act) :
    (d.record act).operations = addOperation d.operations act := by
  simp [operations, record, List.foldl_append]

/-- The session is prompted once, and the acts tell of the operation if one is put to it. -/
def Prompts (d e : Dispatcher) : Prop :=
  ∃ prompt : Radio.Prompt, e.radio = (d.radio.prompted prompt).1 ∧
    e.operations = d.operations ++ prompt.operation?.toList ∧ prompt.event? = none

inductive Stride (d e : Dispatcher) : Prop where
  /-- The session goes on. -/
  | stirred (hRadio : d.radio.Stirs e.radio) (hChannel : e.channel = d.channel)
      (hTaken : e.taken = d.taken) (hAsked : e.asked = d.asked) (hHeard : e.heard = d.heard)
      (hPrompts : d.Prompts e) (hActs : d.acts <+: e.acts)
  /-- Something is noted, and perhaps drops of the link are taken. -/
  | noted (hRadio : e.radio = d.radio) (hChannel : e.channel = d.channel)
      (hTaken : d.taken ≤ e.taken) (hAsked : e.asked = d.asked) (hHeard : e.heard = d.heard)
      (hOperations : e.operations = d.operations) (hActs : d.acts <+: e.acts)
  /-- A frame is taken, and put to the controller unless it cannot be unmasked. -/
  | took (serial : UInt32) (frame : Bytes) (rest : List ChannelEvent)
      (hSerial : d.radio.session.serial = some serial) (hInbox : d.inbox = .frame frame :: rest)
      (hRadio : e.radio = d.radio) (hChannel : e.channel = d.channel)
      (hTaken : e.taken = d.taken + 1) (hAsked : e.asked = d.asked)
      (hHeard : e.heard = d.heard.hear serial frame)
      (hOperations : e.operations = d.operations) (hActs : d.acts <+: e.acts)

abbrev Strides : Dispatcher → Dispatcher → Prop := Relation.ReflTransGen Stride

/-- A connection is asked for while nothing is in progress. -/
structure Asks (d : Dispatcher) (serial : UInt64) (e : Dispatcher) : Prop where
  free : d.waiting = none
  radio : e.radio = (d.radio.start (.connect serial)).1
  channel : e.channel = some d.radio.connections
  taken : e.taken = 0
  asked : e.asked = d.asked ++ [serial]
  heard : e.heard = d.heard
  operations : e.operations = d.operations ++ [.connect serial]
  acts : d.acts <+: e.acts

/-- A chain of strides, perhaps after a connection was asked for. -/
def Arrives (d e : Dispatcher) : Prop :=
  d.Strides e ∨ ∃ serial f, d.Asks serial f ∧ f.Strides e

variable {d e f : Dispatcher}

theorem Arrives.trans (h : d.Arrives e) (hStrides : e.Strides f) : d.Arrives f := by
  rcases h with h | ⟨serial, e', hAsks, h⟩
  · exact Or.inl (h.trans hStrides)
  · exact Or.inr ⟨serial, e', hAsks, h.trans hStrides⟩

/-- A step that touches neither the session nor the queue. -/
theorem Stride.quiet (hRadio : e.radio = d.radio) (hChannel : e.channel = d.channel)
    (hTaken : e.taken = d.taken) (hAsked : e.asked = d.asked) (hHeard : e.heard = d.heard)
    (hOperations : e.operations = d.operations) (hActs : d.acts <+: e.acts) : d.Strides e :=
  .single (.noted hRadio hChannel hTaken.ge hAsked hHeard hOperations hActs)

theorem control_strides (d : Dispatcher) (replies : List Reply) (relaying : Bool)
    (waiting : Option Wait) : d.Strides { d with replies, relaying, waiting } :=
  Stride.quiet rfl rfl rfl rfl rfl rfl List.prefix_rfl

theorem heard_record (d : Dispatcher) (act : Act) : (d.record act).heard =
    ⟨d.inbound, (d.ledger.add act).received, (d.ledger.add act).relayed⟩ := by
  rw [← ledger_record]
  rfl

/-- Nothing is heard where the acts tell of nothing and the inbound cipher stays. -/
theorem heard_of_same (hInbound : e.inbound = d.inbound) (hLedger : e.ledger = d.ledger) :
    e.heard = d.heard := by
  simp only [heard, received, relayed, hInbound, hLedger]

/-- A step that records at most what neither the ledger nor the operations take in. -/
theorem record_strides (d : Dispatcher) {act : Act} (hQuiet : d.ledger.add act = d.ledger)
    (hOperations : addOperation d.operations act = d.operations) : d.Strides (d.record act) := by
  have hLedger := (ledger_record d act).trans hQuiet
  exact Stride.quiet rfl rfl rfl (congrArg Ledger.asked hLedger) (heard_of_same rfl hLedger)
    ((operations_record d act).trans hOperations) ⟨[act], rfl⟩

/-- A step of the session by which no operation is put to it. -/
theorem stirred_strides (d : Dispatcher) {radio : Radio} (waiting : Option Wait)
    (hStirs : d.radio.Stirs radio) (prompt : Radio.Prompt)
    (hRadio : (d.radio.prompted prompt).1 = radio) (hNone : prompt.operation? = none)
    (hInner : prompt.event? = none) : d.Strides { d with radio, waiting } := by
  refine .single (.stirred hStirs rfl rfl rfl rfl ⟨prompt, hRadio.symm, ?_, hInner⟩ List.prefix_rfl)
  rw [hNone]
  exact (List.append_nil _).symm

/-- An operation is told of and put to the session. -/
theorem operate_strides (d : Dispatcher) {act : Act} {operation : Radio.Operation}
    (hQuiet : d.ledger.add act = d.ledger)
    (hOperations : addOperation d.operations act = d.operations ++ [operation])
    (hAsked : operation.asked = 0) (message : Bytes) :
    d.Strides ((d.record act).operate operation message).1 := by
  have hStirs := Radio.Stirs.started (s := d.radio) operation hAsked
  have hLedger := (ledger_record d act).trans hQuiet
  have hRecorded := (operations_record d act).trans hOperations
  have hAskedSame := congrArg Ledger.asked hLedger
  have hHeard : (d.record act).heard = d.heard := heard_of_same rfl hLedger
  unfold operate
  have hRadio : (d.record act).radio = d.radio := rfl
  rw [hRadio]
  rcases hResult : d.radio.start operation with ⟨radio, _ | outcome⟩
  all_goals
    rw [hResult] at hStirs
    have hPrompted : (d.radio.prompted (.start operation)).1 = radio := congrArg Prod.fst hResult
    exact .single (.stirred hStirs rfl rfl hAskedSame hHeard
      ⟨.start operation, hPrompted.symm, hRecorded, rfl⟩ ⟨[act], rfl⟩)

/-- A payload that cannot be sealed goes nowhere; otherwise its frame is put to the session. The inbound
cipher has no part in it. -/
theorem sendPayload_cases (d : Dispatcher) (payload : Bytes) :
    ∃ cipher, cipher.map ChannelCipher.inbound = d.inbound ∧
    ((∃ error, d.sendPayload payload = ({ d with cipher }, some (.error (.cipher error)))) ∨
      ∃ frame, d.sendPayload payload =
        ({ d with cipher }.record (.sending frame)).operate (.send frame) []) := by
  unfold sendPayload sealPayload inbound
  cases hCipher : d.cipher with
  | none =>
      have hSame : { d with cipher := none } = d := by rw [← hCipher]
      exact ⟨none, rfl, Or.inr ⟨payload, by rw [hSame]⟩⟩
  | some cipher =>
      have hInbound : (cipher.sealFrame Aes.encrypt payload).1.inbound = cipher.inbound := rfl
      simp only
      rcases hSealed : cipher.sealFrame Aes.encrypt payload with ⟨later, error | frame⟩
      all_goals rw [hSealed] at hInbound
      · exact ⟨some later, congrArg some hInbound, Or.inl ⟨error, rfl⟩⟩
      · exact ⟨some later, congrArg some hInbound, Or.inr ⟨frame, rfl⟩⟩

theorem sendPayload_strides (d : Dispatcher) (payload : Bytes) :
    d.Strides (d.sendPayload payload).1 := by
  obtain ⟨cipher, hInbound, ⟨error, hSend⟩ | ⟨frame, hSend⟩⟩ := sendPayload_cases d payload
  all_goals
    have hSealed : d.Strides { d with cipher } :=
      Stride.quiet rfl rfl rfl rfl (heard_of_same hInbound rfl) rfl List.prefix_rfl
    rw [hSend]
  · exact hSealed
  · exact hSealed.trans (operate_strides _ rfl rfl rfl [])

theorem sendMessage_strides (d : Dispatcher) (message : Bytes) :
    d.Strides (d.sendMessage message).1 := by
  unfold sendMessage
  split_ifs
  · exact .refl
  · exact sendPayload_strides d message

@[simp] theorem followWith_nil (h : Handled) : followWith [] h = h := by
  rcases h with ⟨e, _ | (error | ⟨⟩)⟩
  · rfl
  · rfl
  · simp [followWith, sendMessage]

theorem followWith_strides (message : Bytes) (h : Handled) :
    h.1.Strides (followWith message h).1 := by
  rcases h with ⟨e, _ | (error | ⟨⟩)⟩
  · exact .refl
  · exact .refl
  · exact sendMessage_strides e message

theorem openConnection_asks (hFree : d.waiting = none) (serial : UInt64) (message : Bytes) :
    d.Asks serial ((d.record (.handling (.openChannel serial message))).openConnection serial
      message).1 := by
  have hLedger := ledger_record d (.handling (.openChannel serial message))
  have hAsked := congrArg Ledger.asked hLedger
  have hHeard := heard_record d (.handling (.openChannel serial message))
  have hOperations := operations_record d (.handling (.openChannel serial message))
  unfold openConnection operate
  rcases hResult : d.radio.start (.connect serial) with ⟨radio, _ | outcome⟩
  all_goals
    have hSame : (d.record (.handling (.openChannel serial message))).radio.start
        (.connect serial) = _ := hResult
    simp only [hSame]
    exact ⟨hFree, by rw [hResult], rfl, rfl, hAsked, hHeard, hOperations, ⟨[_], rfl⟩⟩

theorem perform_arrives (hFree : d.waiting = none) (command : Command) :
    d.Arrives (d.perform command).1 := by
  unfold perform
  cases command with
  | openChannel serial message =>
      simp only
      split_ifs
      · left
        refine Relation.ReflTransGen.trans ?_ (sendMessage_strides _ message)
        have hLedger : ((d.record (.handling (.openChannel serial message))).record
            (.reused serial)).ledger = d.ledger := by
          rw [ledger_record, ledger_record]
          simp [Ledger.add]
        have hOperations : ((d.record (.handling (.openChannel serial message))).record
            (.reused serial)).operations = d.operations := by
          rw [operations_record, operations_record]
          simp [addOperation]
        exact Stride.quiet rfl rfl rfl (congrArg Ledger.asked hLedger)
          (heard_of_same rfl hLedger) hOperations
          ((List.prefix_append _ _).trans (List.prefix_append _ _))
      · exact Or.inr ⟨serial, _, openConnection_asks hFree serial message,
          followWith_strides message _⟩
  | sendPayload payload =>
      exact Or.inl ((record_strides d rfl rfl).trans (sendPayload_strides _ payload))
  | closeChannel => exact Or.inl (operate_strides d rfl rfl rfl [])

theorem obey_strides (d : Dispatcher) (reply : Reply) : d.Strides (d.obey reply).1 := by
  unfold obey
  rcases reply with error | ⟨serial, message⟩ | payload | _
  · exact record_strides d rfl rfl
  · exact record_strides d rfl rfl
  · exact (record_strides d rfl rfl).trans (sendPayload_strides _ payload)
  · exact operate_strides d rfl rfl rfl []

/-- Acts that change nothing of what is made out of a record. -/
theorem foldl_replicate {α : Type} (add : α → Act → α) (acts : List Act) (start : α) {act : Act}
    (count : Nat) (hQuiet : ∀ a, add a act = a) :
    (acts ++ List.replicate count act).foldl add start = acts.foldl add start := by
  induction count with
  | zero => simp
  | succ count ih =>
      rw [List.replicate_succ', ← List.append_assoc, List.foldl_append, ih]
      simp [hQuiet]

theorem passDrops_strides (d : Dispatcher) : d.Strides d.passDrops := by
  have hLedger : d.passDrops.ledger = d.ledger := foldl_replicate _ _ _ _ fun _ => rfl
  exact .single (.noted rfl rfl (Nat.le_add_right _ _) (congrArg Ledger.asked hLedger)
    (heard_of_same rfl hLedger) (foldl_replicate _ _ _ _ fun _ => rfl)
    (List.prefix_append _ _))

/-- A frame is opened as the inbound cipher unmasks it. -/
theorem openFrame_eq (d : Dispatcher) (frame : Bytes) :
    ∃ cipher, cipher.map ChannelCipher.inbound = (unmask d.inbound frame).1 ∧
      d.openFrame frame = ({ d with cipher }, (unmask d.inbound frame).2) := by
  unfold openFrame inbound
  cases hCipher : d.cipher with
  | none => exact ⟨d.cipher, by rw [hCipher]; rfl, rfl⟩
  | some cipher => exact ⟨some (cipher.openFrame Aes.encrypt frame).1, rfl, rfl⟩

/-- What is done with a frame that is unmasked with this result. -/
def actsOf (serial : UInt32) (frame : Bytes) (result : Except CipherError Bytes) : List Act :=
  .received frame :: (result.toOption.map (Act.relayed serial)).toList

theorem ledger_actsOf (l : Ledger) (serial : UInt32) (frame : Bytes)
    (result : Except CipherError Bytes) :
    (actsOf serial frame result).foldl Ledger.add l = { l with
      received := l.received ++ [frame]
      relayed := l.relayed ++ (result.toOption.map (Relay.mk serial frame)).toList } := by
  cases result <;> simp [actsOf, Ledger.add, Except.toOption]

theorem operations_actsOf (operations : List Radio.Operation) (serial : UInt32) (frame : Bytes)
    (result : Except CipherError Bytes) :
    (actsOf serial frame result).foldl addOperation operations = operations := by
  cases result <;> rfl

theorem relayFrame_eq (d : Dispatcher) (serial : UInt32) (frame : Bytes) :
    ∃ cipher, cipher.map ChannelCipher.inbound = (unmask d.inbound frame).1 ∧
      (d.relayFrame serial frame).1 =
        { d with cipher, acts := d.acts ++ actsOf serial frame (unmask d.inbound frame).2 } := by
  obtain ⟨cipher, hInbound, hOpen⟩ := openFrame_eq (d.record (.received frame)) frame
  have hSame : (d.record (.received frame)).inbound = d.inbound := rfl
  rw [hSame] at hInbound hOpen
  refine ⟨cipher, hInbound, ?_⟩
  unfold relayFrame
  rw [hOpen]
  rcases (unmask d.inbound frame).2 with error | payload
  · rfl
  · simp only [record, List.append_assoc]
    rfl

theorem relayFrame_stride {serial : UInt32} {frame : Bytes} {rest : List ChannelEvent}
    (hSerial : d.radio.session.serial = some serial) (hInbox : d.inbox = .frame frame :: rest) :
    d.Stride ({ d with taken := d.taken + 1 }.relayFrame serial frame).1 := by
  obtain ⟨cipher, hInbound, hRelayed⟩ :=
    relayFrame_eq { d with taken := d.taken + 1 } serial frame
  rw [hRelayed]
  refine .took serial frame rest hSerial hInbox rfl rfl rfl ?_ ?_ ?_ ⟨_, rfl⟩
  · simp only [asked, ledger, List.foldl_append, ledger_actsOf]
  · simp only [inbound] at hInbound
    simp only [heard, Heard.hear, inbound, received, relayed, ledger, List.foldl_append,
      ledger_actsOf, hInbound]
  · simp only [operations, List.foldl_append, operations_actsOf]

theorem takeFrame_strides (d : Dispatcher) : d.Strides d.takeFrame.1 := by
  have hPassed := passDrops_strides d
  unfold takeFrame
  cases hSerial : d.radio.session.serial with
  | none => exact .refl
  | some serial =>
      simp only
      split
      · rename_i frame rest hInbox
        exact hPassed.tail (relayFrame_stride hSerial hInbox)
      · exact hPassed

theorem conclude_strides (d : Dispatcher) (result : Except DispatchError Unit) :
    d.Strides (d.conclude result) := by
  have hRecorded : d.Strides (d.record (.returned result)) := record_strides d rfl rfl
  exact hRecorded.trans (control_strides _ d.replies false none)

theorem relay_strides (replies : List Reply) (d : Dispatcher) : d.Strides (relay replies d) := by
  have hTakes {d e : Dispatcher} {replies : List Reply} {next : Next}
      (hTaken : { d with replies }.takeFrame = (e, next)) : d.Strides e := by
    have hStrides := takeFrame_strides { d with replies }
    rw [hTaken] at hStrides
    exact (control_strides d replies d.relaying d.waiting).trans hStrides
  have hObeys {e f : Dispatcher} {reply : Reply} {replies : List Reply}
      {result : Option (Except DispatchError Unit)}
      (hObeyed : { e with replies }.obey reply = (f, result)) : e.Strides f := by
    have hStrides := obey_strides { e with replies } reply
    rw [hObeyed] at hStrides
    exact (control_strides e replies e.relaying e.waiting).trans hStrides
  fun_induction relay replies d with
  | case1 replies d e result hTaken => exact (hTakes hTaken).trans (conclude_strides e result)
  | case2 replies d e hTaken => exact (hTakes hTaken).trans (control_strides e _ e.relaying _)
  | case3 d e hTaken => exact (hTakes hTaken).trans (control_strides e _ e.relaying _)
  | case4 d e reply replies f hObeyed hTaken ih =>
      exact ((hTakes hTaken).trans (hObeys hObeyed)).trans ih
  | case5 d e reply replies f error hObeyed hTaken =>
      exact ((hTakes hTaken).trans (hObeys hObeyed)).trans (conclude_strides f _)
  | case6 d e reply replies f hObeyed hTaken => exact (hTakes hTaken).trans (hObeys hObeyed)

theorem proceed_strides (h : Handled) : h.1.Strides (proceed h) := by
  rcases h with ⟨e, _ | (error | ⟨⟩)⟩
  · exact .refl
  · exact conclude_strides e _
  · unfold proceed
    simp only
    split_ifs
    · exact relay_strides e.replies e
    · exact conclude_strides e _

theorem start_of_free (hFree : d.waiting = none) (relaying : Bool) (command : Command) :
    d.start relaying command = proceed ({ d with relaying }.perform command) := by
  simp [start, hFree]

theorem start_arrives (d : Dispatcher) (relaying : Bool) (command : Command) :
    d.Arrives (d.start relaying command) := by
  unfold start
  split_ifs with hBusy
  · exact Or.inl .refl
  · have hFree : d.waiting = none := Option.not_isSome_iff_eq_none.mp hBusy
    have hPerformed := perform_arrives (d := { d with relaying }) hFree command
    refine Arrives.trans ?_ (proceed_strides _)
    rcases hPerformed with hStrides | ⟨serial, e, hAsks, hStrides⟩
    · exact Or.inl ((control_strides d d.replies relaying d.waiting).trans hStrides)
    · exact Or.inr ⟨serial, e, ⟨hFree, hAsks.radio, hAsks.channel, hAsks.taken, hAsks.asked,
        hAsks.heard, hAsks.operations, hAsks.acts⟩, hStrides⟩

theorem resume_strides (d : Dispatcher) : d.Strides d.resume := by
  unfold resume
  cases d.waiting with
  | none => exact .refl
  | some wait =>
  cases wait with
  | operation message =>
      have hStirs := Radio.Stirs.resumed (s := d.radio)
      simp only
      rcases hResult : d.radio.resume with ⟨radio, _ | outcome⟩
      all_goals rw [hResult] at hStirs
      · exact stirred_strides d (some (.operation message)) hStirs .resume
          (congrArg Prod.fst hResult) rfl rfl
      · have hFirst : d.Strides { d with radio, waiting := none } :=
          stirred_strides d none hStirs .resume (congrArg Prod.fst hResult) rfl rfl
        exact (hFirst.trans (followWith_strides message (_, some outcome.result))).trans
          (proceed_strides _)
  | event =>
      exact (control_strides d d.replies d.relaying none).trans (relay_strides d.replies _)
  | reply =>
      simp only
      split
      · exact .refl
      · have hFirst (reply : Reply) (replies : List Reply) :
            d.Strides ({ d with replies, waiting := none }.obey reply).1 :=
          (control_strides d replies d.relaying none).trans (obey_strides _ reply)
        exact (hFirst _ _).trans (proceed_strides _)

theorem dequeue_strides (d : Dispatcher) {p : Participant} {rest : List Participant}
    (hReady : d.radio.ready = p :: rest) :
    d.Strides { d with radio := { d.radio with ready := rest } } := by
  refine stirred_strides d d.waiting (.polled hReady) .dequeue ?_ rfl rfl
  simp only [Radio.prompted, hReady, List.tail_cons]

theorem wake_strides (d : Dispatcher) : d.Strides d.wake :=
  stirred_strides d d.waiting (.woken .caller) (.wake .caller) rfl rfl rfl

theorem radio_poll_strides (d : Dispatcher) (hReady : ∀ rest, d.radio.ready ≠ .caller :: rest) :
    d.Strides { d with radio := d.radio.poll } := by
  unfold Radio.poll
  cases hQueue : d.radio.ready with
  | nil => exact .refl
  | cons p rest =>
  cases p with
  | caller => exact absurd hQueue (hReady rest)
  | task id =>
      exact (dequeue_strides d hQueue).trans
        (stirred_strides _ d.waiting (.ran id) (.run id) rfl rfl rfl)

theorem poll_strides (d : Dispatcher) : d.Strides d.poll := by
  unfold poll
  split
  · rename_i rest hReady
    exact (dequeue_strides d hReady).trans (resume_strides _)
  · rename_i hReady
    have hPolled := radio_poll_strides d hReady
    simp only
    split_ifs
    · exact hPolled.trans (wake_strides _)
    · exact hPolled

theorem pollTimes_strides (n : Nat) (d : Dispatcher) : d.Strides (pollTimes n d) := by
  induction n generalizing d with
  | zero => exact .refl
  | succ n ih =>
      unfold pollTimes
      split_ifs
      · exact .refl
      · exact (poll_strides d).trans (ih _)

theorem addReply_strides (d : Dispatcher) (reply : Reply) : d.Strides (d.addReply reply) := by
  have hAdded : d.Strides { d with replies := d.replies ++ [reply] } :=
    Stride.quiet rfl rfl rfl rfl rfl rfl List.prefix_rfl
  unfold addReply
  simp only
  split_ifs
  · exact hAdded.trans (wake_strides _)
  · exact hAdded

/-- Without a connection that is asked for, the queue stays and nothing goes back to it. -/
theorem queue_of_strides (h : d.Strides e) : e.channel = d.channel ∧ d.taken ≤ e.taken := by
  induction h with
  | refl => exact ⟨rfl, Nat.le_refl _⟩
  | tail _ hLast ih =>
      obtain ⟨hChannel, hTaken⟩ := ih
      cases hLast with
      | stirred _ hSame hKept => exact ⟨hSame.trans hChannel, hTaken.trans_eq hKept.symm⟩
      | noted _ hSame hMore => exact ⟨hSame.trans hChannel, hTaken.trans hMore⟩
      | took _ _ _ _ _ _ hSame hMore =>
          exact ⟨hSame.trans hChannel, (hTaken.trans (Nat.le_succ _)).trans_eq hMore.symm⟩

/-- What a dispatcher does in an event, unless the event is a device's. -/
theorem step_arrives (d : Dispatcher) {event : Event} (hEvent : ∀ i, event ≠ .device i) :
    d.Arrives (d.step event) := by
  cases event with
  | handle command => exact start_arrives d false command
  | run command => exact start_arrives d true command
  | abandon =>
      have hFirst := stirred_strides d none .abandoned .abandon rfl rfl rfl
      exact Or.inl (hFirst.trans (control_strides _ d.replies false none))
  | turn => exact Or.inl (poll_strides d)
  | settle => exact Or.inl (pollTimes_strides _ d)
  | reply reply => exact Or.inl (addReply_strides d reply)
  | device i => exact absurd rfl (hEvent i)

theorem after_concat (d : Dispatcher) (history : List Event) (event : Event) :
    d.after (history ++ [event]) = (d.after history).step event :=
  List.foldl_concat ..

end Dispatcher

end LockRelay
