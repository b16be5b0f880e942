import LockRelay.Proofs.Dispatch.Strides

/-! The command that was handled last, as the acts tell of it. No part of handling a command but its
beginning changes which command that is. -/
namespace LockRelay

/-- The command that was handled last, and whether it found its lock bound already. -/
structure Attempt where
  command : Option Command := none
  reused : Bool := false

def Attempt.add (a : Attempt) : Act → Attempt
  | .handling command => { command := some command }
  | .reused _ => { a with reused := true }
  | _ => a

namespace Dispatcher

def attempt (d : Dispatcher) : Attempt := d.acts.foldl Attempt.add {}

theorem attempt_record (d : Dispatcher) (act : Act) :
    (d.record act).attempt = d.attempt.add act := by
  simp [attempt, record, List.foldl_append]

/-- No other command is handled, relaying goes on or not as before, and no reply is taken. -/
structure SameAttempt (d e : Dispatcher) : Prop where
  attempt : e.attempt = d.attempt
  relaying : e.relaying = d.relaying
  replies : e.replies = d.replies

theorem operate_sameAttempt (d : Dispatcher) (operation : Radio.Operation) (message : Bytes) :
    d.SameAttempt (d.operate operation message).1 := by
  unfold operate
  rcases d.radio.start operation with ⟨radio, _ | outcome⟩ <;> exact ⟨rfl, rfl, rfl⟩

theorem sendPayload_sameAttempt (d : Dispatcher) (payload : Bytes) :
    d.SameAttempt (d.sendPayload payload).1 := by
  obtain ⟨cipher, -, ⟨error, hSend⟩ | ⟨frame, hSend⟩⟩ := sendPayload_cases d payload
  · rw [hSend]
    exact ⟨rfl, rfl, rfl⟩
  · obtain ⟨hAttempt, hRelaying, hReplies⟩ :=
      operate_sameAttempt ({ d with cipher }.record (.sending frame)) (.send frame) []
    rw [hSend]
    exact ⟨hAttempt.trans (attempt_record _ _), hRelaying, hReplies⟩

theorem sendMessage_sameAttempt (d : Dispatcher) (message : Bytes) :
    d.SameAttempt (d.sendMessage message).1 := by
  unfold sendMessage
  split_ifs
  · exact ⟨rfl, rfl, rfl⟩
  · exact sendPayload_sameAttempt d message

theorem followWith_sameAttempt (message : Bytes) (h : Handled) :
    h.1.SameAttempt (followWith message h).1 := by
  rcases h with ⟨e, _ | (error | ⟨⟩)⟩
  · exact ⟨rfl, rfl, rfl⟩
  · exact ⟨rfl, rfl, rfl⟩
  · exact sendMessage_sameAttempt e message

theorem perform_attempt (d : Dispatcher) (command : Command) :
    (d.perform command).1.attempt.command = some command ∧
      (d.perform command).1.relaying = d.relaying ∧ (d.perform command).1.replies = d.replies := by
  have hHandling : (d.record (.handling command)).attempt.command = some command := by
    rw [attempt_record]
    rfl
  have hSame {e : Dispatcher} (h : (d.record (.handling command)).SameAttempt e) :
      e.attempt.command = some command ∧ e.relaying = d.relaying ∧ e.replies = d.replies :=
    ⟨h.attempt.symm ▸ hHandling, h.relaying, h.replies⟩
  unfold perform
  cases command with
  | openChannel serial message =>
      simp only
      split_ifs
      · obtain ⟨hAttempt, hRelaying, hReplies⟩ := sendMessage_sameAttempt
          ((d.record (.handling (.openChannel serial message))).record (.reused serial)) message
        refine ⟨?_, hRelaying, hReplies⟩
        rw [hAttempt, attempt_record]
        exact hHandling
      · have hAsked := operate_sameAttempt { d.record (.handling (.openChannel serial message)) with
          channel := some d.radio.connections, taken := 0 } (.connect serial) message
        have hFollowed := followWith_sameAttempt message
          ((d.record (.handling (.openChannel serial message))).openConnection serial message)
        exact hSame ⟨hFollowed.attempt.trans hAsked.attempt,
          hFollowed.relaying.trans hAsked.relaying, hFollowed.replies.trans hAsked.replies⟩
  | sendPayload payload => exact hSame (sendPayload_sameAttempt _ payload)
  | closeChannel => exact hSame (operate_sameAttempt _ .disconnect [])

end Dispatcher

end LockRelay
