import LockRelay.Proofs.Controller.Addresses
import LockRelay.Proofs.Wire.RoundTrip

/-! What an exchange with a controller comes to. A frame and an activation are posted in the same way,
each to a path of its own. What an answer leads to is told by its status and by what its body reads
as, and an activation then admits one kind of command only. -/
namespace LockRelay.HttpController

/-- What a controller is asked. -/
inductive Ask where
  | frame (serial : UInt32) (payload : Bytes)
  | activation (endpointId : String)
  deriving DecidableEq

namespace Ask

def path : Ask → String
  | frame .. => messageReceivedPath
  | activation _ => authenticatedPath

def body : Ask → Bytes
  | frame serial payload => RelayRequest.print ⟨serial, payload⟩
  | activation endpointId => ActivationRequest.print ⟨endpointId⟩

def perform (c : HttpController) (network : Network) : Ask → Exchange
  | frame serial payload => c.relay network serial payload
  | activation endpointId => c.activate network endpointId

/-- The commands that are an answer. -/
def Admits : Ask → Command → Prop
  | frame .., _ => True
  | activation _, command => ∃ serial message, command = .openChannel serial message

/-- What becomes of the result of posting the body. -/
def settle : Ask → Except RelayError Command → Except RelayError Command
  | frame .. => id
  | activation _ => requireOpen

variable (ask : Ask)

@[simp] theorem settle_error (error : RelayError) : ask.settle (.error error) = .error error := by
  cases ask <;> rfl

theorem settle_of_admits {command : Command} (h : ask.Admits command) :
    ask.settle (.ok command) = .ok command := by
  cases ask with
  | frame serial payload => rfl
  | activation endpointId =>
      obtain ⟨serial, message, rfl⟩ := h
      rfl

theorem settle_of_not_admits {command : Command} (h : ¬ask.Admits command) :
    ask.settle (.ok command) = .error .unexpectedCommand := by
  cases ask with
  | frame serial payload => exact absurd trivial h
  | activation endpointId =>
      cases command with
      | openChannel serial message => exact absurd ⟨serial, message, rfl⟩ h
      | sendPayload payload => rfl
      | closeChannel => rfl

/-- What a complete answer with this status and this body has to lead to. -/
structure Answered (status : Nat) (body : Bytes) (result : Except RelayError Command) : Prop where
  ok_iff : ∀ command, result = .ok command ↔
    status = 200 ∧ Command.read body = .ok command ∧ ask.Admits command
  status_iff : ∀ code text, result = .error (.status code text) ↔
    status ≠ 200 ∧ code = status ∧ text = String.ofList (Utf8.decodeLossy body)
  decode_iff : ∀ fault, result = .error (.decode fault) ↔
    status = 200 ∧ Command.read body = .error fault
  unexpected_iff : result = .error .unexpectedCommand ↔
    status = 200 ∧ ∃ command, Command.read body = .ok command ∧ ¬ask.Admits command

theorem answered (c : HttpController) (status : Nat) (body : Bytes) :
    ask.Answered status body (ask.settle (c.interpret (.complete status body))) := by
  unfold interpret
  by_cases hStatus : status = 200
  swap
  · simp only [if_neg hStatus, settle_error]
    constructor <;> simp [hStatus, eq_comm]
  simp only [if_pos hStatus]
  cases hRead : Command.read body with
  | error fault =>
      simp only [settle_error]
      constructor <;> simp [hStatus, hRead, eq_comm]
  | ok command =>
      by_cases hAdmits : ask.Admits command
      · simp only [settle_of_admits ask hAdmits]
        constructor <;> simp [hStatus, hRead, hAdmits]
      · simp only [settle_of_not_admits ask hAdmits]
        constructor <;> simp [hStatus, hRead, hAdmits]

end Ask

variable {c : HttpController}

end LockRelay.HttpController
