import LockRelay.Dispatch.State
import LockRelay.Hex
import LockRelay.Log

/-! The log of a dispatcher, as a view of what it did. -/
namespace LockRelay

/-- The line that an act of the dispatcher leaves, if it leaves one. -/
def Act.line? : Act → Option LogLine
  | .handling command => some ⟨.debug, "handling command", [("tag", command.tag.name)]⟩
  | .reused serial =>
      some ⟨.info, "already connected to lock", [("serial", toString serial.toNat)]⟩
  | .sending frame => some ⟨.debug, "sending", [("frame", Hex.encodeUpper frame)]⟩
  | .received frame => some ⟨.debug, "received", [("frame", Hex.encodeUpper frame)]⟩
  | .dropSeen => some ⟨.info, "lock dropped the link, next send rebinds", []⟩
  | .discarded error => some ⟨.error, "dropping frame", [("error", error.message)]⟩
  | .relayed .. | .returned _ => none

end LockRelay
