import LockRelay.Cipher.Channel
import LockRelay.Proofs.Cipher.CounterBlock

/-! Calls to the ciphers of a channel. A call that fits into what is left of a nonce masks its data
and moves the counter by the blocks it takes; a call that does not fit changes nothing. -/
namespace LockRelay

/-- Blocks that payloads take up. -/
def blocksOf (payloads : List Bytes) : Nat :=
  (payloads.map fun payload => CounterMode.blocksFor payload.length).sum

theorem blocksFor_eq_zero {data : Bytes} :
    CounterMode.blocksFor data.length = 0 ↔ data = [] := by
  rw [← List.length_eq_zero_iff, CounterMode.blocksFor]
  omega

theorem blocksOf_eq_zero {payloads : List Bytes} :
    blocksOf payloads = 0 ↔ ∀ payload ∈ payloads, payload = [] := by
  simp [blocksOf, List.sum_eq_zero_iff, blocksFor_eq_zero]

theorem blocksOf_cons (payload : Bytes) (payloads : List Bytes) :
    blocksOf (payload :: payloads) =
      CounterMode.blocksFor payload.length + blocksOf payloads := by
  simp [blocksOf]

@[simp] theorem blocksOf_concat (payloads : List Bytes) (payload : Bytes) :
    blocksOf (payloads ++ [payload]) =
      blocksOf payloads + CounterMode.blocksFor payload.length := by
  simp [blocksOf]

namespace StreamCipher

/-- The cipher after so many more blocks. -/
def advance (c : StreamCipher) (blocks : Nat) (h : c.counter + blocks ≤ maxBlocks) :
    StreamCipher :=
  { c with counter := c.counter + blocks, counter_le := h }

@[simp] theorem counter_advance (c : StreamCipher) (blocks : Nat)
    (h : c.counter + blocks ≤ maxBlocks) : (c.advance blocks h).counter = c.counter + blocks := rfl

variable (cipher : BlockCipher) (c : StreamCipher) (data : Bytes)

theorem process_fits (h : c.counter + CounterMode.blocksFor data.length ≤ maxBlocks) :
    c.process cipher data =
      (c.advance _ h, .ok (CounterMode.mask (cipher c.key) c.inputBlock data)) := by
  by_cases hEmpty : CounterMode.blocksFor data.length = 0
  · obtain rfl := blocksFor_eq_zero.mp hEmpty
    rfl
  · simp [process, processInPlace, hEmpty, h, advance]

theorem process_exhausted (h : maxBlocks < c.counter + CounterMode.blocksFor data.length) :
    c.process cipher data = (c, .error .counterExhausted) := by
  have hBlocks : CounterMode.blocksFor data.length ≠ 0 := by
    have := c.counter_le
    omega
  simp [process, processInPlace, hBlocks, Nat.not_le.mpr h]

@[simp] theorem key_process : (c.process cipher data).1.key = c.key := by
  rcases Nat.lt_or_ge maxBlocks (c.counter + CounterMode.blocksFor data.length) with h | h
  · rw [process_exhausted _ _ _ h]
  · rw [process_fits _ _ _ h, advance]

@[simp] theorem nonce_process : (c.process cipher data).1.nonce = c.nonce := by
  rcases Nat.lt_or_ge maxBlocks (c.counter + CounterMode.blocksFor data.length) with h | h
  · rw [process_exhausted _ _ _ h]
  · rw [process_fits _ _ _ h, advance]

theorem sized_toList {n : Nat} (v : Vector UInt8 n) : sized n v.toList = some v := by
  obtain ⟨bytes, hBytes⟩ := v
  simp [sized, Vector.toList, hBytes]

theorem new_toList (key : Key) (nonce : Nonce) :
    new key.toList nonce.toList = .ok ⟨key, nonce, 0, Nat.zero_le _⟩ := by
  simp [new, resume, sized_toList]

end StreamCipher

namespace ChannelCipher

theorem new_toList (key : Key) {outbound inbound : Nonce} (h : outbound ≠ inbound) :
    new key.toList outbound.toList inbound.toList =
      .ok ⟨⟨key, outbound, 0, Nat.zero_le _⟩, ⟨key, inbound, 0, Nat.zero_le _⟩⟩ := by
  simp [new, StreamCipher.new_toList, h]

/-- The two ciphers of a channel are fresh. -/
theorem new_ok {key outbound inbound : Bytes} {c : ChannelCipher}
    (h : new key outbound inbound = .ok c) :
    StreamCipher.new key outbound = .ok c.outbound ∧
      StreamCipher.new key inbound = .ok c.inbound := by
  unfold new at h
  cases hOut : StreamCipher.new key outbound with
  | error error => simp [hOut] at h
  | ok out =>
  cases hIn : StreamCipher.new key inbound with
  | error error => simp [hOut, hIn] at h
  | ok inn =>
      simp only [hOut, hIn] at h
      split_ifs at h
      cases h
      exact ⟨rfl, rfl⟩

/-- A call to a channel, in one of its two directions. -/
inductive Call where
  | sealFrame (plain : Bytes)
  | openFrame (sealed : Bytes)
  deriving DecidableEq, Repr

def Call.data : Call → Bytes
  | .sealFrame data | .openFrame data => data

/-- The cipher that a call goes to. -/
def side (c : ChannelCipher) : Call → StreamCipher
  | .sealFrame _ => c.outbound
  | .openFrame _ => c.inbound

def perform (cipher : BlockCipher) (c : ChannelCipher) :
    Call → ChannelCipher × Except CipherError Bytes
  | .sealFrame plain => c.sealFrame cipher plain
  | .openFrame sealed => c.openFrame cipher sealed

/-- A result is what the cipher of the direction gives. -/
theorem perform_result (cipher : BlockCipher) (c : ChannelCipher) (call : Call) :
    (c.perform cipher call).2 = ((c.side call).process cipher call.data).2 := by
  cases call <;> rfl

section

variable (cipher : BlockCipher) (c : ChannelCipher)

theorem sealFrame_fits (plain : Bytes)
    (h : c.outbound.counter + CounterMode.blocksFor plain.length ≤ StreamCipher.maxBlocks) :
    c.sealFrame cipher plain = ({ c with outbound := c.outbound.advance _ h },
      .ok (CounterMode.mask (cipher c.outbound.key) c.outbound.inputBlock plain)) := by
  rw [sealFrame, StreamCipher.process_fits cipher c.outbound plain h]

theorem sealFrame_exhausted (plain : Bytes)
    (h : StreamCipher.maxBlocks < c.outbound.counter + CounterMode.blocksFor plain.length) :
    c.sealFrame cipher plain = (c, .error .counterExhausted) := by
  rw [sealFrame, StreamCipher.process_exhausted cipher c.outbound plain h]

theorem openFrame_fits (sealed : Bytes)
    (h : c.inbound.counter + CounterMode.blocksFor sealed.length ≤ StreamCipher.maxBlocks) :
    c.openFrame cipher sealed = ({ c with inbound := c.inbound.advance _ h },
      .ok (CounterMode.mask (cipher c.inbound.key) c.inbound.inputBlock sealed)) := by
  rw [openFrame, StreamCipher.process_fits cipher c.inbound sealed h]

/-- Opens frames one after another. -/
def openAll (cipher : BlockCipher) (c : ChannelCipher) :
    List Bytes → ChannelCipher × List (Except CipherError Bytes)
  | [] => (c, [])
  | frame :: frames =>
      let next := c.openFrame cipher frame
      ((next.1.openAll cipher frames).1, next.2 :: (next.1.openAll cipher frames).2)

theorem openAll_concat (frames : List Bytes) (frame : Bytes) :
    c.openAll cipher (frames ++ [frame]) =
      (((c.openAll cipher frames).1.openFrame cipher frame).1,
        (c.openAll cipher frames).2 ++ [((c.openAll cipher frames).1.openFrame cipher frame).2]) := by
  induction frames generalizing c with
  | nil => rfl
  | cons first frames ih => simp [openAll, ih]

theorem inbound_openAll (frames : List Bytes) :
    (c.openAll cipher frames).1.inbound.key = c.inbound.key ∧
      (c.openAll cipher frames).1.inbound.nonce = c.inbound.nonce := by
  induction frames generalizing c with
  | nil => exact ⟨rfl, rfl⟩
  | cons frame frames ih =>
      obtain ⟨hKey, hNonce⟩ := ih (c.openFrame cipher frame).1
      constructor
      · exact hKey.trans (StreamCipher.key_process cipher c.inbound frame)
      · exact hNonce.trans (StreamCipher.nonce_process cipher c.inbound frame)

end

end ChannelCipher

end LockRelay
