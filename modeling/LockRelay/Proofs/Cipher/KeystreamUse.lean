import LockRelay.Proofs.Cipher.ChannelCalls

/-! What the calls to a channel encipher. Every input block is enciphered for one block of data at
most, over both directions and however the calls come, including those that fail. -/
namespace LockRelay

namespace StreamCipher

/-- What a call with this data masks; a call that fails masks nothing. -/
def maskings (c : StreamCipher) (data : Bytes) : List Masking :=
  if c.counter + CounterMode.blocksFor data.length ≤ maxBlocks then
    CounterMode.maskings c.inputBlock data
  else []

/-- An input block that the cipher has not come to yet. -/
def Ahead (c : StreamCipher) (block : Block) : Prop :=
  ∃ counter, c.counter ≤ counter ∧ counter < maxBlocks ∧
    block = CounterMode.inputBlock c.nonce counter

variable (cipher : BlockCipher) (c : StreamCipher) (data : Bytes)

/-- A call fails when it does not fit, and otherwise gives what its maskings give. -/
theorem process_result :
    (c.process cipher data).2 = .ok ((c.maskings data).flatMap (·.output (cipher c.key))) ∨
      (c.process cipher data).2 = .error .counterExhausted ∧ c.maskings data = [] := by
  rcases Nat.lt_or_ge maxBlocks (c.counter + CounterMode.blocksFor data.length) with h | h
  · right
    exact ⟨by rw [process_exhausted _ _ _ h], if_neg (Nat.not_le.mpr h)⟩
  · left
    rw [process_fits _ _ _ h, maskings, if_pos h, CounterMode.mask_eq_flatMap_maskings]

/-- The counters of the blocks that a call enciphers follow each other from the counter on. -/
theorem maskings_inputs (h : c.counter + CounterMode.blocksFor data.length ≤ maxBlocks) :
    (c.maskings data).map (·.input) =
      (List.range (CounterMode.blocksFor data.length)).map fun i =>
        CounterMode.inputBlock c.nonce (c.counter + i) := by
  rw [maskings, if_pos h, CounterMode.maskings, List.map_map]
  apply List.map_congr_left
  intro i hi
  have hLast := List.mem_range.mp hi
  exact CounterMode.counterBlock_inputBlock c.nonce (by omega)

/-- The blocks of a call are between the counter before it and the counter after it. -/
theorem ahead_of_mem_maskings {block : Block}
    (hMem : block ∈ (c.maskings data).map (·.input)) :
    c.Ahead block ∧ ¬ (c.process cipher data).1.Ahead block := by
  rcases Nat.lt_or_ge maxBlocks (c.counter + CounterMode.blocksFor data.length) with h | h
  · simp [maskings, Nat.not_le.mpr h] at hMem
  rw [maskings_inputs c data h, List.mem_map] at hMem
  obtain ⟨i, hi, rfl⟩ := hMem
  have hLast := List.mem_range.mp hi
  refine ⟨⟨c.counter + i, by omega, by omega, rfl⟩, ?_⟩
  rw [process_fits _ _ _ h]
  rintro ⟨counter, hAfter, hCounter, hBlock⟩
  obtain ⟨-, hSame⟩ := CounterMode.inputBlock_injective (by omega) hCounter hBlock
  simp only [advance] at hAfter
  omega

theorem maskings_nodup : ((c.maskings data).map (·.input)).Nodup := by
  rcases Nat.lt_or_ge maxBlocks (c.counter + CounterMode.blocksFor data.length) with h | h
  · simp [maskings, Nat.not_le.mpr h]
  rw [maskings_inputs c data h]
  apply List.nodup_range.map_on
  intro i hi j hj hBlock
  have hLeft := List.mem_range.mp hi
  have hRight := List.mem_range.mp hj
  obtain ⟨-, hSame⟩ := CounterMode.inputBlock_injective (by omega) (by omega) hBlock
  omega

/-- A call brings no block back. -/
theorem Ahead.of_process {block : Block} (h : (c.process cipher data).1.Ahead block) :
    c.Ahead block := by
  rcases Nat.lt_or_ge maxBlocks (c.counter + CounterMode.blocksFor data.length) with hFit | hFit
  · rwa [process_exhausted _ _ _ hFit] at h
  rw [process_fits _ _ _ hFit] at h
  obtain ⟨counter, hAfter, hCounter, hBlock⟩ := h
  simp only [advance] at hAfter hBlock
  exact ⟨counter, by omega, hCounter, hBlock⟩

theorem Ahead.nonce_eq {c d : StreamCipher} {block : Block} (hc : c.Ahead block)
    (hd : d.Ahead block) : c.nonce = d.nonce := by
  obtain ⟨m, -, hm, hLeft⟩ := hc
  obtain ⟨n, -, hn, hRight⟩ := hd
  exact (CounterMode.inputBlock_injective hm hn (hLeft.symm.trans hRight)).1

end StreamCipher

namespace ChannelCipher

/-- The nonce of the direction that a call goes to. -/
def Call.nonce (outbound inbound : Nonce) : Call → Nonce
  | .sealFrame _ => outbound
  | .openFrame _ => inbound

/-- A call to a channel with what it masked and what came of it. -/
structure Use where
  call : Call
  maskings : List Masking
  result : Except CipherError Bytes

/-- The calls of a history, one after another. -/
def uses (cipher : BlockCipher) (c : ChannelCipher) : List Call → List Use
  | [] => []
  | call :: calls =>
      let next := c.perform cipher call
      ⟨call, (c.side call).maskings call.data, next.2⟩ :: next.1.uses cipher calls

/-- Whether the maskings of a call account for its result: they give every byte of it, and a call
that fails has none. -/
def Use.Accounted (use : Use) (encipher : Block → Block) : Prop :=
  use.result = .ok (use.maskings.flatMap (·.output encipher)) ∨
    use.result = .error .counterExhausted ∧ use.maskings = []

/-- All input blocks that a history enciphers, in order. -/
def inputs (uses : List Use) : List Block := uses.flatMap fun use => use.maskings.map (·.input)

/-- An input block that neither direction has come to yet. -/
def Ahead (c : ChannelCipher) (block : Block) : Prop :=
  c.outbound.Ahead block ∨ c.inbound.Ahead block

variable (cipher : BlockCipher)

theorem nonces_perform (c : ChannelCipher) (call : Call) :
    (c.perform cipher call).1.outbound.nonce = c.outbound.nonce ∧
      (c.perform cipher call).1.inbound.nonce = c.inbound.nonce := by
  cases call <;> simp [perform, sealFrame, openFrame]

theorem keys_perform (c : ChannelCipher) (call : Call) :
    (c.perform cipher call).1.outbound.key = c.outbound.key ∧
      (c.perform cipher call).1.inbound.key = c.inbound.key := by
  cases call <;> simp [perform, sealFrame, openFrame]

theorem Ahead.of_perform {c : ChannelCipher} {call : Call} {block : Block}
    (h : (c.perform cipher call).1.Ahead block) : c.Ahead block := by
  cases call with
  | sealFrame plain => exact h.imp_left (StreamCipher.Ahead.of_process cipher _ plain)
  | openFrame sealed => exact h.imp_right (StreamCipher.Ahead.of_process cipher _ sealed)

/-- What a call masks is spent for both directions afterwards, because their nonces differ. -/
theorem ahead_of_mem_maskings {c : ChannelCipher} (hNonces : c.outbound.nonce ≠ c.inbound.nonce)
    {call : Call} {block : Block}
    (hMem : block ∈ ((c.side call).maskings call.data).map (·.input)) :
    c.Ahead block ∧ ¬ (c.perform cipher call).1.Ahead block := by
  obtain ⟨hAhead, hSpent⟩ := StreamCipher.ahead_of_mem_maskings cipher _ _ hMem
  cases call with
  | sealFrame plain =>
      refine ⟨Or.inl hAhead, ?_⟩
      rintro (hAfter | hAfter)
      · exact hSpent hAfter
      · exact hNonces (hAhead.nonce_eq hAfter)
  | openFrame sealed =>
      refine ⟨Or.inr hAhead, ?_⟩
      rintro (hAfter | hAfter)
      · exact hNonces (hAfter.nonce_eq hAhead)
      · exact hSpent hAfter

/-- The invariant of a history: what it enciphers lies ahead of where it starts, and no block
comes twice. -/
theorem inputs_uses {c : ChannelCipher} (hNonces : c.outbound.nonce ≠ c.inbound.nonce)
    (calls : List Call) :
    (∀ block ∈ inputs (c.uses cipher calls), c.Ahead block) ∧
      (inputs (c.uses cipher calls)).Nodup := by
  induction calls generalizing c with
  | nil => simp [uses, inputs]
  | cons call calls ih =>
      obtain ⟨hOut, hIn⟩ := nonces_perform cipher c call
      obtain ⟨hAhead, hNodup⟩ := ih (c := (c.perform cipher call).1) (by rwa [hOut, hIn])
      have hSplit : inputs (c.uses cipher (call :: calls)) =
          ((c.side call).maskings call.data).map (·.input) ++
            inputs ((c.perform cipher call).1.uses cipher calls) := by
        simp [uses, inputs]
      rw [hSplit]
      constructor
      · intro block hMem
        rcases List.mem_append.mp hMem with hMem | hMem
        · exact (ahead_of_mem_maskings cipher hNonces hMem).1
        · exact (hAhead block hMem).of_perform
      · refine (StreamCipher.maskings_nodup _ _).append hNodup ?_
        intro block hMem hLater
        exact (ahead_of_mem_maskings cipher hNonces hMem).2 (hAhead block hLater)

theorem map_call_uses (c : ChannelCipher) (calls : List Call) :
    (c.uses cipher calls).map (·.call) = calls := by
  induction calls generalizing c with
  | nil => rfl
  | cons call calls ih => simp [uses, ih]

theorem accounted_of_mem_uses (c : ChannelCipher) (calls : List Call) {key : Key}
    (hOut : c.outbound.key = key) (hIn : c.inbound.key = key) :
    ∀ use ∈ c.uses cipher calls, use.Accounted (cipher key) := by
  induction calls generalizing c with
  | nil => simp [uses]
  | cons call calls ih =>
      obtain ⟨hOutNext, hInNext⟩ := keys_perform cipher c call
      have hKey : (c.side call).key = key := by cases call <;> assumption
      intro use hMem
      rcases List.mem_cons.mp hMem with rfl | hMem
      · have hResult := StreamCipher.process_result cipher (c.side call) call.data
        rw [hKey, ← perform_result] at hResult
        exact hResult
      · exact ih _ (hOutNext.trans hOut) (hInNext.trans hIn) use hMem

/-- Counters stay below the capacity of a nonce, so every block begins with the nonce of its
direction. -/
theorem inputBlock_of_mem_uses (c : ChannelCipher) (calls : List Call) {outbound inbound : Nonce}
    (hOut : c.outbound.nonce = outbound) (hIn : c.inbound.nonce = inbound) :
    ∀ use ∈ c.uses cipher calls, ∀ masking ∈ use.maskings, ∃ counter < StreamCipher.maxBlocks,
      masking.input = CounterMode.inputBlock (use.call.nonce outbound inbound) counter := by
  induction calls generalizing c with
  | nil => simp [uses]
  | cons call calls ih =>
      obtain ⟨hOutNext, hInNext⟩ := nonces_perform cipher c call
      have hNonce : (c.side call).nonce = call.nonce outbound inbound := by
        cases call <;> assumption
      intro use hMem masking hMasking
      rcases List.mem_cons.mp hMem with rfl | hMem
      · have hInput := List.mem_map_of_mem (f := Masking.input) hMasking
        obtain ⟨⟨counter, -, hCounter, hBlock⟩, -⟩ :=
          StreamCipher.ahead_of_mem_maskings cipher _ _ hInput
        rw [hNonce] at hBlock
        exact ⟨counter, hCounter, hBlock⟩
      · exact ih _ (hOutNext.trans hOut) (hInNext.trans hIn) use hMem masking hMasking

/-- No input block is enciphered twice under a key, neither within one direction nor once in each.
Each call gives exactly what its maskings give, each of them with the nonce of its direction and a
counter of its own; in particular no count carries into the nonce. -/
theorem inputBlocks_enciphered_once (key : Key) (outbound inbound : Nonce)
    (h : outbound ≠ inbound) :
    ∃ channel, new key.toList outbound.toList inbound.toList = .ok channel ∧
      ∀ calls : List Call,
        (channel.uses cipher calls).map (·.call) = calls ∧
        (inputs (channel.uses cipher calls)).Nodup ∧
        ∀ use ∈ channel.uses cipher calls, use.Accounted (cipher key) ∧
          ∀ masking ∈ use.maskings, ∃ counter < StreamCipher.maxBlocks,
            masking.input =
              CounterMode.inputBlock (use.call.nonce outbound inbound) counter := by
  refine ⟨_, new_toList key h, fun calls => ?_⟩
  refine ⟨map_call_uses cipher _ calls, (inputs_uses cipher h calls).2, fun use hMem => ?_⟩
  refine ⟨accounted_of_mem_uses cipher _ calls rfl rfl use hMem, fun masking hMasking => ?_⟩
  exact inputBlock_of_mem_uses cipher _ calls rfl rfl use hMem masking hMasking

/-- Two nonces that differ in every byte, and calls that fill a block, begin one and cross one. -/
theorem inputBlocks_enciphered_once_zero_one :
    (Vector.replicate 13 0 : Nonce) ≠ Vector.replicate 13 1 ∧
      ∃ channel, new (List.replicate 16 7) (List.replicate 13 0) (List.replicate 13 1) =
          .ok channel ∧
        (inputs (channel.uses Aes.encrypt
          [.sealFrame (List.replicate 16 0), .openFrame [1], .sealFrame (List.replicate 17 2)])).Nodup := by
  have hNonces : (Vector.replicate 13 0 : Nonce) ≠ Vector.replicate 13 1 := by decide
  obtain ⟨channel, hNew, hCalls⟩ :=
    inputBlocks_enciphered_once Aes.encrypt (Vector.replicate 16 7) _ _ hNonces
  exact ⟨hNonces, channel, hNew, (hCalls _).2.1⟩

end ChannelCipher

end LockRelay
