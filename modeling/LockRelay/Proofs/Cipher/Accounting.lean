import LockRelay.Proofs.Cipher.MaskStream

/-! What the counter of one direction tells. It counts the blocks of the accepted calls, and a call
is accepted exactly if its blocks are left. Machine words are wide enough for all of this: 32 bits
for the counter and 64 for the sum that is compared with the capacity. A refused call leaves no
trace, and a cipher that is made again from its counter goes on where the first one stopped. -/
namespace LockRelay

namespace CounterWord

/-- Blocks that so many bytes take up: the quotient, and one more for a remainder. -/
def blocks (length : UInt64) : UInt64 :=
  if length % 16 = 0 then length / 16 else length / 16 + 1

/-- Blocks left after a counter, which wrap around if the counter is past the capacity. -/
def remaining (counter : UInt32) : UInt32 := 0x1000000 - counter

/-- The counter after a call with so many bytes, if it is accepted. The sum is made in 64 bits and
cut to 32. -/
def next (counter : UInt32) (length : UInt64) : Option UInt32 :=
  if blocks length = 0 then some counter
  else if 0x1000000 < counter.toUInt64 + blocks length then none
  else some (counter.toUInt64 + blocks length).toUInt32

theorem toNat_blocks (length : UInt64) :
    (blocks length).toNat = CounterMode.blocksFor length.toNat := by
  have hRange := length.toNat_lt
  unfold blocks CounterMode.blocksFor
  split_ifs with hRest
  · have hWhole : length.toNat % 16 = 0 := congrArg UInt64.toNat hRest
    rw [UInt64.toNat_div]
    exact show length.toNat / 16 = (length.toNat + 15) / 16 by omega
  · have hBegun : length.toNat % 16 ≠ 0 := fun hZero => hRest (UInt64.toNat_inj.mp hZero)
    rw [UInt64.toNat_add, UInt64.toNat_div]
    exact show (length.toNat / 16 + 1) % 18446744073709551616 = (length.toNat + 15) / 16 by omega

theorem toNat_counter {counter : Nat} (h : counter ≤ StreamCipher.maxBlocks) :
    (UInt32.ofNat counter).toNat = counter := by
  have hMax : StreamCipher.maxBlocks = 16777216 := rfl
  exact UInt32.toNat_ofNat_of_lt' (by omega : counter < 4294967296)

/-- The sum of a counter and the blocks of a call is far from the end of 64 bits. -/
theorem sum_lt {counter length : Nat} (hCounter : counter ≤ StreamCipher.maxBlocks)
    (hLength : length < UInt64.size) :
    counter + CounterMode.blocksFor length < UInt64.size := by
  have hMax : StreamCipher.maxBlocks = 16777216 := rfl
  have hSize : UInt64.size = 18446744073709551616 := rfl
  unfold CounterMode.blocksFor
  omega

theorem toNat_sum {counter length : Nat} (hCounter : counter ≤ StreamCipher.maxBlocks)
    (hLength : length < UInt64.size) :
    ((UInt32.ofNat counter).toUInt64 + blocks (UInt64.ofNat length)).toNat =
      counter + CounterMode.blocksFor length := by
  rw [UInt64.toNat_add, UInt32.toNat_toUInt64, toNat_counter hCounter, toNat_blocks,
    UInt64.toNat_ofNat_of_lt' hLength]
  exact Nat.mod_eq_of_lt (sum_lt hCounter hLength)

theorem toNat_remaining {counter : Nat} (h : counter ≤ StreamCipher.maxBlocks) :
    (remaining (UInt32.ofNat counter)).toNat = StreamCipher.maxBlocks - counter := by
  have hCounter := toNat_counter h
  have hLe : UInt32.ofNat counter ≤ 0x1000000 := by
    rw [UInt32.le_iff_toNat_le, hCounter]
    exact h
  rw [remaining, UInt32.toNat_sub_of_le _ _ hLe, hCounter]
  rfl

/-- In words, a call is judged and counted as in unbounded numbers. -/
theorem next_ofNat {counter length : Nat} (hCounter : counter ≤ StreamCipher.maxBlocks)
    (hLength : length < UInt64.size) :
    next (UInt32.ofNat counter) (UInt64.ofNat length) =
      if counter + CounterMode.blocksFor length ≤ StreamCipher.maxBlocks then
        some (UInt32.ofNat (counter + CounterMode.blocksFor length))
      else none := by
  have hBlocks := toNat_blocks (UInt64.ofNat length)
  rw [UInt64.toNat_ofNat_of_lt' hLength] at hBlocks
  have hSum := toNat_sum hCounter hLength
  unfold next
  by_cases hNone : CounterMode.blocksFor length = 0
  · have hZero : blocks (UInt64.ofNat length) = 0 := by
      rw [← UInt64.toNat_inj, hBlocks, hNone]
      rfl
    rw [if_pos hZero, hNone, Nat.add_zero, if_pos hCounter]
  · have hSome : blocks (UInt64.ofNat length) ≠ 0 := by
      intro hZero
      rw [hZero] at hBlocks
      exact hNone hBlocks.symm
    rw [if_neg hSome]
    by_cases hFits : counter + CounterMode.blocksFor length ≤ StreamCipher.maxBlocks
    · have hWithin : ¬0x1000000 < (UInt32.ofNat counter).toUInt64 + blocks (UInt64.ofNat length) := by
        rw [UInt64.lt_iff_toNat_lt, hSum]
        exact not_lt.mpr hFits
      rw [if_neg hWithin, if_pos hFits]
      congr 1
      rw [← UInt32.toNat_inj, UInt64.toNat_toUInt32, hSum, toNat_counter hFits]
      have hMax : StreamCipher.maxBlocks = 16777216 := rfl
      exact Nat.mod_eq_of_lt (by omega)
    · have hPast : 0x1000000 < (UInt32.ofNat counter).toUInt64 + blocks (UInt64.ofNat length) := by
        rw [UInt64.lt_iff_toNat_lt, hSum]
        exact not_le.mp hFits
      rw [if_pos hPast, if_neg hFits]

end CounterWord

namespace StreamCipher

variable (cipher : BlockCipher)

theorem after_append (c : StreamCipher) (calls later : List Call) :
    c.after cipher (calls ++ later) = (c.after cipher calls).after cipher later :=
  List.foldl_append

theorem uses_append (c : StreamCipher) (calls later : List Call) :
    c.uses cipher (calls ++ later) =
      c.uses cipher calls ++ (c.after cipher calls).uses cipher later := by
  induction calls generalizing c with
  | nil => rfl
  | cons call calls ih => exact congrArg (List.cons _) (ih _)

@[simp] theorem isAccepted_accepted (call : Call) (output : Bytes) :
    (call.accepted output).isAccepted = true := by
  cases call <;> rfl

@[simp] theorem isAccepted_refused (call : Call) : call.refused.isAccepted = false := by
  cases call <;> rfl

/-- A call is accepted exactly if its blocks still fit. -/
theorem isAccepted_perform (c : StreamCipher) (call : Call) :
    (c.perform cipher call).2.isAccepted = true ↔
      c.counter + CounterMode.blocksFor call.data.length ≤ maxBlocks := by
  rw [reply_perform]
  split_ifs with h
  · exact iff_of_true (isAccepted_accepted call _) h
  · rw [isAccepted_refused]
    exact iff_of_false Bool.false_ne_true h

theorem perform_refused {c : StreamCipher} {call : Call}
    (h : (c.perform cipher call).2.isAccepted = false) :
    c.perform cipher call = (c, call.refused) := by
  apply perform_exhausted
  rw [← not_le, ← isAccepted_perform cipher, h]
  exact Bool.false_ne_true

/-- What a key, a nonce and a counter make is a cipher with just these. -/
theorem resume_ok {key nonce : Bytes} {start : Nat} {c : StreamCipher}
    (h : resume key nonce start = .ok c) :
    key = c.key.toList ∧ nonce = c.nonce.toList ∧ start = c.counter := by
  unfold resume sized at h
  split_ifs at h with hKey hNonce hStart
  all_goals cases h
  exact ⟨rfl, rfl, rfl⟩

/-- How a cipher judges its next call and counts its blocks, also in machine words. -/
structure Accounts (c : StreamCipher) : Prop where
  left : c.counter + c.remaining = 0x1000000
  accepts : ∀ call : Call, (c.perform cipher call).2.isAccepted = true ↔
    call.data = [] ∨ CounterMode.blocksFor call.data.length ≤ c.remaining
  leftInWords : (CounterWord.remaining (UInt32.ofNat c.counter)).toNat = c.remaining
  sumFits : ∀ call : Call, call.data.length < UInt64.size →
    c.counter + CounterMode.blocksFor call.data.length < UInt64.size
  nextInWords : ∀ call : Call, call.data.length < UInt64.size →
    CounterWord.next (UInt32.ofNat c.counter) (UInt64.ofNat call.data.length) =
      if (c.perform cipher call).2.isAccepted then
        some (UInt32.ofNat (c.perform cipher call).1.counter)
      else none

/-- That the capacity bounds the counter is part of every cipher, so all of them keep accounts. -/
theorem accounts (c : StreamCipher) : c.Accounts cipher where
  left := Nat.add_sub_of_le c.counter_le
  accepts call := by
    have hCounter := c.counter_le
    rw [isAccepted_perform, remaining, ← blocksFor_eq_zero]
    omega
  leftInWords := CounterWord.toNat_remaining c.counter_le
  sumFits call hLength := CounterWord.sum_lt c.counter_le hLength
  nextInWords call hLength := by
    rw [CounterWord.next_ofNat c.counter_le hLength]
    by_cases hFits : c.counter + CounterMode.blocksFor call.data.length ≤ maxBlocks
    · rw [if_pos hFits, if_pos ((isAccepted_perform cipher c call).mpr hFits),
        perform_fits cipher c call hFits]
      rfl
    · rw [if_neg hFits, if_neg (mt (isAccepted_perform cipher c call).mp hFits)]

/-- A call that is refused is as good as not made. -/
theorem uses_refused (c : StreamCipher) (calls later : List Call) {call : Call}
    (h : ((c.after cipher calls).perform cipher call).2.isAccepted = false) :
    c.uses cipher (calls ++ call :: later) =
        c.uses cipher calls ++ ⟨call, call.refused⟩ :: (c.after cipher calls).uses cipher later ∧
      c.after cipher (calls ++ call :: later) = c.after cipher (calls ++ later) := by
  have hSame := perform_refused cipher h
  constructor
  · rw [uses_append, uses, hSame]
  · rw [after_append, after_append]
    exact congrArg (fun next => after cipher next later) (congrArg Prod.fst hSame)

/-- A cipher made again from its own counter is the same cipher. -/
theorem resume_after {key nonce : Bytes} {start : Nat} {c : StreamCipher}
    (h : resume key nonce start = .ok c) (calls : List Call) :
    resume key nonce (c.after cipher calls).counter = .ok (c.after cipher calls) := by
  obtain ⟨rfl, rfl, -⟩ := resume_ok h
  obtain ⟨hKey, hNonce, -⟩ := after_moves cipher c calls
  rw [← hKey, ← hNonce]
  exact resume_toList _ _ (c.after cipher calls).counter_le

/-- The accounts of a cipher after any calls, be it new or one that starts at a later block. Its counter
has moved by the blocks of the accepted calls and by nothing else. A call that is refused returns
that the counter is exhausted, leaves its buffer, and changes neither the counter nor any later
reply. The cipher that is made from the counter at that point, with no block left or with some,
replies from then on as the original does. -/
theorem counter_exact {key nonce : Bytes} {start : Nat} {c : StreamCipher}
    (h : resume key nonce start = .ok c) (calls : List Call) :
    (c.after cipher calls).counter =
        start + blocksOf (acceptedData (c.uses cipher calls)) ∧
      (c.after cipher calls).Accounts cipher ∧
      (∀ call later, ((c.after cipher calls).perform cipher call).2.isAccepted = false →
        c.uses cipher (calls ++ call :: later) =
            c.uses cipher calls ++
              ⟨call, call.refused⟩ :: (c.after cipher calls).uses cipher later ∧
          c.after cipher (calls ++ call :: later) = c.after cipher (calls ++ later)) ∧
      resume key nonce (c.after cipher calls).counter = .ok (c.after cipher calls) ∧
      ∀ later, c.uses cipher (calls ++ later) =
        c.uses cipher calls ++ (c.after cipher calls).uses cipher later := by
  obtain ⟨-, -, hStart⟩ := resume_ok h
  obtain ⟨-, -, hCounter⟩ := after_moves cipher c calls
  refine ⟨hStart ▸ hCounter, accounts cipher _, ?_, resume_after cipher h calls, ?_⟩
  · exact fun call later hRefused => uses_refused cipher c calls later hRefused
  · exact uses_append cipher c calls

/-- One block is left. Seventeen bytes are refused and sixteen are accepted after that; the cipher
that has no block left can still be made again. -/
theorem counter_exact_at_capacity :
    ∃ c, resume (List.replicate 16 7) (List.replicate 13 9) 0xFFFFFF = .ok c ∧
      (c.after Aes.encrypt
        [.processInPlace (List.replicate 17 0xAB), .process (List.replicate 16 0xAB)]).counter =
          0x1000000 ∧
      resume (List.replicate 16 7) (List.replicate 13 9) 0x1000000 = .ok (c.after Aes.encrypt
        [.processInPlace (List.replicate 17 0xAB), .process (List.replicate 16 0xAB)]) := by
  have hResume : resume (List.replicate 16 7) (List.replicate 13 9) 0xFFFFFF =
      .ok ⟨Vector.replicate 16 7, Vector.replicate 13 9, 0xFFFFFF, by decide⟩ := rfl
  obtain ⟨hCounter, -, -, hAgain, -⟩ := counter_exact Aes.encrypt hResume
    [.processInPlace (List.replicate 17 0xAB), .process (List.replicate 16 0xAB)]
  have hLast : (after Aes.encrypt ⟨Vector.replicate 16 7, Vector.replicate 13 9, 0xFFFFFF, by decide⟩
      [.processInPlace (List.replicate 17 0xAB), .process (List.replicate 16 0xAB)]).counter =
        0x1000000 := hCounter
  exact ⟨_, hResume, hLast, hLast ▸ hAgain⟩

end StreamCipher

end LockRelay
