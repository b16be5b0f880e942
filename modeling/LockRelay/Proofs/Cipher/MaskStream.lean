import LockRelay.Proofs.Cipher.ChannelCalls

/-! The mask stream of a nonce: its blocks are the enciphered values of the nonce and a number in
three bytes, and the numbers go up one by one. A cipher that is called over and over masks with
this stream from its first block on. A call takes whole blocks, so the next one begins at the number
after the last block begun. -/
namespace LockRelay

namespace CounterMode

/-- The lowest three bytes of a number, most significant first. -/
def threeBytes (n : Nat) : Vector UInt8 3 :=
  #v[UInt8.ofNat (n / 65536), UInt8.ofNat (n / 256), UInt8.ofNat n]

/-- A nonce and the number of a block. -/
def numberedBlock (nonce : Nonce) (number : Nat) : Block := nonce ++ threeBytes number

/-- Byte `j` of the mask stream that begins with the block of this number. -/
def streamByte (encipher : Block → Block) (nonce : Nonce) (number j : Nat) : UInt8 :=
  (encipher (numberedBlock nonce (number + j / 16))).get ⟨j % 16, Nat.mod_lt j (by decide)⟩

/-- Data under the mask stream that begins with the block of this number. -/
def masked (encipher : Block → Block) (nonce : Nonce) (number : Nat) (data : Bytes) : Bytes :=
  data.mapIdx fun j b => b ^^^ streamByte encipher nonce number j

theorem inputBlock_eq_numberedBlock (nonce : Nonce) (number : Nat) :
    inputBlock nonce number = numberedBlock nonce number := by
  apply Vector.ext
  intro j hj
  rw [getElem_inputBlock]
  by_cases hNonce : j < 13
  · rw [dif_pos hNonce]
    exact (Vector.getElem_append_left hNonce).symm
  · have hNumber : (numberedBlock nonce number)[j] = (threeBytes number)[j - 13] :=
      Vector.getElem_append_right (by omega) (not_lt.mp hNonce)
    rw [dif_neg hNonce, hNumber]
    interval_cases j
    · rfl
    · rfl
    · exact congrArg UInt8.ofNat (Nat.div_one number)

/-- Blocks of sixteen bytes one after another: a byte is found by its block and its place there. -/
theorem getElem_flatMap_blocks (blocks : Nat → Block) {count j : Nat} (hj : j < 16 * count) :
    ((List.range count).flatMap fun i => (blocks i).toList)[j]? =
      some ((blocks (j / 16)).get ⟨j % 16, Nat.mod_lt j (by decide)⟩) := by
  induction count with
  | zero => omega
  | succ count ih =>
      have hLength : ((List.range count).flatMap fun i => (blocks i).toList).length = 16 * count := by
        simp [Nat.mul_comm]
      rw [List.range_succ, List.flatMap_append]
      by_cases hBefore : j < 16 * count
      · rw [List.getElem?_append_left (by omega)]
        exact ih hBefore
      · have hBlock : j / 16 = count := by omega
        have hPlace : j - 16 * count = j % 16 := by omega
        rw [List.getElem?_append_right (by omega), hLength, hPlace]
        simp [hBlock, Nat.mod_lt, Vector.get_eq_getElem]

/-- Below the capacity of a nonce, what counts inside one call is the number of the block. -/
theorem mask_inputBlock (encipher : Block → Block) (nonce : Nonce) {number : Nat} {data : Bytes}
    (h : number + blocksFor data.length ≤ StreamCipher.maxBlocks) :
    mask encipher (inputBlock nonce number) data = masked encipher nonce number data := by
  apply List.ext_getElem
  · simp [masked]
  · intro j hLeft hRight
    have hData : j < data.length := by
      rwa [length_mask] at hLeft
    have hBlocks : blocksFor data.length = (data.length + 15) / 16 := rfl
    have hByte : (keystream encipher (inputBlock nonce number) (blocksFor data.length))[j]? =
        some (streamByte encipher nonce number j) := by
      have hNumber : number + j / 16 < StreamCipher.maxBlocks := by omega
      have hBlock : counterBlock (inputBlock nonce number) (j / 16) =
          numberedBlock nonce (number + j / 16) :=
        (counterBlock_inputBlock nonce hNumber).trans (inputBlock_eq_numberedBlock nonce _)
      unfold keystream
      rw [getElem_flatMap_blocks _ (by omega)]
      simp only [hBlock, streamByte]
    obtain ⟨hIndex, hByte⟩ := List.getElem?_eq_some_iff.mp hByte
    simp [mask, masked, hByte]

end CounterMode

namespace StreamCipher

/-- A call to a cipher of one direction. -/
inductive Call where
  /-- Masks data into a new byte string. -/
  | process (data : Bytes)
  /-- Masks a buffer. -/
  | processInPlace (buffer : Bytes)
  deriving DecidableEq, Repr

/-- What a caller has afterwards. -/
inductive Reply where
  | returned (result : Except CipherError Bytes)
  | left (buffer : Bytes) (result : Except CipherError Unit)
  deriving DecidableEq, Repr

def Call.data : Call → Bytes
  | .process data | .processInPlace data => data

/-- The reply of a call that is accepted with this output. -/
def Call.accepted (output : Bytes) : Call → Reply
  | .process _ => .returned (.ok output)
  | .processInPlace _ => .left output (.ok ())

/-- The reply of a call that does not fit any more: a buffer is left as it was. -/
def Call.refused : Call → Reply
  | .process _ => .returned (.error .counterExhausted)
  | .processInPlace buffer => .left buffer (.error .counterExhausted)

def Reply.isAccepted : Reply → Bool
  | .returned (.ok _) | .left _ (.ok ()) => true
  | _ => false

/-- A call and its reply. -/
structure Use where
  call : Call
  reply : Reply

variable (cipher : BlockCipher)

def perform (c : StreamCipher) : Call → StreamCipher × Reply
  | .process data =>
      let (c, result) := c.process cipher data
      (c, .returned result)
  | .processInPlace buffer =>
      let (c, buffer, result) := c.processInPlace cipher buffer
      (c, .left buffer result)

/-- The cipher after a sequence of calls. -/
def after (c : StreamCipher) (calls : List Call) : StreamCipher :=
  calls.foldl (fun c call => (c.perform cipher call).1) c

/-- A sequence of calls with their replies. -/
def uses (c : StreamCipher) : List Call → List Use
  | [] => []
  | call :: calls => ⟨call, (c.perform cipher call).2⟩ :: (c.perform cipher call).1.uses calls

/-- What the accepted calls were given, in order. -/
def acceptedData (uses : List Use) : List Bytes :=
  (uses.filter (·.reply.isAccepted)).map (·.call.data)

theorem acceptedData_append (first second : List Use) :
    acceptedData (first ++ second) = acceptedData first ++ acceptedData second := by
  simp [acceptedData]

theorem processInPlace_fits (c : StreamCipher) (buffer : Bytes)
    (h : c.counter + CounterMode.blocksFor buffer.length ≤ maxBlocks) :
    c.processInPlace cipher buffer =
      (c.advance _ h, CounterMode.mask (cipher c.key) c.inputBlock buffer, .ok ()) := by
  have hProcess := process_fits cipher c buffer h
  unfold process at hProcess
  rcases hResult : c.processInPlace cipher buffer with ⟨d, output, error | ⟨⟩⟩
  all_goals
    rw [hResult] at hProcess
    cases hProcess
  rfl

theorem processInPlace_exhausted (c : StreamCipher) (buffer : Bytes)
    (h : maxBlocks < c.counter + CounterMode.blocksFor buffer.length) :
    c.processInPlace cipher buffer = (c, buffer, .error .counterExhausted) := by
  have hBlocks : CounterMode.blocksFor buffer.length ≠ 0 := by
    have := c.counter_le
    omega
  simp [processInPlace, hBlocks, Nat.not_le.mpr h]

/-- A call that fits masks its data with the stream from the next block on. -/
theorem perform_fits (c : StreamCipher) (call : Call)
    (h : c.counter + CounterMode.blocksFor call.data.length ≤ maxBlocks) :
    c.perform cipher call = (c.advance _ h,
      call.accepted (CounterMode.masked (cipher c.key) c.nonce c.counter call.data)) := by
  rw [← CounterMode.mask_inputBlock _ _ h]
  cases call with
  | process data =>
      simp only [perform, process_fits cipher c data h]
      rfl
  | processInPlace buffer =>
      simp only [perform, processInPlace_fits cipher c buffer h]
      rfl

theorem perform_exhausted (c : StreamCipher) (call : Call)
    (h : maxBlocks < c.counter + CounterMode.blocksFor call.data.length) :
    c.perform cipher call = (c, call.refused) := by
  cases call with
  | process data =>
      simp only [perform, process_exhausted cipher c data h]
      rfl
  | processInPlace buffer =>
      simp only [perform, processInPlace_exhausted cipher c buffer h]
      rfl

theorem reply_perform (c : StreamCipher) (call : Call) :
    (c.perform cipher call).2 =
      if c.counter + CounterMode.blocksFor call.data.length ≤ maxBlocks then
        call.accepted (CounterMode.masked (cipher c.key) c.nonce c.counter call.data)
      else call.refused := by
  split_ifs with h
  · rw [perform_fits cipher c call h]
  · rw [perform_exhausted cipher c call (not_le.mp h)]

/-- A buffer moves the cipher as the same data does. -/
theorem perform_processInPlace (c : StreamCipher) (data : Bytes) :
    (c.perform cipher (.processInPlace data)).1 = (c.perform cipher (.process data)).1 := by
  rcases Nat.lt_or_ge maxBlocks (c.counter + CounterMode.blocksFor data.length) with h | h
  · rw [perform_exhausted cipher c (.processInPlace data) h,
      perform_exhausted cipher c (.process data) h]
  · rw [perform_fits cipher c (.processInPlace data) h, perform_fits cipher c (.process data) h]
    rfl

/-- A call keeps key and nonce, and moves the counter by the blocks of what it accepts. -/
theorem perform_moves (c : StreamCipher) (call : Call) :
    (c.perform cipher call).1.key = c.key ∧ (c.perform cipher call).1.nonce = c.nonce ∧
      (c.perform cipher call).1.counter =
        c.counter + blocksOf (acceptedData [⟨call, (c.perform cipher call).2⟩]) := by
  rcases Nat.lt_or_ge maxBlocks (c.counter + CounterMode.blocksFor call.data.length) with h | h
  · rw [perform_exhausted cipher c call h]
    cases call <;> exact ⟨rfl, rfl, rfl⟩
  · rw [perform_fits cipher c call h]
    cases call <;> exact ⟨rfl, rfl, rfl⟩

/-- What a sequence of calls leaves the same, and how far it moves the counter. -/
theorem after_moves (c : StreamCipher) (calls : List Call) :
    (c.after cipher calls).key = c.key ∧ (c.after cipher calls).nonce = c.nonce ∧
      (c.after cipher calls).counter =
        c.counter + blocksOf (acceptedData (c.uses cipher calls)) := by
  induction calls generalizing c with
  | nil => exact ⟨rfl, rfl, rfl⟩
  | cons call calls ih =>
      obtain ⟨hKey, hNonce, hCounter⟩ := perform_moves cipher c call
      obtain ⟨hKey', hNonce', hCounter'⟩ := ih (c.perform cipher call).1
      have hSplit : acceptedData (c.uses cipher (call :: calls)) =
          acceptedData [⟨call, (c.perform cipher call).2⟩] ++
            acceptedData ((c.perform cipher call).1.uses cipher calls) :=
        acceptedData_append [⟨call, (c.perform cipher call).2⟩] _
      refine ⟨hKey'.trans hKey, hNonce'.trans hNonce, ?_⟩
      calc (c.after cipher (call :: calls)).counter
          = (c.perform cipher call).1.counter +
              blocksOf (acceptedData ((c.perform cipher call).1.uses cipher calls)) := hCounter'
        _ = c.counter + blocksOf (acceptedData (c.uses cipher (call :: calls))) := by
            rw [hCounter, hSplit, blocksOf, blocksOf, blocksOf, List.map_append, List.sum_append,
              Nat.add_assoc]

/-- Every use of a sequence is the reply that the cipher gives after the calls before it. -/
theorem reply_of_uses {c : StreamCipher} {calls : List Call} {before later : List Use} {use : Use}
    (h : c.uses cipher calls = before ++ use :: later) :
    c.uses cipher (before.map (·.call)) = before ∧
      use.reply = ((c.after cipher (before.map (·.call))).perform cipher use.call).2 := by
  induction before generalizing c calls with
  | nil =>
      cases calls with
      | nil => cases h
      | cons call calls =>
          obtain ⟨rfl, -⟩ := List.cons.inj h
          exact ⟨rfl, rfl⟩
  | cons first before ih =>
      cases calls with
      | nil => cases h
      | cons call calls =>
          obtain ⟨rfl, hLater⟩ := List.cons.inj h
          obtain ⟨hUses, hReply⟩ := ih hLater
          exact ⟨congrArg (List.cons _) hUses, hReply⟩

theorem map_call_uses (c : StreamCipher) (calls : List Call) :
    (c.uses cipher calls).map (·.call) = calls := by
  induction calls generalizing c with
  | nil => rfl
  | cons call calls ih => exact congrArg (List.cons call) (ih _)

theorem resume_toList (key : Key) (nonce : Nonce) {start : Nat} (h : start ≤ maxBlocks) :
    resume key.toList nonce.toList start = .ok ⟨key, nonce, start, h⟩ := by
  simp [resume, sized_toList, h]

/-- A cipher that starts at any block of a nonce computes the mask stream of the nonce, however its
calls come. A call is accepted if its blocks still fit, up to the very last one. Its output is then
its data under the stream from the block on whose number is the first one and all blocks of the
calls accepted before; otherwise it changes nothing. Masking a buffer gives the same bytes and the
same cipher as masking data. -/
theorem replies_follow_stream (cipher : BlockCipher) (key : Key) (nonce : Nonce) {start : Nat}
    (h : start ≤ maxBlocks) :
    ∃ c, resume key.toList nonce.toList start = .ok c ∧ ∀ calls : List Call,
      (c.uses cipher calls).map (·.call) = calls ∧
      (c.after cipher calls).counter =
        start + blocksOf (acceptedData (c.uses cipher calls)) ∧
      (∀ before use later, c.uses cipher calls = before ++ use :: later →
        use.reply =
          if start + blocksOf (acceptedData before) +
              CounterMode.blocksFor use.call.data.length ≤ maxBlocks then
            use.call.accepted (CounterMode.masked (cipher key) nonce
              (start + blocksOf (acceptedData before)) use.call.data)
          else use.call.refused) ∧
      ∀ data, ((c.after cipher calls).perform cipher (.processInPlace data)).1 =
        ((c.after cipher calls).perform cipher (.process data)).1 := by
  refine ⟨_, resume_toList key nonce h, fun calls => ?_⟩
  obtain ⟨-, -, hCounter⟩ := after_moves cipher ⟨key, nonce, start, h⟩ calls
  refine ⟨map_call_uses cipher _ calls, hCounter, fun before use later hUses => ?_, fun data => ?_⟩
  · obtain ⟨hBefore, hReply⟩ := reply_of_uses cipher hUses
    obtain ⟨hKey, hNonce, hNumber⟩ :=
      after_moves cipher ⟨key, nonce, start, h⟩ (before.map (·.call))
    rw [hBefore] at hNumber
    rw [hReply, reply_perform, hKey, hNonce, hNumber]
  · exact perform_processInPlace cipher _ data

/-- Two blocks are left. A buffer of seventeen bytes takes them both, and nothing fits after it. -/
theorem replies_follow_stream_to_last_block :
    maxBlocks - 2 ≤ maxBlocks ∧
      ∃ c, resume (List.replicate 16 7) (List.replicate 13 9) (maxBlocks - 2) = .ok c ∧
        c.uses Aes.encrypt [.processInPlace (List.replicate 17 0), .process [1]] =
          [⟨.processInPlace (List.replicate 17 0),
            .left (CounterMode.masked (Aes.encrypt (Vector.replicate 16 7)) (Vector.replicate 13 9)
              (maxBlocks - 2) (List.replicate 17 0)) (.ok ())⟩,
            ⟨.process [1], .returned (.error .counterExhausted)⟩] := by
  have hStart : maxBlocks - 2 ≤ maxBlocks := Nat.sub_le _ _
  obtain ⟨c, hResume, hCalls⟩ := replies_follow_stream Aes.encrypt (Vector.replicate 16 7)
    (Vector.replicate 13 9) hStart
  refine ⟨hStart, c, hResume, ?_⟩
  obtain ⟨-, -, hReplies, -⟩ := hCalls [.processInPlace (List.replicate 17 0), .process [1]]
  have hFirst := hReplies [] _ _ rfl
  have hSecond := hReplies [_] _ _ rfl
  simp only at hFirst hSecond
  rw [uses, uses, uses, hFirst, hSecond, hFirst]
  rfl

end StreamCipher

end LockRelay
