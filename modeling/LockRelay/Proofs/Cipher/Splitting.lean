import LockRelay.Proofs.Cipher.Accounting

/-! Data that is cut into pieces at the ends of blocks. The next call begins where a piece of whole
blocks ends, so the pieces one after another give what one call gives for all of the data, with the
same cipher afterwards; and they are all accepted if that call is. A piece that ends inside a block
would use up the rest of it, so only the last piece may. -/
namespace LockRelay

/-- Every piece but the last one is made of whole blocks. -/
def Aligned (pieces : List Bytes) : Prop :=
  ∀ piece ∈ pieces.dropLast, CounterMode.blockLength ∣ piece.length

/-- Nothing is wasted between a piece and what follows it. -/
def Joins (piece rest : Bytes) : Prop := rest = [] ∨ CounterMode.blockLength ∣ piece.length

theorem Aligned.joins {piece : Bytes} {pieces : List Bytes} (h : Aligned (piece :: pieces)) :
    Joins piece pieces.flatten := by
  cases pieces with
  | nil => exact Or.inl rfl
  | cons next pieces => exact Or.inr (h piece List.mem_cons_self)

theorem Aligned.tail {piece : Bytes} {pieces : List Bytes} (h : Aligned (piece :: pieces)) :
    Aligned pieces := by
  cases pieces with
  | nil => exact nofun
  | cons next pieces => exact fun other hOther => h other (List.mem_cons_of_mem _ hOther)

namespace CounterMode

theorem blocksFor_append {piece rest : Bytes} (h : Joins piece rest) :
    blocksFor (piece ++ rest).length = blocksFor piece.length + blocksFor rest.length := by
  rw [List.length_append]
  unfold blocksFor
  rcases h with rfl | ⟨whole, hWhole⟩
  · rfl
  · have hLength : piece.length = 16 * whole := hWhole
    omega

/-- The byte after so many whole blocks is the first one of the stream that begins after them. -/
theorem streamByte_add (encipher : Block → Block) (nonce : Nonce) (number whole j : Nat) :
    streamByte encipher nonce number (j + 16 * whole) =
      streamByte encipher nonce (number + whole) j := by
  have hBlock : number + (j + 16 * whole) / 16 = number + whole + j / 16 := by omega
  have hPlace : (j + 16 * whole) % 16 = j % 16 := by omega
  simp only [streamByte, hBlock, hPlace]

theorem masked_append (encipher : Block → Block) (nonce : Nonce) (number : Nat)
    {piece rest : Bytes} (h : Joins piece rest) :
    masked encipher nonce number (piece ++ rest) =
      masked encipher nonce number piece ++
        masked encipher nonce (number + blocksFor piece.length) rest := by
  unfold masked
  rw [List.mapIdx_append]
  congr 1
  rcases h with rfl | ⟨whole, hWhole⟩
  · rw [List.mapIdx_nil, List.mapIdx_nil]
  · have hLength : piece.length = 16 * whole := hWhole
    have hBlocks : blocksFor piece.length = whole := by
      unfold blocksFor
      omega
    rw [hBlocks, hLength]
    simp only [streamByte_add]

/-- Aligned pieces take up as many blocks as they do in one. -/
theorem blocksOf_aligned {pieces : List Bytes} (h : Aligned pieces) :
    blocksOf pieces = blocksFor pieces.flatten.length := by
  induction pieces with
  | nil => rfl
  | cons piece pieces ih =>
      rw [blocksOf_cons, ih h.tail, List.flatten_cons, blocksFor_append h.joins]

end CounterMode

namespace StreamCipher

/-- The bytes that a caller has after a call. -/
def Reply.output : Reply → Bytes
  | .returned (.ok output) => output
  | .returned (.error _) => []
  | .left buffer _ => buffer

@[simp] theorem output_accepted (call : Call) (output : Bytes) :
    (call.accepted output).output = output := by
  cases call <;> rfl

theorem eq_of_parts {c d : StreamCipher} (hKey : c.key = d.key) (hNonce : c.nonce = d.nonce)
    (hCounter : c.counter = d.counter) : c = d := by
  cases c
  cases d
  cases hKey
  cases hNonce
  cases hCounter
  rfl

variable (cipher : BlockCipher)

/-- All calls of a sequence are accepted exactly if their blocks fit together. -/
theorem all_accepted_iff (c : StreamCipher) (calls : List Call) :
    (∀ use ∈ c.uses cipher calls, use.reply.isAccepted = true) ↔
      c.counter + blocksOf (calls.map Call.data) ≤ maxBlocks := by
  induction calls generalizing c with
  | nil => exact iff_of_true nofun c.counter_le
  | cons call calls ih =>
      rw [uses, List.forall_mem_cons, ih, isAccepted_perform, List.map_cons, blocksOf_cons]
      by_cases hFits : c.counter + CounterMode.blocksFor call.data.length ≤ maxBlocks
      · rw [perform_fits cipher c call hFits, counter_advance, Nat.add_assoc]
        exact and_iff_right hFits
      · exact ⟨fun h => absurd h.1 hFits, fun h => absurd h (by omega)⟩

/-- Aligned calls that fit give the whole of their data under one stretch of the stream. -/
theorem outputs_aligned (c : StreamCipher) {calls : List Call}
    (hAligned : Aligned (calls.map Call.data))
    (hFits : c.counter + blocksOf (calls.map Call.data) ≤ maxBlocks) :
    ((c.uses cipher calls).map (·.reply.output)).flatten =
      CounterMode.masked (cipher c.key) c.nonce c.counter (calls.map Call.data).flatten := by
  induction calls generalizing c with
  | nil => rfl
  | cons call calls ih =>
      rw [List.map_cons, blocksOf_cons] at hFits
      have hCall : c.counter + CounterMode.blocksFor call.data.length ≤ maxBlocks := by omega
      have hRest := ih (c.advance _ hCall) hAligned.tail (by rw [counter_advance]; omega)
      rw [uses, perform_fits cipher c call hCall, List.map_cons, List.flatten_cons, hRest,
        output_accepted, List.map_cons, List.flatten_cons,
        CounterMode.masked_append _ _ _ hAligned.joins]
      rfl

/-- Where every call is accepted, the counter has moved by the blocks of all of them. -/
theorem counter_after_fits (c : StreamCipher) {calls : List Call}
    (hFits : c.counter + blocksOf (calls.map Call.data) ≤ maxBlocks) :
    (c.after cipher calls).counter = c.counter + blocksOf (calls.map Call.data) := by
  have hAll : (c.uses cipher calls).filter (·.reply.isAccepted) = c.uses cipher calls :=
    List.filter_eq_self.mpr ((all_accepted_iff cipher c calls).mpr hFits)
  have hData : acceptedData (c.uses cipher calls) = calls.map Call.data := by
    calc acceptedData (c.uses cipher calls)
        = (c.uses cipher calls).map (·.call.data) := congrArg (List.map _) hAll
      _ = ((c.uses cipher calls).map (·.call)).map Call.data := by rw [List.map_map]; rfl
      _ = calls.map Call.data := by rw [map_call_uses]
  obtain ⟨-, -, hCounter⟩ := after_moves cipher c calls
  rw [hCounter, hData]

/-- Data may be cut at the ends of blocks into any number of pieces, of whatever lengths and empty
ones too, and each piece be masked by a call of either kind. All of these calls are accepted if and
only if one call with all of the data is. Then they give the same bytes together and leave the same
cipher. -/
theorem split_aligned (c : StreamCipher) {calls : List Call}
    (hAligned : Aligned (calls.map Call.data)) {whole : Call}
    (hWhole : whole.data = (calls.map Call.data).flatten) :
    ((∀ use ∈ c.uses cipher calls, use.reply.isAccepted = true) ↔
        (c.perform cipher whole).2.isAccepted = true) ∧
      ((c.perform cipher whole).2.isAccepted = true →
        ((c.uses cipher calls).map (·.reply.output)).flatten =
            (c.perform cipher whole).2.output ∧
          c.after cipher calls = (c.perform cipher whole).1) := by
  have hBlocks : blocksOf (calls.map Call.data) = CounterMode.blocksFor whole.data.length := by
    rw [hWhole, CounterMode.blocksOf_aligned hAligned]
  rw [all_accepted_iff, isAccepted_perform, hBlocks]
  refine ⟨Iff.rfl, fun hFits => ?_⟩
  have hTogether : c.counter + blocksOf (calls.map Call.data) ≤ maxBlocks := hBlocks ▸ hFits
  rw [perform_fits cipher c whole hFits]
  constructor
  · rw [outputs_aligned cipher c hAligned hTogether, output_accepted, hWhole]
  · obtain ⟨hKey, hNonce, -⟩ := after_moves cipher c calls
    refine eq_of_parts hKey hNonce ?_
    rw [counter_after_fits cipher c hTogether, hBlocks, counter_advance]

/-- Two blocks, nothing, and one byte in a buffer, under a nonce with three blocks left. -/
theorem split_aligned_in_three :
    Aligned [List.replicate 32 1, [], [2]] ∧ ∃ c : StreamCipher, c.counter = 0xFFFFFD ∧
      ((c.uses Aes.encrypt [.process (List.replicate 32 1), .process [], .processInPlace [2]]).map
          (·.reply.output)).flatten =
        (c.perform Aes.encrypt (.process (List.replicate 32 1 ++ [2]))).2.output ∧
      c.after Aes.encrypt [.process (List.replicate 32 1), .process [], .processInPlace [2]] =
        (c.perform Aes.encrypt (.process (List.replicate 32 1 ++ [2]))).1 := by
  have hAligned : Aligned [List.replicate 32 1, [], [2]] := by
    intro piece hPiece
    obtain rfl | rfl : piece = List.replicate 32 1 ∨ piece = [] := by simpa using hPiece
    · exact ⟨2, rfl⟩
    · exact ⟨0, rfl⟩
  obtain ⟨-, hSame⟩ := @split_aligned Aes.encrypt
    ⟨Vector.replicate 16 7, Vector.replicate 13 9, 0xFFFFFD, by decide⟩
    [.process (List.replicate 32 1), .process [], .processInPlace [2]] hAligned
    (.process (List.replicate 32 1 ++ [2])) rfl
  exact ⟨hAligned, _, rfl, hSame ((isAccepted_perform Aes.encrypt _ _).mpr (by decide))⟩

end StreamCipher

end LockRelay
