import Mathlib
import LockRelay.Cipher.Stream

/-! The input blocks of counter mode. A call counts in the last eight bytes of its first block.
Below the 2^24 blocks of a nonce only three of them change, so a nonce and a counter determine the
block and are determined by it. -/
namespace LockRelay

/-- A piece of data of at most one block, with the input block whose encipherment masks it. -/
structure Masking where
  input : Block
  data : Bytes

/-- The masked bytes. -/
def Masking.output (m : Masking) (encipher : Block → Block) : Bytes :=
  List.zipWith (· ^^^ ·) m.data (encipher m.input).toList

namespace CounterMode

theorem getElem_inputBlock (nonce : Nonce) (counter j : Nat) (hj : j < 16) :
    (inputBlock nonce counter)[j] =
      if h : j < 13 then nonce[j] else UInt8.ofNat (counter / Nat.pow 256 (15 - j)) := by
  simp [inputBlock]

theorem getElem_counterBlock (first : Block) (i j : Nat) (hj : j < 16) :
    (counterBlock first i)[j] =
      if j < 8 then first[j]
      else UInt8.ofNat ((window first + i) / Nat.pow 256 (15 - j)) := by
  simp [counterBlock]

/-- The window holds the last five bytes of the nonce above the three bytes of the counter. -/
theorem window_inputBlock (nonce : Nonce) (counter : Nat) :
    window (inputBlock nonce counter) =
      Bytes.toNatLE [nonce[12], nonce[11], nonce[10], nonce[9], nonce[8]] *
        StreamCipher.maxBlocks + counter % StreamCipher.maxBlocks := by
  have hBytes : window (inputBlock nonce counter) = Bytes.toNatLE
      [UInt8.ofNat counter, UInt8.ofNat (counter / 256), UInt8.ofNat (counter / 65536),
        nonce[12], nonce[11], nonce[10], nonce[9], nonce[8]] := by
    simp [window, inputBlock, Vector.toList_ofFn, List.ofFn_succ]
  have hMax : StreamCipher.maxBlocks = 16777216 := rfl
  rw [hBytes, hMax]
  simp only [Bytes.toNatLE, UInt8.toNat_ofNat']
  omega

private theorem ofNat_eq_iff (b : UInt8) (n : Nat) : UInt8.ofNat n = b ↔ n % 256 = b.toNat := by
  rw [← UInt8.toNat_inj, UInt8.toNat_ofNat']

/-- Counting inside a call does not carry into the nonce as long as it stays below the capacity
of the three counter bytes. -/
theorem counterBlock_inputBlock (nonce : Nonce) {counter i : Nat}
    (h : counter + i < StreamCipher.maxBlocks) :
    counterBlock (inputBlock nonce counter) i = inputBlock nonce (counter + i) := by
  have hMax : StreamCipher.maxBlocks = 16777216 := rfl
  have hWindow := window_inputBlock nonce counter
  rw [hMax] at h hWindow
  rw [Nat.mod_eq_of_lt (by omega)] at hWindow
  apply Vector.ext
  intro j hj
  rw [getElem_counterBlock, hWindow]
  by_cases hPrefix : j < 8
  · simp [getElem_inputBlock, hPrefix, show j < 13 by omega]
  rw [if_neg hPrefix, getElem_inputBlock]
  simp only [Bytes.toNatLE, Nat.mul_zero, Nat.add_zero]
  have h8 := nonce[8].toNat_lt
  have h9 := nonce[9].toNat_lt
  have h10 := nonce[10].toNat_lt
  have h11 := nonce[11].toNat_lt
  have h12 := nonce[12].toNat_lt
  by_cases hNonce : j < 13
  · rw [dif_pos hNonce, ofNat_eq_iff]
    interval_cases j <;> simp only [Nat.reduceSub, Nat.pow_eq, Nat.reducePow] <;> omega
  · rw [dif_neg hNonce, ofNat_eq_iff, UInt8.toNat_ofNat']
    interval_cases j <;> simp only [Nat.reduceSub, Nat.pow_eq, Nat.reducePow] <;> omega

/-- Blocks under different nonces differ, and so do blocks of one nonce at different counters. -/
theorem inputBlock_injective {a b : Nonce} {m n : Nat} (hm : m < StreamCipher.maxBlocks)
    (hn : n < StreamCipher.maxBlocks) (h : inputBlock a m = inputBlock b n) : a = b ∧ m = n := by
  have hByte (j : Nat) (hj : j < 16) : (inputBlock a m)[j] = (inputBlock b n)[j] := by rw [h]
  simp only [getElem_inputBlock] at hByte
  constructor
  · apply Vector.ext
    intro j hj
    have hAt := hByte j (by omega)
    rwa [dif_pos hj, dif_pos hj] at hAt
  · have hMax : StreamCipher.maxBlocks = 16777216 := rfl
    have h13 := hByte 13 (by omega)
    have h14 := hByte 14 (by omega)
    have h15 := hByte 15 (by omega)
    simp only [Nat.reduceLT, reduceDIte, ofNat_eq_iff, UInt8.toNat_ofNat', Nat.reduceSub,
      Nat.pow_eq, Nat.reducePow] at h13 h14 h15
    omega

/-- The blocks of data of one call, each with the input block that the call enciphers for it. -/
def maskings (first : Block) (data : Bytes) : List Masking :=
  (List.range (blocksFor data.length)).map fun i =>
    ⟨counterBlock first i, (data.drop (16 * i)).take 16⟩

private theorem zipWith_append_right (data left right : Bytes) :
    List.zipWith (· ^^^ ·) data (left ++ right) =
      List.zipWith (· ^^^ ·) (data.take left.length) left ++
        List.zipWith (· ^^^ ·) (data.drop left.length) right := by
  induction left generalizing data with
  | nil => simp
  | cons b left ih =>
      cases data with
      | nil => simp
      | cons d data => simp [ih]

private theorem zipWith_flatMap_range (encipher : Block → Block) (inputs : Nat → Block)
    (count : Nat) (data : Bytes) :
    List.zipWith (· ^^^ ·) data
        ((List.range count).flatMap fun i => (encipher (inputs i)).toList) =
      (List.range count).flatMap fun i =>
        Masking.output ⟨inputs i, (data.drop (16 * i)).take 16⟩ encipher := by
  induction count generalizing data inputs with
  | zero => simp
  | succ count ih =>
      have hRest := ih (fun i => inputs (i + 1)) (data.drop 16)
      rw [List.range_succ_eq_map, List.flatMap_cons, List.flatMap_cons, List.flatMap_map,
        List.flatMap_map, zipWith_append_right, Vector.length_toList, hRest]
      simp [Masking.output, Nat.mul_add, Nat.add_comm]

/-- The maskings of a call are all that it does to the data. -/
theorem mask_eq_flatMap_maskings (encipher : Block → Block) (first : Block) (data : Bytes) :
    mask encipher first data = (maskings first data).flatMap (·.output encipher) := by
  rw [mask, keystream, zipWith_flatMap_range encipher (counterBlock first), maskings,
    List.flatMap_map]

/-- Masking under the same first block twice gives the data back. -/
theorem mask_mask (encipher : Block → Block) (first : Block) (data : Bytes) :
    mask encipher first (mask encipher first data) = data := by
  rw [mask, length_mask, mask]
  apply List.ext_getElem
  · simp [blocksFor]
    omega
  · intro i h₁ h₂
    simp

end CounterMode

end LockRelay
