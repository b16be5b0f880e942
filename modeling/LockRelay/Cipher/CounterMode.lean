import LockRelay.Cipher.Aes

/-! Counter mode. Data is masked with the enciphered values of a counter block. Within one call
the last eight bytes of the first block count up and wrap around in their 64 bits; what a caller
wants to count is only the last three of them. -/
namespace LockRelay

abbrev Nonce := Vector UInt8 13

namespace CounterMode

/-- Length of a block in bytes. -/
def blockLength : Nat := 16

/-- Blocks that `length` bytes take up; a block that is begun counts. -/
def blocksFor (length : Nat) : Nat := (length + 15) / 16

/-- A nonce followed by the lowest three bytes of a counter, most significant first. -/
def inputBlock (nonce : Nonce) (counter : Nat) : Block :=
  Vector.ofFn fun j =>
    if h : j.val < 13 then nonce[j.val] else UInt8.ofNat (counter / Nat.pow 256 (15 - j.val))

/-- The number in the last eight bytes of a block. -/
def window (first : Block) : Nat := Bytes.toNatLE (first.toList.drop 8).reverse

/-- The block enciphered for data block `i` of a call that starts at `first`. -/
def counterBlock (first : Block) (i : Nat) : Block :=
  Vector.ofFn fun j =>
    if j.val < 8 then first[j.val] else UInt8.ofNat ((window first + i) / Nat.pow 256 (15 - j.val))

/-- The mask for `count` blocks of a call. -/
def keystream (encipher : Block → Block) (first : Block) (count : Nat) : Bytes :=
  (List.range count).flatMap fun i => (encipher (counterBlock first i)).toList

/-- Masks `data`; masking twice gives the data back. -/
def mask (encipher : Block → Block) (first : Block) (data : Bytes) : Bytes :=
  List.zipWith (· ^^^ ·) data (keystream encipher first (blocksFor data.length))

@[simp] theorem length_keystream (encipher : Block → Block) (first : Block) (count : Nat) :
    (keystream encipher first count).length = 16 * count := by
  induction count with
  | zero => rfl
  | succ count ih =>
      unfold keystream at ih ⊢
      rw [List.range_succ, List.flatMap_append, List.length_append, ih]
      simp
      omega

@[simp] theorem length_mask (encipher : Block → Block) (first : Block) (data : Bytes) :
    (mask encipher first data).length = data.length := by
  simp [mask, blocksFor]
  omega

end CounterMode

end LockRelay
