import LockRelay.Cipher.CounterMode

/-! The cipher of one direction of a channel: a key, a nonce, and the number of the next block.
A nonce covers 2^24 blocks. A call that would go past them fails and changes nothing, so no block
number is used twice. -/
namespace LockRelay

inductive CipherError where
  | invalidKeyLength (length : Nat)
  | invalidNonceLength (length : Nat)
  /-- The blocks of the nonce are used up. -/
  | counterExhausted
  /-- Both directions of a channel would share a nonce. -/
  | nonceReuse
  deriving DecidableEq, Repr

def CipherError.message : CipherError → String
  | .invalidKeyLength length => s!"invalid key length {length} (expected 16 bytes)"
  | .invalidNonceLength length => s!"invalid nonce length {length} (expected 13 bytes)"
  | .counterExhausted => "block counter exhausted for this nonce"
  | .nonceReuse => "outbound and inbound nonces are identical"

/-- Blocks that one nonce covers: as many as its three-byte counter tells apart. -/
def StreamCipher.maxBlocks : Nat := Nat.pow 256 3

structure StreamCipher where
  key : Key
  nonce : Nonce
  /-- Number of the next block. -/
  counter : Nat
  counter_le : counter ≤ StreamCipher.maxBlocks

namespace StreamCipher

def keyLength : Nat := 16

def nonceLength : Nat := 13

/-- Exactly `n` bytes, or nothing. -/
def sized (n : Nat) (data : Bytes) : Option (Vector UInt8 n) :=
  if h : data.toArray.size = n then some ⟨data.toArray, h⟩ else none

/-- A cipher whose next block is `counter`. -/
def resume (key nonce : Bytes) (counter : Nat) : Except CipherError StreamCipher :=
  match sized 16 key with
  | none => .error (.invalidKeyLength key.length)
  | some key =>
      match sized 13 nonce with
      | none => .error (.invalidNonceLength nonce.length)
      | some nonce =>
          if h : counter ≤ maxBlocks then .ok ⟨key, nonce, counter, h⟩ else .error .counterExhausted

/-- A cipher that has not been used. -/
def new (key nonce : Bytes) : Except CipherError StreamCipher := resume key nonce 0

/-- Blocks left under the nonce. -/
def remaining (c : StreamCipher) : Nat := maxBlocks - c.counter

/-- The first input block of the next call. -/
def inputBlock (c : StreamCipher) : Block := CounterMode.inputBlock c.nonce c.counter

/-- Masks or unmasks a buffer: the cipher, the buffer and the outcome afterwards. An empty buffer
always succeeds. -/
def processInPlace (cipher : BlockCipher) (c : StreamCipher) (buffer : Bytes) :
    StreamCipher × Bytes × Except CipherError Unit :=
  let blocks := CounterMode.blocksFor buffer.length
  if blocks = 0 then (c, buffer, .ok ())
  else if h : c.counter + blocks ≤ maxBlocks then
    ({ c with counter := c.counter + blocks, counter_le := h },
      CounterMode.mask (cipher c.key) c.inputBlock buffer, .ok ())
  else (c, buffer, .error .counterExhausted)

/-- Masks or unmasks data into a new byte string. -/
def process (cipher : BlockCipher) (c : StreamCipher) (data : Bytes) :
    StreamCipher × Except CipherError Bytes :=
  match c.processInPlace cipher data with
  | (c, buffer, .ok ()) => (c, .ok buffer)
  | (c, _, .error e) => (c, .error e)

/-- What a log may show of a cipher: only the counter. -/
def summary (c : StreamCipher) : String := s!"StreamCipher \x7b block_counter: {c.counter}, .. \x7d"

end StreamCipher

end LockRelay
