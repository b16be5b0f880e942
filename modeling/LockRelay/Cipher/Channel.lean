import LockRelay.Cipher.Stream

/-! The two ciphers of a channel. They share a key and must not share a nonce. -/
namespace LockRelay

structure ChannelCipher where
  outbound : StreamCipher
  inbound : StreamCipher

namespace ChannelCipher

/-- A channel that writes under `outboundNonce` and reads under `inboundNonce`. -/
def new (key outboundNonce inboundNonce : Bytes) : Except CipherError ChannelCipher :=
  match StreamCipher.new key outboundNonce with
  | .error e => .error e
  | .ok outbound =>
      match StreamCipher.new key inboundNonce with
      | .error e => .error e
      | .ok inbound =>
          if outbound.nonce = inbound.nonce then .error .nonceReuse else .ok ⟨outbound, inbound⟩

/-- Masks a frame for the lock. -/
def sealFrame (cipher : BlockCipher) (c : ChannelCipher) (plain : Bytes) :
    ChannelCipher × Except CipherError Bytes :=
  match c.outbound.process cipher plain with
  | (outbound, result) => ({ c with outbound }, result)

/-- Unmasks a frame from the lock. -/
def openFrame (cipher : BlockCipher) (c : ChannelCipher) (sealed : Bytes) :
    ChannelCipher × Except CipherError Bytes :=
  match c.inbound.process cipher sealed with
  | (inbound, result) => ({ c with inbound }, result)

/-- What a log may show of a channel. -/
def summary (c : ChannelCipher) : String :=
  s!"ChannelCipher \x7b outbound: {c.outbound.summary}, inbound: {c.inbound.summary} \x7d"

end ChannelCipher

end LockRelay
