import LockRelay.Cipher.Channel
import LockRelay.Hex
import LockRelay.Text.Basic

/-! Key material as a user supplies it: three texts of hexadecimal digits, all present or none.
What parses is known to make a channel cipher. -/
namespace LockRelay

inductive CredentialError where
  /-- The text of this field is not hexadecimal. -/
  | hex (field : String) (fault : Hex.Fault)
  /-- Some of the three texts are missing. -/
  | incomplete
  | cipher (error : CipherError)
  deriving DecidableEq, Repr

def CredentialError.message : CredentialError → String
  | .hex field fault => s!"{field} is not valid hex: {fault.message}"
  | .incomplete => "a cipher key needs both a tx and an rx nonce"
  | .cipher error => error.message

/-- Reads hexadecimal digits between optional white space. -/
def decodeHex (field : String) (value : String) : Except CredentialError Bytes :=
  match Hex.decode ((Text.trim value.toList).flatMap String.utf8EncodeChar) with
  | .ok data => .ok data
  | .error fault => .error (.hex field fault)

structure Credentials where
  key : Bytes
  outboundNonce : Bytes
  inboundNonce : Bytes
  deriving DecidableEq

namespace Credentials

/-- A channel cipher with both counters at zero. -/
def cipher (c : Credentials) : Except CipherError ChannelCipher :=
  ChannelCipher.new c.key c.outboundNonce c.inboundNonce

/-- Reads the three texts in order, and rejects lengths and nonces that make no cipher. -/
def parse (key outboundNonce inboundNonce : String) : Except CredentialError Credentials :=
  match decodeHex "key" key with
  | .error e => .error e
  | .ok key =>
      match decodeHex "tx nonce" outboundNonce with
      | .error e => .error e
      | .ok outboundNonce =>
          match decodeHex "rx nonce" inboundNonce with
          | .error e => .error e
          | .ok inboundNonce =>
              let credentials : Credentials := ⟨key, outboundNonce, inboundNonce⟩
              match credentials.cipher with
              | .error e => .error (.cipher e)
              | .ok _ => .ok credentials

/-- No credentials when no text is given, and an error when only some are. -/
def ofTexts : (key outboundNonce inboundNonce : Option String) →
    Except CredentialError (Option Credentials)
  | none, none, none => .ok none
  | some key, some outboundNonce, some inboundNonce =>
      match parse key outboundNonce inboundNonce with
      | .error e => .error e
      | .ok credentials => .ok (some credentials)
  | _, _, _ => .error .incomplete

/-- What a log may show of credentials: nothing. -/
def summary (_ : Credentials) : String := "Credentials \x7b .. \x7d"

end Credentials

end LockRelay
