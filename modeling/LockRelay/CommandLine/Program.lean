import LockRelay.Advert
import LockRelay.CommandLine.Reader
import LockRelay.Controller.Http

/-! What the program does with its arguments: it completes its settings, carries out the order as
far as that goes without an adapter, and reports how it ended. -/
namespace LockRelay.CommandLine

/-- Why an order was not carried out. -/
inductive Failure where
  | credentials (error : CredentialError)
  | serial (error : SerialOutOfRange)
  | relay (error : RelayError)
  /-- There is no Bluetooth adapter. -/
  | noAdapter
  deriving DecidableEq, Repr

/-! The detailed form of a failure -/

open Text (tuple record quote)

def hexDetail : Hex.Fault → String
  | .length position =>
      record "DecodeError" [("position", toString position), ("kind", "Length")]
  | .symbol position =>
      record "DecodeError" [("position", toString position), ("kind", "Symbol")]

def cipherDetail : CipherError → String
  | .invalidKeyLength length => tuple "InvalidKeyLength" [toString length]
  | .invalidNonceLength length => tuple "InvalidNonceLength" [toString length]
  | .counterExhausted => "CounterExhausted"
  | .nonceReuse => "NonceReuse"

def credentialDetail : CredentialError → String
  | .hex field fault => record "Hex" [("field", quote field), ("source", hexDetail fault)]
  | .incomplete => "IncompleteCredentials"
  | .cipher error => tuple "Cipher" [cipherDetail error]

def Failure.detail : Failure → String
  | .credentials error => credentialDetail error
  | .serial error => tuple "RangeError" [toString error.serial.toNat]
  | .relay error => error.detail
  | .noAdapter => "Bluetooth"

/-! Reports -/

/-- What the program leaves behind. -/
structure Report where
  exitCode : Nat
  output : List String := []
  errors : List String := []
  /-- What was sent to the controller. -/
  requests : List Request := []

namespace Report

def failed (failure : Failure) : Report :=
  { exitCode := 1, errors := [s!"Error: {failure.detail}"] }

/-- Puts a word before the first of some lines. -/
def labelled (label : String) : List String → List String
  | [] => [label]
  | line :: lines => s!"{label}: {line}" :: lines

/-- Help that was asked for is output; help that was needed, and what is wrong, is an error. -/
def stopped : Stop → Report
  | .help verb => { exitCode := 0, output := verb.helpLines }
  | .nothing => { exitCode := 2, errors := Verb.program.helpLines }
  | .wrong error => { exitCode := 2, errors := labelled "error" error.messageLines }

end Report

/-- The settings of the bridge; what is not set has its default. -/
def Settings.config (s : Settings) : Except CredentialError Config :=
  match Credentials.ofTexts (s.text? .key) (s.text? .outboundNonce) (s.text? .inboundNonce) with
  | .error error => .error error
  | .ok credentials => .ok {
      apiUrl := (s.text? .apiUrl).getD Config.defaultApiUrl
      scanTimeout := .ofSeconds ((s.number? .scanTimeout).getD Config.defaultScanTimeout)
      requestTimeout := .ofSeconds ((s.number? .requestTimeout).getD Config.defaultRequestTimeout)
      credentials }

/-- Carries out an order, up to the point where it asks for an adapter. -/
def Order.carryOut (network : Network) (config : Config) : Order → Report
  | .scan serial seconds =>
      match DiscoveryFilter.forSerial serial with
      | .error error => .failed (.serial error)
      | .ok _ => { Report.failed .noAdapter with
          output := [s!"Scanning for lock {serial.toNat} ({seconds} seconds)..."] }
  | .openChannel _ none => .failed .noAdapter
  | .openChannel _ (some message) =>
      match decodeHex "message" message with
      | .error error => .failed (.credentials error)
      | .ok _ => .failed .noAdapter
  | .activate endpointId =>
      let controller := HttpController.new config.apiUrl config.requestTimeout
      let exchange := controller.activate network endpointId
      let report := match exchange.result with
        | .error error => Report.failed (.relay error)
        | .ok _ => Report.failed .noAdapter
      { report with requests := exchange.sent.toList }

/-- Runs the program. Credentials are judged before anything is done. -/
def run (network : Network) (environment : Environment) (arguments : List String) : Report :=
  match read environment arguments with
  | .error stop => .stopped stop
  | .ok (settings, order) =>
      match settings.config with
      | .error error => .failed (.credentials error)
      | .ok config => order.carryOut network config

end LockRelay.CommandLine
