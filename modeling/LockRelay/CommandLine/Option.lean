import LockRelay.Config
import LockRelay.Text.Basic

/-! The commands of the program and the options that they take. Every option takes a value. -/
namespace LockRelay.CommandLine

/-- A command: the program itself, or what it is asked to do. -/
inductive Verb where
  | program
  | scan
  | openChannel
  | activate
  /-- Explains another command. -/
  | help
  deriving DecidableEq, Repr

namespace Verb

def name : Verb → String
  | .program => "latch"
  | .scan => "scan"
  | .openChannel => "open"
  | .activate => "activate"
  | .help => "help"

def about : Verb → String
  | .program => "Relay between a Latch lock and its controller"
  | .scan => "Scan for BLE devices and mark the lock with the given serial"
  | .openChannel => "Open a channel to a lock and relay until it closes"
  | .activate => "Ask the controller which lock to open for an endpoint, then relay"
  | .help => "Print this message or the help of the given subcommand(s)"

/-- What can follow a command. -/
def verbs : Verb → List Verb
  | .program => [.scan, .openChannel, .activate, .help]
  | _ => []

/-- The command of this name that can follow. -/
def verb? (v : Verb) (name : String) : Option Verb := v.verbs.find? (·.name == name)

end Verb

inductive Opt where
  | apiUrl
  | scanTimeout
  | requestTimeout
  | key
  | outboundNonce
  | inboundNonce
  | logLevel
  | serial
  | duration
  | message
  | endpointId
  deriving DecidableEq, Repr

namespace Opt

/-- The name after two dashes. -/
def long : Opt → String
  | .apiUrl => "api-url"
  | .scanTimeout => "scan-timeout"
  | .requestTimeout => "request-timeout"
  | .key => "key"
  | .outboundNonce => "tx-nonce"
  | .inboundNonce => "rx-nonce"
  | .logLevel => "log-level"
  | .serial => "serial"
  | .duration => "duration"
  | .message => "message"
  | .endpointId => "endpoint-id"

/-- The letter after one dash. -/
def short? : Opt → Option Char
  | .serial => some 's'
  | .duration => some 'd'
  | .message => some 'm'
  | .endpointId => some 'e'
  | _ => none

/-- The variable of the environment that stands in for an option. -/
def envName? : Opt → Option String
  | .apiUrl => some "LATCH_API_URL"
  | .scanTimeout => some "LATCH_SCAN_TIMEOUT"
  | .requestTimeout => some "LATCH_REQUEST_TIMEOUT"
  | .key => some "LATCH_KEY"
  | .outboundNonce => some "LATCH_TX_NONCE"
  | .inboundNonce => some "LATCH_RX_NONCE"
  | _ => none

/-- Whether the value is a number of 64 bits. -/
def isNumeric : Opt → Bool
  | .scanTimeout | .requestTimeout | .serial | .duration => true
  | _ => false

def about : Opt → String
  | .apiUrl => "Controller base URL"
  | .scanTimeout => "Seconds to wait for a matching lock"
  | .requestTimeout => "Seconds to wait for a controller reply"
  | .key => "AES-128 key as hex, enables payload encryption"
  | .outboundNonce => "13-byte nonce for frames sent to the lock, as hex"
  | .inboundNonce => "13-byte nonce for frames received from the lock, as hex"
  | .logLevel => "Log filter"
  | .serial => "Serial number of the lock"
  | .duration => "Scan duration in seconds"
  | .message => "First frame to send once bound, as hex"
  | .endpointId => "Endpoint identifier as hex"

/-- The name of the value. -/
def valueName (o : Opt) : String :=
  String.ofList (o.long.toList.map fun c => if c = '-' then '_' else c.toUpper)

/-- An option as messages name it. -/
def display (o : Opt) : String := s!"--{o.long} <{o.valueName}>"

end Opt

/-- The options of a command. -/
def Verb.options : Verb → List Opt
  | .program =>
      [.apiUrl, .scanTimeout, .requestTimeout, .key, .outboundNonce, .inboundNonce, .logLevel]
  | .scan => [.serial, .duration]
  | .openChannel => [.serial, .message]
  | .activate => [.endpointId]
  | .help => []

/-- The option without which a command makes no sense. -/
def Verb.required? : Verb → Option Opt
  | .scan | .openChannel => some .serial
  | .activate => some .endpointId
  | .program | .help => none

def Verb.byLong? (v : Verb) (name : String) : Option Opt := v.options.find? (·.long == name)

def Verb.byShort? (v : Verb) (letter : Char) : Option Opt :=
  v.options.find? (·.short? == some letter)

/-- The text that explains a command. -/
def Verb.helpLines (v : Verb) : List String :=
  let verbs := v.verbs.map fun w => s!"  {w.name}: {w.about}"
  let options := v.options.map fun o =>
    let short := match o.short? with
      | some c => s!"-{c}, "
      | none => ""
    s!"  {short}{o.display}: {o.about}"
  let headed (title : String) (lines : List String) : List String :=
    if lines.isEmpty then [] else "" :: title :: lines
  v.about :: headed "Commands:" verbs ++ headed "Options:" (options ++ ["  -h, --help: Print help"])

end LockRelay.CommandLine
