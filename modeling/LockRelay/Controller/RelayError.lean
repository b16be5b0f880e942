import LockRelay.Duration
import LockRelay.Json.Fault
import LockRelay.Text.Basic

/-! Why a frame did not get a usable answer from the controller. Each cause has a message for logs,
and a detailed form for the report with which the program ends. -/
namespace LockRelay

/-- Why no connection to a controller was made. -/
inductive ConnectFailure where
  | notHttp
  /-- The name of the host has no address. -/
  | unknownHost
  | unreachable (address : String)
  deriving DecidableEq, Repr

/-- Why a request got no answer. -/
inductive HttpFault where
  /-- The address does not say which host to ask. -/
  | hostRequired
  | connect (cause : ConnectFailure)
  /-- The connection ended before an answer was there. -/
  | noAnswer
  deriving DecidableEq, Repr

inductive RelayError where
  | invalidUrl (url : String)
  | http (fault : HttpFault)
  /-- The body of the answer broke off. -/
  | brokenBody
  /-- The controller answered with another status than 200. -/
  | status (code : Nat) (body : String)
  | decode (fault : Json.Fault)
  | timeout (limit : Duration)
  /-- The answer is a command that makes no sense at this place. -/
  | unexpectedCommand
  deriving DecidableEq, Repr

/-- The stage of a request at which it failed. -/
def HttpFault.stage : HttpFault → String
  | .hostRequired => "UserAbsoluteUriRequired"
  | .connect _ => "Connect"
  | .noAnswer => "SendRequest"

def RelayError.message : RelayError → String
  | .invalidUrl url => s!"invalid controller url: {url}"
  | .http fault => s!"http error: client error ({fault.stage})"
  | .brokenBody => "failed to read response body: error reading a body from connection"
  | .status code body => s!"controller returned {code}: {body}"
  | .decode fault => s!"controller reply is not a command: {fault.message}"
  | .timeout limit => s!"controller did not answer within {limit.text}"
  | .unexpectedCommand => "controller replied with a command that is not valid here"

/-! The detailed form -/

open Text

def ConnectFailure.detail : ConnectFailure → String
  | .notHttp => tuple "ConnectError" [quote "invalid URL, scheme is not http"]
  | .unknownHost => tuple "ConnectError" [quote "dns error", record "Custom"
      [("kind", "Uncategorized"), ("error", quote <|
        "failed to lookup address information: Temporary failure in name resolution")]]
  | .unreachable address => tuple "ConnectError" [quote "tcp connect error", address,
      record "Os" [("code", "101"), ("kind", "NetworkUnreachable"),
        ("message", quote "Network is unreachable")]]

def HttpFault.detail (fault : HttpFault) : String :=
  tuple "hyper_util::client::legacy::Error" <| fault.stage ::
    match fault with
    | .hostRequired => []
    | .connect cause => [cause.detail]
    | .noAnswer => [tuple "hyper::Error" ["IncompleteMessage"]]

def RelayError.detail : RelayError → String
  | .invalidUrl url => tuple "InvalidUrl" [quote url]
  | .http fault => tuple "Http" [fault.detail]
  | .brokenBody => tuple "Body" [tuple "hyper::Error"
      ["Body", record "Custom" [("kind", "UnexpectedEof"), ("error", "IncompleteBody")]]]
  | .status code body => record "Status" [("status", toString code), ("body", quote body)]
  | .decode fault => tuple "Decode" [tuple "Error" [quote fault.message]]
  | .timeout limit => tuple "Timeout" [limit.text]
  | .unexpectedCommand => "UnexpectedCommand"

end LockRelay
