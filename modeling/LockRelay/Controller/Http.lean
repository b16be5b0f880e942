import LockRelay.Controller.Network
import LockRelay.Log
import LockRelay.Wire.Reader

/-! A controller that is asked over HTTP. A frame or the endpoint of an activation is posted as
JSON, and an answer with status 200 is read as a command. -/
namespace LockRelay

structure HttpController where
  baseUrl : String
  timeout : Duration
  deriving DecidableEq, Repr

namespace HttpController

def messageReceivedPath : String := "/_r/homekey_ble_message_received"

def authenticatedPath : String := "/_r/homekey_authenticated"

/-- Slashes at the end of the address do not matter, since every path starts with one. -/
def new (baseUrl : String) (timeout : Duration) : HttpController :=
  ⟨String.ofList (baseUrl.toList.reverse.dropWhile (· = '/')).reverse, timeout⟩

/-- The request that posts a body to a path. -/
def request (c : HttpController) (path : String) (body : Bytes) : Except RelayError Request :=
  let url := c.baseUrl ++ path
  match Uri.parse? url with
  | none => .error (.invalidUrl url)
  | some uri =>
      match Request.make body uri with
      | .ok request => .ok request
      | .error fault => .error (.http fault)

/-- The command that an answer is. The body of an answer has to be complete even where only its
status matters. -/
def interpret (c : HttpController) : Answer → Except RelayError Command
  | .unconnected cause => .error (.http (.connect cause))
  | .closed => .error (.http .noAnswer)
  | .truncated => .error .brokenBody
  | .silent => .error (.timeout c.timeout)
  | .complete status body =>
      if status = 200 then
        match Command.read body with
        | .ok command => .ok command
        | .error fault => .error (.decode fault)
      else .error (.status status (String.ofList (Utf8.decodeLossy body)))

/-- What was sent to a controller, if a connection was made, and what it led to. -/
structure Exchange where
  sent : Option Request
  result : Except RelayError Command

/-- Posts a body. -/
def post (c : HttpController) (network : Network) (path : String) (body : Bytes) : Exchange :=
  match c.request path body with
  | .error error => ⟨none, .error error⟩
  | .ok request =>
      match network request with
      | .unconnected cause => ⟨none, c.interpret (.unconnected cause)⟩
      | answer => ⟨some request, c.interpret answer⟩

/-- Puts a frame of a lock to the controller. -/
def relay (c : HttpController) (network : Network) (serial : UInt32) (payload : Bytes) :
    Exchange :=
  c.post network messageReceivedPath (RelayRequest.print ⟨serial, payload⟩)

/-- An activation has to be answered by opening a channel. -/
def requireOpen : Except RelayError Command → Except RelayError Command
  | .ok (.openChannel serial message) => .ok (.openChannel serial message)
  | .ok _ => .error .unexpectedCommand
  | .error error => .error error

/-- Asks which lock to open for an endpoint. -/
def activate (c : HttpController) (network : Network) (endpointId : String) : Exchange :=
  let exchange := c.post network authenticatedPath (ActivationRequest.print ⟨endpointId⟩)
  { exchange with result := requireOpen exchange.result }

/-- The line that an activation leaves in the log when it succeeded. -/
def activationLine? (endpointId : String) : Except RelayError Command → Option LogLine
  | .ok _ => some ⟨.info, "controller returned activation data", [("endpoint_id", endpointId)]⟩
  | .error _ => none

end HttpController

end LockRelay
