import LockRelay.Bytes
import LockRelay.Controller.RelayError
import LockRelay.Uri

/-! Requests to a controller and what a network makes of them. -/
namespace LockRelay

/-- A request with a JSON body. -/
structure Request where
  host : String
  port : Nat
  /-- Path and query. -/
  target : String
  body : Bytes
  deriving DecidableEq, Repr

namespace Request

/-- The line with which a request starts on the wire. -/
def line (r : Request) : String := s!"POST {r.target} HTTP/1.1"

def contentType : String := "application/json"

/-- The port of addresses that name none. -/
def defaultPort : Nat := 80

/-- A request to an address, which has to be an absolute one under the scheme `http`. -/
def make (body : Bytes) : Uri → Except HttpFault Request
  | .path _ => .error .hostRequired
  | .absolute scheme authority target =>
      if scheme.toLower = "http" then
        .ok ⟨Uri.host authority, (Uri.port? authority).getD defaultPort, target, body⟩
      else .error (.connect .notHttp)

end Request

/-- What comes back for a request. -/
inductive Answer where
  /-- No connection was made, so nothing was sent. -/
  | unconnected (cause : ConnectFailure)
  /-- The connection ended before the head of an answer was complete and well formed. -/
  | closed
  /-- The head of an answer came, and less of a body than it announced. -/
  | truncated
  /-- Nothing came in time. -/
  | silent
  | complete (status : Nat) (body : Bytes)
  deriving DecidableEq, Repr

abbrev Network := Request → Answer

namespace Network

/-- Whether a host is written as four numbers. -/
def isAddress (host : String) : Bool :=
  let parts := host.splitOn "."
  parts.length = 4 && parts.all fun part =>
    part.toList.head?.any Text.isDigit && (part = "0" || part.toList.head? ≠ some '0') &&
      (Text.readNatural 256 part.toList).isOk

/-- A network without a route to anywhere. It knows the address of the host itself only. -/
def offline : Network := fun request =>
  let unreachable (host : String) : Answer :=
    .unconnected (.unreachable s!"{host}:{request.port}")
  if isAddress request.host || request.host.startsWith "[" then unreachable request.host
  else if request.host = "localhost" then unreachable "127.0.0.1"
  else .unconnected .unknownHost

end Network

end LockRelay
