import LockRelay.Credentials
import LockRelay.Duration

/-! Settings of the bridge. -/
namespace LockRelay

structure Config where
  apiUrl : String
  scanTimeout : Duration
  requestTimeout : Duration
  credentials : Option Credentials

namespace Config

def defaultApiUrl : String := "http://localhost:8080"

/-- Seconds to wait for a lock. -/
def defaultScanTimeout : Nat := 15

/-- Seconds to wait for the controller. -/
def defaultRequestTimeout : Nat := 10

end Config

end LockRelay
