import Mathlib
import LockRelay.Controller.Http

/-! Addresses of requests under a base address. A path that is put after an absolute address is read
together with it, under the same scheme and authority, unless the whole becomes too long. -/
namespace LockRelay

namespace Uri

/-- Characters at which an authority ends. -/
def endsAuthority (c : Char) : Bool := c == '/' || c == '?' || c == '#'

/-- An authority and what follows it. -/
structure Precedes (authority rest : List Char) : Prop where
  chars : ∀ c ∈ authority, endsAuthority c = false
  reads : isAuthority authority
  rest_start : ∀ c ∈ rest.head?, endsAuthority c

/-- A text with a path put after it starts with the same authority. -/
theorem Precedes.append {authority rest path : List Char} (h : Precedes authority rest)
    (hPath : ∀ c ∈ path.head?, endsAuthority c) : Precedes authority (rest ++ path) where
  chars := h.chars
  reads := h.reads
  rest_start := by
    cases rest with
    | nil => exact hPath
    | cons c rest => exact h.rest_start

/-- Whether a path can stand after other text of a path or a query. -/
structure Joins (path : List Char) : Prop where
  start : path.head? = some '/'
  chars : ∀ c ∈ path, isPathChar c ∧ isQueryChar c

variable {base path scheme authority target : String}

end Uri

namespace HttpController

end HttpController

end LockRelay
