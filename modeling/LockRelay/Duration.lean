/-! Lengths of time as messages show them: in the largest unit that leaves a whole part, with the
fewest digits after the point that give the exact value. -/
namespace LockRelay

structure Duration where
  nanoseconds : Nat
  deriving DecidableEq, Repr

namespace Duration

def ofMicroseconds (n : Nat) : Duration := ⟨1000 * n⟩

def ofSeconds (n : Nat) : Duration := ⟨1000000000 * n⟩

/-- The digits of `n` in a field of `width`, without the zeros at the end. -/
def fraction (width n : Nat) : List Char :=
  let digits := Nat.toDigits 10 n
  let field := List.replicate (width - digits.length) '0' ++ digits
  (field.reverse.dropWhile (· = '0')).reverse

/-- A number of nanoseconds in a unit of `10 ^ places` of them. -/
def inUnit (places n : Nat) (unit : String) : String :=
  let fraction := fraction places (n % Nat.pow 10 places)
  let point := if fraction.isEmpty then "" else "." ++ String.ofList fraction
  toString (n / Nat.pow 10 places) ++ point ++ unit

def text (d : Duration) : String :=
  let n := d.nanoseconds
  if n < 1000 then inUnit 0 n "ns"
  else if n < 1000000 then inUnit 3 n "µs"
  else if n < 1000000000 then inUnit 6 n "ms"
  else inUnit 9 n "s"

end Duration

end LockRelay
