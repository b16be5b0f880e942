/-! Non-negative numbers with at most 53 significant bits, as double precision has them, computed
in exact integer arithmetic. Every operation rounds its exact result once, to the nearest number
and to the even one of two; a result beyond the largest number is none. -/
namespace LockRelay

/-- The number `mantissa * 2 ^ exponent`. -/
structure Binary64 where
  mantissa : Nat
  exponent : Int
  deriving DecidableEq, Repr

namespace Binary64

/-- The least exponent: smaller numbers have fewer bits. -/
def minExponent : Int := -1074

/-- The greatest exponent. -/
def maxExponent : Int := 971

def zero : Binary64 := ⟨0, minExponent⟩

/-- Numerator of the number as a fraction. -/
def numerator (x : Binary64) : Nat := x.mantissa * Nat.pow 2 x.exponent.toNat

/-- Denominator of the number as a fraction, a power of two. -/
def denominator (x : Binary64) : Nat := Nat.pow 2 (-x.exponent).toNat

/-- The quotient rounded to the nearest integer, a half to the even one. -/
def roundQuotient (num den : Nat) : Nat :=
  let q := num / den
  let twice := 2 * (num % den)
  if den < twice ∨ (twice = den ∧ q % 2 = 1) then q + 1 else q

/-- `num / den` in units of `2 ^ exponent`, rounded. -/
def roundAt (num den : Nat) (exponent : Int) : Nat :=
  roundQuotient (num * Nat.pow 2 (-exponent).toNat) (den * Nat.pow 2 exponent.toNat)

/-- The number nearest to a fraction with positive denominator. -/
def nearest (num den : Nat) : Option Binary64 :=
  if num = 0 then some zero
  else
    -- the exponent that leaves 53 or 54 bits before the point
    let guess : Int := (num.log2 : Int) - den.log2 - 53
    let exact := num * Nat.pow 2 (-guess).toNat / (den * Nat.pow 2 guess.toNat)
    let exponent := max minExponent (if exact < Nat.pow 2 53 then guess else guess + 1)
    let mantissa := roundAt num den exponent
    let x : Binary64 :=
      if mantissa < Nat.pow 2 53 then ⟨mantissa, exponent⟩ else ⟨Nat.pow 2 52, exponent + 1⟩
    if x.exponent ≤ maxExponent then some x else none

def ofNat? (n : Nat) : Option Binary64 := nearest n 1

def mul? (x y : Binary64) : Option Binary64 :=
  nearest (x.numerator * y.numerator) (x.denominator * y.denominator)

def div? (x y : Binary64) : Option Binary64 :=
  nearest (x.numerator * y.denominator) (x.denominator * y.numerator)

/-- The number nearest to a power of ten. -/
def powerOfTen (n : Nat) : Option Binary64 := ofNat? (Nat.pow 10 n)

/-- The greatest power of ten that is not too large. -/
def greatestPower : Nat := 308

/-- Divides by `10 ^ (308 * steps)` and then by `10 ^ rest`, rounding after each division. -/
def scaleDown : (steps : Nat) → (rest : Nat) → Binary64 → Option Binary64
  | 0, rest, x => (powerOfTen rest).bind x.div?
  | steps + 1, rest, x =>
      if x.mantissa = 0 then some x
      else (powerOfTen greatestPower).bind fun p => (x.div? p).bind (scaleDown steps rest)

/-- `significand * 10 ^ exponent` by way of powers of ten that are rounded themselves, so the
result may be a neighbour of the nearest number. None when it is too large. -/
def scaled (significand : Nat) (exponent : Int) : Option Binary64 :=
  (ofNat? significand).bind fun x =>
    match exponent with
    | .ofNat n =>
        if n ≤ greatestPower then (powerOfTen n).bind x.mul?
        else if x.mantissa = 0 then some x
        else none
    | .negSucc n => scaleDown (n / greatestPower) (n % greatestPower + 1) x

end Binary64

end LockRelay
