import LockRelay.Decimal.Binary64

/-! The shortest decimal text of a double. Of all decimals that round to the number, those with the
fewest digits are taken, and of these the nearest. On the grid of a digit count only the two
neighbours of the number have to be looked at. -/
namespace LockRelay

/-- Decimal digits of a number, most significant first; none for zero. -/
def digitsOf (n : Nat) : List Char := if n = 0 then [] else (toString n).toList

namespace Binary64

/-- Whether `d * 10 ^ e` rounds to `x`. A midpoint belongs to the even neighbour. -/
def readsBack (x : Binary64) (d : Nat) (e : Int) : Bool :=
  -- all in units of a quarter of the last place
  let num := d * Nat.pow 10 e.toNat * Nat.pow 2 (2 - x.exponent).toNat
  let den := Nat.pow 10 (-e).toNat * Nat.pow 2 (x.exponent - 2).toNat
  let below := if x.mantissa = Nat.pow 2 52 ∧ minExponent < x.exponent then 1 else 2
  let low := (4 * x.mantissa - below) * den
  let high := (4 * x.mantissa + 2) * den
  if x.mantissa % 2 = 0 then low ≤ num ∧ num ≤ high else low < num ∧ num < high

/-- Number of digits before the point; zero or less for numbers below one tenth. -/
def magnitude (x : Binary64) : Int :=
  let whole := x.numerator / x.denominator
  if 0 < whole then (digitsOf whole).length
  else 1 - ((digitsOf ((x.denominator - 1) / x.numerator)).length : Int)

/-- The neighbour of `x` on the grid of `count` digits that reads back, the nearer one of two. -/
def onGrid (x : Binary64) (count : Nat) : Option (Nat × Int) :=
  let e := x.magnitude - count
  let num := x.numerator * Nat.pow 10 (-e).toNat
  let den := x.denominator * Nat.pow 10 e.toNat
  let d := num / den
  let lowFits := x.readsBack d e
  let highFits := x.readsBack (d + 1) e
  let highNearer : Bool := den < 2 * (num % den) ∨ (2 * (num % den) = den ∧ d % 2 = 1)
  if lowFits && !(highFits && highNearer) then some (d, e)
  else if highFits then some (d + 1, e)
  else none

/-- The first grid that has a hit, from `count` digits on. -/
def shortestFrom (x : Binary64) : (fuel count : Nat) → Nat × Int
  | 0, _ => (x.mantissa, 0)
  | fuel + 1, count => (x.onGrid count).getD (x.shortestFrom fuel (count + 1))

/-- The digits of the shortest decimal that reads back, and the place of the point after them. -/
def shortest (x : Binary64) : List Char × Int :=
  let (d, e) := x.shortestFrom 17 1
  let digits := digitsOf d
  let trimmed := ((digits.reverse).dropWhile (· == '0')).reverse
  (trimmed, digits.length + e)

end Binary64

/-- How a decimal is written. -/
structure FloatFormat where
  /-- Least place of the point that is written without an exponent. -/
  leastPoint : Int
  /-- Greatest place of the point that is written without an exponent. -/
  greatestPoint : Int
  /-- Least number of exponent digits. -/
  exponentWidth : Nat

/-- Numbers from one hundred-thousandth to sixteen digits before the point are written out; others
get an exponent with its sign and two digits. A whole number keeps one zero after the point. -/
def FloatFormat.standard : FloatFormat := ⟨-4, 16, 2⟩

namespace Binary64

def text (format : FloatFormat) (negative : Bool) (x : Binary64) : String :=
  let sign := if negative then "-" else ""
  if x.mantissa = 0 then sign ++ "0.0"
  else
    let (digits, point) := x.shortest
    let count : Int := digits.length
    let body : List Char :=
      if format.leastPoint ≤ point ∧ point ≤ format.greatestPoint then
        if point ≤ 0 then '0' :: '.' :: (List.replicate (-point).toNat '0' ++ digits)
        else if count ≤ point then
          digits ++ List.replicate (point - count).toNat '0' ++ ['.', '0']
        else digits.take point.toNat ++ '.' :: digits.drop point.toNat
      else
        let exponent := point - 1
        let written := (toString exponent.natAbs).toList
        let fraction := match digits with
          | [_] => digits
          | first :: rest => first :: '.' :: rest
          | [] => []
        fraction ++ 'e' :: (if exponent < 0 then '-' else '+') ::
          (List.replicate (format.exponentWidth - written.length) '0' ++ written)
    sign ++ String.ofList body

end Binary64

end LockRelay
