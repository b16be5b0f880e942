import LockRelay.Decimal.Binary64
import Mathlib.Tactic.Ring
import Mathlib.Tactic.SplitIfs

/-! How far rounding goes. No rounding more than doubles a fraction, and a fraction well below the
greatest double is rounded to one. This bounds the numbers that are scaled by rounded powers of ten. -/
namespace LockRelay.Binary64

variable {num den significand n : Nat} {x : Binary64}

theorem roundQuotient_mul_le (num den : Nat) : roundQuotient num den * den ≤ 2 * num := by
  have hDivision := Nat.div_add_mod num den
  have hFloor : num / den * den = den * (num / den) := Nat.mul_comm _ _
  unfold roundQuotient
  dsimp only
  split_ifs with hUp
  · rw [Nat.add_mul, Nat.one_mul]
    omega
  · omega

/-- A double is at most twice a fraction. -/
def AtMostTwice (x : Binary64) (num den : Nat) : Prop :=
  x.numerator * den ≤ 2 * num * x.denominator

theorem roundAt_atMostTwice (num den : Nat) (exponent : Int) :
    AtMostTwice ⟨roundAt num den exponent, exponent⟩ num den := by
  have hRound := roundQuotient_mul_le (num * Nat.pow 2 (-exponent).toNat)
    (den * Nat.pow 2 exponent.toNat)
  unfold AtMostTwice numerator denominator roundAt
  dsimp only
  calc roundQuotient (num * Nat.pow 2 (-exponent).toNat) (den * Nat.pow 2 exponent.toNat) *
        Nat.pow 2 exponent.toNat * den
      = roundQuotient (num * Nat.pow 2 (-exponent).toNat) (den * Nat.pow 2 exponent.toNat) *
        (den * Nat.pow 2 exponent.toNat) := by ring
    _ ≤ 2 * (num * Nat.pow 2 (-exponent).toNat) := hRound
    _ = 2 * num * Nat.pow 2 (-exponent).toNat := by ring

/-- A mantissa that no longer fits gives way to the next exponent. -/
theorem atMostTwice_carry {mantissa : Nat} {exponent : Int} (hCarry : Nat.pow 2 53 ≤ mantissa)
    (h : AtMostTwice ⟨mantissa, exponent⟩ num den) :
    AtMostTwice ⟨Nat.pow 2 52, exponent + 1⟩ num den := by
  unfold AtMostTwice numerator denominator at h ⊢
  simp only [Nat.pow_eq] at h hCarry ⊢
  by_cases hSign : 0 ≤ exponent
  · have hUp : (exponent + 1).toNat = exponent.toNat + 1 := by omega
    have hDown : (-(exponent + 1)).toNat = (-exponent).toNat := by omega
    rw [hUp, hDown]
    calc 2 ^ 52 * 2 ^ (exponent.toNat + 1) * den = 2 ^ 53 * (2 ^ exponent.toNat * den) := by ring
      _ ≤ mantissa * (2 ^ exponent.toNat * den) := Nat.mul_le_mul_right _ hCarry
      _ = mantissa * 2 ^ exponent.toNat * den := (Nat.mul_assoc _ _ _).symm
      _ ≤ 2 * num * 2 ^ (-exponent).toNat := h
  · have hUp : (exponent + 1).toNat = 0 := by omega
    have hNone : exponent.toNat = 0 := by omega
    have hDown : (-exponent).toNat = (-(exponent + 1)).toNat + 1 := by omega
    rw [hNone, hDown] at h
    rw [hUp]
    refine Nat.le_of_mul_le_mul_left ?_ (Nat.succ_pos 1)
    calc 2 * (2 ^ 52 * 2 ^ 0 * den) = 2 ^ 53 * (2 ^ 0 * den) := by ring
      _ ≤ mantissa * (2 ^ 0 * den) := Nat.mul_le_mul_right _ hCarry
      _ = mantissa * 2 ^ 0 * den := (Nat.mul_assoc _ _ _).symm
      _ ≤ 2 * num * 2 ^ ((-(exponent + 1)).toNat + 1) := h
      _ = 2 * (2 * num * 2 ^ (-(exponent + 1)).toNat) := by ring

/-- A fraction well below the greatest double is rounded, to at most twice as much. -/
theorem nearest_le (h : num < den * 2 ^ 1022) :
    ∃ x, nearest num den = some x ∧ x.AtMostTwice num den := by
  unfold nearest
  split_ifs with hZero
  · exact ⟨zero, rfl, by simp [AtMostTwice, numerator, zero]⟩
  · have hLow := Nat.log2_self_le hZero
    have hHigh : den < 2 ^ (den.log2 + 1) := Nat.lt_log2_self
    have hLog : num.log2 < den.log2 + 1023 := by
      apply (Nat.pow_lt_pow_iff_right (by decide : 1 < 2)).mp
      calc 2 ^ num.log2 ≤ num := hLow
        _ < den * 2 ^ 1022 := h
        _ ≤ 2 ^ (den.log2 + 1) * 2 ^ 1022 := Nat.mul_le_mul_right _ hHigh.le
        _ = 2 ^ (den.log2 + 1023) := by rw [← Nat.pow_add]
    have hGuess : (num.log2 : Int) - den.log2 - 53 + 1 ≤ 970 := by
      clear h hLow hHigh
      omega
    dsimp only
    generalize hExponent : max minExponent _ = exponent
    have hBound : exponent ≤ 970 := by
      rw [← hExponent]
      refine max_le (by decide) ?_
      split_ifs
      · exact le_trans (Int.le_add_one le_rfl) hGuess
      · exact hGuess
    have hRound := roundAt_atMostTwice num den exponent
    split_ifs with hFits hMax hMax
    · exact ⟨_, rfl, hRound⟩
    · exact absurd (le_trans hBound (by decide)) hMax
    · exact ⟨_, rfl, atMostTwice_carry (not_lt.mp hFits) hRound⟩
    · exact absurd (Int.add_le_add_right hBound 1) hMax

theorem denominator_pos (x : Binary64) : 0 < x.denominator := Nat.two_pow_pos _

/-- The rounded powers of ten are close to what they should be. -/
theorem powerOfTen_close : ∀ n ≤ greatestPower, (powerOfTen n).any (fun p =>
    p.numerator ≤ 2 * 10 ^ n * p.denominator ∧ (n = 0 ∨ 2 * p.denominator ≤ p.numerator)) = true := by
  decide +kernel

theorem powerOfTen_some (h : n ≤ greatestPower) : ∃ p, powerOfTen n = some p ∧
    p.numerator ≤ 2 * 10 ^ n * p.denominator ∧ (n = 0 ∨ 2 * p.denominator ≤ p.numerator) := by
  have hClose := powerOfTen_close n h
  cases hPower : powerOfTen n with
  | none =>
      rw [hPower] at hClose
      cases hClose
  | some p =>
      rw [hPower, Option.any_some] at hClose
      exact ⟨p, rfl, of_decide_eq_true hClose⟩

/-- Dividing by a power of ten does not get beyond the doubles. -/
theorem div?_some {p : Binary64} (hx : x.numerator ≤ 2 ^ 65 * x.denominator)
    (hp : 2 * p.denominator ≤ p.numerator) :
    ∃ y, x.div? p = some y ∧ y.numerator ≤ 2 ^ 65 * y.denominator := by
  have hDen := x.denominator_pos
  have hPower := p.denominator_pos
  have hPos : 0 < x.denominator * p.numerator := Nat.mul_pos hDen (by omega)
  have hBound : 2 * (x.numerator * p.denominator) ≤ 2 ^ 65 * (x.denominator * p.numerator) := by
    calc 2 * (x.numerator * p.denominator) = x.numerator * (2 * p.denominator) := by ring
      _ ≤ 2 ^ 65 * x.denominator * p.numerator := Nat.mul_le_mul hx hp
      _ = 2 ^ 65 * (x.denominator * p.numerator) := Nat.mul_assoc _ _ _
  have hBelow : x.numerator * p.denominator < x.denominator * p.numerator * 2 ^ 1022 := by omega
  obtain ⟨y, hy, hTwice⟩ := nearest_le hBelow
  refine ⟨y, hy, Nat.le_of_mul_le_mul_right ?_ hPos⟩
  calc y.numerator * (x.denominator * p.numerator)
      ≤ 2 * (x.numerator * p.denominator) * y.denominator := hTwice
    _ ≤ 2 ^ 65 * (x.denominator * p.numerator) * y.denominator := Nat.mul_le_mul_right _ hBound
    _ = 2 ^ 65 * y.denominator * (x.denominator * p.numerator) := by ring

/-- Multiplying by a power of ten does not either, if the product is well below the greatest double. -/
theorem mul?_some {p : Binary64} {bound : Nat} (hx : x.numerator ≤ 2 * significand * x.denominator)
    (hp : p.numerator ≤ 2 * 10 ^ n * p.denominator) (hValue : significand * 10 ^ n ≤ bound)
    (hBound : 4 * bound < 2 ^ 1022) : ∃ y, x.mul? p = some y := by
  have hPos : 0 < x.denominator * p.denominator := Nat.mul_pos x.denominator_pos p.denominator_pos
  have hProduct : x.numerator * p.numerator < x.denominator * p.denominator * 2 ^ 1022 := by
    calc x.numerator * p.numerator
        ≤ 2 * significand * x.denominator * (2 * 10 ^ n * p.denominator) := Nat.mul_le_mul hx hp
      _ = 4 * (significand * 10 ^ n) * (x.denominator * p.denominator) := by ring
      _ ≤ 4 * bound * (x.denominator * p.denominator) :=
          Nat.mul_le_mul_right _ (Nat.mul_le_mul_left _ hValue)
      _ < 2 ^ 1022 * (x.denominator * p.denominator) := Nat.mul_lt_mul_of_pos_right hBound hPos
      _ = x.denominator * p.denominator * 2 ^ 1022 := Nat.mul_comm _ _
  obtain ⟨y, hy, -⟩ := nearest_le hProduct
  exact ⟨y, hy⟩

/-- Only zero may be scaled by a power of ten beyond the greatest. -/
theorem eq_zero_of_greatestPower_lt {bound : Nat} (hPower : greatestPower < n)
    (hValue : significand * 10 ^ n ≤ bound) (hBound : 4 * bound < 2 ^ 1022) : significand = 0 := by
  have hLarge : 10 ^ (greatestPower + 1) ≤ 10 ^ n := Nat.pow_le_pow_right (by decide) hPower
  have hAbove : 4 * bound < 10 ^ (greatestPower + 1) := lt_of_lt_of_le hBound (by decide +kernel)
  by_contra hSome
  have hProduct : 10 ^ n ≤ significand * 10 ^ n :=
    Nat.le_mul_of_pos_left _ (Nat.pos_of_ne_zero hSome)
  omega

theorem isSome_scaleDown (steps : Nat) {rest : Nat} (hPos : 0 < rest) (hRest : rest ≤ greatestPower)
    (hx : x.numerator ≤ 2 ^ 65 * x.denominator) : (scaleDown steps rest x).isSome := by
  induction steps generalizing x with
  | zero =>
      obtain ⟨p, hPower, -, hAbove⟩ := powerOfTen_some hRest
      obtain ⟨y, hy, -⟩ := div?_some hx (hAbove.resolve_left hPos.ne')
      rw [scaleDown, hPower, Option.bind_some, hy]
      rfl
  | succ steps ih =>
      obtain ⟨p, hPower, -, hAbove⟩ := powerOfTen_some le_rfl
      obtain ⟨y, hy, hBound⟩ := div?_some hx (hAbove.resolve_left (by decide))
      rw [scaleDown]
      split_ifs
      · rfl
      · rw [hPower, Option.bind_some, hy]
        exact ih hBound

/-- A scaled number well below the greatest double is a double, although the powers of ten that it is
scaled by are rounded. -/
theorem isSome_scaled {exponent : Int} {bound : Nat} (hSignificand : significand < 2 ^ 64)
    (hBound : 4 * bound < 2 ^ 1022)
    (h : significand * 10 ^ exponent.toNat ≤ bound * 10 ^ (-exponent).toNat) :
    (scaled significand exponent).isSome := by
  have hBelow : significand < 1 * 2 ^ 1022 := by omega
  obtain ⟨x, hx, hTwice⟩ := nearest_le hBelow
  unfold AtMostTwice at hTwice
  rw [Nat.mul_one] at hTwice
  unfold scaled ofNat?
  rw [hx, Option.bind_some]
  cases exponent with
  | ofNat n =>
      have hValue : significand * 10 ^ n ≤ bound := by
        have hDown : (-Int.ofNat n).toNat = 0 := by
          rw [Int.ofNat_eq_natCast]
          omega
        rwa [hDown, pow_zero, Nat.mul_one] at h
      dsimp only
      split_ifs with hSmall hZero
      · obtain ⟨p, hPower, hClose, -⟩ := powerOfTen_some hSmall
        obtain ⟨y, hy⟩ := mul?_some hTwice hClose hValue hBound
        rw [hPower, Option.bind_some, hy]
        rfl
      · rfl
      · have hNone := eq_zero_of_greatestPower_lt (not_le.mp hSmall) hValue hBound
        rw [hNone] at hx
        obtain rfl := Option.some.inj hx
        exact absurd rfl hZero
  | negSucc n =>
      refine isSome_scaleDown _ (Nat.succ_pos _) (Nat.mod_lt n (by decide)) ?_
      calc x.numerator ≤ 2 * significand * x.denominator := hTwice
        _ ≤ 2 ^ 65 * x.denominator := Nat.mul_le_mul_right _ (by omega)

end LockRelay.Binary64
