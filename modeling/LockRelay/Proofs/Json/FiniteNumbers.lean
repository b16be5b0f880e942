import LockRelay.Proofs.Decimal.Rounding
import LockRelay.Proofs.Json.Buffering

/-! Numbers by their exact size. A number is read from its leading digits and with rounded powers of
ten, and still every number well below the greatest double is finite as it is read. -/
namespace LockRelay.Json

variable {digits : Bytes} {start : Nat}

/-! Digits -/

/-- The value of digits that follow a significand. -/
theorem foldl_digits (digits : Bytes) (start : Nat) :
    digits.foldl (fun n b => 10 * n + digitValue b) start =
      start * 10 ^ digits.length + valueOf digits := by
  unfold valueOf
  induction digits generalizing start with
  | nil => simp
  | cons b digits ih =>
      rw [List.foldl_cons, List.foldl_cons, ih, ih (10 * 0 + digitValue b), List.length_cons, pow_succ]
      ring

theorem digitValue_le {b : UInt8} (h : isDigit b = true) : digitValue b ≤ 9 := by
  simp only [isDigit, Bool.and_eq_true, decide_eq_true_eq, UInt8.le_iff_toNat_le] at h
  have hHigh : b.toNat ≤ 57 := h.2
  unfold digitValue
  omega

theorem valueOf_lt (h : ∀ b ∈ digits, isDigit b = true) : valueOf digits < 10 ^ digits.length := by
  induction digits with
  | nil => exact Nat.one_pos
  | cons b digits ih =>
      have hDigit := digitValue_le (h b List.mem_cons_self)
      have hMore := ih fun c hc => h c (List.mem_cons_of_mem _ hc)
      have hValue : valueOf (b :: digits) = digitValue b * 10 ^ digits.length + valueOf digits := by
        rw [valueOf, List.foldl_cons, foldl_digits, Nat.mul_zero, Nat.zero_add]
      have hProduct : digitValue b * 10 ^ digits.length ≤ 9 * 10 ^ digits.length :=
        Nat.mul_le_mul_right _ hDigit
      rw [hValue, List.length_cons, pow_succ]
      omega

/-- What is left of a row of digits when no more fit: a significand, and how many digits it has. -/
structure Leads (start : Nat) (digits : Bytes) (significand count : Nat) : Prop where
  fits : significand < 2 ^ 64
  count_le : count ≤ digits.length
  le : significand * 10 ^ (digits.length - count) ≤ start * 10 ^ digits.length + valueOf digits
  /-- Digits are left out only when there are many. -/
  pos : count < digits.length → 0 < significand

theorem leads_extend (hDigits : ∀ b ∈ digits, isDigit b = true) (h : start < 2 ^ 64) :
    Leads start digits (extend start digits).1 (extend start digits).2 := by
  induction digits generalizing start with
  | nil => exact ⟨h, le_rfl, by simp [extend, valueOf], fun hLess => absurd hLess (lt_irrefl _)⟩
  | cons b digits ih =>
      have hDigit := digitValue_le (hDigits b List.mem_cons_self)
      have hValue := foldl_digits (b :: digits) start
      rw [List.foldl_cons, foldl_digits digits] at hValue
      unfold extend
      dsimp only
      split_ifs with hNext
      · obtain ⟨hFits, hCount, hLe, hPos⟩ :=
          ih (fun c hc => hDigits c (List.mem_cons_of_mem _ hc)) hNext
        refine ⟨hFits, Nat.succ_le_succ hCount, ?_, fun hLess => hPos (Nat.lt_of_succ_lt_succ hLess)⟩
        rw [← hValue, List.length_cons, Nat.add_sub_add_right]
        exact hLe
      · refine ⟨h, Nat.zero_le _, Nat.le_add_right _ _, fun _ => ?_⟩
        have hSize : UInt64.size = 2 ^ 64 := rfl
        rw [hSize] at hNext
        omega

/-! Literals -/

namespace Literal

def fractionDigits : Option Digits → Bytes
  | none => []
  | some digits => digits.text

/-- The exponent that is written. -/
def shift : Option Scale → Int
  | none => 0
  | some e => if e.down then -valueOf e.digits.text else valueOf e.digits.text

/-- All digits of a number as one natural number. -/
def significand (l : Literal) : Nat := valueOf (l.whole.text ++ fractionDigits l.fraction)

/-- The power of ten that they are scaled by. -/
def exponent (l : Literal) : Int := shift l.scale - (fractionDigits l.fraction).length

/-- A number that is, exactly and whatever its sign, no greater than a bound. -/
def AtMost (l : Literal) (bound : Nat) : Prop :=
  l.significand * 10 ^ l.exponent.toNat ≤ bound * 10 ^ (-l.exponent).toNat

instance (l : Literal) (bound : Nat) : Decidable (l.AtMost bound) :=
  inferInstanceAs (Decidable (_ ≤ _))

theorem significand_eq (l : Literal) :
    l.significand = valueOf l.whole.text * 10 ^ (fractionDigits l.fraction).length +
      valueOf (fractionDigits l.fraction) := by
  unfold significand
  rw [valueOf, List.foldl_append, foldl_digits]
  rfl

/-- Shifting a number moves its bound. -/
theorem shift_le {value exact bound k : Nat} {e : Int} (hKept : value * 10 ^ k ≤ 2 * exact)
    (h : exact * 10 ^ e.toNat ≤ bound * 10 ^ (-e).toNat) :
    value * 10 ^ (k + e).toNat ≤ 2 * bound * 10 ^ (-(k + e)).toNat := by
  -- both sides times the powers of ten that the two exponents differ by
  have hPowers : 10 ^ (k + e).toNat * 10 ^ (-e).toNat =
      10 ^ k * 10 ^ e.toNat * 10 ^ (-(k + e)).toNat := by
    rw [← pow_add, ← pow_add, ← pow_add]
    congr 1
    omega
  refine Nat.le_of_mul_le_mul_right ?_ (Nat.pow_pos (by decide) : 0 < 10 ^ (-e).toNat)
  calc value * 10 ^ (k + e).toNat * 10 ^ (-e).toNat
      = value * (10 ^ (k + e).toNat * 10 ^ (-e).toNat) := Nat.mul_assoc _ _ _
    _ = value * 10 ^ k * (10 ^ e.toNat * 10 ^ (-(k + e)).toNat) := by rw [hPowers]; ring
    _ ≤ 2 * exact * (10 ^ e.toNat * 10 ^ (-(k + e)).toNat) := Nat.mul_le_mul_right _ hKept
    _ = 2 * (exact * 10 ^ e.toNat) * 10 ^ (-(k + e)).toNat := by ring
    _ ≤ 2 * (bound * 10 ^ (-e).toNat) * 10 ^ (-(k + e)).toNat :=
        Nat.mul_le_mul_right _ (Nat.mul_le_mul_left _ h)
    _ = 2 * bound * 10 ^ (-(k + e)).toNat * 10 ^ (-e).toNat := by ring

theorem isSome_scaledNumber {negative : Bool} {value : Nat} {e : Int} (hFits : value < 2 ^ 64)
    (h : value * 10 ^ e.toNat ≤ 2 * 10 ^ 306 * 10 ^ (-e).toNat) :
    (scaledNumber negative value e).toOption.isSome := by
  have hScaled := Binary64.isSome_scaled hFits (by decide +kernel) h
  obtain ⟨magnitude, hMagnitude⟩ := Option.isSome_iff_exists.mp hScaled
  rw [scaledNumber, hMagnitude]
  rfl

variable {l : Literal} {value k : Nat}

/-- A large exponent takes as many digits after the point to make up for it. -/
theorem exponent_lt {bound : Nat} (hSome : 0 < l.significand) (h : l.AtMost (10 ^ bound)) :
    l.exponent ≤ bound := by
  by_cases hSign : 0 ≤ l.exponent
  · unfold AtMost at h
    have hDown : (-l.exponent).toNat = 0 := by omega
    rw [hDown, pow_zero, Nat.mul_one] at h
    have hPower : 10 ^ l.exponent.toNat ≤ 10 ^ bound :=
      le_trans (Nat.le_mul_of_pos_left _ hSome) h
    have hExponent := (Nat.pow_le_pow_iff_right (by decide : 1 < 10)).mp hPower
    omega
  · omega

theorem isSome_scaled? (hFits : value < 2 ^ 64) (hKept : value * 10 ^ k ≤ 2 * l.significand)
    (h : l.AtMost (10 ^ 306)) (hShort : (fractionDigits l.fraction).length < 2 ^ 30) :
    (scaled? l.negative value (k - (fractionDigits l.fraction).length) l.scale).isSome := by
  have hShift := shift_le hKept h
  have hExponent (hSome : 0 < l.significand) := exponent_lt hSome h
  unfold exponent at hShift hExponent
  cases hScale : l.scale with
  | none =>
      rw [hScale, shift, Int.zero_sub, ← Int.sub_eq_add_neg] at hShift
      exact isSome_scaledNumber hFits hShift
  | some e =>
      rw [hScale, shift] at hShift hExponent
      unfold scaled?
      dsimp only
      cases hDown : e.down with
      | true =>
          simp only [hDown, if_true, not_true_eq_false, and_false, if_false] at hShift ⊢
          split_ifs
          · refine isSome_scaledNumber hFits ?_
            convert hShift using 3 <;> omega
          · rfl
      | false =>
          simp only [hDown, Bool.false_eq_true, if_false, not_false_eq_true, and_true] at hShift hExponent ⊢
          split_ifs with hLimit hSome
          · refine isSome_scaledNumber hFits ?_
            convert hShift using 3 <;> omega
          · have hPositive : 0 < value * 10 ^ k :=
              Nat.mul_pos (Nat.pos_of_ne_zero hSome) (Nat.pow_pos (by decide))
            have hSignificand : 0 < l.significand := by omega
            have hBound := hExponent hSignificand
            have hValue : exponentLimit = 2 ^ 31 := rfl
            omega
          · rfl

theorem isSome_wholeNumber (negative : Bool) (hFits : value < 2 ^ 64) :
    (wholeNumber negative value).toOption.isSome := by
  unfold wholeNumber
  split_ifs
  · rfl
  · refine isSome_scaledNumber hFits ?_
    have hBound : value ≤ 2 * 10 ^ 306 := le_trans hFits.le (by decide +kernel)
    exact Nat.mul_le_mul hBound le_rfl
  · rfl

/-- Digits after the point that follow left-out ones make a number at most twice as great. -/
theorem leads_fraction {whole fraction : Bytes} {first count next more : Nat}
    (hFraction : ∀ b ∈ fraction, isDigit b = true) (hWhole : Leads 0 whole first count)
    (hNext : Leads first fraction next more) :
    next * 10 ^ (whole.length - count + (fraction.length - more)) ≤
      2 * (valueOf whole * 10 ^ fraction.length + valueOf fraction) := by
  have hLe := hWhole.le
  rw [Nat.zero_mul, Nat.zero_add] at hLe
  generalize hDropped : whole.length - count = dropped at hLe
  have hValue := valueOf_lt hFraction
  calc next * 10 ^ (dropped + (fraction.length - more))
      = next * 10 ^ (fraction.length - more) * 10 ^ dropped := by rw [pow_add]; ring
    _ ≤ (first * 10 ^ fraction.length + valueOf fraction) * 10 ^ dropped :=
        Nat.mul_le_mul_right _ hNext.le
    _ = first * 10 ^ dropped * 10 ^ fraction.length + valueOf fraction * 10 ^ dropped := by ring
    _ ≤ valueOf whole * 10 ^ fraction.length + valueOf fraction * 10 ^ dropped :=
        Nat.add_le_add_right (Nat.mul_le_mul_right _ hLe) _
    _ ≤ 2 * (valueOf whole * 10 ^ fraction.length + valueOf fraction) := by
        rcases Nat.eq_zero_or_pos dropped with rfl | hPos
        · omega
        · have hFirst := hWhole.pos (by omega)
          have hPower : 10 ^ dropped ≤ valueOf whole :=
            le_trans (Nat.le_mul_of_pos_left _ hFirst) hLe
          have hProduct := Nat.mul_le_mul hValue.le hPower
          rw [Nat.mul_comm (10 ^ fraction.length)] at hProduct
          omega

/-- A number no greater than `10 ^ 306` that does not have a thousand million digits after the point. -/
structure Small (l : Literal) : Prop where
  atMost : l.AtMost (10 ^ 306)
  short : (fractionDigits l.fraction).length < 2 ^ 30

/-- A small number is finite as it is read. -/
theorem Small.isSome_number (h : l.Small) : l.number?.isSome := by
  have hWhole : Leads 0 l.whole.text _ _ := leads_extend l.whole.isDigit (by decide)
  have hExact := l.significand_eq
  have hScaled {value k : Nat} (hFits : value < 2 ^ 64) (hKept : value * 10 ^ k ≤ 2 * l.significand) :=
    isSome_scaled? hFits hKept h.atMost h.short
  have hCount := hWhole.count_le
  have hLe := hWhole.le
  rw [Nat.zero_mul, Nat.zero_add] at hLe
  unfold number?
  dsimp only
  cases hFraction : l.fraction with
  | none =>
      rw [hFraction, fractionDigits, List.length_nil] at hExact hScaled
      dsimp only
      split_ifs
      · have hKept : l.significand = valueOf l.whole.text := by
          rw [hExact]
          simp [valueOf]
        have hDropped := hScaled hWhole.fits (le_trans hLe (by omega))
        rwa [Nat.cast_sub hCount, Nat.cast_zero, Int.sub_zero] at hDropped
      · exact isSome_wholeNumber _ hWhole.fits
  | some fraction =>
      rw [hFraction, fractionDigits] at hExact hScaled
      have hNext := leads_extend fraction.isDigit hWhole.fits
      have hMore := hNext.count_le
      have hDropped := hScaled hNext.fits
        ((leads_fraction fraction.isDigit hWhole hNext).trans_eq (by rw [hExact]))
      convert hDropped using 3
      omega

end Literal

theorem Tree.modest_of_small {tree : Tree} {depth : Nat} (h : tree.Within Literal.Small depth) :
    tree.Modest depth :=
  h.mono fun _ hSmall => hSmall.isSome_number

end LockRelay.Json
