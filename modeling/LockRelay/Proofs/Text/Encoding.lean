import Mathlib
import LockRelay.Text.Utf8

/-! Text survives its encoding: what is written as UTF-8 is read back as the same characters. A byte
below `0x80` is a character of its own, so bytes with a meaning elsewhere never stand inside another
character. -/
namespace LockRelay.Utf8

variable {c : Char} {n : Nat} {t : Tail}

theorem encode_append (text more : List Char) :
    encode (text ++ more) = encode text ++ encode more :=
  List.flatMap_append

theorem encode_cons (c : Char) (text : List Char) :
    encode (c :: text) = String.utf8EncodeChar c ++ encode text := rfl

theorem utf8EncodeChar_ascii (h : c.toNat < 0x80) :
    String.utf8EncodeChar c = [UInt8.ofNat c.toNat] := by
  unfold String.utf8EncodeChar
  exact if_pos (Nat.le_of_lt_succ h)

/-- Only a character below `0x80` has a byte below `0x80`. -/
theorem le_of_mem_utf8EncodeChar {b : UInt8} (hb : b ∈ String.utf8EncodeChar c)
    (h : 0x80 ≤ c.toNat) : 0x80 ≤ b.toNat := by
  have hSize : ¬c.val.toNat ≤ 127 := by
    have hVal : 0x80 ≤ c.val.toNat := h
    omega
  have hHigh {m : Nat} (hm : 0x80 ≤ m) (hm' : m < 256) : 0x80 ≤ (UInt8.ofNat m).toNat := by
    rw [UInt8.toNat_ofNat_of_lt' hm']
    exact hm
  unfold String.utf8EncodeChar at hb
  simp only [if_neg hSize] at hb
  split_ifs at hb
  all_goals simp only [List.mem_cons, List.not_mem_nil, or_false] at hb
  · rcases hb with rfl | rfl <;> exact hHigh (by omega) (by omega)
  · rcases hb with rfl | rfl | rfl <;> exact hHigh (by omega) (by omega)
  · rcases hb with rfl | rfl | rfl | rfl <;> exact hHigh (by omega) (by omega)

/-! Reading one character. -/

theorem lead_ascii (h : n < 0x80) : lead (UInt8.ofNat n) = .single (Char.ofNat n) := by
  unfold lead
  rw [UInt8.toNat_ofNat_of_lt' (show n < 256 by omega)]
  exact if_pos h

theorem lead_two (hLow : 0xC2 ≤ n) (hHigh : n < 0xE0) :
    lead (UInt8.ofNat n) = .opens ⟨0, 0x80, 0xBF, n % 32⟩ := by
  unfold lead
  simp only [UInt8.toNat_ofNat_of_lt' (show n < 256 by omega)]
  rw [if_neg (by omega), if_neg (by omega), if_pos hHigh]

/-- After the first of three bytes, neither a short form nor a surrogate may follow. -/
theorem lead_three (hLow : 0xE0 ≤ n) (hHigh : n < 0xF0) :
    ∃ low high, lead (UInt8.ofNat n) = .opens ⟨1, low, high, n % 16⟩ ∧
      ∀ m, 0x80 ≤ m → m ≤ 0xBF → (n = 0xE0 → 0xA0 ≤ m) → (n = 0xED → m ≤ 0x9F) →
        low.toNat ≤ m ∧ m ≤ high.toNat := by
  unfold lead
  simp only [UInt8.toNat_ofNat_of_lt' (show n < 256 by omega)]
  rw [if_neg (by omega), if_neg (by omega), if_neg (by omega)]
  by_cases hShort : n = 0xE0
  · rw [if_pos hShort, hShort]
    exact ⟨_, _, rfl, fun m _ hm hLong _ => ⟨hLong rfl, hm⟩⟩
  by_cases hSurrogate : n = 0xED
  · rw [if_neg hShort, if_pos hSurrogate, hSurrogate]
    exact ⟨_, _, rfl, fun m hm _ _ hScalar => ⟨hm, hScalar rfl⟩⟩
  · rw [if_neg hShort, if_neg hSurrogate, if_pos hHigh]
    exact ⟨_, _, rfl, fun m hm hm' _ _ => ⟨hm, hm'⟩⟩

/-- After the first of four bytes, neither a short form nor too large a number may follow. -/
theorem lead_four (hLow : 0xF0 ≤ n) (hHigh : n ≤ 0xF4) :
    ∃ low high, lead (UInt8.ofNat n) = .opens ⟨2, low, high, n % 8⟩ ∧
      ∀ m, 0x80 ≤ m → m ≤ 0xBF → (n = 0xF0 → 0x90 ≤ m) → (n = 0xF4 → m ≤ 0x8F) →
        low.toNat ≤ m ∧ m ≤ high.toNat := by
  unfold lead
  simp only [UInt8.toNat_ofNat_of_lt' (show n < 256 by omega)]
  rw [if_neg (by omega), if_neg (by omega), if_neg (by omega), if_neg (by omega),
    if_neg (by omega), if_neg (by omega)]
  by_cases hShort : n = 0xF0
  · rw [if_pos hShort, hShort]
    exact ⟨_, _, rfl, fun m _ hm hLong _ => ⟨hLong rfl, hm⟩⟩
  by_cases hLast : n = 0xF4
  · rw [if_neg hShort, if_neg (by omega), if_pos hLast, hLast]
    exact ⟨_, _, rfl, fun m hm _ _ hRange => ⟨hm, hRange rfl⟩⟩
  · rw [if_neg hShort, if_pos (by omega)]
    exact ⟨_, _, rfl, fun m hm hm' _ _ => ⟨hm, hm'⟩⟩

theorem within_bounds {low high : UInt8} (hByte : n < 256)
    (hBounds : low.toNat ≤ n ∧ n ≤ high.toNat) : low ≤ UInt8.ofNat n ∧ UInt8.ofNat n ≤ high := by
  rw [UInt8.le_iff_toNat_le, UInt8.le_iff_toNat_le, UInt8.toNat_ofNat_of_lt' hByte]
  exact hBounds

theorem decodeFrom_opens {b : UInt8} (h : lead b = .opens t) (rest : Bytes) :
    decodeFrom none (b :: rest) = decodeFrom (some t) rest := by
  rw [decodeFrom, h]

theorem decodeFrom_more {more value : Nat} {low high : UInt8} (hByte : n < 256)
    (hBounds : low.toNat ≤ n ∧ n ≤ high.toNat) (rest : Bytes) :
    decodeFrom (some ⟨more + 1, low, high, value⟩) (UInt8.ofNat n :: rest) =
      decodeFrom (some ⟨more, 0x80, 0xBF, 64 * value + n % 64⟩) rest := by
  simp only [decodeFrom, Tail.take, if_pos (within_bounds hByte hBounds),
    UInt8.toNat_ofNat_of_lt' hByte]

theorem decodeFrom_last {value : Nat} {low high : UInt8} (hByte : n < 256)
    (hBounds : low.toNat ≤ n ∧ n ≤ high.toNat) (hValue : 64 * value + n % 64 = c.toNat)
    (rest : Bytes) :
    decodeFrom (some ⟨0, low, high, value⟩) (UInt8.ofNat n :: rest) =
      (decodeFrom none rest).map (c :: ·) := by
  simp only [decodeFrom, Tail.take, if_pos (within_bounds hByte hBounds),
    UInt8.toNat_ofNat_of_lt' hByte, hValue, Char.ofNat_toNat]

/-- Bytes after the first carry six bits each. -/
theorem continuation (n : Nat) : 0x80 ≤ n % 64 + 128 ∧ n % 64 + 128 ≤ 0xBF := by omega

theorem decodeFrom_encodeChar (c : Char) (rest : Bytes) :
    decodeFrom none (String.utf8EncodeChar c ++ rest) = (decodeFrom none rest).map (c :: ·) := by
  have hValid : c.toNat < 0xD800 ∨ 0xDFFF < c.toNat ∧ c.toNat < 0x110000 := c.valid
  have hScalar : c.val.toNat = c.toNat := rfl
  unfold String.utf8EncodeChar
  rw [hScalar]
  generalize hv : c.toNat = v at hValid
  simp only
  split_ifs with hOne hTwo hThree
  · rw [List.singleton_append, decodeFrom, lead_ascii (by omega)]
    simp only [← hv, Char.ofNat_toNat]
  · have hLead := lead_two (n := v / 64 % 32 + 192) (by omega) (by omega)
    simp only [List.cons_append, List.nil_append]
    rw [decodeFrom_opens hLead, decodeFrom_last (by omega) (continuation v)]
    omega
  · obtain ⟨low, high, hLead, hBounds⟩ :=
      lead_three (n := v / 4096 % 16 + 224) (by omega) (by omega)
    have hSecond : low.toNat ≤ v / 64 % 64 + 128 ∧ v / 64 % 64 + 128 ≤ high.toNat := by
      apply hBounds <;> omega
    simp only [List.cons_append, List.nil_append]
    rw [decodeFrom_opens hLead, decodeFrom_more (by omega) hSecond,
      decodeFrom_last (by omega) (continuation v)]
    omega
  · obtain ⟨low, high, hLead, hBounds⟩ :=
      lead_four (n := v / 262144 % 8 + 240) (by omega) (by omega)
    have hSecond : low.toNat ≤ v / 4096 % 64 + 128 ∧ v / 4096 % 64 + 128 ≤ high.toNat := by
      apply hBounds <;> omega
    simp only [List.cons_append, List.nil_append]
    rw [decodeFrom_opens hLead, decodeFrom_more (by omega) hSecond,
      decodeFrom_more (by omega) (continuation (v / 64)),
      decodeFrom_last (by omega) (continuation v)]
    omega

/-- Encoding loses nothing. -/
theorem decode_encode (text : List Char) : decode? (encode text) = some text := by
  unfold decode?
  induction text with
  | nil => rfl
  | cons c text ih =>
      rw [encode_cons, decodeFrom_encodeChar, ih]
      rfl

theorem encode_injective {text other : List Char} (h : encode text = encode other) :
    text = other := by
  have hRead := congrArg decode? h
  rw [decode_encode, decode_encode] at hRead
  exact Option.some.inj hRead

end LockRelay.Utf8
