import LockRelay.Credentials
import LockRelay.Proofs.Text.Encoding

/-! Reading hexadecimal text. White space around the text is passed over; what is between is read in
either letter case and is the writing of the bytes that come out. Of a text that cannot be read the
first fault is reported, at the byte where it is: an odd number of bytes before everything else. -/
namespace LockRelay

/-! ### White space at both ends -/

namespace Text

/-- What is left of a text without the white space before and after it. -/
structure Trimmed (text inner : List Char) : Prop where
  between : ∃ before after, (∀ c ∈ before, isBlank c = true) ∧
    (∀ c ∈ after, isBlank c = true) ∧ text = before ++ inner ++ after
  first : ∀ h : inner ≠ [], isBlank (inner.head h) = false
  last : ∀ h : inner ≠ [], isBlank (inner.getLast h) = false

theorem trim_eq_rdropWhile (text : List Char) :
    trim text = (text.dropWhile isBlank).rdropWhile isBlank := rfl

theorem trimmed_trim (text : List Char) : Trimmed text (trim text) where
  between := by
    refine ⟨text.takeWhile isBlank, (text.dropWhile isBlank).rtakeWhile isBlank, ?_, ?_, ?_⟩
    · exact fun c hc => List.mem_takeWhile_imp hc
    · exact fun c hc => List.mem_rtakeWhile_imp hc
    · rw [trim_eq_rdropWhile, List.append_assoc, List.rdropWhile_append_rtakeWhile,
        List.takeWhile_append_dropWhile]
  first h := by
    have hPrefix : trim text <+: text.dropWhile isBlank := List.rdropWhile_prefix _ _
    rw [hPrefix.head h]
    exact List.head_dropWhile_not isBlank _
  last h := Bool.eq_false_iff.mpr (List.rdropWhile_last_not _ _ h)

/-- A text has only one inside. -/
theorem Trimmed.eq_trim {text inner : List Char} (h : Trimmed text inner) : inner = trim text := by
  obtain ⟨before, after, hBefore, hAfter, rfl⟩ := h.between
  rw [trim_eq_rdropWhile, List.append_assoc, List.dropWhile_append_of_pos hBefore]
  by_cases hInner : inner = []
  · have hNothing : after.dropWhile isBlank = [] := List.dropWhile_eq_nil_iff.mpr hAfter
    rw [hInner, List.nil_append, hNothing, List.rdropWhile_nil]
  · have hFront : (inner ++ after).dropWhile isBlank = inner ++ after := by
      rw [List.dropWhile_eq_self_iff]
      intro hLength
      rw [← List.head_eq_getElem_zero (List.length_pos_iff.mp hLength),
        List.head_append_of_ne_nil hInner, h.first hInner]
      exact Bool.false_ne_true
    have hBack : (inner ++ after).rdropWhile isBlank = inner.rdropWhile isBlank := by
      have hReverse : ∀ c ∈ after.reverse, isBlank c = true :=
        fun c hc => hAfter c (List.mem_reverse.mp hc)
      rw [List.rdropWhile, List.reverse_append, List.dropWhile_append_of_pos hReverse,
        List.rdropWhile]
    have hSelf : inner.rdropWhile isBlank = inner := by
      rw [List.rdropWhile_eq_self_iff]
      intro hLast
      rw [h.last hLast]
      exact Bool.false_ne_true
    rw [hFront, hBack, hSelf]

end Text

/-! ### Digits -/

namespace Hex

/-- A digit of either letter case, as a byte. -/
def IsDigit (b : UInt8) : Prop :=
  (0x30 ≤ b ∧ b ≤ 0x39) ∨ (0x41 ≤ b ∧ b ≤ 0x46) ∨ (0x61 ≤ b ∧ b ≤ 0x66)

instance (b : UInt8) : Decidable (IsDigit b) :=
  inferInstanceAs (Decidable (_ ∨ _ ∨ _))

/-- A letter of the upper case in the lower case; any other byte as it is. -/
def lower (b : UInt8) : UInt8 := if 0x41 ≤ b ∧ b ≤ 0x5A then b + 0x20 else b

/-- The digit written for a number below sixteen, as a byte. -/
def digitByte (n : Nat) : UInt8 := UInt8.ofNat (if n < 10 then 0x30 + n else 0x57 + n)

theorem utf8_lowerDigit {n : Nat} (h : n < 16) :
    String.utf8EncodeChar (lowerDigits.getD n '0') = [digitByte n] := by
  interval_cases n <;> rfl

/-- The bytes of what is written. -/
theorem encode_encodeWith_cons (b : UInt8) (data : Bytes) :
    Utf8.encode (encodeWith lowerDigits (b :: data)) =
      digitByte (b.toNat / 16) :: digitByte (b.toNat % 16) ::
        Utf8.encode (encodeWith lowerDigits data) := by
  have hHigh : b.toNat / 16 < 16 := by
    have hRange := b.toNat_lt
    omega
  have hLow : b.toNat % 16 < 16 := Nat.mod_lt _ (by decide)
  rw [encodeWith, List.flatMap_cons, List.cons_append, List.cons_append, List.nil_append,
    Utf8.encode_cons, Utf8.encode_cons, utf8_lowerDigit hHigh, utf8_lowerDigit hLow]
  rfl

theorem toNat_lower (b : UInt8) : (lower b).toNat =
    if 0x41 ≤ b.toNat ∧ b.toNat ≤ 0x5A then b.toNat + 0x20 else b.toNat := by
  unfold lower
  by_cases hUpper : 0x41 ≤ b.toNat ∧ b.toNat ≤ 0x5A
  · rw [if_pos hUpper, if_pos (show 0x41 ≤ b ∧ b ≤ 0x5A from hUpper), UInt8.toNat_add]
    exact Nat.mod_eq_of_lt (show b.toNat + 0x20 < 256 by omega)
  · rw [if_neg hUpper, if_neg (show ¬(0x41 ≤ b ∧ b ≤ 0x5A) from hUpper)]

theorem toNat_digitByte {n : Nat} (h : n < 16) :
    (digitByte n).toNat = if n < 10 then 0x30 + n else 0x57 + n := by
  have hByte : (if n < 10 then 0x30 + n else 0x57 + n) < 256 := by split_ifs <;> omega
  exact UInt8.toNat_ofNat_of_lt' hByte

/-- A byte stands for a number exactly if it is the digit of that number in one of the cases. -/
theorem digit?_eq_some_iff {b : UInt8} {n : Nat} :
    digit? b = some n ↔ n < 16 ∧ lower b = digitByte n := by
  have hDigit : digit? b =
      if 0x30 ≤ b.toNat ∧ b.toNat ≤ 0x39 then some (b.toNat - 0x30)
      else if 0x61 ≤ b.toNat ∧ b.toNat ≤ 0x66 then some (b.toNat - 0x57)
      else if 0x41 ≤ b.toNat ∧ b.toNat ≤ 0x46 then some (b.toNat - 0x37)
      else none := rfl
  rw [hDigit, ← UInt8.toNat_inj, toNat_lower]
  by_cases hn : n < 16
  · rw [toNat_digitByte hn]
    split_ifs <;> grind
  · split_ifs <;> grind

theorem digit?_eq_none_iff {b : UInt8} : digit? b = none ↔ ¬IsDigit b := by
  unfold digit? IsDigit
  split_ifs <;> simp_all

theorem exists_digit?_iff {b : UInt8} : (∃ n, digit? b = some n) ↔ IsDigit b := by
  rw [← not_iff_not, ← digit?_eq_none_iff, Option.eq_none_iff_forall_ne_some, not_exists]

/-! ### Pairs of digits -/

/-- Two digits are read as the byte whose halves they stand for. -/
theorem decodePairs_cons_eq_ok_iff {position : Nat} {high low : UInt8} {rest data : Bytes} :
    decodePairs position (high :: low :: rest) = .ok data ↔
      ∃ b more, data = b :: more ∧ digit? high = some (b.toNat / 16) ∧
        digit? low = some (b.toNat % 16) ∧ decodePairs (position + 2) rest = .ok more := by
  rw [decodePairs]
  cases hHigh : digit? high with
  | none => simp
  | some h =>
  cases hLow : digit? low with
  | none => simp
  | some l =>
  obtain ⟨hh, -⟩ := digit?_eq_some_iff.mp hHigh
  obtain ⟨hl, -⟩ := digit?_eq_some_iff.mp hLow
  cases hRest : decodePairs (position + 2) rest with
  | error fault => simp
  | ok more =>
      have hByte : (UInt8.ofNat (16 * h + l)).toNat = 16 * h + l :=
        UInt8.toNat_ofNat_of_lt' (show 16 * h + l < 256 by omega)
      constructor
      · rintro hData
        refine ⟨_, more, (Except.ok.inj hData).symm, ?_, ?_, rfl⟩
        · rw [hByte]
          congr 1
          omega
        · rw [hByte]
          congr 1
          omega
      · rintro ⟨b, others, rfl, hh', hl', hMore⟩
        obtain rfl := Except.ok.inj hMore
        have hb : 16 * h + l = b.toNat := by
          rw [Option.some.inj hh', Option.some.inj hl']
          omega
        have hSame : UInt8.ofNat (16 * h + l) = b := by rw [hb, UInt8.ofNat_toNat]
        exact congrArg (fun byte => Except.ok (byte :: more)) hSame

/-- What is read is the bytes whose writing is the text in lower case. -/
theorem decodePairs_eq_ok_iff (position : Nat) {text data : Bytes} :
    decodePairs position text = .ok data ↔
      Utf8.encode (encodeWith lowerDigits data) = text.map lower := by
  induction text using List.twoStepInduction generalizing position data with
  | nil =>
      cases data with
      | nil => exact iff_of_true rfl rfl
      | cons b data =>
          rw [encode_encodeWith_cons]
          exact iff_of_false nofun nofun
  | singleton high =>
      refine iff_of_false nofun ?_
      cases data with
      | nil => exact fun h => List.cons_ne_nil _ _ h.symm
      | cons b data =>
          rw [encode_encodeWith_cons]
          exact fun h => List.cons_ne_nil _ _ (List.cons.inj h).2
  | cons_cons high low rest ih _ =>
      rw [decodePairs_cons_eq_ok_iff]
      cases data with
      | nil => exact iff_of_false nofun nofun
      | cons b data =>
          have hHigh : b.toNat / 16 < 16 := by
            have hRange := b.toNat_lt
            omega
          have hLow : b.toNat % 16 < 16 := Nat.mod_lt _ (by decide)
          rw [encode_encodeWith_cons, List.map_cons, List.map_cons, List.cons.injEq,
            List.cons.injEq]
          constructor
          · rintro ⟨_, _, hData, hHighDigit, hLowDigit, hMore⟩
            obtain ⟨rfl, rfl⟩ := List.cons.inj hData
            exact ⟨(digit?_eq_some_iff.mp hHighDigit).2.symm,
              (digit?_eq_some_iff.mp hLowDigit).2.symm, (ih _).mp hMore⟩
          · rintro ⟨hHighByte, hLowByte, hMore⟩
            exact ⟨b, data, rfl, digit?_eq_some_iff.mpr ⟨hHigh, hHighByte.symm⟩,
              digit?_eq_some_iff.mpr ⟨hLow, hLowByte.symm⟩, (ih _).mpr hMore⟩

/-- Digits in pairs can be read, and nothing else can. -/
theorem exists_decodePairs_iff {position : Nat} {text : Bytes} :
    (∃ data, decodePairs position text = .ok data) ↔
      text.length % 2 = 0 ∧ ∀ b ∈ text, IsDigit b := by
  induction text using List.twoStepInduction generalizing position with
  | nil => exact iff_of_true ⟨[], rfl⟩ ⟨rfl, nofun⟩
  | singleton high => exact iff_of_false nofun nofun
  | cons_cons high low rest ih _ =>
      have hLength : (high :: low :: rest).length % 2 = rest.length % 2 :=
        Nat.add_mod_right rest.length 2
      rw [hLength, List.forall_mem_cons, List.forall_mem_cons, ← exists_digit?_iff,
        ← exists_digit?_iff]
      constructor
      · rintro ⟨data, hData⟩
        obtain ⟨b, more, -, hHigh, hLow, hMore⟩ := decodePairs_cons_eq_ok_iff.mp hData
        obtain ⟨hEven, hRest⟩ := ih.mp ⟨more, hMore⟩
        exact ⟨hEven, ⟨_, hHigh⟩, ⟨_, hLow⟩, hRest⟩
      · rintro ⟨hEven, ⟨h, hHigh⟩, ⟨l, hLow⟩, hRest⟩
        obtain ⟨more, hMore⟩ : ∃ more, decodePairs (position + 2) rest = .ok more :=
          ih.mpr ⟨hEven, hRest⟩
        exact ⟨UInt8.ofNat (16 * h + l) :: more, by simp only [decodePairs, hHigh, hLow, hMore]⟩

/-- The first byte that is no digit is where reading fails. -/
theorem decodePairs_symbol {position : Nat} {before after : Bytes} {b : UInt8}
    (hEven : (before ++ b :: after).length % 2 = 0) (hBefore : ∀ digit ∈ before, IsDigit digit)
    (hFault : ¬IsDigit b) :
    decodePairs position (before ++ b :: after) = .error (.symbol (position + before.length)) := by
  have hNone := digit?_eq_none_iff.mpr hFault
  induction before using List.twoStepInduction generalizing position with
  | nil =>
      cases after with
      | nil => exact absurd hEven (by simp)
      | cons low rest => simp only [List.nil_append, decodePairs, hNone, List.length_nil, Nat.add_zero]
  | singleton high =>
      obtain ⟨h, hHigh⟩ := exists_digit?_iff.mpr (hBefore high List.mem_cons_self)
      simp only [List.cons_append, List.nil_append, decodePairs, hHigh, hNone, List.length_singleton]
  | cons_cons high low before ih _ =>
      obtain ⟨hHighDigit, hBefore⟩ := List.forall_mem_cons.mp hBefore
      obtain ⟨hLowDigit, hBefore⟩ := List.forall_mem_cons.mp hBefore
      obtain ⟨h, hHigh⟩ := exists_digit?_iff.mpr hHighDigit
      obtain ⟨l, hLow⟩ := exists_digit?_iff.mpr hLowDigit
      have hEven : (before ++ b :: after).length % 2 = 0 := by
        simp only [List.cons_append, List.length_cons] at hEven
        omega
      have hPlace : position + 2 + before.length = position + (high :: low :: before).length := by
        simp only [List.length_cons]
        omega
      simp only [List.cons_append, decodePairs, hHigh, hLow, ih hEven hBefore, hPlace]

theorem decode_of_odd {text : Bytes} (h : text.length % 2 = 1) :
    decode text = .error (.length (text.length - 1)) := if_pos h

theorem decode_of_even {text : Bytes} (h : text.length % 2 = 0) :
    decode text = decodePairs 0 text := if_neg (by omega)

theorem exists_decode_iff {text : Bytes} :
    (∃ data, decode text = .ok data) ↔ text.length % 2 = 0 ∧ ∀ b ∈ text, IsDigit b := by
  rcases Nat.mod_two_eq_zero_or_one text.length with hEven | hOdd
  · rw [decode_of_even hEven]
    exact exists_decodePairs_iff
  · rw [decode_of_odd hOdd, hOdd]
    exact iff_of_false nofun nofun

theorem decode_eq_ok_iff {text data : Bytes} :
    decode text = .ok data ↔ Utf8.encode (encodeWith lowerDigits data) = text.map lower := by
  rw [← decodePairs_eq_ok_iff 0]
  rcases Nat.mod_two_eq_zero_or_one text.length with hEven | hOdd
  · rw [decode_of_even hEven]
  · rw [decode_of_odd hOdd]
    refine iff_of_false nofun fun hData => ?_
    obtain ⟨hEven, -⟩ := exists_decodePairs_iff.mp ⟨data, hData⟩
    omega

/-! ### Letter case -/

theorem toNat_toLower (c : Char) : c.toLower.toNat =
    if 0x41 ≤ c.toNat ∧ c.toNat ≤ 0x5A then c.toNat + 0x20 else c.toNat := by
  unfold Char.toLower
  by_cases hUpper : 0x41 ≤ c.toNat ∧ c.toNat ≤ 0x5A
  · rw [if_pos hUpper, dif_pos (show c.val ≥ 'A'.val ∧ c.val ≤ 'Z'.val from hUpper)]
    have hSum : (c.val + ('a'.val - 'A'.val)).toNat = (c.toNat + 0x20) % 4294967296 :=
      UInt32.toNat_add _ _
    exact hSum.trans (Nat.mod_eq_of_lt (by omega))
  · rw [if_neg hUpper, dif_neg (show ¬(c.val ≥ 'A'.val ∧ c.val ≤ 'Z'.val) from hUpper)]

theorem map_lower_utf8EncodeChar (c : Char) :
    (String.utf8EncodeChar c).map lower = String.utf8EncodeChar c.toLower := by
  have hCase := toNat_toLower c
  by_cases hAscii : c.toNat < 0x80
  · have hLowerAscii : c.toLower.toNat < 0x80 := by
      rw [hCase]
      split_ifs <;> omega
    have hByte : (UInt8.ofNat c.toNat).toNat = c.toNat :=
      UInt8.toNat_ofNat_of_lt' (show c.toNat < 256 by omega)
    have hSame : lower (UInt8.ofNat c.toNat) = UInt8.ofNat c.toLower.toNat := by
      rw [← UInt8.toNat_inj, toNat_lower, hByte,
        UInt8.toNat_ofNat_of_lt' (show c.toLower.toNat < 256 by omega), hCase]
    rw [Utf8.utf8EncodeChar_ascii hAscii, Utf8.utf8EncodeChar_ascii hLowerAscii, ← hSame]
    rfl
  · have hSame : c.toLower = c := by
      apply Char.toNat_inj.mp
      rw [hCase, if_neg (by omega)]
    have hBytes : (String.utf8EncodeChar c).map lower = (String.utf8EncodeChar c).map id := by
      apply List.map_congr_left
      intro b hb
      have hHigh := Utf8.le_of_mem_utf8EncodeChar hb (not_lt.mp hAscii)
      rw [id, ← UInt8.toNat_inj, toNat_lower, if_neg (by omega)]
    rw [hBytes, List.map_id, hSame]

/-- The lower case of a text is the lower case of its bytes. -/
theorem map_lower_encode (text : List Char) :
    (Utf8.encode text).map lower = Utf8.encode (text.map Char.toLower) := by
  induction text with
  | nil => rfl
  | cons c text ih =>
      rw [Utf8.encode_cons, List.map_append, map_lower_utf8EncodeChar, ih, List.map_cons,
        Utf8.encode_cons]

theorem mem_lowerDigits_of_mem_encodeWith {data : Bytes} {c : Char}
    (h : c ∈ encodeWith lowerDigits data) : c ∈ lowerDigits := by
  obtain ⟨b, -, hc⟩ := List.mem_flatMap.mp h
  have hDigit {n : Nat} (hn : n < 16) : lowerDigits.getD n '0' ∈ lowerDigits := by
    interval_cases n <;> decide
  have hRange := b.toNat_lt
  obtain rfl | rfl : c = lowerDigits.getD (b.toNat / 16) '0' ∨
      c = lowerDigits.getD (b.toNat % 16) '0' := by simpa using hc
  · exact hDigit (by omega)
  · exact hDigit (by omega)

/-- No digit is white space, in neither case. -/
theorem isBlank_of_toLower_mem {c : Char} (h : c.toLower ∈ lowerDigits) :
    Text.isBlank c = false := by
  have hDigits : lowerDigits.all fun digit => 0x30 ≤ digit.toNat ∧ digit.toNat ≤ 0x66 := by decide
  have hDigit := of_decide_eq_true (List.all_eq_true.mp hDigits _ h)
  rw [toNat_toLower] at hDigit
  have hRange : 0x30 ≤ c.toNat ∧ c.toNat ≤ 0x66 := by
    split_ifs at hDigit <;> omega
  simp only [Text.isBlank, Bool.or_eq_false_iff, Bool.and_eq_false_iff, decide_eq_false_iff_not,
    beq_eq_false_iff_ne]
  omega

end Hex

/-! ### Fields -/

theorem decodeHex_of_trimmed {field value : String} {inner : List Char}
    (h : Text.Trimmed value.toList inner) :
    decodeHex field value = (Hex.decode (Utf8.encode inner)).mapError (.hex field) := by
  have hBytes : (Text.trim value.toList).flatMap String.utf8EncodeChar =
      Utf8.encode (Text.trim value.toList) := rfl
  rw [h.eq_trim, decodeHex, hBytes]
  cases Hex.decode (Utf8.encode (Text.trim value.toList)) <;> rfl

theorem decodeHex_eq_ok_iff {field value : String} {inner : List Char} {data : Bytes}
    (h : Text.Trimmed value.toList inner) :
    decodeHex field value = .ok data ↔ inner.map Char.toLower = (Hex.encode data).toList := by
  have hDecode : decodeHex field value = .ok data ↔ Hex.decode (Utf8.encode inner) = .ok data := by
    rw [decodeHex_of_trimmed h]
    cases Hex.decode (Utf8.encode inner) <;> simp [Except.mapError]
  rw [hDecode, Hex.decode_eq_ok_iff, Hex.map_lower_encode, Hex.encode, String.toList_ofList]
  exact ⟨fun hSame => (Utf8.encode_injective hSame).symm, fun hSame => by rw [hSame]⟩

/-- What is written in either letter case, or in both, has no white space in it. -/
theorem trimmed_of_writing {data : Bytes} {before spelled after : List Char}
    (hBefore : ∀ c ∈ before, Text.isBlank c = true) (hAfter : ∀ c ∈ after, Text.isBlank c = true)
    (hSpelled : spelled.map Char.toLower = (Hex.encode data).toList) :
    Text.Trimmed (String.ofList (before ++ spelled ++ after)).toList spelled := by
  have hDigit : ∀ c ∈ spelled, Text.isBlank c = false := by
    intro c hc
    have hLower : c.toLower ∈ spelled.map Char.toLower := List.mem_map_of_mem hc
    rw [hSpelled, Hex.encode, String.toList_ofList] at hLower
    exact Hex.isBlank_of_toLower_mem (Hex.mem_lowerDigits_of_mem_encodeWith hLower)
  refine ⟨⟨before, after, hBefore, hAfter, String.toList_ofList⟩, fun h => ?_, fun h => ?_⟩
  · exact hDigit _ (List.head_mem h)
  · exact hDigit _ (List.getLast_mem h)

/-- Which texts a field may hold, what they are read as, and how the others fail. Of a text the
inner part counts, without the white space at both ends. It can be read exactly if its bytes are
digits, of either letter case, and even in number, and is read as the bytes whose writing is its
lower case. An odd number of bytes is a fault at the last one, whatever the bytes are; otherwise the
fault is at the first byte that is no digit. So reading undoes writing, in any letter case and with
any white space around. -/
theorem decodeHex_exact (field : String) :
    (∀ value : String, ∃ inner v, Text.Trimmed value.toList inner ∧ v = Utf8.encode inner ∧
      ((∃ data, decodeHex field value = .ok data) ↔
        v.length % 2 = 0 ∧ ∀ b ∈ v, Hex.IsDigit b) ∧
      (∀ data, decodeHex field value = .ok data ↔
        inner.map Char.toLower = (Hex.encode data).toList) ∧
      (v.length % 2 = 1 →
        decodeHex field value = .error (.hex field (.length (v.length - 1)))) ∧
      ∀ before b after, v = before ++ b :: after → v.length % 2 = 0 →
        (∀ digit ∈ before, Hex.IsDigit digit) → ¬Hex.IsDigit b →
          decodeHex field value = .error (.hex field (.symbol before.length))) ∧
    ∀ data before spelled after, spelled.map Char.toLower = (Hex.encode data).toList →
      (∀ c ∈ before, Text.isBlank c = true) → (∀ c ∈ after, Text.isBlank c = true) →
        decodeHex field (String.ofList (before ++ spelled ++ after)) = .ok data := by
  constructor
  · intro value
    have hTrimmed := Text.trimmed_trim value.toList
    refine ⟨_, _, hTrimmed, rfl, ?_, fun data => decodeHex_eq_ok_iff hTrimmed, fun hOdd => ?_, ?_⟩
    · rw [← Hex.exists_decode_iff, decodeHex_of_trimmed hTrimmed]
      cases Hex.decode (Utf8.encode (Text.trim value.toList)) <;> simp [Except.mapError]
    · rw [decodeHex_of_trimmed hTrimmed, Hex.decode_of_odd hOdd]
      rfl
    · intro before b after hBytes hEven hBefore hFault
      rw [decodeHex_of_trimmed hTrimmed, Hex.decode_of_even hEven, hBytes,
        Hex.decodePairs_symbol (hBytes ▸ hEven) hBefore hFault, Nat.zero_add]
      rfl
  · intro data before spelled after hSpelled hBefore hAfter
    exact (decodeHex_eq_ok_iff (trimmed_of_writing hBefore hAfter hSpelled)).mpr hSpelled

/-- Both letter cases between an ideographic space and a line end; three bytes that are no digit; and a
character of two bytes after a digit. -/
theorem decodeHex_exact_of_texts :
    decodeHex "key" "　aBCd
" = .ok [0xAB, 0xCD] ∧
      decodeHex "key" " zzz " = .error (.hex "key" (.length 2)) ∧
      decodeHex "key" "0é0" = .error (.hex "key" (.symbol 1)) := by
  obtain ⟨hRead, hWritten⟩ := decodeHex_exact "key"
  refine ⟨?_, ?_, ?_⟩
  · exact hWritten [0xAB, 0xCD] ['\u3000'] ['a', 'B', 'C', 'd'] ['\n'] rfl
      (List.forall_mem_singleton.mpr rfl) (List.forall_mem_singleton.mpr rfl)
  · obtain ⟨inner, v, hTrimmed, hv, -, -, hOdd, -⟩ := hRead " zzz "
    have hBytes : v = [0x7A, 0x7A, 0x7A] := by
      rw [hv, hTrimmed.eq_trim]
      rfl
    subst hBytes
    exact hOdd rfl
  · obtain ⟨inner, v, hTrimmed, hv, -, -, -, hSymbol⟩ := hRead "0é0"
    have hBytes : v = [0x30] ++ 0xC3 :: [0xA9, 0x30] := by
      rw [hv, hTrimmed.eq_trim]
      rfl
    exact hSymbol [0x30] 0xC3 [0xA9, 0x30] hBytes (hBytes ▸ rfl)
      (List.forall_mem_singleton.mpr (by decide)) (by decide)

end LockRelay
