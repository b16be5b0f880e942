import LockRelay.Json.Printer
import LockRelay.Json.Value
import LockRelay.Proofs.Text.Encoding

/-! Printed numbers and strings are read back. A number is over where its digits are, so what
follows one matters; a string says itself where it ends. -/
namespace LockRelay.Json

variable {n significand : Nat} {b c : UInt8} {digits rest text : Bytes}

/-- What may follow a printed value: nothing, the next item, or the end of what holds the value. -/
def Ends (rest : Bytes) : Prop :=
  ∀ b, rest.head? = some b → b = comma ∨ b = closeBracket ∨ b = closeBrace

theorem ends_nil : Ends [] := nofun

theorem ends_cons (h : b = comma ∨ b = closeBracket ∨ b = closeBrace) (rest : Bytes) :
    Ends (b :: rest) := by
  rintro _ ⟨⟩
  exact h

/-- A text is read as a value, wherever it may stand. -/
def Reads {α : Type} (read : Bytes → Reading α) (text : Bytes) (value : α) : Prop :=
  ∀ rest, Ends rest → read (text ++ rest) = .ok (value, rest)

/-! Numbers -/

theorem encode_digits {digits : List Char} (h : ∀ c ∈ digits, c.toNat < 0x80) :
    Utf8.encode digits = digits.map fun c => UInt8.ofNat c.toNat := by
  induction digits with
  | nil => rfl
  | cons c digits ih =>
      rw [Utf8.encode_cons, Utf8.utf8EncodeChar_ascii (h c List.mem_cons_self),
        ih fun d hd => h d (List.mem_cons_of_mem _ hd)]
      rfl

theorem printNatural_eq (n : Nat) :
    printNatural n = (Nat.toDigits 10 n).map fun c => UInt8.ofNat c.toNat := by
  rw [printNatural, utf8, Nat.toString_eq_ofList_toDigits, String.toList_ofList]
  apply encode_digits
  intro c hc
  have hDigit := Nat.isDigit_of_mem_toDigits (by decide) (by decide) hc
  simp only [Char.isDigit, Bool.and_eq_true, decide_eq_true_eq] at hDigit
  have hLast : c.toNat ≤ 57 := UInt32.le_iff_toNat_le.mp hDigit.2
  omega

theorem digitByte : ∀ n < 10, UInt8.ofNat (Nat.digitChar n).toNat = UInt8.ofNat (48 + n) := by
  decide

theorem printNatural_of_lt (h : n < 10) : printNatural n = [UInt8.ofNat (48 + n)] := by
  rw [printNatural_eq, Nat.toDigits_of_lt_base h, List.map_singleton, digitByte n h]

theorem printNatural_of_le (h : 10 ≤ n) :
    printNatural n = printNatural (n / 10) ++ [UInt8.ofNat (48 + n % 10)] := by
  rw [printNatural_eq, printNatural_eq, Nat.toDigits_of_base_le (by decide) h, List.map_append,
    List.map_singleton, digitByte _ (Nat.mod_lt n (by decide))]

theorem isDigit_ofNat : ∀ n < 10, isDigit (UInt8.ofNat (48 + n)) = true := by decide

theorem digitValue_ofNat : ∀ n < 10, digitValue (UInt8.ofNat (48 + n)) = n := by decide

theorem printNatural_ne_nil (n : Nat) : printNatural n ≠ [] := by
  by_cases h : n < 10
  · simp [printNatural_of_lt h]
  · simp [printNatural_of_le (not_lt.mp h)]

theorem isDigit_of_mem_printNatural (h : b ∈ printNatural n) : isDigit b = true := by
  induction n using Nat.strongRecOn with
  | ind n ih =>
      by_cases hn : n < 10
      · rw [printNatural_of_lt hn, List.mem_singleton] at h
        rw [h]
        exact isDigit_ofNat n hn
      · rw [printNatural_of_le (not_lt.mp hn), List.mem_append, List.mem_singleton] at h
        rcases h with h | rfl
        · exact ih (n / 10) (by omega) h
        · exact isDigit_ofNat _ (Nat.mod_lt n (by decide))

theorem printNatural_eq_cons (n : Nat) :
    ∃ b rest, printNatural n = b :: rest ∧ isDigit b = true := by
  cases hText : printNatural n with
  | nil => exact absurd hText (printNatural_ne_nil n)
  | cons b rest =>
      have hMember : b ∈ printNatural n := by
        rw [hText]
        exact List.mem_cons_self
      exact ⟨b, rest, rfl, isDigit_of_mem_printNatural hMember⟩

theorem valueOf_printNatural (n : Nat) : valueOf (printNatural n) = n := by
  unfold valueOf
  induction n using Nat.strongRecOn with
  | ind n ih =>
      by_cases hn : n < 10
      · rw [printNatural_of_lt hn, List.foldl_cons, List.foldl_nil, digitValue_ofNat n hn]
        omega
      · rw [printNatural_of_le (not_lt.mp hn), List.foldl_append, ih (n / 10) (by omega)]
        simp only [List.foldl_cons, List.foldl_nil, digitValue_ofNat _ (Nat.mod_lt n (by decide))]
        omega

/-- No number but zero starts with a zero. -/
theorem head_printNatural (h : n ≠ 0) : (printNatural n).head? ≠ some 0x30 := by
  induction n using Nat.strongRecOn with
  | ind n ih =>
      by_cases hn : n < 10
      · have hDigits : ∀ n < 10, n ≠ 0 → UInt8.ofNat (48 + n) ≠ 0x30 := by decide
        rw [printNatural_of_lt hn]
        intro hHead
        exact hDigits n hn h (Option.some.inj hHead)
      · rw [printNatural_of_le (not_lt.mp hn),
          List.head?_append_of_ne_nil _ (printNatural_ne_nil _)]
        exact ih (n / 10) (by omega) (by omega)

theorem splitDigits_append (hDigits : ∀ b ∈ digits, isDigit b = true)
    (hRest : ∀ b, rest.head? = some b → isDigit b = false) :
    splitDigits (digits ++ rest) = (digits, rest) := by
  induction digits with
  | nil =>
      cases rest with
      | nil => rfl
      | cons b rest => simp [splitDigits, hRest b rfl]
  | cons b digits ih =>
      have hb := hDigits b List.mem_cons_self
      have hTail := ih fun c hc => hDigits c (List.mem_cons_of_mem _ hc)
      simp [splitDigits, hb, hTail]

theorem le_foldl (digits : Bytes) (significand : Nat) :
    significand ≤ digits.foldl (fun n b => 10 * n + digitValue b) significand := by
  induction digits generalizing significand with
  | nil => exact le_rfl
  | cons b digits ih => exact le_trans (by omega) (ih (10 * significand + digitValue b))

/-- Digits are taken as long as the number fits. -/
theorem extend_eq
    (h : digits.foldl (fun n b => 10 * n + digitValue b) significand < UInt64.size) :
    extend significand digits =
      (digits.foldl (fun n b => 10 * n + digitValue b) significand, digits.length) := by
  induction digits generalizing significand with
  | nil => rfl
  | cons b digits ih =>
      have hNext : 10 * significand + digitValue b < UInt64.size :=
        lt_of_le_of_lt (le_foldl digits _) h
      simp only [extend, if_pos hNext, ih h]
      rfl

theorem readNumber_printNatural (h : n < UInt64.size) :
    Reads (readNumber false) (printNatural n) (.natural n) := by
  intro rest hRest
  have hSplit : splitDigits (printNatural n ++ rest) = (printNatural n, rest) := by
    refine splitDigits_append (fun b hb => isDigit_of_mem_printNatural hb) fun b hHead => ?_
    rcases hRest b hHead with rfl | rfl | rfl <;> rfl
  have hExtend : extend 0 (printNatural n) = (n, (printNatural n).length) := by
    have hValue := valueOf_printNatural n
    unfold valueOf at hValue
    rw [extend_eq (by rwa [hValue]), hValue]
  have hLeading : ¬((printNatural n).length > 1 ∧ (printNatural n).head? = some 0x30) := by
    rintro ⟨hLength, hHead⟩
    refine head_printNatural ?_ hHead
    rintro rfl
    rw [printNatural_of_lt (by decide)] at hLength
    exact absurd hLength (by decide)
  have hSome := printNatural_ne_nil n
  generalize printNatural n = digits at hSplit hExtend hLeading hSome ⊢
  cases digits with
  | nil => exact absurd rfl hSome
  | cons b digits =>
      unfold readNumber
      simp only [hSplit, if_neg hLeading, hExtend]
      cases rest with
      | nil => simp [wholeNumber]
      | cons c rest =>
          simp only [lt_irrefl, or_false]
          rcases hRest c rfl with rfl | rfl | rfl <;> rfl

/-! Strings -/

theorem prepend_nil (reading : Reading Bytes) : prepend [] reading = reading := by
  cases reading <;> rfl

theorem prepend_append (bytes more : Bytes) (reading : Reading Bytes) :
    prepend (bytes ++ more) reading = prepend bytes (prepend more reading) := by
  rcases reading with fault | ⟨found, rest⟩
  · rfl
  · exact congrArg (fun bytes => Except.ok (bytes, rest)) (List.append_assoc bytes more found)

/-- A byte that stands for itself in a string. -/
def Plain (b : UInt8) : Prop := b ≠ quoteMark ∧ b ≠ backslash ∧ 0x20 ≤ b.toNat

instance : DecidablePred Plain := fun b =>
  inferInstanceAs (Decidable (b ≠ quoteMark ∧ b ≠ backslash ∧ 0x20 ≤ b.toNat))

theorem readRaw_plain (h : Plain b) (rest : Bytes) :
    readRaw (b :: rest) = prepend [b] (readRaw rest) := by
  obtain ⟨hQuote, hEscape, hControl⟩ := h
  have hPrints : ¬b < 0x20 := by
    rw [UInt8.lt_iff_toNat_lt]
    exact not_lt.mpr hControl
  rw [readRaw.eq_def]
  split <;> simp_all

theorem readRaw_plain_append {bytes : Bytes} (h : ∀ b ∈ bytes, Plain b) (rest : Bytes) :
    readRaw (bytes ++ rest) = prepend bytes (readRaw rest) := by
  induction bytes with
  | nil => exact (prepend_nil _).symm
  | cons b bytes ih =>
      rw [List.cons_append, readRaw_plain (h b List.mem_cons_self),
        ih fun c hc => h c (List.mem_cons_of_mem _ hc), ← prepend_append]
      rfl

theorem readRaw_simple (h : simpleEscape? b = some c) (rest : Bytes) :
    readRaw (backslash :: b :: rest) = prepend [c] (readRaw rest) := by
  have hUnit : b ≠ letterU := by
    rintro rfl
    cases h
  refine (readRaw.eq_6 b rest (fun _ _ _ _ _ hSame => absurd hSame hUnit) hUnit).trans ?_
  rw [h]

theorem readRaw_unit {w x y z : UInt8} (h : hexUnit? w x y z = some n)
    (hLow : isLowSurrogate n = false) (hHigh : isHighSurrogate n = false) (rest : Bytes) :
    readRaw (backslash :: letterU :: w :: x :: y :: z :: rest) =
      prepend (String.utf8EncodeChar (Char.ofNat n)) (readRaw rest) := by
  refine (readRaw.eq_4 w x y z rest).trans ?_
  simp [h, hLow, hHigh]

theorem encode_smallUnit : ∀ n < 0x20, ∃ y z, hexUnit? 0x30 0x30 y z = some n ∧
    Utf8.encode (['\\', 'u'] ++ smallUnit n) = [backslash, letterU, 0x30, 0x30, y, z] := by
  have hDigits : ∀ n < 0x20, hexUnit? 0x30 0x30 (UInt8.ofNat (Nat.digitChar (n / 16)).toNat)
        (UInt8.ofNat (Nat.digitChar (n % 16)).toNat) = some n ∧
      Utf8.encode (['\\', 'u'] ++ smallUnit n) = [backslash, letterU, 0x30, 0x30,
        UInt8.ofNat (Nat.digitChar (n / 16)).toNat,
        UInt8.ofNat (Nat.digitChar (n % 16)).toNat] := by decide
  exact fun n hn => ⟨_, _, (hDigits n hn).1, (hDigits n hn).2⟩

theorem plain_of_mem_utf8EncodeChar {c : Char} (hQuote : c ≠ '"') (hEscape : c ≠ '\\')
    (hPrints : 0x20 ≤ c.toNat) (hb : b ∈ String.utf8EncodeChar c) : Plain b := by
  by_cases hSmall : c.toNat < 0x80
  · rw [Utf8.utf8EncodeChar_ascii hSmall, List.mem_singleton] at hb
    have hByte : b.toNat = c.toNat := by
      rw [hb]
      exact UInt8.toNat_ofNat_of_lt' (show c.toNat < 256 by omega)
    have hNot {d : Char} (hd : c ≠ d) {e : UInt8} (he : e.toNat = d.toNat) : b ≠ e := by
      rintro rfl
      exact hd (Char.toNat_inj.mp (hByte.symm.trans he))
    exact ⟨hNot hQuote rfl, hNot hEscape rfl, hByte ▸ hPrints⟩
  · have hLarge := Utf8.le_of_mem_utf8EncodeChar hb (not_lt.mp hSmall)
    refine ⟨?_, ?_, by omega⟩
    · rintro rfl
      exact absurd hLarge (by decide)
    · rintro rfl
      exact absurd hLarge (by decide)

/-- A character of a string is read back, however it is escaped. -/
theorem readRaw_escapeChar (c : Char) (rest : Bytes) :
    readRaw (Utf8.encode (escapeChar c) ++ rest) =
      prepend (String.utf8EncodeChar c) (readRaw rest) := by
  unfold escapeChar
  split_ifs with hQuote hEscape hBack hFeed hLine hReturn hTab hControl
  · subst hQuote
    exact readRaw_simple rfl rest
  · subst hEscape
    exact readRaw_simple rfl rest
  · subst hBack
    exact readRaw_simple rfl rest
  · subst hFeed
    exact readRaw_simple rfl rest
  · subst hLine
    exact readRaw_simple rfl rest
  · subst hReturn
    exact readRaw_simple rfl rest
  · subst hTab
    exact readRaw_simple rfl rest
  · obtain ⟨y, z, hUnit, hEncoded⟩ := encode_smallUnit c.toNat hControl
    have hLow : isLowSurrogate c.toNat = false := by
      simp only [isLowSurrogate, Bool.and_eq_false_iff, decide_eq_false_iff_not]
      omega
    have hHigh : isHighSurrogate c.toNat = false := by
      simp only [isHighSurrogate, Bool.and_eq_false_iff, decide_eq_false_iff_not]
      omega
    rw [hEncoded]
    exact (readRaw_unit hUnit hLow hHigh rest).trans (by rw [Char.ofNat_toNat])
  · have hOne : Utf8.encode [c] = String.utf8EncodeChar c := List.append_nil _
    rw [hOne]
    refine readRaw_plain_append (fun b hb => ?_) rest
    exact plain_of_mem_utf8EncodeChar hQuote hEscape (not_lt.mp hControl) hb

/-- The bytes of a printed string after its opening quote. -/
def stringBody (text : String) : Bytes :=
  Utf8.encode (text.toList.flatMap escapeChar ++ ['"'])

theorem printString_eq (text : String) : printString text = quoteMark :: stringBody text := rfl

theorem readRaw_stringBody (text : List Char) (rest : Bytes) :
    readRaw (Utf8.encode (text.flatMap escapeChar ++ ['"']) ++ rest) =
      .ok (Utf8.encode text, rest) := by
  induction text with
  | nil => exact readRaw.eq_2 rest
  | cons c text ih =>
      rw [List.flatMap_cons, List.append_assoc, Utf8.encode_append, List.append_assoc,
        readRaw_escapeChar, ih]
      rfl

theorem readString_stringBody (text : String) (rest : Bytes) :
    readString (stringBody text ++ rest) = .ok (text, rest) := by
  unfold readString stringBody
  simp only [readRaw_stringBody, Utf8.decode_encode, String.ofList_toList]

end LockRelay.Json
