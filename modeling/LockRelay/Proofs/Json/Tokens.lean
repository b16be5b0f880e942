import LockRelay.Proofs.Json.Collections
import LockRelay.Proofs.Json.Grammar

/-! The tokens of the grammar: how strings and numbers are read, how they are passed over, and what
stands between values. A reader finds in a token what it means, or fails if it means nothing; whoever
passes over it does not ask. -/
namespace LockRelay.Json

variable {gap gap' rest : Bytes} {b : UInt8}

/-- What follows cannot continue a number. -/
def Stops (rest : Bytes) : Prop :=
  ∀ b, rest.head? = some b → isDigit b = false ∧ b ≠ point ∧ isExponentLetter b = false

theorem stops_cons (h : isDigit b = false ∧ b ≠ point ∧ isExponentLetter b = false) (rest : Bytes) :
    Stops (b :: rest) := by
  rintro _ ⟨⟩
  exact h

theorem stops_of_blank (hGap : Blank gap) (h : Stops rest) : Stops (gap ++ rest) := by
  cases gap with
  | nil => exact h
  | cons b gap =>
      have hBlank := hGap b List.mem_cons_self
      refine stops_cons ?_ _
      simp only [isBlankByte, Bool.or_eq_true, beq_iff_eq] at hBlank
      rcases hBlank with ((rfl | rfl) | rfl) | rfl <;> decide

theorem skipBlank_append (hGap : Blank gap) (rest : Bytes) :
    skipBlank (gap ++ rest) = skipBlank rest := by
  induction gap with
  | nil => rfl
  | cons b gap ih =>
      simp only [List.cons_append, skipBlank, hGap b List.mem_cons_self, if_true]
      exact ih fun c hc => hGap c (List.mem_cons_of_mem _ hc)

/-- A reader that finds what a text means, if it means something, succeeds with it or fails. -/
theorem reading_cases {α : Type} {reading : Reading α} {meaning : Option α}
    (h : reading.toOption = meaning.map (·, rest)) :
    (∃ a, meaning = some a ∧ reading = .ok (a, rest)) ∨
      meaning = none ∧ ∃ fault, reading = .error fault := by
  rcases reading with fault | ⟨a, after⟩
  · exact Or.inr ⟨Option.map_eq_none_iff.mp h.symm, fault, rfl⟩
  · obtain ⟨b, hMeaning, hSame⟩ := Option.map_eq_some_iff.mp h.symm
    exact Or.inl ⟨b, hMeaning, congrArg Except.ok hSame.symm⟩

/-! Strings -/

theorem toOption_prepend (bytes : Bytes) (reading : Reading Bytes) :
    (prepend bytes reading).toOption = reading.toOption.map (Prod.map (bytes ++ ·) id) := by
  rcases reading with fault | ⟨found, rest⟩ <;> rfl

namespace Spelling

theorem body_cons (symbol : Symbol) (s : Spelling) : body (symbol :: s) = symbol.text ++ body s := by
  simp [body]

theorem toOption_prepend_readRaw {s : Spelling} (bytes : Bytes)
    (h : (readRaw (s.body ++ rest)).toOption = s.resolve.map (·, rest)) :
    (prepend bytes (readRaw (s.body ++ rest))).toOption =
      (s.resolve.map (bytes ++ ·)).map (·, rest) := by
  rw [toOption_prepend, h, Option.map_map, Option.map_map]
  rfl

variable {w x y z e f g i : UInt8} {n low : Nat}

theorem readRaw_low (h : hexUnit? w x y z = some n) (hLow : isLowSurrogate n = true)
    (rest : Bytes) : readRaw (backslash :: letterU :: w :: x :: y :: z :: rest) =
      .error (.breach .loneSurrogate) := by
  refine (readRaw.eq_4 w x y z rest).trans ?_
  simp [h, hLow]

/-- After the first half of a pair the second is looked for. -/
theorem readRaw_high (h : hexUnit? w x y z = some n) (hFirst : isLowSurrogate n = false)
    (hHigh : isHighSurrogate n = true) (e f g i : UInt8) (rest : Bytes) :
    readRaw (backslash :: letterU :: w :: x :: y :: z :: backslash :: letterU :: e :: f :: g :: i ::
      rest) =
      match hexUnit? e f g i with
      | none => .error (.breach .invalidEscape)
      | some low =>
          if isLowSurrogate low then
            prepend (String.utf8EncodeChar (surrogatePair n low)) (readRaw rest)
          else .error (.breach .loneSurrogate) := by
  refine (readRaw.eq_4 w x y z _).trans ?_
  simp only [h, hFirst, hHigh, Bool.false_eq_true, if_false, if_true]
  rfl

theorem readRaw_pair (h : hexUnit? w x y z = some n) (hFirst : isLowSurrogate n = false)
    (hHigh : isHighSurrogate n = true) (h' : hexUnit? e f g i = some low)
    (hLow : isLowSurrogate low = true) (rest : Bytes) :
    readRaw (backslash :: letterU :: w :: x :: y :: z :: backslash :: letterU :: e :: f :: g :: i ::
      rest) = prepend (String.utf8EncodeChar (surrogatePair n low)) (readRaw rest) := by
  rw [readRaw_high h hFirst hHigh, h']
  exact if_pos hLow

/-- After the first half of a pair nothing will do but the second. -/
theorem readRaw_broken (h : hexUnit? w x y z = some n) (hFirst : isLowSurrogate n = false)
    (hHigh : isHighSurrogate n = true) {s : Spelling}
    (hNext : ∀ e f g i low h' s', s = .unit e f g i low h' :: s' → isLowSurrogate low = false)
    (rest : Bytes) :
    (readRaw (backslash :: letterU :: w :: x :: y :: z :: (body s ++ rest))).toOption = none := by
  cases s with
  | nil =>
      refine (congrArg Except.toOption (readRaw.eq_4 w x y z _)).trans ?_
      simp only [h, hFirst, hHigh, Bool.false_eq_true, if_false, if_true]
      rfl
  | cons symbol s =>
      rw [body_cons]
      cases symbol with
      | byte b hPlain =>
          obtain ⟨-, hEscape, -⟩ := hPlain
          refine (congrArg Except.toOption (readRaw.eq_4 w x y z _)).trans ?_
          simp [h, hFirst, hHigh, Symbol.text, hEscape, Except.toOption]
      | escape letter meaning hEscape =>
          have hUnit : letter ≠ letterU := by
            rintro rfl
            cases hEscape
          refine (congrArg Except.toOption (readRaw.eq_4 w x y z _)).trans ?_
          simp [h, hFirst, hHigh, Symbol.text, hUnit, Except.toOption]
      | unit e f g i low h' =>
          have hLow := hNext e f g i low h' s rfl
          refine (congrArg Except.toOption (readRaw_high h hFirst hHigh e f g i _)).trans ?_
          simp [h', hLow, Except.toOption]

/-- Bytes are read one symbol after another. -/
theorem toOption_readRaw (s : Spelling) (rest : Bytes) :
    (readRaw (s.body ++ rest)).toOption = s.resolve.map (·, rest) := by
  fun_induction resolve s with
  | case1 => rfl
  | case2 b h s ih =>
      rw [body_cons]
      refine (congrArg Except.toOption (readRaw_plain h _)).trans ?_
      exact toOption_prepend_readRaw [b] ih
  | case3 letter meaning h s ih =>
      rw [body_cons]
      refine (congrArg Except.toOption (readRaw_simple h _)).trans ?_
      exact toOption_prepend_readRaw [meaning] ih
  | case4 w x y z n h s hLow =>
      rw [body_cons]
      exact congrArg Except.toOption (readRaw_low h hLow _)
  | case5 w x y z n h hFirst hHigh e f g i low h' s hLow ih =>
      rw [body_cons, body_cons]
      refine (congrArg Except.toOption
        (readRaw_pair h (Bool.eq_false_of_not_eq_true hFirst) hHigh h' hLow _)).trans ?_
      exact toOption_prepend_readRaw _ ih
  | case6 w x y z n h hFirst hHigh e f g i low h' s hLow =>
      rw [body_cons]
      refine readRaw_broken h (Bool.eq_false_of_not_eq_true hFirst) hHigh ?_ rest
      rintro _ _ _ _ _ _ _ ⟨⟩
      exact Bool.eq_false_of_not_eq_true hLow
  | case7 w x y z n h s hFirst hHigh hNext =>
      rw [body_cons]
      refine readRaw_broken h (Bool.eq_false_of_not_eq_true hFirst) hHigh ?_ rest
      intro e f g i low h' s' hSame
      exact absurd hSame (hNext e f g i low h' s')
  | case8 w x y z n h s hFirst hHigh ih =>
      rw [body_cons]
      refine (congrArg Except.toOption (readRaw_unit h (Bool.eq_false_of_not_eq_true hFirst)
        (Bool.eq_false_of_not_eq_true hHigh) _)).trans ?_
      exact toOption_prepend_readRaw _ ih

/-- A string is read as the text that it is. -/
theorem toOption_readString (s : Spelling) (rest : Bytes) :
    (readString (s.body ++ rest)).toOption = s.string?.map (·, rest) := by
  have hRaw := toOption_readRaw s rest
  unfold readString string?
  rcases hRead : readRaw (s.body ++ rest) with fault | ⟨raw, after⟩
  all_goals rw [hRead] at hRaw
  · cases hResolved : s.resolve with
    | none => rfl
    | some found =>
        rw [hResolved] at hRaw
        cases hRaw
  · obtain ⟨found, hResolved, hSame⟩ := Option.map_eq_some_iff.mp hRaw.symm
    obtain ⟨rfl, rfl⟩ := Prod.mk.inj hSame
    rw [hResolved, Option.bind_some]
    cases hDecoded : Utf8.decode? found <;> simp [hDecoded, Except.toOption]

theorem skipString_plain (h : Plain b) (rest : Bytes) : skipString (b :: rest) = skipString rest := by
  obtain ⟨hQuote, hEscape, hControl⟩ := h
  have hPrints : ¬b < 0x20 := by
    rw [UInt8.lt_iff_toNat_lt]
    exact not_lt.mpr hControl
  rw [skipString.eq_def]
  split <;> simp_all

theorem skipString_simple {letter c : UInt8} (h : simpleEscape? letter = some c) (rest : Bytes) :
    skipString (backslash :: letter :: rest) = skipString rest := by
  have hUnit : letter ≠ letterU := by
    rintro rfl
    cases h
  refine (skipString.eq_6 letter rest (fun _ _ _ _ _ hSame => absurd hSame hUnit) hUnit).trans ?_
  rw [h]

/-- Whoever passes over a string does not ask whether it is text. -/
theorem skipString_body (s : Spelling) (rest : Bytes) : skipString (s.body ++ rest) = .ok rest := by
  induction s with
  | nil => rfl
  | cons symbol s ih =>
      rw [body_cons]
      cases symbol with
      | byte b h => exact (skipString_plain h _).trans ih
      | escape letter meaning h => exact (skipString_simple h _).trans ih
      | unit w x y z n h =>
          refine (skipString.eq_4 w x y z _).trans ?_
          rw [h]
          exact ih

end Spelling

/-! Numbers -/

theorem splitDigits_text (digits : Digits)
    (hRest : ∀ b, rest.head? = some b → isDigit b = false) :
    splitDigits (digits.text ++ rest) = (digits.text, rest) :=
  splitDigits_append digits.isDigit hRest

theorem Digits.eq_cons (digits : Digits) :
    ∃ b more, digits.text = b :: more ∧ LockRelay.Json.isDigit b = true := by
  have hSome := digits.isSome
  have hDigits := digits.isDigit
  cases hText : digits.text with
  | nil => exact absurd hText hSome
  | cons b more =>
      rw [hText] at hDigits
      exact ⟨b, more, rfl, hDigits b List.mem_cons_self⟩

theorem Stops.not_digit (h : Stops rest) : ∀ b, rest.head? = some b → isDigit b = false :=
  fun b hHead => (h b hHead).1

namespace Literal

theorem readExponentSign_text (e : Scale) (rest : Bytes) :
    readExponentSign (Scale.signText e.sign ++ (e.digits.text ++ rest)) =
      (e.down, e.digits.text ++ rest) := by
  obtain ⟨b, more, hText, hDigit⟩ := e.digits.eq_cons
  unfold Scale.down
  cases e.sign with
  | none =>
      have hMinus : b ≠ minus := by
        rintro rfl
        cases hDigit
      have hPlus : b ≠ plus := by
        rintro rfl
        cases hDigit
      rw [hText]
      exact readExponentSign.eq_3 _ (fun _ hSame => hMinus (List.cons.inj hSame).1)
        (fun _ hSame => hPlus (List.cons.inj hSame).1)
  | some down => cases down <;> rfl

variable (negative : Bool) (significand : Nat) (exponent : Int)

theorem toOption_readExponent (e : Scale) (hRest : Stops rest) :
    (readExponent negative significand exponent
        (Scale.signText e.sign ++ (e.digits.text ++ rest))).toOption =
      (scaled? negative significand exponent (some e)).map (·, rest) := by
  have hSplit := splitDigits_text e.digits hRest.not_digit
  obtain ⟨b, more, hText, -⟩ := e.digits.eq_cons
  have hSign := readExponentSign_text e rest
  unfold readExponent scaled?
  rw [hText] at hSplit hSign
  simp only [hText, hSign, hSplit]
  split_ifs
  · cases scaledNumber negative significand (exponent - valueOf (b :: more)) <;> rfl
  · cases scaledNumber negative significand (exponent + valueOf (b :: more)) <;> rfl
  · rfl
  · rfl

/-- A number without an exponent. -/
theorem toOption_scaledNumber (text : Bytes) : Except.toOption
    (match scaledNumber negative significand exponent with
    | .ok number => .ok (number, text)
    | .error fault => .error fault) =
      (scaled? negative significand exponent none).map (·, text) := by
  unfold scaled?
  cases scaledNumber negative significand exponent <;> rfl

/-- An exponent is read, or there is none. -/
theorem toOption_readScale (scale : Option Scale) (hRest : Stops rest) :
    (readScale negative significand exponent (scaleText scale ++ rest)).toOption =
      (scaled? negative significand exponent scale).map (·, rest) := by
  cases scale with
  | some e =>
      have hExponent := toOption_readExponent negative significand exponent e hRest
      unfold readScale
      simp only [scaleText, Scale.text, List.cons_append, List.append_assoc, e.isLetter, if_true]
      exact hExponent
  | none =>
      have hPlain := toOption_scaledNumber negative significand exponent
      unfold readScale
      cases rest with
      | nil => exact hPlain []
      | cons b rest =>
          obtain ⟨-, -, hLetter⟩ := hRest b rfl
          simp only [scaleText, List.nil_append, hLetter, Bool.false_eq_true, if_false]
          exact hPlain (b :: rest)

/-- What follows the digits of a number does not begin with one. -/
theorem not_digit_of_tail (fraction : Option Digits) (scale : Option Scale) (hRest : Stops rest) :
    ∀ b, (fractionText fraction ++ (scaleText scale ++ rest)).head? = some b →
      isDigit b = false := by
  cases fraction with
  | some digits => rintro _ ⟨⟩; rfl
  | none =>
      cases scale with
      | none => exact hRest.not_digit
      | some e =>
          rintro _ ⟨⟩
          have hLetter := e.isLetter
          simp only [isExponentLetter, Bool.or_eq_true, beq_iff_eq] at hLetter
          rcases hLetter with hLetter | hLetter
          · rw [hLetter]; rfl
          · rw [hLetter]; rfl

theorem toOption_readFraction (digits : Digits) (scale : Option Scale) (hRest : Stops rest) :
    (readFraction negative significand exponent
        (digits.text ++ (scaleText scale ++ rest))).toOption =
      (scaled? negative (extend significand digits.text).1
        (exponent - (extend significand digits.text).2) scale).map (·, rest) := by
  have hSplit := splitDigits_text digits (not_digit_of_tail none scale hRest)
  obtain ⟨b, more, hText, -⟩ := digits.eq_cons
  unfold readFraction
  rw [fractionText, List.nil_append] at hSplit
  rw [hSplit]
  simp only [hText]
  exact toOption_readScale _ _ _ scale hRest

/-- No point follows the whole part of a number without a fraction, and a letter only if there is an
exponent. -/
theorem scaleText_append (scale : Option Scale) (hRest : Stops rest) :
    (∀ more, scaleText scale ++ rest ≠ point :: more) ∧
      (scaleText scale ++ rest).head?.any isExponentLetter = scale.isSome := by
  cases scale with
  | some e =>
      have hLetter := e.isLetter
      refine ⟨fun more hSame => ?_, hLetter⟩
      rw [(List.cons.inj hSame).1] at hLetter
      cases hLetter
  | none =>
      cases rest with
      | nil => exact ⟨nofun, rfl⟩
      | cons b rest =>
          obtain ⟨-, hPoint, hLetter⟩ := hRest b rfl
          exact ⟨fun more hSame => hPoint (List.cons.inj hSame).1, hLetter⟩

/-- A number is read as what it means. -/
theorem toOption_readNumber (l : Literal) (hRest : Stops rest) :
    (readNumber l.negative (l.magnitude ++ rest)).toOption = l.number?.map (·, rest) := by
  have hSplit := splitDigits_text l.whole (not_digit_of_tail l.fraction l.scale hRest)
  have hLeading : ¬(l.whole.text.length > 1 ∧ l.whole.text.head? = some 0x30) :=
    fun h => l.leading h.1 h.2
  obtain ⟨b, more, hText, -⟩ := l.whole.eq_cons
  unfold readNumber number? magnitude
  rw [List.append_assoc, List.append_assoc, hSplit]
  simp only [hText] at hLeading ⊢
  rw [if_neg hLeading]
  cases l.fraction with
  | some digits => exact toOption_readFraction _ _ _ digits l.scale hRest
  | none =>
      obtain ⟨hPoint, hLetter⟩ := scaleText_append l.scale hRest
      have hScale := toOption_readScale l.negative (extend 0 (b :: more)).1
        ((b :: more).length - (extend 0 (b :: more)).2) l.scale hRest
      simp only [fractionText, List.nil_append]
      split
      · rename_i hSame
        exact absurd hSame (hPoint _)
      · rw [hLetter]
        split_ifs with hScaled
        · exact hScale
        · cases hNone : l.scale with
          | some e => exact absurd (Or.inl (congrArg Option.isSome hNone)) hScaled
          | none => cases wholeNumber l.negative (extend 0 (b :: more)).1 <;> rfl

theorem skipScale_scaleText (scale : Option Scale) (hRest : Stops rest) :
    skipScale (scaleText scale ++ rest) = .ok rest := by
  cases scale with
  | none =>
      cases rest with
      | nil => rfl
      | cons b rest =>
          obtain ⟨-, -, hLetter⟩ := hRest b rfl
          simp [scaleText, skipScale, hLetter]
  | some e =>
      have hSplit := splitDigits_text e.digits hRest.not_digit
      obtain ⟨b, more, hText, -⟩ := e.digits.eq_cons
      simp only [scaleText, Scale.text, List.cons_append, List.append_assoc, skipScale, e.isLetter,
        if_true, skipDigits]
      rw [readExponentSign_text, hSplit, hText]

/-- Whoever passes over a number does not ask how large it is. -/
theorem skipNumber_magnitude (l : Literal) (hRest : Stops rest) :
    skipNumber (l.magnitude ++ rest) = .ok rest := by
  have hScale := skipScale_scaleText l.scale hRest
  have hSplit := splitDigits_text l.whole (not_digit_of_tail l.fraction l.scale hRest)
  have hLeading : ¬(l.whole.text.length > 1 ∧ l.whole.text.head? = some 0x30) :=
    fun h => l.leading h.1 h.2
  obtain ⟨b, more, hText, -⟩ := l.whole.eq_cons
  unfold skipNumber magnitude
  rw [List.append_assoc, List.append_assoc, hSplit]
  simp only [hText] at hLeading ⊢
  rw [if_neg hLeading]
  cases l.fraction with
  | some digits =>
      have hSplit' := splitDigits_text digits (not_digit_of_tail none l.scale hRest)
      obtain ⟨c, more', hText', -⟩ := digits.eq_cons
      rw [fractionText, List.nil_append] at hSplit'
      have hSkip : skipDigits (digits.text ++ (scaleText l.scale ++ rest)) =
          .ok (scaleText l.scale ++ rest) := by
        unfold skipDigits
        rw [hSplit', hText']
      rw [fractionText, List.cons_append]
      split
      · rename_i hSame
        obtain ⟨-, rfl⟩ := List.cons.inj hSame
        rw [hSkip]
        exact hScale
      · rename_i hOther
        exact absurd rfl (hOther _)
  | none =>
      obtain ⟨hPoint, -⟩ := scaleText_append l.scale hRest
      simp only [fractionText, List.nil_append]
      split
      · rename_i hSame
        exact absurd hSame (hPoint _)
      · exact hScale

end Literal

/-! What stands between values. -/

variable {α : Type} {R : α → Bytes → Prop} {close : UInt8} {items : List α} {tree : Tree}
  {depth : Nat} {text lead : Bytes} {first : Bool}

/-- What a value or a member begins with: no white space, and nothing that ends a collection. -/
def Opens (text : Bytes) : Prop :=
  ∃ b rest, text = b :: rest ∧ isBlankByte b = false ∧ b ≠ closeBracket ∧ b ≠ closeBrace

theorem Opens.skipBlank (h : Opens text) (hGap : Blank gap) (rest : Bytes) :
    skipBlank (gap ++ (text ++ rest)) = text ++ rest := by
  obtain ⟨b, more, rfl, hBlank, -⟩ := h
  rw [skipBlank_append hGap]
  exact skipBlank_cons hBlank _

theorem Opens.length_pos (h : Opens text) : 0 < text.length := by
  obtain ⟨b, rest, rfl, -⟩ := h
  exact Nat.succ_pos _

theorem opens_digit (h : isDigit b = true) (rest : Bytes) : Opens (b :: rest) := by
  obtain ⟨hBlank, -, -, -, -, hBracket⟩ := not_of_isDigit h
  refine ⟨b, rest, rfl, hBlank, hBracket, ?_⟩
  rintro rfl
  cases h

theorem opens_bracket (rest : Bytes) : Opens (openBracket :: rest) :=
  ⟨openBracket, rest, rfl, rfl, by decide, by decide⟩

theorem opens_brace (rest : Bytes) : Opens (openBrace :: rest) :=
  ⟨openBrace, rest, rfl, rfl, by decide, by decide⟩

theorem opens_member (s : Spelling) (rest : Bytes) : Opens (quoteMark :: (s.body ++ rest)) :=
  ⟨quoteMark, _, rfl, rfl, nofun, nofun⟩

theorem Literal.magnitude_eq (l : Literal) :
    ∃ b rest, l.magnitude = b :: rest ∧ isDigit b = true := by
  obtain ⟨b, more, hText, hDigit⟩ := l.whole.eq_cons
  refine ⟨b, more ++ (fractionText l.fraction ++ scaleText l.scale), ?_, hDigit⟩
  rw [magnitude, hText, List.cons_append]

/-- The text of a number is a minus and digits, or digits. -/
theorem Literal.text_cases (l : Literal) :
    (l.negative = true ∧ l.text = minus :: l.magnitude) ∨
      (l.negative = false ∧ l.text = l.magnitude) := by
  unfold text
  cases l.negative <;> simp

/-- A number is read after its minus, or from its first digit on. -/
theorem Literal.toOption_cases (l : Literal) (hRest : Stops rest) :
    ∃ b more, l.text = b :: more ∧
      (b = minus ∧ (readNumber true (more ++ rest)).toOption = l.number?.map (·, rest) ∨
        isDigit b = true ∧
          (readNumber false (b :: (more ++ rest))).toOption = l.number?.map (·, rest)) := by
  have hNumber := l.toOption_readNumber hRest
  rcases l.text_cases with ⟨hSign, hText⟩ | ⟨hSign, hText⟩
  all_goals rw [hSign] at hNumber
  · exact ⟨minus, l.magnitude, hText, Or.inl ⟨rfl, hNumber⟩⟩
  · obtain ⟨b, more, hMagnitude, hDigit⟩ := l.magnitude_eq
    rw [hMagnitude, List.cons_append] at hNumber
    exact ⟨b, more, hText.trans hMagnitude, Or.inr ⟨hDigit, hNumber⟩⟩

theorem opens_leaf (h : Leaf tree text) : Opens text := by
  cases h with
  | null | true | false => exact ⟨_, _, rfl, rfl, nofun, nofun⟩
  | number l =>
      rcases l.text_cases with ⟨-, hText⟩ | ⟨-, hText⟩
      · rw [hText]
        exact ⟨_, _, rfl, rfl, nofun, nofun⟩
      · obtain ⟨b, rest, hMagnitude, hDigit⟩ := l.magnitude_eq
        rw [hText, hMagnitude]
        exact opens_digit hDigit rest
  | string s => exact ⟨_, _, rfl, rfl, nofun, nofun⟩

theorem opens_spells (h : Spells depth tree text) : Opens text :=
  h.induction (fun _ _ hLeaf => opens_leaf hLeaf) (fun _ inside _ => opens_bracket inside)
    (fun _ inside _ => opens_brace inside)

/-- An item ends where a comma or the end of its collection comes. -/
theorem Inside.stops (h : Inside R close false items text)
    (hClose : close = closeBracket ∨ close = closeBrace) (rest : Bytes) :
    Stops (text ++ rest) := by
  cases h with
  | done hGap =>
      rw [List.append_assoc]
      refine stops_of_blank hGap (stops_cons ?_ _)
      rcases hClose with rfl | rfl <;> decide
  | item hLead =>
      obtain ⟨gap, gap', hGap, -, rfl⟩ := hLead
      rw [List.append_assoc, List.append_assoc]
      exact stops_of_blank hGap (stops_cons (by decide) _)

theorem readWord_append (word rest : Bytes) : readWord word (word ++ rest) = .ok rest := by
  induction word with
  | nil => rfl
  | cons b word ih => simp [readWord, ih]

theorem readColon_append (hGap : Blank gap) (rest : Bytes) :
    readColon (gap ++ colon :: rest) = .ok rest := by
  unfold readColon
  rw [skipBlank_append hGap]
  rfl

theorem nextItem_append_close (first : Bool) (hGap : Blank gap) :
    nextItem first (gap ++ closeBracket :: rest) = .ok none := by
  unfold nextItem
  rw [skipBlank_append hGap]
  rfl

theorem closeList_append (hGap : Blank gap) :
    closeList (gap ++ closeBracket :: rest) = .ok rest := by
  unfold closeList
  rw [skipBlank_append hGap]
  rfl

/-- A list that goes on does not end. -/
theorem closeList_lead (hLead : Lead false lead) (rest : Bytes) :
    ∃ fault, closeList (lead ++ rest) = .error fault := by
  obtain ⟨gap, gap', hGap, -, rfl⟩ := hLead
  unfold closeList
  rw [List.append_assoc, skipBlank_append hGap, List.cons_append, skipBlank_cons rfl]
  simp only [if_neg (show comma ≠ closeBracket by decide)]
  split_ifs
  · exact ⟨_, rfl⟩
  · exact ⟨_, rfl⟩

theorem nextItem_lead (hLead : Lead first lead) (h : Opens text) (rest : Bytes) :
    nextItem first (lead ++ (text ++ rest)) = .ok (some (text ++ rest)) := by
  cases first with
  | true =>
      have hText := h.skipBlank hLead rest
      obtain ⟨b, more, rfl, -, hBracket, -⟩ := h
      unfold nextItem
      rw [hText, List.cons_append]
      simp only [if_neg hBracket, if_true]
  | false =>
      obtain ⟨gap, gap', hGap, hGap', rfl⟩ := hLead
      have hText := h.skipBlank hGap' rest
      obtain ⟨b, more, rfl, -, hBracket, -⟩ := h
      rw [List.cons_append] at hText
      unfold nextItem
      rw [List.append_assoc, skipBlank_append hGap, List.cons_append, skipBlank_cons rfl]
      simp only [List.cons_append, hText, if_neg hBracket]
      rfl

theorem nextKey_append_close (first : Bool) (hGap : Blank gap) :
    nextKey first (gap ++ closeBrace :: rest) = .ok none := by
  unfold nextKey
  rw [skipBlank_append hGap]
  rfl

theorem closeObject_append (hGap : Blank gap) :
    closeObject (gap ++ closeBrace :: rest) = .ok rest := by
  unfold closeObject
  rw [skipBlank_append hGap]
  rfl

theorem match_some (reading : Reading String) :
    (match reading with
    | .ok found => Except.ok (some found)
    | .error fault => .error fault) = reading.map some := by
  cases reading <;> rfl

theorem nextKey_lead (hLead : Lead first lead) (rest : Bytes) :
    nextKey first (lead ++ quoteMark :: rest) = (readString rest).map some := by
  unfold nextKey
  cases first with
  | true =>
      rw [skipBlank_append hLead, skipBlank_cons rfl]
      exact match_some (readString rest)
  | false =>
      obtain ⟨gap, gap', hGap, hGap', rfl⟩ := hLead
      have hKey := skipBlank_append hGap' (quoteMark :: rest)
      rw [List.append_assoc, skipBlank_append hGap, List.cons_append, skipBlank_cons rfl]
      simp only [hKey, skipBlank_cons (b := quoteMark) rfl]
      exact match_some (readString rest)

end LockRelay.Json
