import LockRelay.Proofs.Json.Leaves

/-! Printed lists and objects are read back, as values of any shape, when their items are. What is
printed takes two steps of a reader for each byte at most. -/
namespace LockRelay.Json

variable {b close : UInt8} {text rest : Bytes} {items : List Bytes} {levels : Nat}

theorem skipBlank_cons (h : isBlankByte b = false) (rest : Bytes) :
    skipBlank (b :: rest) = b :: rest := by
  simp [skipBlank, h]

/-- What a printed value begins with: nothing that could be passed over or end a list. -/
def Begins (text : Bytes) : Prop :=
  ∃ b rest, text = b :: rest ∧ isBlankByte b = false ∧ b ≠ closeBracket

/-- Further items of a collection, and its end. -/
def restOf (close : UInt8) (items : List Bytes) : Bytes :=
  items.flatMap (comma :: ·) ++ [close]

theorem restOf_cons (close : UInt8) (item : Bytes) (items : List Bytes) :
    restOf close (item :: items) = comma :: (item ++ restOf close items) := by
  simp [restOf]

theorem separate_append (close : UInt8) (item : Bytes) (items : List Bytes) :
    separate (item :: items) ++ [close] = item ++ restOf close items := by
  induction items generalizing item with
  | nil => rfl
  | cons next items ih =>
      rw [restOf_cons, ← ih next]
      simp [separate]

theorem ends_restOf (h : close = closeBracket ∨ close = closeBrace) (items : List Bytes)
    (rest : Bytes) : Ends (restOf close items ++ rest) := by
  cases items with
  | nil => exact ends_cons (Or.inr h) rest
  | cons item items =>
      rw [restOf_cons]
      exact ends_cons (Or.inl rfl) _

theorem length_lt_restOf (close : UInt8) (items : List Bytes) :
    items.length < (restOf close items).length := by
  induction items with
  | nil => exact Nat.succ_pos _
  | cons item items ih =>
      rw [restOf_cons, List.length_cons, List.length_cons, List.length_append]
      omega

theorem length_le_separate (close : UInt8) (items : List Bytes) :
    items.length ≤ (separate items ++ [close]).length := by
  cases items with
  | nil => exact Nat.zero_le _
  | cons item items =>
      have hRest := length_lt_restOf close items
      rw [separate_append, List.length_cons, List.length_append]
      omega

theorem Begins.length_pos (h : Begins text) : 0 < text.length := by
  obtain ⟨b, rest, rfl, -⟩ := h
  exact Nat.succ_pos _

/-! Lists -/

theorem printArray_eq (items : List Bytes) :
    printArray items = openBracket :: (separate items ++ [closeBracket]) := rfl

theorem nextItem_first (h : Begins text) (rest : Bytes) :
    nextItem true (text ++ rest) = .ok (some (text ++ rest)) := by
  obtain ⟨b, tail, rfl, hBlank, hOpen⟩ := h
  simp [nextItem, skipBlank_cons hBlank, hOpen]

theorem nextItem_comma (h : Begins text) (rest : Bytes) :
    nextItem false (comma :: (text ++ rest)) = .ok (some (text ++ rest)) := by
  obtain ⟨b, tail, rfl, hBlank, hOpen⟩ := h
  have hComma : comma ≠ closeBracket := by decide
  unfold nextItem
  simp only [List.cons_append, skipBlank_cons (b := comma) rfl, skipBlank_cons hBlank,
    if_neg hComma, if_neg hOpen]
  rfl

/-! Objects -/

/-- A member as it is printed. -/
def member (key : String) (value : Bytes) : Bytes := printString key ++ colon :: value

def printMembers (members : List (String × Bytes)) : List Bytes :=
  members.map fun m => member m.1 m.2

theorem printMembers_cons (key : String) (value : Bytes) (members : List (String × Bytes)) :
    printMembers ((key, value) :: members) = member key value :: printMembers members := rfl

theorem printObject_eq (members : List (String × Bytes)) :
    printObject members = openBrace :: (separate (printMembers members) ++ [closeBrace]) := rfl

/-- A member is longer than its value. -/
theorem length_member (key : String) (value : Bytes) :
    value.length + 2 ≤ (member key value).length := by
  simp [member, printString_eq]

theorem member_append (key : String) (value rest : Bytes) :
    member key value ++ rest = quoteMark :: (stringBody key ++ colon :: (value ++ rest)) := by
  simp [member, printString_eq]

theorem nextKey_first (key : String) (value rest : Bytes) :
    nextKey true (member key value ++ rest) = .ok (some (key, colon :: (value ++ rest))) := by
  unfold nextKey
  rw [member_append]
  simp only [skipBlank_cons (b := quoteMark) rfl, readString_stringBody]
  rfl

theorem nextKey_comma (key : String) (value rest : Bytes) :
    nextKey false (comma :: (member key value ++ rest)) =
      .ok (some (key, colon :: (value ++ rest))) := by
  unfold nextKey
  rw [member_append]
  simp only [skipBlank_cons (b := comma) rfl, skipBlank_cons (b := quoteMark) rfl,
    readString_stringBody]
  rfl

theorem readColon_colon (rest : Bytes) : readColon (colon :: rest) = .ok rest := rfl

/-! Values of any shape -/

/-- A text is read as a value where so many levels may be opened. -/
structure Yields (levels : Nat) (text : Bytes) (value : Value) : Prop where
  begins : Begins text
  reads : ∀ fuel rest, 2 * text.length + 2 ≤ fuel → Ends rest →
    readLevels fuel levels (text ++ rest) = .ok (value, rest)

/-- A digit is nothing else. -/
theorem not_of_isDigit (h : isDigit b = true) :
    isBlankByte b = false ∧ b ≠ 0x6E ∧ b ≠ 0x74 ∧ b ≠ 0x66 ∧ b ≠ minus ∧ b ≠ closeBracket := by
  have hNot {c : UInt8} (hc : isDigit c = false) : b ≠ c := by
    rintro rfl
    cases hc.symm.trans h
  refine ⟨?_, hNot rfl, hNot rfl, hNot rfl, hNot rfl, hNot rfl⟩
  simp only [isBlankByte, Bool.or_eq_false_iff, beq_eq_false_iff_ne]
  exact ⟨⟨⟨hNot rfl, hNot rfl⟩, hNot rfl⟩, hNot rfl⟩

theorem begins_printNatural (n : Nat) : Begins (printNatural n) := by
  obtain ⟨b, digits, hText, hDigit⟩ := printNatural_eq_cons n
  obtain ⟨hBlank, -, -, -, -, hClose⟩ := not_of_isDigit hDigit
  exact ⟨b, digits, hText, hBlank, hClose⟩

theorem yields_natural {n : Nat} (h : n < UInt64.size) :
    Yields levels (printNatural n) (.number (.natural n)) := by
  refine ⟨begins_printNatural n, fun fuel rest hFuel hRest => ?_⟩
  obtain ⟨b, digits, hText, hDigit⟩ := printNatural_eq_cons n
  obtain ⟨hBlank, hNull, hTrue, hFalse, hMinus, -⟩ := not_of_isDigit hDigit
  have hRead := readNumber_printNatural h rest hRest
  rw [hText, List.cons_append] at hRead ⊢
  cases fuel with
  | zero => omega
  | succ fuel =>
      unfold readLevels
      simp only [skipBlank_cons hBlank, if_neg hNull, if_neg hTrue, if_neg hFalse, if_neg hMinus,
        if_pos hDigit, hRead]

theorem yields_string (text : String) : Yields levels (printString text) (.string text) := by
  refine ⟨⟨quoteMark, stringBody text, rfl, rfl, nofun⟩, fun fuel rest hFuel hRest => ?_⟩
  rw [printString_eq, List.cons_append]
  cases fuel with
  | zero => omega
  | succ fuel =>
      unfold readLevels
      simp only [skipBlank_cons (b := quoteMark) rfl, readString_stringBody]
      rfl

theorem readItems_restOf {values : List Value} (h : List.Forall₂ (Yields levels) items values)
    (fuel : Nat) (hFuel : 2 * (restOf closeBracket items).length + 1 ≤ fuel) (rest : Bytes) :
    readItems fuel levels false (restOf closeBracket items ++ rest) = .ok (values, rest) := by
  induction h generalizing fuel with
  | nil =>
      cases fuel with
      | zero => omega
      | succ fuel => rfl
  | @cons item value items values hItem hItems ih =>
      rw [restOf_cons, List.length_cons, List.length_append] at hFuel
      rw [restOf_cons, List.cons_append, List.append_assoc]
      cases fuel with
      | zero => omega
      | succ fuel =>
          have hRead := hItem.reads fuel (restOf closeBracket items ++ rest) (by omega)
            (ends_restOf (Or.inl rfl) items rest)
          have hMore := ih fuel (by omega)
          unfold readItems
          simp only [nextItem_comma hItem.begins, hRead, hMore]

theorem readItems_separate {values : List Value} (h : List.Forall₂ (Yields levels) items values)
    (fuel : Nat) (hFuel : 2 * (separate items ++ [closeBracket]).length + 1 ≤ fuel) (rest : Bytes) :
    readItems fuel levels true (separate items ++ [closeBracket] ++ rest) = .ok (values, rest) := by
  cases fuel with
  | zero => omega
  | succ fuel =>
  cases h with
  | nil => rfl
  | @cons item value items values hItem hItems =>
      have hItemLength := hItem.begins.length_pos
      have hRestLength := length_lt_restOf closeBracket items
      rw [separate_append, List.length_append] at hFuel
      rw [separate_append, List.append_assoc]
      have hRead := hItem.reads fuel (restOf closeBracket items ++ rest) (by omega)
        (ends_restOf (Or.inl rfl) items rest)
      have hMore := readItems_restOf hItems fuel (by omega) rest
      unfold readItems
      simp only [nextItem_first hItem.begins, hRead, hMore]

theorem yields_array {values : List Value} (h : List.Forall₂ (Yields levels) items values) :
    Yields (levels + 1) (printArray items) (.array values) := by
  refine ⟨⟨openBracket, _, rfl, rfl, nofun⟩, fun fuel rest hFuel hRest => ?_⟩
  rw [printArray_eq, List.length_cons] at hFuel
  rw [printArray_eq, List.cons_append]
  cases fuel with
  | zero => omega
  | succ fuel =>
      have hItems := readItems_separate h fuel (by omega) rest
      unfold readLevels
      simp only [skipBlank_cons (b := openBracket) rfl, hItems]
      rfl

theorem readMembers_restOf {members : List (String × Bytes)} {values : List (String × Value)}
    (h : List.Forall₂ (fun m v => m.1 = v.1 ∧ Yields levels m.2 v.2) members values)
    (fuel : Nat) (hFuel : 2 * (restOf closeBrace (printMembers members)).length + 1 ≤ fuel)
    (rest : Bytes) :
    readMembers fuel levels false (restOf closeBrace (printMembers members) ++ rest) =
      .ok (values, rest) := by
  induction h generalizing fuel with
  | nil =>
      cases fuel with
      | zero => omega
      | succ fuel => rfl
  | @cons m v members values hMember hMembers ih =>
      obtain ⟨key, text⟩ := m
      obtain ⟨name, value⟩ := v
      obtain ⟨rfl, hValue⟩ : key = name ∧ Yields levels text value := hMember
      rw [printMembers_cons, restOf_cons, List.length_cons, List.length_append] at hFuel
      rw [printMembers_cons, restOf_cons, List.cons_append, List.append_assoc]
      have hLength := length_member key text
      cases fuel with
      | zero => omega
      | succ fuel =>
          have hRead := hValue.reads fuel (restOf closeBrace (printMembers members) ++ rest)
            (by omega) (ends_restOf (Or.inr rfl) _ rest)
          have hMore := ih fuel (by omega)
          unfold readMembers
          simp only [nextKey_comma, readColon_colon, hRead, hMore]

theorem readMembers_separate {members : List (String × Bytes)} {values : List (String × Value)}
    (h : List.Forall₂ (fun m v => m.1 = v.1 ∧ Yields levels m.2 v.2) members values)
    (fuel : Nat)
    (hFuel : 2 * (separate (printMembers members) ++ [closeBrace]).length + 1 ≤ fuel)
    (rest : Bytes) :
    readMembers fuel levels true (separate (printMembers members) ++ [closeBrace] ++ rest) =
      .ok (values, rest) := by
  cases fuel with
  | zero => omega
  | succ fuel =>
  cases h with
  | nil => rfl
  | @cons m v members values hMember hMembers =>
      obtain ⟨key, text⟩ := m
      obtain ⟨name, value⟩ := v
      obtain ⟨rfl, hValue⟩ : key = name ∧ Yields levels text value := hMember
      have hLength := length_member key text
      rw [printMembers_cons, separate_append, List.length_append] at hFuel
      rw [printMembers_cons, separate_append, List.append_assoc]
      have hRead := hValue.reads fuel (restOf closeBrace (printMembers members) ++ rest)
        (by omega) (ends_restOf (Or.inr rfl) _ rest)
      have hMore := readMembers_restOf hMembers fuel (by omega) rest
      unfold readMembers
      simp only [nextKey_first, readColon_colon, hRead, hMore]

theorem yields_object {members : List (String × Bytes)} {values : List (String × Value)}
    (h : List.Forall₂ (fun m v => m.1 = v.1 ∧ Yields levels m.2 v.2) members values) :
    Yields (levels + 1) (printObject members) (.object values) := by
  refine ⟨⟨openBrace, _, rfl, rfl, nofun⟩, fun fuel rest hFuel hRest => ?_⟩
  rw [printObject_eq, List.length_cons] at hFuel
  rw [printObject_eq, List.cons_append]
  cases fuel with
  | zero => omega
  | succ fuel =>
      have hMembers := readMembers_separate h fuel (by omega) rest
      unfold readLevels
      simp only [skipBlank_cons (b := openBrace) rfl, hMembers]
      rfl

end LockRelay.Json
