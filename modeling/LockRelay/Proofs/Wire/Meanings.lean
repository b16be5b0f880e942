import LockRelay.Proofs.Json.Buffering
import LockRelay.Proofs.Json.Skipping
import LockRelay.Wire.Reader

/-! What a tree means where a number, a list of bytes or a record is wanted. Text is read as that
meaning, and a value that was kept is taken as the same. -/
namespace LockRelay.Json

variable {α σ : Type} {tree : Tree} {items : List Tree} {members : List (Spelling × Tree)}
  {depth levels bound significand : Nat} {digits text gap rest : Bytes} {first : Bool} {b : UInt8}
  {expected : String}

/-! The first byte -/

/-- What the first byte of a text says about its tree. -/
structure Initial (tree : Tree) (b : UInt8) : Prop where
  blank : isBlankByte b = false
  null : b = 0x6E ↔ tree = .null
  number : b = minus ∨ isDigit b = true ↔ ∃ l, tree = .number l
  string : b = quoteMark ↔ ∃ s, tree = .string s
  array : b = openBracket ↔ ∃ items, tree = .array items
  object : b = openBrace ↔ ∃ members, tree = .object members

theorem initial_leaf (h : Leaf tree text) : ∃ b more, text = b :: more ∧ Initial tree b := by
  cases h with
  | null | true | false | string =>
      refine ⟨_, _, rfl, rfl, ?_, ?_, ?_, ?_, ?_⟩
      all_goals simp <;> decide
  | number l =>
      rcases l.text_cases with ⟨-, hText⟩ | ⟨-, hText⟩
      · refine ⟨_, _, hText, rfl, ?_, ?_, ?_, ?_, ?_⟩
        all_goals simp <;> decide
      · obtain ⟨b, more, hMagnitude, hDigit⟩ := l.magnitude_eq
        obtain ⟨hBlank, hNull, -⟩ := not_of_isDigit hDigit
        have hNot {c : UInt8} (hc : isDigit c = false) : b ≠ c := by
          rintro rfl
          cases hc.symm.trans hDigit
        refine ⟨b, more, hText.trans hMagnitude, hBlank, ?_, ?_, ?_, ?_, ?_⟩
        · simpa using hNull
        · simpa using Or.inr hDigit
        · simpa using hNot (c := quoteMark) rfl
        · simpa using hNot (c := openBracket) rfl
        · simpa using hNot (c := openBrace) rfl

theorem initial_spells (h : Spells depth tree text) :
    ∃ b more, text = b :: more ∧ Initial tree b := by
  refine h.induction (P := fun tree text => ∃ b more, text = b :: more ∧ Initial tree b)
    (fun _ _ hLeaf => initial_leaf hLeaf) ?_ ?_
  · intro items inside _
    refine ⟨_, _, rfl, rfl, ?_, ?_, ?_, ?_, ?_⟩
    all_goals simp <;> decide
  · intro members inside _
    refine ⟨_, _, rfl, rfl, ?_, ?_, ?_, ?_, ?_⟩
    all_goals simp <;> decide

/-! Natural numbers -/

namespace Tree

/-- A natural number below a bound. -/
def natural? (bound : Nat) : Tree → Option Nat
  | .number l => l.natural?.filter (· < bound)
  | _ => none

def byte? (tree : Tree) : Option UInt8 := (tree.natural? 256).map UInt8.ofNat

/-- A list of bytes. -/
def bytes? : Tree → Option Bytes
  | .array items => items.mapM byte?
  | _ => none

end Tree

theorem extend_count_lt
    (h : UInt64.size ≤ digits.foldl (fun n b => 10 * n + digitValue b) significand)
    (hStart : significand < UInt64.size) : (extend significand digits).2 < digits.length := by
  induction digits generalizing significand with
  | nil => exact absurd hStart (not_lt.mpr h)
  | cons b digits ih =>
      unfold extend
      dsimp only
      split_ifs with hNext
      · exact Nat.succ_lt_succ (ih h hNext)
      · exact Nat.succ_pos _

theorem scaled_float {negative : Bool} {exponent : Int} {scale : Option Scale} {n : Number}
    (h : Literal.scaled? negative significand exponent scale = some n) :
    ∃ magnitude, n = .float negative magnitude := by
  have hScaled {exponent : Int} (h : (scaledNumber negative significand exponent).toOption = some n) :
      ∃ magnitude, n = .float negative magnitude := by
    unfold scaledNumber at h
    split at h
    · exact ⟨_, (Option.some.inj h).symm⟩
    · cases h
  unfold Literal.scaled? at h
  cases scale with
  | none => exact hScaled h
  | some e =>
      dsimp only at h
      split_ifs at h
      · exact hScaled h
      · exact hScaled h
      · exact ⟨_, (Option.some.inj h).symm⟩

/-- A number with a fraction, an exponent or digits that do not fit is no natural number. -/
theorem fitNatural_scaled (bound : Nat) (expected : String) (negative : Bool) (significand : Nat)
    (exponent : Int) (scale : Option Scale) :
    ((Literal.scaled? negative significand exponent scale).bind
      fun n => (fitNatural bound expected n).toOption) = none := by
  rw [Option.bind_eq_none_iff]
  intro n hNumber
  obtain ⟨magnitude, rfl⟩ := scaled_float hNumber
  rfl

/-- Nor is a number with a minus sign. -/
theorem fitNatural_negative (bound : Nat) (expected : String) (significand : Nat) :
    ((wholeNumber true significand).toOption.bind
      fun n => (fitNatural bound expected n).toOption) = none := by
  unfold wholeNumber
  simp only [Bool.not_true, Bool.false_eq_true, if_false]
  split_ifs
  · exact fitNatural_scaled bound expected true significand 0 none
  · rfl

theorem fitNatural_natural (bound : Nat) (expected : String) (n : Nat) :
    (fitNatural bound expected (.natural n)).toOption = (some n).filter (· < bound) := by
  unfold fitNatural
  by_cases hBelow : n < bound
  · simp [hBelow, Except.toOption, Option.filter_some]
  · simp [hBelow, Except.toOption, Option.filter_some]

/-- Only a natural number is read as one, and only if it fits. -/
theorem Literal.fitNatural_number (l : Literal) (hBound : bound ≤ UInt64.size) (expected : String) :
    (l.number?.bind fun n => (fitNatural bound expected n).toOption) =
      l.natural?.filter (· < bound) := by
  have hFloat := fitNatural_scaled bound expected
  unfold number? natural?
  cases hFraction : l.fraction with
  | some digits => simpa using hFloat _ _ _ _
  | none =>
  cases hScale : l.scale with
  | some e => simpa using hFloat _ _ _ _
  | none =>
  simp only [Option.isSome_none, Bool.false_eq_true, false_or, Option.isNone_none, and_true]
  cases hSign : l.negative with
  | true =>
      simp only [Bool.true_eq_false, if_false]
      split_ifs
      · exact hFloat _ _ _ _
      · exact fitNatural_negative bound expected _
  | false =>
      by_cases hFits : valueOf l.whole.text < UInt64.size
      · have hExtend : extend 0 l.whole.text = (valueOf l.whole.text, l.whole.text.length) :=
          extend_eq hFits
        simp only [hExtend, lt_irrefl, if_false, if_true]
        exact fitNatural_natural bound expected (valueOf l.whole.text)
      · have hCount : (extend 0 l.whole.text).2 < l.whole.text.length :=
          extend_count_lt (not_lt.mp hFits) (by decide)
        have hAbove : ¬valueOf l.whole.text < bound := fun hBelow =>
          hFits (lt_of_lt_of_le hBelow hBound)
        simp only [hCount, if_true, hFloat]
        simp [hAbove, Option.filter_some]

/-! Readers and takers -/

/-- Text is read as what its tree means, and a value that was kept is taken as the same. -/
structure Finds (read : Bytes → Reading α) (take : Value → Except Fault α)
    (meaning : Tree → Option α) : Prop where
  reads : ∀ {depth tree text gap rest}, Spells depth tree text → Blank gap → Stops rest →
    (read (gap ++ (text ++ rest))).toOption = (meaning tree).map (·, rest)
  takes : ∀ {levels tree value}, tree.value? levels = some value →
    (take value).toOption = meaning tree

theorem finds_natural (hBound : bound ≤ UInt64.size) (expected : String) :
    Finds (readNatural bound expected) (Value.natural bound expected) (Tree.natural? bound) := by
  constructor
  · intro depth tree text gap rest h hGap hRest
    have hText := (opens_spells h).skipBlank hGap rest
    by_cases hNumber : ∃ l, tree = .number l
    · obtain ⟨l, rfl⟩ := hNumber
      obtain rfl := h.number
      have hFits := l.fitNatural_number hBound expected
      obtain ⟨b, more, hSpelled, hRead⟩ := l.toOption_cases hRest
      unfold readNatural
      rw [Tree.natural?, ← hFits]
      rw [hSpelled, List.cons_append] at hText ⊢
      rcases hRead with ⟨rfl, hRead⟩ | ⟨hDigit, hRead⟩
      · rcases reading_cases hRead with ⟨n, hMeaning, hRead⟩ | ⟨hMeaning, fault, hRead⟩
        all_goals simp only [hText, if_true, hRead, hMeaning, Option.bind_some]
        · cases fitNatural bound expected n <;> rfl
        · rfl
      · obtain ⟨-, -, -, -, hMinus, -⟩ := not_of_isDigit hDigit
        rcases reading_cases hRead with ⟨n, hMeaning, hRead⟩ | ⟨hMeaning, fault, hRead⟩
        all_goals simp only [hText, if_neg hMinus, if_pos hDigit, hRead, hMeaning, Option.bind_some]
        · cases fitNatural bound expected n <;> rfl
        · rfl
    · have hMeaning : tree.natural? bound = none := by
        cases tree with
        | number l => exact absurd ⟨l, rfl⟩ hNumber
        | null | boolean | string | array | object => rfl
      obtain ⟨b, more, rfl, hInitial⟩ := initial_spells h
      obtain ⟨hMinus, hDigit⟩ := not_or.mp (mt hInitial.number.mp hNumber)
      unfold readNatural
      rw [hMeaning]
      rw [List.cons_append] at hText ⊢
      simp only [hText, if_neg hMinus, if_neg hDigit]
      rfl
  · intro levels tree value hValue
    cases Tree.kept hValue with
    | number h =>
        rename_i l n
        have hFits := l.fitNatural_number hBound expected
        rw [h] at hFits
        exact hFits
    | null | boolean | string | array | object => rfl

theorem finds_byte : Finds (readNatural 256 "u8") (Value.natural 256 "u8") (Tree.natural? 256) :=
  finds_natural (by decide) "u8"

/-! Lists of bytes -/

theorem toOption_readByteItems (h : Inside (Spells depth) closeBracket first items text) {fuel : Nat}
    (hFuel : text.length ≤ fuel) (rest : Bytes) :
    (readByteItems fuel first (text ++ rest)).toOption =
      (items.mapM Tree.byte?).map (·, rest) := by
  induction h generalizing fuel with
  | done hGap =>
      rw [List.length_append, List.length_singleton] at hFuel
      obtain ⟨fuel, rfl⟩ : ∃ more, fuel = more + 1 := ⟨fuel - 1, by omega⟩
      unfold readByteItems
      rw [List.append_assoc]
      simp only [List.singleton_append, nextItem_append_close _ hGap, closeList_append hGap]
      rfl
  | @item first lead text further item items hLead hItem hFurther ih =>
      have hOpens := opens_spells hItem
      have hText := hOpens.length_pos
      simp only [List.length_append] at hFuel
      obtain ⟨fuel, rfl⟩ : ∃ more, fuel = more + 1 := ⟨fuel - 1, by omega⟩
      have hByte := finds_byte.reads hItem blank_nil
        (hFurther.stops (Or.inl rfl) rest)
      have hItems := @ih fuel (by omega)
      unfold readByteItems
      simp only [List.append_assoc, nextItem_lead hLead hOpens]
      rw [List.mapM_cons, Tree.byte?]
      rcases reading_cases hByte with ⟨n, hMeaning, hRead⟩ | ⟨hMeaning, fault, hRead⟩
      all_goals
        rw [List.nil_append] at hRead
        simp only [hRead, hMeaning]
      · rcases reading_cases hItems with ⟨data, hMeanings, hReads⟩ | ⟨hMeanings, fault, hReads⟩
        all_goals
          simp only [hReads, hMeanings]
          rfl
      · rfl

theorem toOption_byteItems {values : List Value} (h : items.mapM (Tree.value? levels) = some values) :
    (byteItems values).toOption = items.mapM Tree.byte? := by
  induction items generalizing values with
  | nil =>
      cases h
      rfl
  | cons item items ih =>
      rw [List.mapM_cons] at h
      obtain ⟨value, hValue, h⟩ := Option.bind_eq_some_iff.mp h
      obtain ⟨more, hMore, h⟩ := Option.bind_eq_some_iff.mp h
      obtain rfl := Option.some.inj h
      have hByte := finds_byte.takes hValue
      have hItems := ih hMore
      rw [byteItems, List.mapM_cons, Tree.byte?, ← hByte, ← hItems]
      cases value.natural 256 "u8" with
      | error fault => rfl
      | ok n => cases byteItems more <;> rfl

theorem finds_bytes : Finds readBytes Value.bytes Tree.bytes? := by
  constructor
  · intro depth tree text gap rest h hGap hRest
    have hText := (opens_spells h).skipBlank hGap rest
    by_cases hArray : ∃ items, tree = .array items
    · obtain ⟨items, rfl⟩ := hArray
      obtain ⟨depth, inside, hItems, rfl⟩ := h.array
      unfold readBytes
      rw [List.cons_append] at hText ⊢
      simp only [hText, if_true]
      refine toOption_readByteItems hItems ?_ rest
      rw [List.length_append]
      omega
    · have hMeaning : tree.bytes? = none := by
        cases tree with
        | array items => exact absurd ⟨items, rfl⟩ hArray
        | null | boolean | number | string | object => rfl
      obtain ⟨b, more, rfl, hInitial⟩ := initial_spells h
      have hBracket := mt hInitial.array.mp hArray
      unfold readBytes
      rw [hMeaning]
      rw [List.cons_append] at hText ⊢
      simp only [hText, if_neg hBracket]
      rfl
  · intro levels tree value hValue
    cases Tree.kept hValue with
    | array h => exact toOption_byteItems h
    | null | boolean | number | string | object => rfl

/-! Records -/

/-- A record treats a member of each name as `take?` says: it refuses the member, it passes over it, or
it takes what the member means. -/
def Takes (fields : Fields σ) (take? : σ → String → Tree → Option σ) : Prop :=
  ∀ record name,
    (∃ fault, fields record name = .error fault ∧ ∀ tree, take? record name tree = none) ∨
      (fields record name = .ok none ∧ ∀ tree, take? record name tree = some record) ∨
      ∃ field, fields record name = .ok (some field) ∧
        Finds field.read field.take (take? record name)

/-- A member is taken by its key, which has to be text. -/
def takeMember? (take? : σ → String → Tree → Option σ) (record : σ) (m : Spelling × Tree) : Option σ :=
  m.1.string?.bind fun key => take? record key m.2

theorem finds_once {read : Bytes → Reading α} {take : Value → Except Fault α}
    {meaning : Tree → Option α} (h : Finds read take meaning) (name : String) (set : α → σ) :
    ∃ field, Field.once name false set read take = .ok (some field) ∧
      Finds field.read field.take fun tree => (meaning tree).map set := by
  refine ⟨_, rfl, ?_, ?_⟩
  · intro depth tree text gap rest hSpells hGap hRest
    rcases reading_cases (h.reads hSpells hGap hRest) with
      ⟨value, hMeaning, hRead⟩ | ⟨hMeaning, fault, hRead⟩
    all_goals
      simp only [hRead, hMeaning]
      rfl
  · intro levels tree value hValue
    rw [← h.takes hValue]
    dsimp only
    cases take value <;> rfl

variable {fields : Fields σ} {take? : σ → String → Tree → Option σ} {record : σ}

/-- An object is read into a record member by member. -/
theorem toOption_readFields (hTakes : Takes fields take?) (record : σ)
    (h : Inside (Member (Spells depth)) closeBrace first members text) {fuel : Nat}
    (hFuel : text.length ≤ fuel) (rest : Bytes) :
    (readFields fields fuel first record (text ++ rest)).toOption =
      (members.foldlM (takeMember? take?) record).map (·, rest) := by
  induction h generalizing fuel record with
  | done hGap =>
      rw [List.length_append, List.length_singleton] at hFuel
      obtain ⟨fuel, rfl⟩ : ∃ more, fuel = more + 1 := ⟨fuel - 1, by omega⟩
      unfold readFields
      rw [List.append_assoc]
      simp only [List.singleton_append, nextKey_append_close _ hGap, closeObject_append hGap]
      rfl
  | @item first lead text further m members hLead hItem hFurther ih =>
      obtain ⟨gap, gap', value, hGap, hGap', hValue, rfl⟩ := hItem
      simp only [List.length_append, List.length_cons] at hFuel
      obtain ⟨fuel, rfl⟩ : ∃ more, fuel = more + 1 := ⟨fuel - 1, by omega⟩
      have hStops := hFurther.stops (Or.inr rfl) rest
      have hKey := m.1.toOption_readString (gap ++ colon :: (gap' ++ (value ++ (further ++ rest))))
      have hMembers (record : σ) := @ih record fuel (by omega)
      unfold readFields
      rw [List.foldlM_cons, takeMember?]
      simp only [List.append_assoc, List.cons_append, nextKey_lead hLead]
      rcases reading_cases hKey with ⟨key, hMeaning, hRead⟩ | ⟨hMeaning, fault, hRead⟩
      all_goals simp only [hRead, hMeaning, Except.map, readColon_append hGap]
      · rw [Option.bind_some]
        rcases hTakes record key with ⟨fault, hField, hTake⟩ | ⟨hField, hTake⟩ | ⟨field, hField, hFinds⟩
        · simp only [hField, hTake]
          rfl
        · simp only [hField, hTake, skipValue_spells hValue hGap' hStops]
          exact hMembers record
        · simp only [hField]
          rcases reading_cases (hFinds.reads hValue hGap' hStops) with
            ⟨next, hMeaning, hRead⟩ | ⟨hMeaning, fault, hRead⟩
          all_goals simp only [hRead, hMeaning]
          · exact hMembers next
          · rfl
      · rfl

/-- An object that was kept is taken into a record as if it were read. -/
theorem toOption_takeFields (hTakes : Takes fields take?) (record : σ) {values : List (String × Value)}
    (h : members.mapM (Tree.keyed? (Tree.value? levels)) = some values) :
    (takeFields fields values record).toOption = members.foldlM (takeMember? take?) record := by
  induction members generalizing values record with
  | nil =>
      cases h
      rfl
  | cons m members ih =>
      rw [List.mapM_cons] at h
      obtain ⟨⟨key, value⟩, hMember, h⟩ := Option.bind_eq_some_iff.mp h
      obtain ⟨more, hMore, h⟩ := Option.bind_eq_some_iff.mp h
      obtain rfl := Option.some.inj h
      obtain ⟨key', hKey, hMember⟩ := Option.bind_eq_some_iff.mp hMember
      obtain ⟨value', hValue, hSame⟩ := Option.map_eq_some_iff.mp hMember
      obtain ⟨rfl, rfl⟩ := Prod.mk.inj hSame
      rw [List.foldlM_cons, takeMember?, hKey, Option.bind_some]
      unfold takeFields
      rcases hTakes record key' with ⟨fault, hField, hTake⟩ | ⟨hField, hTake⟩ | ⟨field, hField, hFinds⟩
      · simp only [hField, hTake]
        rfl
      · simp only [hField, hTake]
        exact ih _ hMore
      · have hTake := hFinds.takes hValue
        rw [← hTake]
        simp only [hField]
        cases field.take value' with
        | error fault => rfl
        | ok next => exact ih _ hMore

/-! Whole texts -/

/-- A record that may be a list or an object. -/
def Tree.record? (listed : List Tree → Option α) (membered : List (Spelling × Tree) → Option α) :
    Tree → Option α
  | .array items => listed items
  | .object members => membered members
  | _ => none

/-- A whole text is read as what its tree is, with white space around it. -/
theorem toOption_readWhole {list object : Bytes → Reading α} {listed : List Tree → Option α}
    {membered : List (Spelling × Tree) → Option α}
    (hList : ∀ {depth items text}, Inside (Spells depth) closeBracket true items text →
      ∀ rest, (list (text ++ rest)).toOption = (listed items).map (·, rest))
    (hObject : ∀ {depth members text}, Inside (Member (Spells depth)) closeBrace true members text →
      ∀ rest, (object (text ++ rest)).toOption = (membered members).map (·, rest))
    (h : Writes tree text) (expected : String) :
    (readWhole expected list object text).toOption =
      tree.record? listed membered := by
  obtain ⟨depth, gap, body, gap', hGap, hBody, hGap', rfl⟩ := h
  have hText := (opens_spells hBody).skipBlank hGap gap'
  have hFinish : finish gap' = .ok () := by
    have hBlank := skipBlank_append hGap' []
    rw [List.append_nil] at hBlank
    unfold finish
    rw [hBlank]
    rfl
  unfold readWhole
  rw [hText]
  cases tree with
  | array items =>
      obtain ⟨depth, inside, hItems, rfl⟩ := hBody.array
      simp only [List.cons_append, if_true]
      rcases reading_cases (hList hItems gap') with ⟨c, hMeaning, hRead⟩ | ⟨hMeaning, fault, hRead⟩
      all_goals
        simp only [bind, Except.bind, hRead, Tree.record?, hMeaning, hFinish]
        rfl
  | object members =>
      obtain ⟨depth, inside, hMembers, rfl⟩ := hBody.object
      have hBracket : openBrace ≠ openBracket := by decide
      simp only [List.cons_append, if_neg hBracket, if_true]
      rcases reading_cases (hObject hMembers gap') with ⟨c, hMeaning, hRead⟩ | ⟨hMeaning, fault, hRead⟩
      all_goals
        simp only [bind, Except.bind, hRead, Tree.record?, hMeaning, hFinish]
        rfl
  | null | boolean | number | string =>
      obtain ⟨b, more, rfl, hInitial⟩ := initial_spells hBody
      have hBracket : b ≠ openBracket := mt hInitial.array.mp (by simp)
      have hBrace : b ≠ openBrace := mt hInitial.object.mp (by simp)
      simp only [List.cons_append, if_neg hBracket, if_neg hBrace]
      rfl

end LockRelay.Json
