import LockRelay.Proofs.Json.Tokens

/-! Values that are kept until it is known what they are for. A tree becomes a value if it does not
nest too deep, its numbers are finite and its strings are text, and its text is read as that value, if
it is one. -/
namespace LockRelay.Json

variable {items : List Tree} {members : List (Spelling × Tree)} {tree : Tree} {depth levels : Nat}
  {text gap rest : Bytes} {first : Bool}

namespace Tree

/-- A member with its key read, which has to be text. -/
def keyed? {α : Type} (meaning : Tree → Option α) (m : Spelling × Tree) : Option (String × α) :=
  m.1.string?.bind fun key => (meaning m.2).map (key, ·)

/-- The value of a tree where so many levels may be opened. -/
def value? : (levels : Nat) → Tree → Option Value
  | _, .null => some .null
  | _, .boolean b => some (.boolean b)
  | _, .number l => l.number?.map .number
  | _, .string s => s.string?.map .string
  | levels + 1, .array items => (items.mapM (value? levels)).map .array
  | levels + 1, .object members => (members.mapM (keyed? (value? levels))).map .object
  | 0, .array _ | 0, .object _ => none

/-- A tree whose lists and objects stand no deeper inside each other than `depth`, whose numbers all fit
and whose strings are text. -/
def Within (fits : Literal → Prop) : (depth : Nat) → Tree → Prop
  | _, .null | _, .boolean _ => True
  | _, .number l => fits l
  | _, .string s => s.string?.isSome
  | depth + 1, .array items => ∀ item ∈ items, Within fits depth item
  | depth + 1, .object members => ∀ m ∈ members, m.1.string?.isSome ∧ Within fits depth m.2
  | 0, .array _ | 0, .object _ => False

instance Within.decidable {fits : Literal → Prop} [DecidablePred fits] :
    (depth : Nat) → (tree : Tree) → Decidable (tree.Within fits depth)
  | 0, .null | _ + 1, .null | 0, .boolean _ | _ + 1, .boolean _ => isTrue trivial
  | 0, .number l | _ + 1, .number l => inferInstanceAs (Decidable (fits l))
  | 0, .string s | _ + 1, .string s => inferInstanceAs (Decidable (s.string?.isSome = true))
  | depth + 1, .array items =>
      have (item : Tree) : Decidable (item.Within fits depth) := Within.decidable depth item
      inferInstanceAs (Decidable (∀ item ∈ items, Within fits depth item))
  | depth + 1, .object members =>
      have (item : Tree) : Decidable (item.Within fits depth) := Within.decidable depth item
      inferInstanceAs (Decidable (∀ m ∈ members, m.1.string?.isSome ∧ Within fits depth m.2))
  | 0, .array _ | 0, .object _ => isFalse id

/-- A tree without excess: lists and objects stand no deeper inside each other than `depth`, every
number is finite as it is read, and every string is text. -/
def Modest : (depth : Nat) → Tree → Prop := Within fun l => l.number?.isSome

instance Modest.decidable (depth : Nat) (tree : Tree) : Decidable (tree.Modest depth) :=
  inferInstanceAs (Decidable (tree.Within (fun l => l.number?.isSome) depth))

theorem Within.mono {fits fits' : Literal → Prop} (hFits : ∀ l, fits l → fits' l)
    (h : tree.Within fits depth) : tree.Within fits' depth := by
  induction depth generalizing tree with
  | zero =>
      cases tree with
      | null | boolean => trivial
      | number l => exact hFits l h
      | string => exact h
      | array | object => exact h.elim
  | succ depth ih =>
      cases tree with
      | null | boolean => trivial
      | number l => exact hFits l h
      | string => exact h
      | array items => exact fun item hItem => ih (h item hItem)
      | object members =>
          intro m hMember
          obtain ⟨hKey, hValue⟩ := h m hMember
          exact ⟨hKey, ih hValue⟩

end Tree

/-- A text is read as the value of its tree, if it has one. -/
structure Buffers (tree : Tree) (text : Bytes) : Prop where
  opens : Opens text
  reads : ∀ levels fuel gap rest, 2 * text.length ≤ fuel → Blank gap → Stops rest →
    (readLevels fuel levels (gap ++ (text ++ rest))).toOption =
      (tree.value? levels).map (·, rest)

theorem buffers_leaf (h : Leaf tree text) : Buffers tree text := by
  have hOpens := opens_leaf h
  refine ⟨hOpens, fun levels fuel gap rest hFuel hGap hRest => ?_⟩
  have hText := hOpens.skipBlank hGap rest
  have hLength := hOpens.length_pos
  obtain ⟨fuel, rfl⟩ : ∃ more, fuel = more + 1 := ⟨fuel - 1, by omega⟩
  unfold readLevels
  simp only [hText]
  cases h with
  | null =>
      have hWord := readWord_append restOfNull rest
      simp only [List.cons_append, if_true, hWord]
      cases levels <;> rfl
  | true =>
      have hWord := readWord_append restOfTrue rest
      simp only [List.cons_append, hWord]
      cases levels <;> rfl
  | false =>
      have hWord := readWord_append restOfFalse rest
      simp only [List.cons_append, hWord]
      cases levels <;> rfl
  | number l =>
      have hValue : (Tree.number l).value? levels = l.number?.map .number := by
        cases levels <;> rfl
      obtain ⟨b, more, hSpelled, hNumber⟩ := l.toOption_cases hRest
      rw [hValue, hSpelled]
      rcases hNumber with ⟨rfl, hNumber⟩ | ⟨hDigit, hNumber⟩
      · rcases reading_cases hNumber with ⟨n, hMeaning, hRead⟩ | ⟨hMeaning, fault, hRead⟩
        all_goals
          simp only [List.cons_append, hRead, hMeaning]
          rfl
      · obtain ⟨-, hNull, hTrue, hFalse, hMinus, -⟩ := not_of_isDigit hDigit
        simp only [List.cons_append, if_neg hNull, if_neg hTrue, if_neg hFalse, if_neg hMinus,
          if_pos hDigit]
        rcases reading_cases hNumber with ⟨n, hMeaning, hRead⟩ | ⟨hMeaning, fault, hRead⟩
        all_goals
          simp only [hRead, hMeaning]
          rfl
  | string s =>
      have hValue : (Tree.string s).value? levels = s.string?.map .string := by
        cases levels <;> rfl
      rw [hValue]
      rcases reading_cases (s.toOption_readString rest) with ⟨n, hMeaning, hRead⟩ | ⟨hMeaning, fault, hRead⟩
      all_goals
        simp only [List.cons_append, hRead, hMeaning]
        rfl

/-- A list is read item by item. -/
theorem toOption_readItems (h : Inside Buffers closeBracket first items text) (levels : Nat) {fuel : Nat}
    (hFuel : 2 * text.length ≤ fuel) (rest : Bytes) :
    (readItems fuel levels first (text ++ rest)).toOption =
      (items.mapM (Tree.value? levels)).map (·, rest) := by
  induction h generalizing fuel with
  | done hGap =>
      obtain ⟨fuel, rfl⟩ : ∃ more, fuel = more + 1 := by
        simp only [List.length_append, List.length_singleton] at hFuel
        exact ⟨fuel - 1, by omega⟩
      unfold readItems
      rw [List.append_assoc]
      simp only [List.singleton_append, nextItem_append_close _ hGap, closeList_append hGap]
      rfl
  | @item first lead text further item items hLead hItem hFurther ih =>
      simp only [List.length_append] at hFuel
      have hText := hItem.opens.length_pos
      have hMore := hFurther.length_pos
      obtain ⟨fuel, rfl⟩ : ∃ more, fuel = more + 1 := ⟨fuel - 1, by omega⟩
      have hFirst := hItem.reads levels fuel [] (further ++ rest) (by omega) blank_nil
        (hFurther.stops (Or.inl rfl) rest)
      have hItems := @ih fuel (by omega)
      rw [List.nil_append] at hFirst
      unfold readItems
      simp only [List.append_assoc, nextItem_lead hLead hItem.opens]
      rw [List.mapM_cons]
      rcases reading_cases hFirst with ⟨value, hMeaning, hRead⟩ | ⟨hMeaning, fault, hRead⟩
      all_goals simp only [hRead, hMeaning]
      · rcases reading_cases hItems with ⟨values, hMeanings, hReads⟩ | ⟨hMeanings, fault, hReads⟩
        all_goals
          simp only [hReads, hMeanings]
          rfl
      · rfl

/-- An object is read member by member. -/
theorem toOption_readMembers (h : Inside (Member Buffers) closeBrace first members text)
    (levels : Nat) {fuel : Nat} (hFuel : 2 * text.length ≤ fuel) (rest : Bytes) :
    (readMembers fuel levels first (text ++ rest)).toOption =
      (members.mapM (Tree.keyed? (Tree.value? levels))).map (·, rest) := by
  induction h generalizing fuel with
  | done hGap =>
      obtain ⟨fuel, rfl⟩ : ∃ more, fuel = more + 1 := by
        simp only [List.length_append, List.length_singleton] at hFuel
        exact ⟨fuel - 1, by omega⟩
      unfold readMembers
      rw [List.append_assoc]
      simp only [List.singleton_append, nextKey_append_close _ hGap, closeObject_append hGap]
      rfl
  | @item first lead text further m members hLead hItem hFurther ih =>
      obtain ⟨gap, gap', value, hGap, hGap', hValue, rfl⟩ := hItem
      simp only [List.length_append, List.length_cons] at hFuel
      have hMore := hFurther.length_pos
      obtain ⟨fuel, rfl⟩ : ∃ more, fuel = more + 1 := ⟨fuel - 1, by omega⟩
      have hKey := m.1.toOption_readString (gap ++ colon :: (gap' ++ (value ++ (further ++ rest))))
      have hFirst := hValue.reads levels fuel gap' (further ++ rest) (by omega) hGap'
        (hFurther.stops (Or.inr rfl) rest)
      have hMembers := @ih fuel (by omega)
      unfold readMembers
      simp only [List.append_assoc, List.cons_append, nextKey_lead hLead]
      rw [List.mapM_cons]
      unfold Tree.keyed?
      rcases reading_cases hKey with ⟨key, hMeaning, hRead⟩ | ⟨hMeaning, fault, hRead⟩
      all_goals
        simp only [hRead, hMeaning, Except.map, readColon_append hGap]
      · rcases reading_cases hFirst with ⟨v, hMeaning, hRead⟩ | ⟨hMeaning, fault, hRead⟩
        all_goals simp only [hRead, hMeaning]
        · rcases reading_cases hMembers with ⟨values, hMeanings, hReads⟩ | ⟨hMeanings, fault, hReads⟩
          all_goals
            unfold Tree.keyed? at hMeanings
            simp only [hReads, hMeanings]
            rfl
        · rfl
      · rfl

theorem buffers_spells (h : Spells depth tree text) : Buffers tree text := by
  refine h.induction (fun _ _ hLeaf => buffers_leaf hLeaf) ?_ ?_
  · intro items inside hItems
    refine ⟨opens_bracket inside, fun levels fuel gap rest hFuel hGap _ => ?_⟩
    rw [List.length_cons] at hFuel
    obtain ⟨fuel, rfl⟩ : ∃ more, fuel = more + 1 := ⟨fuel - 1, by omega⟩
    unfold readLevels
    rw [skipBlank_append hGap, List.cons_append, skipBlank_cons rfl]
    cases levels with
    | zero => rfl
    | succ levels =>
        have hInside : 2 * inside.length ≤ fuel := by omega
        have hRead := toOption_readItems hItems levels hInside rest
        rcases reading_cases hRead with ⟨values, hMeaning, hReads⟩ | ⟨hMeaning, fault, hReads⟩
        all_goals
          unfold Tree.value?
          simp only [hReads, hMeaning]
          rfl
  · intro members inside hMembers
    refine ⟨opens_brace inside, fun levels fuel gap rest hFuel hGap _ => ?_⟩
    rw [List.length_cons] at hFuel
    obtain ⟨fuel, rfl⟩ : ∃ more, fuel = more + 1 := ⟨fuel - 1, by omega⟩
    unfold readLevels
    rw [skipBlank_append hGap, List.cons_append, skipBlank_cons rfl]
    cases levels with
    | zero => rfl
    | succ levels =>
        have hInside : 2 * inside.length ≤ fuel := by omega
        have hRead := toOption_readMembers hMembers levels hInside rest
        rcases reading_cases hRead with ⟨values, hMeaning, hReads⟩ | ⟨hMeaning, fault, hReads⟩
        all_goals
          unfold Tree.value?
          simp only [hReads, hMeaning]
          rfl

/-- A value is kept as what its text writes, if that may be kept. -/
theorem toOption_readValue (h : Spells depth tree text) (hGap : Blank gap) (hRest : Stops rest)
    (levels : Nat) :
    (readValue levels (gap ++ (text ++ rest))).toOption = (tree.value? levels).map (·, rest) := by
  refine (buffers_spells h).reads levels _ gap rest ?_ hGap hRest
  simp only [List.length_append]
  omega

/-! What is kept -/

/-- A tree and the value it is kept as are of one kind. -/
inductive Tree.Kept : (levels : Nat) → Tree → Value → Prop where
  | null {levels : Nat} : Kept levels .null .null
  | boolean {levels : Nat} (b : Bool) : Kept levels (.boolean b) (.boolean b)
  | number {levels : Nat} {l : Literal} {n : Number} (h : l.number? = some n) :
      Kept levels (.number l) (.number n)
  | string {levels : Nat} {s : Spelling} {text : String} (h : s.string? = some text) :
      Kept levels (.string s) (.string text)
  | array {levels : Nat} {items : List Tree} {values : List Value}
      (h : items.mapM (value? levels) = some values) : Kept (levels + 1) (.array items) (.array values)
  | object {levels : Nat} {members : List (Spelling × Tree)} {values : List (String × Value)}
      (h : members.mapM (keyed? (value? levels)) = some values) :
      Kept (levels + 1) (.object members) (.object values)

theorem Tree.kept {value : Value} (h : tree.value? levels = some value) : Kept levels tree value := by
  cases tree with
  | null =>
      cases levels <;> obtain rfl := Option.some.inj h
      all_goals exact .null
  | boolean b =>
      cases levels <;> obtain rfl := Option.some.inj h
      all_goals exact .boolean b
  | number l =>
      cases levels <;> obtain ⟨n, hNumber, rfl⟩ := Option.map_eq_some_iff.mp h
      all_goals exact .number hNumber
  | string s =>
      cases levels <;> obtain ⟨text, hText, rfl⟩ := Option.map_eq_some_iff.mp h
      all_goals exact .string hText
  | array items =>
      cases levels with
      | zero => cases h
      | succ levels =>
          obtain ⟨values, hValues, rfl⟩ := Option.map_eq_some_iff.mp h
          exact .array hValues
  | object members =>
      cases levels with
      | zero => cases h
      | succ levels =>
          obtain ⟨values, hValues, rfl⟩ := Option.map_eq_some_iff.mp h
          exact .object hValues

theorem Tree.isSome_mapM {α β : Type} {f : α → Option β} {items : List α}
    (h : ∀ item ∈ items, (f item).isSome) : (items.mapM f).isSome := by
  induction items with
  | nil => rfl
  | cons item items ih =>
      obtain ⟨value, hValue⟩ := Option.isSome_iff_exists.mp (h item List.mem_cons_self)
      obtain ⟨values, hValues⟩ :=
        Option.isSome_iff_exists.mp (ih fun item hItem => h item (List.mem_cons_of_mem _ hItem))
      rw [List.mapM_cons, hValue, hValues]
      rfl

/-- A tree without excess is kept where its depth is allowed. -/
theorem Tree.Modest.isSome_value {tree : Tree} (h : tree.Modest depth) (hLevels : depth ≤ levels) :
    (tree.value? levels).isSome := by
  induction levels generalizing depth tree with
  | zero =>
      cases Nat.le_zero.mp hLevels
      cases tree with
      | array | object => exact h.elim
      | null | boolean => rfl
      | number | string => exact Option.isSome_map.trans h
  | succ levels ih =>
      cases tree with
      | null | boolean => rfl
      | number | string =>
        cases depth <;> exact Option.isSome_map.trans h
      | array items =>
          cases depth with
          | zero => exact h.elim
          | succ depth =>
              refine Option.isSome_map.trans (isSome_mapM fun item hItem => ?_)
              exact ih (h item hItem) (Nat.le_of_succ_le_succ hLevels)
      | object members =>
          cases depth with
          | zero => exact h.elim
          | succ depth =>
              refine Option.isSome_map.trans (isSome_mapM fun m hMember => ?_)
              obtain ⟨hKey, hValue⟩ := h m hMember
              obtain ⟨key, hKey⟩ := Option.isSome_iff_exists.mp hKey
              rw [keyed?, hKey]
              exact Option.isSome_map.trans (ih hValue (Nat.le_of_succ_le_succ hLevels))

end LockRelay.Json
