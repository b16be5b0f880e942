import LockRelay.Proofs.Json.Leaves

/-! JSON texts by their grammar, whoever reads them. A tree is what a text writes down: numbers digit
by digit, strings as they are escaped, members in their order and with repetitions. What a number or a
string means is a second question, and not every one means something. -/
namespace LockRelay.Json

/-- White space, which may stand before every token. -/
def Blank (gap : Bytes) : Prop := ∀ b ∈ gap, isBlankByte b = true

theorem blank_nil : Blank [] := nofun

/-! Strings -/

/-- A piece of a string: a byte that stands for itself, an escape, or the number of a unit of UTF-16. -/
inductive Symbol where
  | byte (b : UInt8) (h : Plain b)
  | escape (letter meaning : UInt8) (h : simpleEscape? letter = some meaning)
  | unit (w x y z : UInt8) (n : Nat) (h : hexUnit? w x y z = some n)

def Symbol.text : Symbol → Bytes
  | .byte b _ => [b]
  | .escape letter _ _ => [backslash, letter]
  | .unit w x y z _ _ => [backslash, letterU, w, x, y, z]

/-- A string as it is written. -/
abbrev Spelling := List Symbol

namespace Spelling

/-- The text of a string after its opening quote. -/
def body (s : Spelling) : Bytes := s.flatMap Symbol.text ++ [quoteMark]

/-- The bytes of a string. Half of a surrogate pair stands for nothing without the other half. -/
def resolve : Spelling → Option Bytes
  | [] => some []
  | .byte b _ :: s => (resolve s).map ([b] ++ ·)
  | .escape _ meaning _ :: s => (resolve s).map ([meaning] ++ ·)
  | .unit _ _ _ _ n _ :: s =>
      if isLowSurrogate n then none
      else if isHighSurrogate n then
        match s with
        | .unit _ _ _ _ low _ :: s =>
            if isLowSurrogate low then
              (resolve s).map (String.utf8EncodeChar (surrogatePair n low) ++ ·)
            else none
        | _ => none
      else (resolve s).map (String.utf8EncodeChar (Char.ofNat n) ++ ·)

/-- The characters of a string, if it is text. -/
def string? (s : Spelling) : Option String :=
  ((resolve s).bind Utf8.decode?).map String.ofList

/-- Bytes that stand for themselves. -/
def ofBytes : (bytes : Bytes) → (∀ b ∈ bytes, Plain b) → Spelling
  | [], _ => []
  | b :: bytes, h =>
      .byte b (h b List.mem_cons_self) :: ofBytes bytes fun c hc => h c (List.mem_cons_of_mem _ hc)

/-- A text whose characters stand for themselves. -/
def ofText (text : String) (h : ∀ b ∈ utf8 text, Plain b) : Spelling := ofBytes (utf8 text) h

theorem resolve_ofBytes (bytes : Bytes) (h : ∀ b ∈ bytes, Plain b) :
    (ofBytes bytes h).resolve = some bytes := by
  induction bytes with
  | nil => rfl
  | cons b bytes ih =>
      rw [ofBytes, resolve, ih]
      rfl

theorem string?_ofText (text : String) (h : ∀ b ∈ utf8 text, Plain b) :
    (ofText text h).string? = some text := by
  rw [string?, ofText, resolve_ofBytes, Option.bind_some, utf8, Utf8.decode_encode, Option.map_some,
    String.ofList_toList]

end Spelling

/-! Numbers -/

structure Digits where
  text : Bytes
  isSome : text ≠ []
  isDigit : ∀ b ∈ text, isDigit b = true

/-- The power of ten that a number is scaled by. -/
structure Scale where
  letter : UInt8
  isLetter : isExponentLetter letter = true
  /-- Whether a sign is written, and if so, whether it is a minus. -/
  sign : Option Bool
  digits : Digits

namespace Scale

def signText : Option Bool → Bytes
  | none => []
  | some true => [minus]
  | some false => [plus]

def text (e : Scale) : Bytes := e.letter :: (signText e.sign ++ e.digits.text)

def down (e : Scale) : Bool := e.sign == some true

end Scale

/-- A number as it is written. Only a zero that is the whole part begins one. -/
structure Literal where
  negative : Bool
  whole : Digits
  fraction : Option Digits
  scale : Option Scale
  leading : whole.text.length > 1 → whole.text.head? ≠ some 0x30

namespace Literal

def fractionText : Option Digits → Bytes
  | none => []
  | some digits => point :: digits.text

def scaleText : Option Scale → Bytes
  | none => []
  | some e => e.text

/-- The text after the sign. -/
def magnitude (l : Literal) : Bytes := l.whole.text ++ (fractionText l.fraction ++ scaleText l.scale)

def text (l : Literal) : Bytes := (if l.negative then [minus] else []) ++ l.magnitude

/-- A natural number, written as one. -/
def natural? (l : Literal) : Option Nat :=
  if l.negative = false ∧ l.fraction.isNone ∧ l.scale.isNone then some (valueOf l.whole.text)
  else none

/-- A significand with its exponent, as a double. -/
def scaled? (negative : Bool) (significand : Nat) (exponent : Int) : Option Scale → Option Number
  | none => (scaledNumber negative significand exponent).toOption
  | some e =>
      let n := valueOf e.digits.text
      if n < exponentLimit then
        (scaledNumber negative significand (if e.down then exponent - n else exponent + n)).toOption
      else if significand ≠ 0 ∧ ¬e.down then none
      else some (.float negative Binary64.zero)

/-- What a number is read as. It has to be finite: the leading digits that fit into 64 bits, rounded
to a double, times the power of ten, which is rounded too, and the product rounded once more. -/
def number? (l : Literal) : Option Number :=
  let (significand, count) := extend 0 l.whole.text
  let dropped : Int := l.whole.text.length - count
  match l.fraction with
  | some digits =>
      let (significand, count) := extend significand digits.text
      scaled? l.negative significand (dropped - count) l.scale
  | none =>
      if l.scale.isSome ∨ count < l.whole.text.length then
        scaled? l.negative significand dropped l.scale
      else (wholeNumber l.negative significand).toOption

end Literal

/-! Values -/

inductive Tree where
  | null
  | boolean (b : Bool)
  | number (l : Literal)
  | string (s : Spelling)
  | array (items : List Tree)
  | object (members : List (Spelling × Tree))

variable {α β : Type} {R S : α → Bytes → Prop} {close : UInt8} {first : Bool}
  {items : List α} {text : Bytes} {depth : Nat} {tree : Tree}

/-- What stands before an item of a collection: white space, and a comma unless it is the first. -/
def Lead : (first : Bool) → Bytes → Prop
  | true, lead => Blank lead
  | false, lead => ∃ gap gap', Blank gap ∧ Blank gap' ∧ lead = gap ++ comma :: gap'

/-- The items of a collection, or the rest of them, and its end. -/
inductive Inside (R : α → Bytes → Prop) (close : UInt8) : (first : Bool) → List α → Bytes → Prop where
  | done {first : Bool} {gap : Bytes} (hGap : Blank gap) : Inside R close first [] (gap ++ [close])
  | item {first : Bool} {lead text rest : Bytes} {item : α} {items : List α} (hLead : Lead first lead)
      (hItem : R item text) (hRest : Inside R close false items rest) :
      Inside R close first (item :: items) (lead ++ (text ++ rest))

theorem Inside.mono (h : Inside R close first items text) (hMono : ∀ a text, R a text → S a text) :
    Inside S close first items text := by
  induction h with
  | done hGap => exact .done hGap
  | item hLead hItem _ ih => exact .item hLead (hMono _ _ hItem) ih

theorem Inside.length_pos (h : Inside R close first items text) : 0 < text.length := by
  induction h with
  | done => simp
  | item _ _ _ ih =>
      simp only [List.length_append]
      omega

/-- A member of an object: a key, a colon and a value. -/
def Member (R : Tree → Bytes → Prop) (m : Spelling × Tree) (text : Bytes) : Prop :=
  ∃ gap gap' value, Blank gap ∧ Blank gap' ∧ R m.2 value ∧
    text = quoteMark :: (m.1.body ++ (gap ++ colon :: (gap' ++ value)))

/-- A word, a number or a string. -/
inductive Leaf : Tree → Bytes → Prop where
  | null : Leaf .null (0x6E :: restOfNull)
  | true : Leaf (.boolean true) (0x74 :: restOfTrue)
  | false : Leaf (.boolean false) (0x66 :: restOfFalse)
  | number (l : Literal) : Leaf (.number l) l.text
  | string (s : Spelling) : Leaf (.string s) (quoteMark :: s.body)

/-- A text writes a tree in which no more than `depth` lists and objects stand inside each other. -/
def Spells : (depth : Nat) → Tree → Bytes → Prop
  | depth + 1, .array items, text =>
      ∃ inside, Inside (Spells depth) closeBracket true items inside ∧ text = openBracket :: inside
  | depth + 1, .object members, text =>
      ∃ inside, Inside (Member (Spells depth)) closeBrace true members inside ∧
        text = openBrace :: inside
  | 0, .array _, _ => False
  | 0, .object _, _ => False
  | _, tree, text => Leaf tree text

/-- A whole text writes a tree, with white space around it. -/
def Writes (tree : Tree) (text : Bytes) : Prop :=
  ∃ depth gap body gap', Blank gap ∧ Spells depth tree body ∧ Blank gap' ∧
    text = gap ++ (body ++ gap')

theorem Leaf.spells (h : Leaf tree text) (depth : Nat) : Spells depth tree text := by
  cases h <;> cases depth <;> constructor

theorem Spells.number {l : Literal} (h : Spells depth (.number l) text) : text = l.text := by
  cases depth <;> cases h <;> rfl

theorem Spells.string {s : Spelling} (h : Spells depth (.string s) text) :
    text = quoteMark :: s.body := by
  cases depth <;> cases h <;> rfl

theorem Spells.null (h : Spells depth .null text) : text = 0x6E :: restOfNull := by
  cases depth <;> cases h <;> rfl

theorem Spells.array {items : List Tree} (h : Spells depth (.array items) text) :
    ∃ depth inside, Inside (Spells depth) closeBracket true items inside ∧
      text = openBracket :: inside := by
  cases depth with
  | zero => exact h.elim
  | succ depth => exact ⟨depth, h⟩

theorem Spells.object {members : List (Spelling × Tree)} (h : Spells depth (.object members) text) :
    ∃ depth inside, Inside (Member (Spells depth)) closeBrace true members inside ∧
      text = openBrace :: inside := by
  cases depth with
  | zero => exact h.elim
  | succ depth => exact ⟨depth, h⟩

/-- What holds of every leaf, and of a collection when it holds of what is in it, holds of every
text. -/
theorem Spells.induction {P : Tree → Bytes → Prop} (h : Spells depth tree text)
    (leaf : ∀ tree text, Leaf tree text → P tree text)
    (array : ∀ items inside, Inside P closeBracket true items inside →
      P (.array items) (openBracket :: inside))
    (object : ∀ members inside, Inside (Member P) closeBrace true members inside →
      P (.object members) (openBrace :: inside)) : P tree text := by
  induction depth generalizing tree text with
  | zero =>
      cases tree with
      | array | object => exact h.elim
      | null | boolean | number | string => exact leaf _ _ h
  | succ depth ih =>
      cases tree with
      | array items =>
          obtain ⟨inside, hItems, rfl⟩ := h
          exact array items inside (hItems.mono fun _ _ hItem => ih hItem)
      | object members =>
          obtain ⟨inside, hMembers, rfl⟩ := h
          refine object members inside (hMembers.mono ?_)
          rintro m text ⟨gap, gap', value, hGap, hGap', hValue, hText⟩
          exact ⟨gap, gap', value, hGap, hGap', ih hValue, hText⟩
      | null | boolean | number | string => exact leaf _ _ h

namespace Tree

mutual

/-- A text of a tree, without white space. -/
def compact : Tree → Bytes
  | .null => 0x6E :: restOfNull
  | .boolean true => 0x74 :: restOfTrue
  | .boolean false => 0x66 :: restOfFalse
  | .number l => l.text
  | .string s => quoteMark :: s.body
  | .array items => openBracket :: compactItems true items
  | .object members => openBrace :: compactMembers true members

def compactItems : (first : Bool) → List Tree → Bytes
  | _, [] => [closeBracket]
  | first, item :: items =>
      (if first then [] else [comma]) ++ (item.compact ++ compactItems false items)

def compactMembers : (first : Bool) → List (Spelling × Tree) → Bytes
  | _, [] => [closeBrace]
  | first, (s, tree) :: members =>
      (if first then [] else [comma]) ++
        (quoteMark :: (s.body ++ colon :: tree.compact) ++ compactMembers false members)

end

theorem lead_compact (first : Bool) : Lead first (if first then [] else [comma]) := by
  cases first with
  | true => exact blank_nil
  | false => exact ⟨[], [], blank_nil, blank_nil, rfl⟩

mutual

theorem spells_compact : (tree : Tree) → ∃ least, ∀ depth ≥ least, Spells depth tree tree.compact
  | .null => ⟨0, fun depth _ => Leaf.null.spells depth⟩
  | .boolean true => ⟨0, fun depth _ => Leaf.true.spells depth⟩
  | .boolean false => ⟨0, fun depth _ => Leaf.false.spells depth⟩
  | .number l => ⟨0, fun depth _ => (Leaf.number l).spells depth⟩
  | .string s => ⟨0, fun depth _ => (Leaf.string s).spells depth⟩
  | .array items => by
      obtain ⟨least, h⟩ := inside_compactItems true items
      refine ⟨least + 1, fun depth hDepth => ?_⟩
      obtain ⟨depth, rfl⟩ : ∃ more, depth = more + 1 := ⟨depth - 1, by omega⟩
      exact ⟨_, h depth (Nat.le_of_succ_le_succ hDepth), rfl⟩
  | .object members => by
      obtain ⟨least, h⟩ := inside_compactMembers true members
      refine ⟨least + 1, fun depth hDepth => ?_⟩
      obtain ⟨depth, rfl⟩ : ∃ more, depth = more + 1 := ⟨depth - 1, by omega⟩
      exact ⟨_, h depth (Nat.le_of_succ_le_succ hDepth), rfl⟩

theorem inside_compactItems (first : Bool) : (items : List Tree) → ∃ least, ∀ depth ≥ least,
    Inside (Spells depth) closeBracket first items (compactItems first items)
  | [] => ⟨0, fun _ _ => .done blank_nil⟩
  | item :: items => by
      obtain ⟨least, h⟩ := item.spells_compact
      obtain ⟨least', h'⟩ := inside_compactItems false items
      refine ⟨max least least', fun depth hDepth => ?_⟩
      exact .item (lead_compact first) (h depth (by omega)) (h' depth (by omega))

theorem inside_compactMembers (first : Bool) : (members : List (Spelling × Tree)) → ∃ least,
    ∀ depth ≥ least,
      Inside (Member (Spells depth)) closeBrace first members (compactMembers first members)
  | [] => ⟨0, fun _ _ => .done blank_nil⟩
  | (s, tree) :: members => by
      obtain ⟨least, h⟩ := tree.spells_compact
      obtain ⟨least', h'⟩ := inside_compactMembers false members
      refine ⟨max least least', fun depth hDepth => ?_⟩
      refine .item (lead_compact first) ?_ (h' depth (by omega))
      exact ⟨[], [], _, blank_nil, blank_nil, h depth (by omega), rfl⟩

end

/-- Every tree has a text. -/
theorem writes_compact (tree : Tree) : Writes tree tree.compact := by
  obtain ⟨least, h⟩ := tree.spells_compact
  exact ⟨least, [], tree.compact, [], blank_nil, h least le_rfl, blank_nil, by simp⟩

end Tree

end LockRelay.Json
