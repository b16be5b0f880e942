import LockRelay.Proofs.Wire.Meanings

/-! Which texts are commands. A tree is a command if the members it has and what they hold say so, in
whatever order they stand, and every text is read as the command of its tree. -/
namespace LockRelay

open Json

variable {tree : Tree} {members : List (Spelling × Tree)} {items : List Tree} {depth : Nat}
  {text gap rest : Bytes} {first : Bool}

namespace Command

/-! Content -/

namespace Opening

/-- The content of an open command takes each of its two members once and passes over others. -/
def take? (o : Opening) (name : String) (tree : Tree) : Option Opening :=
  if name = "serial" then
    if o.serial.isSome then none
    else (tree.natural? UInt64.size).map fun n => { o with serial := some (UInt64.ofNat n) }
  else if name = "message" then
    if o.message.isSome then none else tree.bytes?.map fun data => { o with message := some data }
  else some o

theorem takes_fields : Takes fields take? := by
  intro o name
  unfold fields take?
  by_cases hSerial : name = "serial"
  · simp only [if_pos hSerial]
    cases o.serial with
    | some n => exact Or.inl ⟨_, rfl, fun _ => rfl⟩
    | none => exact Or.inr (Or.inr (finds_once (finds_natural le_rfl "u64") name _))
  · by_cases hMessage : name = "message"
    · simp only [if_neg hSerial, if_pos hMessage]
      cases o.message with
      | some data => exact Or.inl ⟨_, rfl, fun _ => rfl⟩
      | none => exact Or.inr (Or.inr (finds_once finds_bytes name _))
    · simp only [if_neg hSerial, if_neg hMessage]
      exact Or.inr (Or.inl ⟨trivial, fun _ => trivial⟩)

end Opening

/-- The command of a tag and a tree that is its content. -/
def content? : Tag → Tree → Option Command
  | .openChannel, .object members =>
      (members.foldlM (takeMember? Opening.take?) {}).bind fun o => o.command.toOption
  | .sendPayload, tree => tree.bytes?.map .sendPayload
  | .closeChannel, .null => some .closeChannel
  | _, _ => none

theorem toOption_readNull (h : Spells depth tree text) (hGap : Blank gap) (expected : String)
    (rest : Bytes) :
    (tree = .null ∧ readNull expected (gap ++ (text ++ rest)) = .ok rest) ∨
      tree ≠ .null ∧ ∃ fault, readNull expected (gap ++ (text ++ rest)) = .error fault := by
  have hText := (opens_spells h).skipBlank hGap rest
  unfold readNull
  by_cases hNull : tree = .null
  · subst hNull
    obtain rfl := h.null
    have hWord := readWord_append restOfNull rest
    rw [List.cons_append] at hText ⊢
    simp only [hText, if_true, hWord]
    exact Or.inl ⟨trivial, trivial⟩
  · obtain ⟨b, more, rfl, hInitial⟩ := initial_spells h
    rw [List.cons_append] at hText ⊢
    simp only [hText, if_neg (mt hInitial.null.mp hNull)]
    exact Or.inr ⟨hNull, _, rfl⟩

theorem finds_opening :
    Finds (readContent .openChannel) (ofValue .openChannel) (content? .openChannel) := by
  constructor
  · intro depth tree text gap rest h hGap hRest
    have hText := (opens_spells h).skipBlank hGap rest
    unfold readContent
    by_cases hObject : ∃ members, tree = .object members
    · obtain ⟨members, rfl⟩ := hObject
      obtain ⟨depth, inside, hMembers, rfl⟩ := h.object
      have hFuel : inside.length ≤ (inside ++ rest).length + 1 := by
        rw [List.length_append]
        omega
      have hRead := toOption_readFields Opening.takes_fields {} hMembers hFuel rest
      rw [List.cons_append] at hText ⊢
      simp only [hText, if_true]
      unfold content?
      rcases reading_cases hRead with ⟨o, hMeaning, hRead⟩ | ⟨hMeaning, fault, hRead⟩
      all_goals simp only [hRead, hMeaning, Option.bind_some]
      · cases o.command <;> rfl
      · rfl
    · have hMeaning : content? .openChannel tree = none := by
        cases tree with
        | object members => exact absurd ⟨members, rfl⟩ hObject
        | null | boolean | number | string | array => rfl
      obtain ⟨b, more, rfl, hInitial⟩ := initial_spells h
      rw [hMeaning]
      rw [List.cons_append] at hText ⊢
      simp only [hText, if_neg (mt hInitial.object.mp hObject)]
      rfl
  · intro levels tree value hValue
    cases Tree.kept hValue with
    | object h =>
        have hTake := toOption_takeFields Opening.takes_fields {} h
        rw [content?, ← hTake]
        unfold ofValue
        dsimp only
        cases takeFields Opening.fields _ {} <;> rfl
    | null | boolean | number | string | array => rfl

theorem finds_payload :
    Finds (readContent .sendPayload) (ofValue .sendPayload) (content? .sendPayload) := by
  constructor
  · intro depth tree text gap rest h hGap hRest
    unfold readContent content?
    rcases reading_cases (finds_bytes.reads h hGap hRest) with
      ⟨payload, hMeaning, hRead⟩ | ⟨hMeaning, fault, hRead⟩
    all_goals
      simp only [hRead, hMeaning]
      rfl
  · intro levels tree value hValue
    have hTake := finds_bytes.takes hValue
    rw [content?, ← hTake]
    unfold ofValue
    dsimp only
    cases value.bytes <;> rfl

theorem finds_nothing :
    Finds (readContent .closeChannel) (ofValue .closeChannel) (content? .closeChannel) := by
  constructor
  · intro depth tree text gap rest h hGap hRest
    unfold readContent
    rcases toOption_readNull h hGap closingName rest with ⟨rfl, hRead⟩ | ⟨hNull, fault, hRead⟩
    · simp only [hRead]
      rfl
    · have hMeaning : content? .closeChannel tree = none := by
        cases tree with
        | null => exact absurd rfl hNull
        | boolean | number | string | array | object => rfl
      simp only [hRead, hMeaning]
      rfl
  · intro levels tree value hValue
    cases Tree.kept hValue <;> rfl

/-- Content is read as what its tree says to the tag, and taken as the same if it was kept. -/
theorem finds_content (tag : Tag) : Finds (readContent tag) (ofValue tag) (content? tag) := by
  cases tag with
  | openChannel => exact finds_opening
  | sendPayload => exact finds_payload
  | closeChannel => exact finds_nothing

/-! Tags -/

/-- The tag that a string names. -/
def spelled? (s : Spelling) : Option Tag := s.string?.bind Tag.ofVariant?

/-- The tag of a command that is an object: a name, or an object with null under the name. -/
def tag? : Tree → Option Tag
  | .string s => spelled? s
  | .object [(s, .null)] => spelled? s
  | _ => none

theorem toOption_readName (s : Spelling) (hGap : Blank gap) (rest : Bytes) :
    (Tag.readName (gap ++ quoteMark :: (s.body ++ rest))).toOption = (spelled? s).map (·, rest) := by
  unfold Tag.readName readText spelled?
  rw [skipBlank_append hGap, skipBlank_cons rfl]
  rcases reading_cases (s.toOption_readString rest) with ⟨name, hMeaning, hRead⟩ | ⟨hMeaning, fault, hRead⟩
  all_goals simp only [if_true, hRead, hMeaning, Option.bind_some]
  · cases Tag.ofVariant? name <;> rfl
  · rfl

/-- A name is a string. -/
theorem readName_error {b : UInt8} (hGap : Blank gap) (hBlank : isBlankByte b = false)
    (hQuote : b ≠ quoteMark) (rest : Bytes) : ∃ fault, Tag.readName (gap ++ b :: rest) = .error fault := by
  unfold Tag.readName readText
  rw [skipBlank_append hGap, skipBlank_cons hBlank]
  simp only [if_neg hQuote]
  exact ⟨_, rfl⟩

/-- An object names nothing if its first key is no name. -/
theorem tag?_of_unnamed {s : Spelling} (h : spelled? s = none) (tree : Tree)
    (members : List (Spelling × Tree)) : tag? (.object ((s, tree) :: members)) = none := by
  unfold tag?
  split
  · rename_i hSame
    cases hSame
  · rename_i hSame
    cases hSame
    exact h
  · rfl

/-- An object names a tag if it has one member, which is null. -/
theorem toOption_readTag_object (h : Inside (Json.Member (Spells depth)) closeBrace true members text)
    (hGap : Blank gap) (rest : Bytes) :
    (Tag.read (gap ++ openBrace :: (text ++ rest))).toOption =
      (tag? (.object members)).map (·, rest) := by
  unfold Tag.read
  rw [skipBlank_append hGap, skipBlank_cons rfl]
  have hQuote : openBrace ≠ quoteMark := by decide
  simp only [if_neg hQuote, if_true]
  cases h with
  | done hGap =>
      obtain ⟨fault, hRead⟩ := readName_error hGap (b := closeBrace) rfl (by decide) rest
      rw [List.append_assoc, List.singleton_append]
      simp only [hRead]
      rfl
  | @item _ lead _ further m members hLead hItem hFurther =>
      obtain ⟨s, tree⟩ := m
      obtain ⟨gap, gap', value, hGap, hGap', hValue, rfl⟩ := hItem
      have hName := toOption_readName s hLead (gap ++ colon :: (gap' ++ (value ++ (further ++ rest))))
      simp only [List.append_assoc, List.cons_append]
      rcases reading_cases hName with ⟨tag, hMeaning, hRead⟩ | ⟨hMeaning, fault, hRead⟩
      all_goals simp only [hRead, readColon_append hGap]
      · rcases toOption_readNull hValue hGap' "unit" (further ++ rest) with
          ⟨rfl, hNull⟩ | ⟨hNull, fault, hRead⟩
        · simp only [hNull]
          cases hFurther with
          | done hGap =>
              rw [List.append_assoc, skipBlank_append hGap, List.singleton_append, skipBlank_cons rfl]
              simp only [if_true, tag?, hMeaning]
              rfl
          | item hLead =>
              obtain ⟨gap, gap', hGap, -, rfl⟩ := hLead
              simp only [List.append_assoc, List.cons_append, skipBlank_append hGap,
                skipBlank_cons (b := comma) rfl]
              rfl
        · have hNone : tag? (.object ((s, tree) :: members)) = none := by
            cases tree with
            | null => exact absurd rfl hNull
            | boolean | number | string | array | object => rfl
          simp only [hRead, hNone]
          rfl
      · rw [tag?_of_unnamed hMeaning]
        rfl

theorem toOption_readTag (h : Spells depth tree text) (hGap : Blank gap) (rest : Bytes) :
    (Tag.read (gap ++ (text ++ rest))).toOption = (tag? tree).map (·, rest) := by
  by_cases hObject : ∃ members, tree = .object members
  · obtain ⟨members, rfl⟩ := hObject
    obtain ⟨depth, inside, hMembers, rfl⟩ := h.object
    exact toOption_readTag_object hMembers hGap rest
  · by_cases hString : ∃ s, tree = .string s
    · obtain ⟨s, rfl⟩ := hString
      obtain rfl := h.string
      have hName := toOption_readName s blank_nil rest
      unfold Tag.read
      rw [skipBlank_append hGap, List.cons_append, skipBlank_cons rfl]
      simp only [if_true]
      exact hName
    · have hMeaning : tag? tree = none := by
        cases tree with
        | object members => exact absurd ⟨members, rfl⟩ hObject
        | string s => exact absurd ⟨s, rfl⟩ hString
        | null | boolean | number | array => rfl
      obtain ⟨b, more, rfl, hInitial⟩ := initial_spells h
      unfold Tag.read
      rw [hMeaning, skipBlank_append hGap, List.cons_append, skipBlank_cons hInitial.blank]
      simp only [if_neg (mt hInitial.string.mp hString), if_neg (mt hInitial.object.mp hObject)]
      rfl

/-- The string that names a tag. -/
def Tag.spelling (tag : Tag) : Spelling := .ofText tag.variant (by cases tag <;> decide +kernel)

/-! Members -/

/-- The member of a command that a key stands for. -/
def Member.ofKey? (key : String) : Option Member :=
  if key = Member.tag.name then some .tag
  else if key = Member.data.name then some .data
  else none

/-- The key of a member. -/
def Member.key (member : Member) : Spelling := .ofText member.name (by cases member <;> decide +kernel)

/-- The members of a command among the members of an object. Every key has to be text. -/
def known? : List (Spelling × Tree) → Option (List (Member × Tree))
  | [] => some []
  | (s, tree) :: members => s.string?.bind fun key =>
      match Member.ofKey? key with
      | some member => (known? members).map ((member, tree) :: ·)
      | none => known? members

/-- What looking for the next member that matters comes to. It finds one that was not seen before, or the
end of the object, or a fault: a key that is not text, or a member that was seen. -/
inductive Seeks (seen : List Member) (rest : Bytes) (members : List (Spelling × Tree)) :
    Reading (Option Member) → Prop where
  | fault {fault : Fault}
      (h : ∀ members', known? members = some members' →
        ∃ member ∈ seen, ∃ tree more, members' = (member, tree) :: more) :
      Seeks seen rest members (.error fault)
  | done {gap : Bytes} (h : known? members = some []) (hGap : Blank gap) :
      Seeks seen rest members (.ok (none, gap ++ closeBrace :: rest))
  | found {member : Member} {tree : Tree} {more : List (Spelling × Tree)} {gap value further : Bytes}
      {depth : Nat} (hSeen : member ∉ seen)
      (h : known? members = (known? more).map ((member, tree) :: ·)) (hGap : Blank gap)
      (hValue : Spells depth tree value)
      (hMore : Inside (Json.Member (Spells depth)) closeBrace false more further) :
      Seeks seen rest members (.ok (some member, gap ++ (value ++ (further ++ rest))))

/-- Only the members that matter make a difference. -/
theorem Seeks.of_known? {seen : List Member} {members' : List (Spelling × Tree)}
    {reading : Reading (Option Member)} (h : Seeks seen rest members reading)
    (hKnown : known? members' = known? members) : Seeks seen rest members' reading := by
  cases h with
  | fault h => exact .fault fun found hFound => h found (hKnown.symm.trans hFound)
  | done h hGap => exact .done (hKnown.trans h) hGap
  | found hSeen h hGap hValue hMore => exact .found hSeen (hKnown.trans h) hGap hValue hMore

/-- Where a member that was seen may not come again, a fault in looking is a fault of the members. -/
theorem bind_known?_none {α : Type} {seen : List Member} {meaning : List (Member × Tree) → Option α}
    (h : ∀ members', known? members = some members' →
      ∃ member ∈ seen, ∃ tree more, members' = (member, tree) :: more)
    (hSeen : ∀ member ∈ seen, ∀ tree found, meaning ((member, tree) :: found) = none) :
    (known? members).bind meaning = none := by
  cases hKnown : known? members with
  | none => rfl
  | some found =>
      obtain ⟨member, hMember, tree, more, rfl⟩ := h found hKnown
      exact hSeen member hMember tree more

theorem seeks_nextMemberOf (seen : List Member)
    (h : Inside (Json.Member (Spells depth)) closeBrace first members text) {fuel : Nat}
    (hFuel : text.length ≤ fuel) (rest : Bytes) :
    Seeks seen rest members (nextMemberOf seen fuel first (text ++ rest)) := by
  induction h generalizing fuel with
  | done hGap =>
      rw [List.length_append, List.length_singleton] at hFuel
      obtain ⟨fuel, rfl⟩ : ∃ more, fuel = more + 1 := ⟨fuel - 1, by omega⟩
      unfold nextMemberOf
      rw [List.append_assoc]
      simp only [List.singleton_append, nextKey_append_close _ hGap]
      exact .done rfl hGap
  | @item first lead text further m members hLead hItem hFurther ih =>
      obtain ⟨s, tree⟩ := m
      obtain ⟨gap, gap', value, hGap, hGap', hValue, rfl⟩ := hItem
      simp only [List.length_append, List.length_cons] at hFuel
      obtain ⟨fuel, rfl⟩ : ∃ more, fuel = more + 1 := ⟨fuel - 1, by omega⟩
      have hKey := s.toOption_readString (gap ++ colon :: (gap' ++ (value ++ (further ++ rest))))
      unfold nextMemberOf
      simp only [List.append_assoc, List.cons_append, nextKey_lead hLead]
      rcases reading_cases hKey with ⟨key, hMeaning, hRead⟩ | ⟨hMeaning, fault, hRead⟩
      all_goals simp only [hRead, Except.map]
      · have hOther : Member.ofKey? key = none → known? ((s, tree) :: members) = known? members := by
          intro hOf
          rw [known?, hMeaning, Option.bind_some, hOf]
        have hFound (member : Member) (hOf : Member.ofKey? key = some member) :
            Seeks seen rest ((s, tree) :: members)
              (if member ∈ seen then .error (.misfit (.duplicateField member.name))
              else .ok (some member, gap' ++ (value ++ (further ++ rest)))) := by
          have hKnown : known? ((s, tree) :: members) = (known? members).map ((member, tree) :: ·) := by
            rw [known?, hMeaning, Option.bind_some, hOf]
          split_ifs with hSeen
          · refine .fault fun members' hSome => ?_
            obtain ⟨more, -, rfl⟩ := Option.map_eq_some_iff.mp (hKnown.symm.trans hSome)
            exact ⟨member, hSeen, tree, more, rfl⟩
          · exact .found hSeen hKnown hGap' hValue hFurther
        unfold Member.ofKey? at hOther hFound
        simp only [readColon_append hGap]
        by_cases hTag : key = Member.tag.name
        · simp only [if_pos hTag] at hFound ⊢
          exact hFound .tag rfl
        · by_cases hData : key = Member.data.name
          · simp only [if_neg hTag, if_pos hData] at hFound ⊢
            exact hFound .data rfl
          · simp only [if_neg hTag, if_neg hData] at hOther ⊢
            have hStops := hFurther.stops (Or.inr rfl) rest
            rw [skipValue_spells hValue hGap' hStops]
            exact (@ih fuel (by omega)).of_known? (hOther trivial)
      · refine .fault fun members' hSome => ?_
        rw [known?, hMeaning] at hSome
        cases hSome

theorem seeks_nextMember (seen : List Member)
    (h : Inside (Json.Member (Spells depth)) closeBrace first members text) (rest : Bytes) :
    Seeks seen rest members (nextMember seen first (text ++ rest)) := by
  refine seeks_nextMemberOf seen h ?_ rest
  rw [List.length_append]
  omega

/-! Whole commands -/

/-- The command of a tag and the members after it. Only a command without content can do without
`data`. -/
def tagFirst? (tag : Tag) : List (Member × Tree) → Option Command
  | [] => if tag = .closeChannel then some .closeChannel else none
  | [(.data, d)] => content? tag d
  | _ => none

def dataFirst? (d : Tree) : List (Member × Tree) → Option Command
  | [(.tag, t)] => (tag? t).bind fun tag => content? tag d
  | _ => none

/-- The command that the members of an object make, in their order. Content that stands first has to be
kept until the tag is known. -/
def object? : List (Member × Tree) → Option Command
  | (.tag, t) :: found => (tag? t).bind fun tag => tagFirst? tag found
  | (.data, d) :: found => (d.value? (nestingLimit - 1)).bind fun _ => dataFirst? d found
  | [] => none

/-- The command of a tag and the items after it. -/
def tagged? (tag : Tag) : List Tree → Option Command
  | [d] => content? tag d
  | _ => none

def pair? : List Tree → Option Command
  | .string s :: items => (spelled? s).bind fun tag => tagged? tag items
  | _ => none

/-- The command that a tree is. -/
def command? : Tree → Option Command := Tree.record? pair? fun members => (known? members).bind object?

variable {t d : Tree} {tag : Tag} {c : Command} {more : List (Spelling × Tree)}
  {found : List (Member × Tree)} {value further : Bytes}

/-- After tag and content nothing may follow that matters. -/
theorem toOption_closeMembers (c : Command)
    (h : Inside (Json.Member (Spells depth)) closeBrace false members text) (rest : Bytes) :
    (closeMembers c (text ++ rest)).toOption =
      (known? members).bind fun found => if found.isEmpty then some (c, rest) else none := by
  have hSeeks := seeks_nextMember [.tag, .data] h rest
  unfold closeMembers
  generalize nextMember [.tag, .data] false (text ++ rest) = reading at hSeeks
  cases hSeeks with
  | fault h => exact (bind_known?_none h fun _ _ _ _ => rfl).symm
  | done h hGap =>
      simp only [bind, Except.bind, closeObject_append hGap, h]
      rfl
  | @found member _ _ _ _ _ _ hSeen => cases member <;> exact absurd (by decide) hSeen

/-- Content and whatever comes after it are read. -/
theorem toOption_content (tag : Tag) (hGap : Blank gap) (hValue : Spells depth d value)
    (hMore : Inside (Json.Member (Spells depth)) closeBrace false more further) (rest : Bytes) :
    (do
      let (c, text) ← readContent tag (gap ++ (value ++ (further ++ rest)))
      closeMembers c text : Except Fault (Command × Bytes)).toOption =
      (known? more).bind fun found =>
        if found.isEmpty then (content? tag d).map (·, rest) else none := by
  have hStops := hMore.stops (Or.inr rfl) rest
  rcases reading_cases ((finds_content tag).reads hValue hGap hStops) with
    ⟨c, hMeaning, hRead⟩ | ⟨hMeaning, fault, hRead⟩
  all_goals simp only [bind, Except.bind, hRead, hMeaning]
  · exact toOption_closeMembers c hMore rest
  · cases known? more with
    | none => rfl
    | some found => cases found <;> rfl

/-- Content that was kept is taken, and the rest of the object is passed over. -/
theorem toOption_taken (tag : Tag) {levels : Nat} {v : Value} (hKept : d.value? levels = some v)
    (hMore : Inside (Json.Member (Spells depth)) closeBrace false more further) (rest : Bytes) :
    (do
      let c ← ofValue tag v
      closeMembers c (further ++ rest) : Except Fault (Command × Bytes)).toOption =
      (known? more).bind fun found =>
        if found.isEmpty then (content? tag d).map (·, rest) else none := by
  rw [← (finds_content tag).takes hKept]
  cases ofValue tag v with
  | error fault =>
      cases known? more with
      | none => rfl
      | some found => cases found <;> rfl
  | ok c => exact toOption_closeMembers c hMore rest

theorem toOption_readTagFirst (hGap : Blank gap) (hValue : Spells depth t value)
    (hMore : Inside (Json.Member (Spells depth)) closeBrace false more further) (rest : Bytes) :
    (readTagFirst (gap ++ (value ++ (further ++ rest)))).toOption =
      (known? more).bind fun found => (object? ((.tag, t) :: found)).map (·, rest) := by
  unfold readTagFirst
  rcases reading_cases (toOption_readTag hValue hGap (further ++ rest)) with
    ⟨tag, hMeaning, hRead⟩ | ⟨hMeaning, fault, hRead⟩
  all_goals simp only [bind, Except.bind, hRead, object?, hMeaning, Option.bind_some]
  · have hSeeks := seeks_nextMember [.tag] hMore rest
    generalize nextMember [.tag] false (further ++ rest) = reading at hSeeks
    cases hSeeks with
    | fault h =>
        refine (bind_known?_none h fun member hMember tree found => ?_).symm
        obtain rfl := List.mem_singleton.mp hMember
        rfl
    | done h hGap =>
        rw [h]
        by_cases hTag : tag = .closeChannel
        · simp only [if_pos hTag, closeObject_append hGap, Option.bind_some, tagFirst?]
          rfl
        · simp only [if_neg hTag, Option.bind_some, tagFirst?]
          rfl
    | @found member d more _ _ _ _ hSeen h hGap hValue hMore =>
        cases member with
        | tag => exact absurd List.mem_cons_self hSeen
        | data =>
            refine (toOption_content tag hGap hValue hMore rest).trans ?_
            rw [h]
            cases known? more with
            | none => rfl
            | some found => cases found <;> rfl
  · cases known? more <;> rfl

theorem toOption_readDataFirst (hGap : Blank gap) (hValue : Spells depth d value)
    (hMore : Inside (Json.Member (Spells depth)) closeBrace false more further) (rest : Bytes) :
    (readDataFirst (gap ++ (value ++ (further ++ rest)))).toOption =
      (known? more).bind fun found => (object? ((.data, d) :: found)).map (·, rest) := by
  have hStops := hMore.stops (Or.inr rfl) rest
  unfold readDataFirst
  rcases reading_cases (toOption_readValue hValue hGap hStops (nestingLimit - 1)) with
    ⟨v, hMeaning, hRead⟩ | ⟨hMeaning, fault, hRead⟩
  all_goals simp only [bind, Except.bind, hRead, object?, hMeaning, Option.bind_some]
  · have hSeeks := seeks_nextMember [.data] hMore rest
    generalize nextMember [.data] false (further ++ rest) = reading at hSeeks
    cases hSeeks with
    | fault h =>
        refine (bind_known?_none h fun member hMember tree found => ?_).symm
        obtain rfl := List.mem_singleton.mp hMember
        rfl
    | done h hGap =>
        rw [h]
        rfl
    | @found member t more gap value further _ hSeen h hGap hTag hMore =>
        cases member with
        | data => exact absurd List.mem_cons_self hSeen
        | tag =>
            rw [h]
            rcases reading_cases (toOption_readTag hTag hGap (further ++ rest)) with
              ⟨tag, hTagged, hRead⟩ | ⟨hTagged, fault, hRead⟩
            all_goals simp only [hRead]
            · refine (toOption_taken tag hMeaning hMore rest).trans ?_
              cases known? more with
              | none => rfl
              | some found => cases found <;> simp [dataFirst?, hTagged]
            · cases known? more with
              | none => rfl
              | some found => cases found <;> simp [dataFirst?, hTagged, Except.toOption]
  · cases known? more <;> rfl

theorem toOption_readObject (h : Inside (Json.Member (Spells depth)) closeBrace true members text)
    (rest : Bytes) :
    (readObject (text ++ rest)).toOption =
      ((known? members).bind object?).map (·, rest) := by
  have hSeeks := seeks_nextMember [] h rest
  unfold readObject
  generalize nextMember [] true (text ++ rest) = reading at hSeeks
  cases hSeeks with
  | fault h =>
      rw [bind_known?_none h fun _ hMember => absurd hMember List.not_mem_nil]
      rfl
  | done h hGap =>
      rw [h]
      rfl
  | @found member tree more _ _ _ _ _ h hGap hValue hMore =>
      rw [h]
      cases member with
      | tag =>
          refine (toOption_readTagFirst hGap hValue hMore rest).trans ?_
          cases known? more <;> rfl
      | data =>
          refine (toOption_readDataFirst hGap hValue hMore rest).trans ?_
          cases known? more <;> rfl

theorem toOption_tagged (tag : Tag) (h : Inside (Spells depth) closeBracket false items text)
    (rest : Bytes) :
    (do
      let some text ← nextItem false (text ++ rest)
        | .error (.misfit (.invalidLength 1 expectation))
      let (c, text) ← readContent tag text
      return (c, ← closeList text) : Except Fault (Command × Bytes)).toOption =
      (tagged? tag items).map (·, rest) := by
  cases h with
  | done hGap =>
      simp only [bind, Except.bind, List.append_assoc, List.singleton_append,
        nextItem_append_close _ hGap]
      rfl
  | @item _ lead value further d items hLead hValue hFurther =>
      have hStops := hFurther.stops (Or.inl rfl) rest
      have hContent := (finds_content tag).reads hValue blank_nil hStops
      simp only [bind, Except.bind, List.append_assoc, nextItem_lead hLead (opens_spells hValue)]
      rcases reading_cases hContent with ⟨c, hMeaning, hRead⟩ | ⟨hMeaning, fault, hRead⟩
      all_goals
        rw [List.nil_append] at hRead
        simp only [hRead]
      · cases hFurther with
        | done hGap =>
            simp only [List.append_assoc, List.singleton_append, closeList_append hGap, tagged?,
              hMeaning]
            rfl
        | @item _ lead text further _ _ hLead =>
            obtain ⟨fault, hClose⟩ := closeList_lead hLead (text ++ (further ++ rest))
            simp only [List.append_assoc, hClose]
            rfl
      · cases items with
        | nil =>
            rw [tagged?, hMeaning]
            rfl
        | cons => rfl

/-- A list is a command if it is its name and its content, and nothing more. -/
theorem toOption_readPair (h : Inside (Spells depth) closeBracket true items text) (rest : Bytes) :
    (readPair (text ++ rest)).toOption = (pair? items).map (·, rest) := by
  unfold readPair
  cases h with
  | done hGap =>
      rw [List.append_assoc]
      simp only [bind, Except.bind, List.singleton_append, nextItem_append_close _ hGap]
      rfl
  | @item _ lead name further t items hLead hName hFurther =>
      rw [List.append_assoc, List.append_assoc, nextItem_lead hLead (opens_spells hName)]
      by_cases hString : ∃ s, t = .string s
      · obtain ⟨s, rfl⟩ := hString
        obtain rfl := hName.string
        have hRead := toOption_readName s blank_nil (further ++ rest)
        rw [List.nil_append] at hRead
        rw [pair?, List.cons_append]
        rcases reading_cases hRead with ⟨tag, hMeaning, hRead⟩ | ⟨hMeaning, fault, hRead⟩
        all_goals simp only [bind, Except.bind, hRead, hMeaning, Option.bind_some]
        · exact toOption_tagged tag hFurther rest
        · rfl
      · have hMeaning : pair? (t :: items) = none := by
          cases t with
          | string s => exact absurd ⟨s, rfl⟩ hString
          | null | boolean | number | array | object => rfl
        obtain ⟨b, more, rfl, hInitial⟩ := initial_spells hName
        obtain ⟨fault, hRead⟩ := readName_error blank_nil hInitial.blank
          (mt hInitial.string.mp hString) (more ++ (further ++ rest))
        rw [List.nil_append] at hRead
        simp only [bind, Except.bind, List.cons_append, hRead, hMeaning]
        rfl

/-- Every text is read as the command of its tree. -/
theorem toOption_read (h : Writes tree text) : (read text).toOption = command? tree :=
  toOption_readWhole toOption_readPair toOption_readObject h expectation

theorem read_eq_ok_iff (h : Writes tree text) : read text = .ok c ↔ command? tree = some c := by
  rw [← toOption_read h]
  cases read text <;> simp [Except.toOption]

end Command

end LockRelay
