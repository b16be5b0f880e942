import LockRelay.Proofs.Wire.CommandGrammar

/-! The order of a command's members. Content after the tag is read straight into the command, content
before it is kept as a value first. Both ways lead to one command, and members of other keys make no
difference to either. -/
namespace LockRelay

open Json

namespace Command

variable {tree d : Tree} {members more : List (Spelling × Tree)} {text text' : Bytes} {tag : Tag}
  {c : Command} {dataFirst tagFirst pair : Bytes}

/-- A text of an object with the content before the tag. -/
def WritesDataFirst (tag : Tag) (d : Tree) (text : Bytes) : Prop :=
  ∃ data key name : Spelling, data.string? = some "data" ∧ key.string? = some "tag" ∧
    name.string? = some tag.variant ∧ Writes (.object [(data, d), (key, .string name)]) text

/-- A text of an object with the tag before the content. -/
def WritesTagFirst (tag : Tag) (d : Tree) (text : Bytes) : Prop :=
  ∃ key name data : Spelling, key.string? = some "tag" ∧ name.string? = some tag.variant ∧
    data.string? = some "data" ∧ Writes (.object [(key, .string name), (data, d)]) text

/-- A text of a list of tag and content. -/
def WritesPair (tag : Tag) (d : Tree) (text : Bytes) : Prop :=
  ∃ name : Spelling, name.string? = some tag.variant ∧ Writes (.array [.string name, d]) text

/-- Members are put in, anywhere and as many as one likes. Their keys are text and none of a command's,
and their values may be anything. -/
inductive Padded : List (Spelling × Tree) → List (Spelling × Tree) → Prop where
  | nil : Padded [] []
  | kept {members more : List (Spelling × Tree)} (m : Spelling × Tree) (h : Padded members more) :
      Padded (m :: members) (m :: more)
  | inserted {members more : List (Spelling × Tree)} {s : Spelling} {key : String} (value : Tree)
      (hKey : s.string? = some key) (hTag : key ≠ "tag") (hData : key ≠ "data")
      (h : Padded members more) : Padded members ((s, value) :: more)

theorem known?_padded (h : Padded members more) : known? more = known? members := by
  induction h with
  | nil => rfl
  | kept m _ ih =>
      obtain ⟨s, value⟩ := m
      rw [known?, known?, ih]
  | inserted value hKey hTag hData _ ih =>
      have hOther : Member.ofKey? _ = none := (if_neg hTag).trans (if_neg hData)
      rw [known?, hKey, Option.bind_some, hOther]
      exact ih

theorem known?_cons_member {s : Spelling} (member : Member) (h : s.string? = some member.name)
    (tree : Tree) (members : List (Spelling × Tree)) :
    known? ((s, tree) :: members) = (known? members).map ((member, tree) :: ·) := by
  rw [known?, h, Option.bind_some, ofKey?_iff.mpr rfl]

theorem read_dataFirst (h : WritesDataFirst tag d text) :
    read text = .ok c ↔ (d.value? (nestingLimit - 1)).isSome ∧ content? tag d = some c := by
  obtain ⟨data, key, name, hData, hKey, hName, hWrites⟩ := h
  have hFound : known? [(data, d), (key, .string name)] =
      some [(.data, d), (.tag, .string name)] := by
    rw [known?_cons_member .data hData, known?_cons_member .tag hKey]
    rfl
  have hTag : tag? (.string name) = some tag := spelled?_iff.mpr hName
  rw [read_eq_ok_iff hWrites, command?, Tree.record?, hFound, Option.bind_some, object?, dataFirst?,
    hTag, Option.bind_some]
  cases d.value? (nestingLimit - 1) <;> simp

theorem read_tagFirst (h : WritesTagFirst tag d text) : read text = .ok c ↔ content? tag d = some c := by
  obtain ⟨key, name, data, hKey, hName, hData, hWrites⟩ := h
  have hFound : known? [(key, .string name), (data, d)] =
      some [(.tag, .string name), (.data, d)] := by
    rw [known?_cons_member .tag hKey, known?_cons_member .data hData]
    rfl
  have hTag : tag? (.string name) = some tag := spelled?_iff.mpr hName
  rw [read_eq_ok_iff hWrites, command?, Tree.record?, hFound, Option.bind_some, object?, hTag,
    Option.bind_some, tagFirst?]

theorem read_pair (h : WritesPair tag d text) : read text = .ok c ↔ content? tag d = some c := by
  obtain ⟨name, hName, hWrites⟩ := h
  rw [read_eq_ok_iff hWrites, command?, Tree.record?, pair?, spelled?_iff.mpr hName, Option.bind_some,
    tagged?]

/-- One command, however its members are ordered. What is read with the content first is read with the
tag first, and from the list of both. The other way round the content has to be without excess, since
it is kept as a value. Members of other keys change nothing. -/
theorem same_in_every_order (hDataFirst : WritesDataFirst tag d dataFirst)
    (hTagFirst : WritesTagFirst tag d tagFirst) (hPair : WritesPair tag d pair) (c : Command) :
    (read dataFirst = .ok c → read tagFirst = .ok c ∧ read pair = .ok c) ∧
      (d.Modest 100 → read tagFirst = .ok c ∨ read pair = .ok c → read dataFirst = .ok c) ∧
      ∀ {members more : List (Spelling × Tree)} {text text' : Bytes}, Padded members more →
        Writes (.object members) text → Writes (.object more) text' →
        (read text').toOption = (read text).toOption := by
  rw [read_dataFirst hDataFirst, read_tagFirst hTagFirst, read_pair hPair, or_self]
  refine ⟨fun h => ⟨h.2, h.2⟩, fun hModest h => ⟨hModest.isSome_value (by decide), h⟩, ?_⟩
  intro members more text text' hPadded hText hText'
  rw [toOption_read hText, toOption_read hText', command?, Tree.record?, Tree.record?,
    known?_padded hPadded]

/-- A command's members with its tag before its content. -/
def tagThenContent (tag : Tag) (d : Tree) : List (Spelling × Tree) :=
  [(Member.tag.key, .string tag.spelling), (Member.data.key, d)]

theorem writes_dataFirst (tag : Tag) (d : Tree) :
    WritesDataFirst tag d (Tree.object (contentFirst tag d)).compact :=
  ⟨_, _, _, Spelling.string?_ofText _ _, Spelling.string?_ofText _ _, Spelling.string?_ofText _ _,
    Tree.writes_compact _⟩

theorem writes_tagFirst (tag : Tag) (d : Tree) :
    WritesTagFirst tag d (Tree.object (tagThenContent tag d)).compact :=
  ⟨_, _, _, Spelling.string?_ofText _ _, Spelling.string?_ofText _ _, Spelling.string?_ofText _ _,
    Tree.writes_compact _⟩

theorem writes_pair (tag : Tag) (d : Tree) :
    WritesPair tag d (Tree.array [.string tag.spelling, d]).compact :=
  ⟨_, Spelling.string?_ofText _ _, Tree.writes_compact _⟩

/-- A number that is passed over, in a list. -/
def extra : Spelling × Tree := (extraKey, .array [.number nearGreatest])

theorem same_in_every_order_seven :
    serialSeven.Modest 100 ∧
      read (Tree.object (contentFirst .openChannel serialSeven)).compact = .ok (.openChannel 7 []) ∧
      read (Tree.object (tagThenContent .openChannel serialSeven)).compact = .ok (.openChannel 7 []) ∧
      read (Tree.array [.string Tag.openChannel.spelling, serialSeven]).compact =
        .ok (.openChannel 7 []) ∧
      (read (Tree.object (extra :: contentFirst .openChannel serialSeven)).compact).toOption =
        some (.openChannel 7 []) := by
  obtain ⟨hFromFirst, hToFirst, hPadding⟩ :=
    same_in_every_order (writes_dataFirst .openChannel serialSeven)
      (writes_tagFirst .openChannel serialSeven) (writes_pair .openChannel serialSeven)
      (.openChannel 7 [])
  have hModest : serialSeven.Modest 100 := by decide +kernel
  have hTagFirst : read (Tree.object (tagThenContent .openChannel serialSeven)).compact =
      .ok (.openChannel 7 []) := by decide +kernel
  have hDataFirst := hToFirst hModest (Or.inl hTagFirst)
  have hPadded : Padded (contentFirst .openChannel serialSeven)
      (extra :: contentFirst .openChannel serialSeven) :=
    .inserted _ (Spelling.string?_ofText _ _) (by decide) (by decide) (.kept _ (.kept _ .nil))
  have hExtra := hPadding hPadded (Tree.writes_compact _) (Tree.writes_compact _)
  rw [hDataFirst] at hExtra
  exact ⟨hModest, hDataFirst, hTagFirst, (hFromFirst hDataFirst).2, hExtra⟩

/-- A key that is half of a surrogate pair. -/
def loneKey : Spelling := [.unit 0x64 0x38 0x30 0x30 0xD800 rfl]

/-- Content that holds a number near the greatest double is read after the tag and refused before it,
and a member whose key is not text is not passed over. -/
theorem order_matters_near_greatest :
    (nearGreatest.AtMost greatestDouble ∧
      read (Tree.object (tagThenContent .openChannel serialNearGreatest)).compact =
        .ok (.openChannel 7 []) ∧
      read (Tree.object (contentFirst .openChannel serialNearGreatest)).compact =
        .error (.breach .numberOutOfRange)) ∧
    read (Tree.object [(Member.tag.key, .string Tag.closeChannel.spelling)]).compact =
        .ok .closeChannel ∧
      read (Tree.object [(loneKey, .null),
        (Member.tag.key, .string Tag.closeChannel.spelling)]).compact =
        .error (.breach .brokenSurrogatePair) :=
  ⟨⟨by decide +kernel, by decide +kernel, by decide +kernel⟩, by decide +kernel, by decide +kernel⟩

end Command

end LockRelay
