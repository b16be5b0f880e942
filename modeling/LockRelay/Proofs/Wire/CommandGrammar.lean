import LockRelay.Proofs.Json.FiniteNumbers
import LockRelay.Proofs.Wire.CommandReading

/-! The grammar of commands, by what the members of an object are and not by how they are read. Among
texts without excess, those of the grammar are accepted and no others. -/
namespace LockRelay

open Json

namespace Command

variable {tree t d : Tree} {members : List (Spelling × Tree)} {text : Bytes} {depth : Nat} {tag : Tag}
  {c : Command} {key name : String}

/-- The values under a key, in their order. -/
def named (key : String) (members : List (Spelling × Tree)) : List Tree :=
  members.filterMap fun m => if m.1.string? = some key then some m.2 else none

theorem named_cons_self {s : Spelling} (h : s.string? = some key) (t : Tree)
    (members : List (Spelling × Tree)) : named key ((s, t) :: members) = t :: named key members := by
  simp [named, h]

theorem named_cons_ne {s : Spelling} (h : s.string? = some key) (hNe : key ≠ name) (t : Tree)
    (members : List (Spelling × Tree)) : named name ((s, t) :: members) = named name members := by
  simp [named, h, hNe]

/-- The name of a command, or in an object the name with null under it. -/
inductive Names (tag : Tag) : Tree → Prop where
  | plain {s : Spelling} (h : s.string? = some tag.variant) : Names tag (.string s)
  | wrapped {s : Spelling} (h : s.string? = some tag.variant) : Names tag (.object [(s, .null)])

/-- What a command holds. The content of an open command has one serial number and at most one message,
which is empty if there is none, whatever else it has. -/
inductive Holds : Command → Tree → Prop where
  | openChannel {serial : UInt64} {message : Bytes} {members : List (Spelling × Tree)} {n : Tree}
      (hSerial : named "serial" members = [n]) (hNumber : n.natural? UInt64.size = some serial.toNat)
      (hMessage : named "message" members = [] ∧ message = [] ∨
        ∃ m, named "message" members = [m] ∧ m.bytes? = some message) :
      Holds (.openChannel serial message) (.object members)
  | sendPayload {payload : Bytes} {tree : Tree} (h : tree.bytes? = some payload) :
      Holds (.sendPayload payload) tree
  | closeChannel : Holds .closeChannel .null

/-- The command that a tree denotes: an object with one tag and one content, whatever else it has, where
a command that holds nothing may do without, or a list of a name and a content. -/
inductive Denotes : Command → Tree → Prop where
  | object {c : Command} {members : List (Spelling × Tree)} {t d : Tree}
      (hTag : named "tag" members = [t]) (hName : Names c.tag t) (hData : named "data" members = [d])
      (hHolds : Holds c d) : Denotes c (.object members)
  | bare {members : List (Spelling × Tree)} {t : Tree} (hTag : named "tag" members = [t])
      (hName : Names .closeChannel t) (hData : named "data" members = []) :
      Denotes .closeChannel (.object members)
  | pair {c : Command} {s : Spelling} {d : Tree} (hName : s.string? = some c.tag.variant)
      (hHolds : Holds c d) : Denotes c (.array [.string s, d])

/-! Tags -/

theorem ofVariant?_iff : Tag.ofVariant? name = some tag ↔ name = tag.variant := by
  constructor
  · intro h
    have hFound := List.find?_some h
    exact (beq_iff_eq.mp hFound).symm
  · rintro rfl
    cases tag <;> decide

theorem spelled?_iff {s : Spelling} : spelled? s = some tag ↔ s.string? = some tag.variant := by
  unfold spelled?
  rw [Option.bind_eq_some_iff]
  constructor
  · rintro ⟨name, hName, hTag⟩
    rw [hName, ofVariant?_iff.mp hTag]
  · exact fun h => ⟨tag.variant, h, ofVariant?_iff.mpr rfl⟩

theorem tag?_iff : tag? t = some tag ↔ Names tag t := by
  constructor
  · intro h
    unfold tag? at h
    split at h
    · exact .plain (spelled?_iff.mp h)
    · exact .wrapped (spelled?_iff.mp h)
    · cases h
  · rintro (h | h)
    · exact spelled?_iff.mpr h
    · exact spelled?_iff.mpr h

/-! Content -/

/-- The value of a member that may stand once, after the values found so far. -/
def once? {α : Type} (meaning : Tree → Option α) : Option α → List Tree → Option (Option α)
  | found, [] => some found
  | none, t :: trees => (meaning t).bind fun a => once? meaning (some a) trees
  | some _, _ :: _ => none

def serial? (t : Tree) : Option UInt64 := (t.natural? UInt64.size).map UInt64.ofNat

/-- Taking the members one after another comes to taking those of each name. -/
theorem foldlM_take? (hKeys : ∀ m ∈ members, m.1.string?.isSome) (o : Opening) :
    members.foldlM (takeMember? Opening.take?) o =
      (once? serial? o.serial (named "serial" members)).bind fun serial =>
        (once? Tree.bytes? o.message (named "message" members)).map (⟨serial, ·⟩) := by
  induction members generalizing o with
  | nil => rfl
  | cons m members ih =>
      obtain ⟨s, t⟩ := m
      obtain ⟨key, hKey⟩ := Option.isSome_iff_exists.mp (hKeys (s, t) List.mem_cons_self)
      have hMore := ih fun m hm => hKeys m (List.mem_cons_of_mem _ hm)
      rw [List.foldlM_cons, takeMember?, hKey, Option.bind_some, Opening.take?]
      by_cases hSerial : key = "serial"
      · subst hSerial
        rw [named_cons_self hKey, named_cons_ne hKey (by decide), if_pos rfl]
        cases hFound : o.serial with
        | some n => rfl
        | none =>
            simp only [Option.isSome_none, Bool.false_eq_true, if_false, once?, serial?]
            cases t.natural? UInt64.size with
            | none => rfl
            | some n => exact hMore _
      · by_cases hMessage : key = "message"
        · subst hMessage
          rw [named_cons_self hKey, named_cons_ne hKey (by decide), if_neg hSerial, if_pos rfl]
          cases hFound : o.message with
          | some data =>
              cases once? serial? o.serial (named "serial" members) <;> rfl
          | none =>
              simp only [Option.isSome_none, Bool.false_eq_true, if_false, once?]
              cases t.bytes? with
              | none => cases once? serial? o.serial (named "serial" members) <;> rfl
              | some data => exact hMore _
        · rw [named_cons_ne hKey hSerial, named_cons_ne hKey hMessage, if_neg hSerial,
            if_neg hMessage]
          exact hMore o

theorem once?_iff {α : Type} {meaning : Tree → Option α} {found : Option α} {trees : List Tree} :
    once? meaning none trees = some found ↔
      trees = [] ∧ found = none ∨ ∃ t a, trees = [t] ∧ meaning t = some a ∧ found = some a := by
  cases trees with
  | nil => simp [once?, eq_comm]
  | cons t trees =>
      cases trees with
      | nil =>
        cases h : meaning t <;> simp [once?, h, eq_comm]
      | cons =>
        cases h : meaning t <;> simp [once?, h]

theorem serial?_iff {n : UInt64} : serial? t = some n ↔ t.natural? UInt64.size = some n.toNat := by
  unfold serial?
  rw [Option.map_eq_some_iff]
  constructor
  · rintro ⟨m, hNumber, rfl⟩
    have hFits : m < UInt64.size := by
      cases t with
      | number l => exact of_decide_eq_true (Option.filter_eq_some_iff.mp hNumber).2
      | null | boolean | string | array | object => cases hNumber
    rw [UInt64.toNat_ofNat_of_lt' hFits]
    exact hNumber
  · exact fun hNumber => ⟨n.toNat, hNumber, UInt64.ofNat_toNat⟩

theorem opening_iff (hKeys : ∀ m ∈ members, m.1.string?.isSome) :
    content? .openChannel (.object members) = some c ↔
      c.tag = .openChannel ∧ Holds c (.object members) := by
  rw [content?, foldlM_take? hKeys]
  constructor
  · intro h
    obtain ⟨o, hRead, hCommand⟩ := Option.bind_eq_some_iff.mp h
    obtain ⟨serial, hSerial, hRead⟩ := Option.bind_eq_some_iff.mp hRead
    obtain ⟨message, hMessage, rfl⟩ := Option.map_eq_some_iff.mp hRead
    rcases once?_iff.mp hSerial with ⟨-, rfl⟩ | ⟨n, serial, hNamed, hNumber, rfl⟩
    · cases hCommand
    · obtain rfl := Option.some.inj hCommand
      refine ⟨rfl, .openChannel hNamed (serial?_iff.mp hNumber) ?_⟩
      rcases once?_iff.mp hMessage with ⟨hNone, rfl⟩ | ⟨m, data, hNamed, hData, rfl⟩
      · exact Or.inl ⟨hNone, rfl⟩
      · exact Or.inr ⟨m, hNamed, hData⟩
  · rintro ⟨hTag, hHolds⟩
    cases hHolds with
    | sendPayload => cases hTag
    | @openChannel serial message _ n hSerial hNumber hMessage =>
        have hOnce := once?_iff.mpr (Or.inr ⟨n, serial, hSerial, serial?_iff.mpr hNumber, rfl⟩)
        rcases hMessage with ⟨hNone, rfl⟩ | ⟨m, hNamed, hData⟩
        · rw [hOnce, once?_iff.mpr (Or.inl ⟨hNone, rfl⟩)]
          rfl
        · rw [hOnce, once?_iff.mpr (Or.inr ⟨m, message, hNamed, hData, rfl⟩)]
          rfl

/-- The content of a command is what it holds. -/
theorem content?_iff (hModest : d.Modest depth) :
    content? tag d = some c ↔ c.tag = tag ∧ Holds c d := by
  cases tag with
  | openChannel =>
      cases d with
      | object members =>
          cases depth with
          | zero => exact hModest.elim
          | succ depth => exact opening_iff fun m hm => (hModest m hm).1
      | null | boolean | number | string | array =>
          constructor
          · intro h
            cases h
          · rintro ⟨hTag, hHolds⟩
            cases hHolds <;> cases hTag
  | sendPayload =>
      rw [content?, Option.map_eq_some_iff]
      constructor
      · rintro ⟨payload, hPayload, rfl⟩
        exact ⟨rfl, .sendPayload hPayload⟩
      · rintro ⟨hTag, hHolds⟩
        cases hHolds with
        | openChannel | closeChannel => cases hTag
        | sendPayload h => exact ⟨_, h, rfl⟩
  | closeChannel =>
      constructor
      · intro h
        cases d with
        | null =>
            obtain rfl := Option.some.inj h
            exact ⟨rfl, .closeChannel⟩
        | boolean | number | string | array | object => cases h
      · rintro ⟨hTag, hHolds⟩
        cases hHolds with
        | openChannel | sendPayload => cases hTag
        | closeChannel => rfl

/-! Objects -/

theorem ofKey?_iff {member : Member} : Member.ofKey? key = some member ↔ key = member.name := by
  unfold Member.ofKey?
  constructor
  · intro h
    split_ifs at h with hTag hData
    · rw [hTag, Option.some.inj h]
    · rw [hData, Option.some.inj h]
  · rintro rfl
    cases member <;> decide

/-- The values of one member among those that matter. -/
def valuesOf (member : Member) (found : List (Member × Tree)) : List Tree :=
  found.filterMap fun m => if m.1 = member then some m.2 else none

/-- The members that matter are the tags and the contents. -/
theorem known?_eq (hKeys : ∀ m ∈ members, m.1.string?.isSome) :
    ∃ found, known? members = some found ∧
      ∀ member : Member, valuesOf member found = named member.name members := by
  induction members with
  | nil => exact ⟨[], rfl, fun _ => rfl⟩
  | cons m members ih =>
      obtain ⟨s, t⟩ := m
      obtain ⟨key, hKey⟩ := Option.isSome_iff_exists.mp (hKeys (s, t) List.mem_cons_self)
      obtain ⟨found, hFound, hValues⟩ := ih fun m hm => hKeys m (List.mem_cons_of_mem _ hm)
      rw [known?, hKey, Option.bind_some, hFound]
      cases hOf : Member.ofKey? key with
      | none =>
          refine ⟨found, rfl, fun member => ?_⟩
          have hOther : key ≠ member.name := fun hSame => by
            rw [ofKey?_iff.mpr hSame] at hOf
            cases hOf
          rw [named_cons_ne hKey hOther, hValues]
      | some first =>
          obtain rfl := ofKey?_iff.mp hOf
          refine ⟨(first, t) :: found, rfl, fun member => ?_⟩
          by_cases hSame : first = member
          · subst hSame
            rw [named_cons_self hKey, ← hValues]
            simp [valuesOf]
          · have hOther : first.name ≠ member.name := by
              cases first <;> cases member <;> first | exact absurd rfl hSame | decide
            rw [named_cons_ne hKey hOther, ← hValues]
            simp [valuesOf, hSame]

variable {found : List (Member × Tree)}

theorem tagFirst?_iff : tagFirst? tag found = some c ↔ valuesOf .tag found = [] ∧
    ((∃ d, valuesOf .data found = [d] ∧ content? tag d = some c) ∨
      valuesOf .data found = [] ∧ tag = .closeChannel ∧ c = .closeChannel) := by
  rcases found with _ | ⟨⟨member, tree⟩, _ | ⟨⟨member', tree'⟩, found⟩⟩
  · simp [tagFirst?, valuesOf, eq_comm]
  · cases member <;> simp [tagFirst?, valuesOf]
  · cases member <;> cases member' <;> simp [tagFirst?, valuesOf]

theorem dataFirst?_iff : dataFirst? d found = some c ↔ valuesOf .data found = [] ∧
    ∃ t tag, valuesOf .tag found = [t] ∧ tag? t = some tag ∧ content? tag d = some c := by
  rcases found with _ | ⟨⟨member, tree⟩, _ | ⟨⟨member', tree'⟩, found⟩⟩
  · simp [dataFirst?, valuesOf]
  · cases member <;> simp [dataFirst?, valuesOf, Option.bind_eq_some_iff]
  · cases member <;> cases member' <;> simp [dataFirst?, valuesOf]

/-- The tags and the contents of an object make a command: one of each, or a tag that needs no
content. -/
def Matches (c : Command) (tags contents : List Tree) : Prop :=
  ∃ t, tags = [t] ∧ ((Names c.tag t ∧ ∃ d, contents = [d] ∧ Holds c d) ∨
    c = .closeChannel ∧ Names .closeChannel t ∧ contents = [])

theorem tagFirst_iff (hContent : ∀ d ∈ valuesOf .data found, d.Modest depth) :
    object? ((.tag, t) :: found) = some c ↔
      Matches c (t :: valuesOf .tag found) (valuesOf .data found) := by
  rw [object?, Option.bind_eq_some_iff]
  constructor
  · rintro ⟨tag, hNamed, hFirst⟩
    obtain ⟨hNone, hFirst⟩ := tagFirst?_iff.mp hFirst
    refine ⟨t, by rw [hNone], ?_⟩
    rcases hFirst with ⟨d, hOne, hMeaning⟩ | ⟨hBare, rfl, rfl⟩
    · have hModest := hContent d (by rw [hOne]; exact List.mem_cons_self)
      obtain ⟨rfl, hHolds⟩ := (content?_iff hModest).mp hMeaning
      exact Or.inl ⟨tag?_iff.mp hNamed, d, hOne, hHolds⟩
    · exact Or.inr ⟨rfl, tag?_iff.mp hNamed, hBare⟩
  · rintro ⟨t', hOnly, h⟩
    obtain ⟨rfl, hNone⟩ := List.cons.inj hOnly
    rcases h with ⟨hName, d, hOne, hHolds⟩ | ⟨rfl, hName, hBare⟩
    · have hModest := hContent d (by rw [hOne]; exact List.mem_cons_self)
      refine ⟨c.tag, tag?_iff.mpr hName, tagFirst?_iff.mpr ⟨hNone, Or.inl ⟨d, hOne, ?_⟩⟩⟩
      exact (content?_iff hModest).mpr ⟨rfl, hHolds⟩
    · exact ⟨.closeChannel, tag?_iff.mpr hName,
        tagFirst?_iff.mpr ⟨hNone, Or.inr ⟨hBare, rfl, rfl⟩⟩⟩

/-- Content that stands first is kept, and makes the command that it would make after the tag. -/
theorem dataFirst_iff (hModest : d.Modest depth) (hDepth : depth < nestingLimit) :
    object? ((.data, d) :: found) = some c ↔
      Matches c (valuesOf .tag found) (d :: valuesOf .data found) := by
  obtain ⟨value, hValue⟩ :=
    Option.isSome_iff_exists.mp (hModest.isSome_value (Nat.le_pred_of_lt hDepth))
  rw [object?, show nestingLimit - 1 = nestingLimit.pred from rfl, hValue, Option.bind_some,
    dataFirst?_iff]
  constructor
  · rintro ⟨hNone, t, tag, hOne, hNamed, hMeaning⟩
    obtain ⟨rfl, hHolds⟩ := (content?_iff hModest).mp hMeaning
    exact ⟨t, hOne, Or.inl ⟨tag?_iff.mp hNamed, d, by rw [hNone], hHolds⟩⟩
  · rintro ⟨t, hOne, ⟨hName, d', hOnly, hHolds⟩ | ⟨-, -, hBare⟩⟩
    · obtain ⟨rfl, hNone⟩ := List.cons.inj hOnly
      refine ⟨hNone, t, c.tag, hOne, tag?_iff.mpr hName, ?_⟩
      exact (content?_iff hModest).mpr ⟨rfl, hHolds⟩
    · cases hBare

theorem object?_iff (hContent : ∀ d ∈ valuesOf .data found, d.Modest depth)
    (hDepth : depth < nestingLimit) :
    object? found = some c ↔ Matches c (valuesOf .tag found) (valuesOf .data found) := by
  rcases found with _ | ⟨⟨_ | _, tree⟩, found⟩
  · simp [object?, Matches, valuesOf]
  · exact tagFirst_iff hContent
  · exact dataFirst_iff (hContent tree List.mem_cons_self) hDepth

theorem denotes_object_iff : Denotes c (.object members) ↔
    Matches c (named "tag" members) (named "data" members) := by
  constructor
  · rintro (⟨hTag, hName, hData, hHolds⟩ | ⟨hTag, hName, hData⟩)
    · exact ⟨_, hTag, Or.inl ⟨hName, _, hData, hHolds⟩⟩
    · exact ⟨_, hTag, Or.inr ⟨rfl, hName, hData⟩⟩
  · rintro ⟨t, hTag, ⟨hName, d, hData, hHolds⟩ | ⟨rfl, hName, hData⟩⟩
    · exact .object hTag hName hData hHolds
    · exact .bare hTag hName hData

theorem tagged?_iff {items : List Tree} :
    tagged? tag items = some c ↔ ∃ d, items = [d] ∧ content? tag d = some c := by
  rcases items with _ | ⟨d, _ | ⟨e, items⟩⟩
  · simp [tagged?]
  · simp [tagged?]
  · simp [tagged?]

theorem pair?_iff {items : List Tree} (hModest : ∀ d ∈ items, d.Modest depth) :
    pair? items = some c ↔ Denotes c (.array items) := by
  constructor
  · intro h
    unfold pair? at h
    split at h
    · obtain ⟨tag, hNamed, h⟩ := Option.bind_eq_some_iff.mp h
      obtain ⟨d, rfl, hMeaning⟩ := tagged?_iff.mp h
      have hModest := hModest d (List.mem_cons_of_mem _ List.mem_cons_self)
      obtain ⟨rfl, hHolds⟩ := (content?_iff hModest).mp hMeaning
      exact .pair (spelled?_iff.mp hNamed) hHolds
    · cases h
  · intro h
    cases h with
    | @pair _ s d hName hHolds =>
        have hModest := hModest d (List.mem_cons_of_mem _ List.mem_cons_self)
        rw [pair?, spelled?_iff.mpr hName]
        exact (content?_iff hModest).mpr ⟨rfl, hHolds⟩

theorem command?_iff (hModest : tree.Modest depth) (hDepth : depth ≤ nestingLimit) :
    command? tree = some c ↔ Denotes c tree := by
  cases tree with
  | array items =>
      cases depth with
      | zero => exact hModest.elim
      | succ depth => exact pair?_iff hModest
  | object members =>
      cases depth with
      | zero => exact hModest.elim
      | succ depth =>
          obtain ⟨found, hFound, hValues⟩ := known?_eq fun m hm => (hModest m hm).1
          have hContent : ∀ d ∈ valuesOf .data found, d.Modest depth := by
            intro d hd
            rw [hValues .data] at hd
            obtain ⟨m, hm, hd⟩ := List.mem_filterMap.mp hd
            split_ifs at hd
            obtain rfl := Option.some.inj hd
            exact (hModest m hm).2
          rw [command?, Tree.record?, hFound, Option.bind_some, object?_iff hContent hDepth,
            denotes_object_iff, hValues .tag, hValues .data]
          rfl
  | null | boolean | number | string =>
      constructor
      · intro h
        cases h
      · intro h
        cases h

theorem read_ok_iff (h : Writes tree text) (hModest : tree.Modest 100) :
    read text = .ok c ↔ Denotes c tree :=
  (read_eq_ok_iff h).trans (command?_iff hModest (by decide))

/-- Where all numbers are well below the greatest double, the grammar decides alone. -/
theorem read_ok_iff_of_small (h : Writes tree text) (hSmall : tree.Within Literal.Small 100) :
    read text = .ok c ↔ Denotes c tree :=
  read_ok_iff h (Tree.modest_of_small hSmall)

/-- A text without excess is read as a command exactly if its tree denotes the command, and is refused
if its tree denotes none. -/
theorem accepted_iff_denoted (h : Writes tree text) (hModest : tree.Modest 100) :
    (∀ c, read text = .ok c ↔ Denotes c tree) ∧
      ((∀ c, ¬Denotes c tree) → ∃ fault, read text = .error fault) := by
  refine ⟨fun c => read_ok_iff h hModest, fun hNone => ?_⟩
  cases hRead : read text with
  | error fault => exact ⟨fault, rfl⟩
  | ok c => exact absurd ((read_ok_iff h hModest).mp hRead) (hNone c)

/-- A command's members with its content before its tag. -/
def contentFirst (tag : Tag) (d : Tree) : List (Spelling × Tree) :=
  [(Member.data.key, d), (Member.tag.key, .string tag.spelling)]

theorem denotes_contentFirst (h : Holds c d) : Denotes c (.object (contentFirst c.tag d)) := by
  have hTag : Member.tag.key.string? = some "tag" := Spelling.string?_ofText _ _
  have hData : Member.data.key.string? = some "data" := Spelling.string?_ofText _ _
  have hTags : named "tag" (contentFirst c.tag d) = [.string c.tag.spelling] :=
    (named_cons_ne hData (by decide) _ _).trans (named_cons_self hTag _ _)
  have hContents : named "data" (contentFirst c.tag d) = [d] :=
    (named_cons_self hData _ _).trans (congrArg _ (named_cons_ne hTag (by decide) _ _))
  exact .object hTags (.plain (Spelling.string?_ofText _ _)) hContents h

def serialKey : Spelling := .ofText "serial" (by decide +kernel)

def seven : Literal := ⟨false, ⟨[0x37], by decide, by decide +kernel⟩, none, none, by decide⟩

/-- A serial number is content enough for an open command. -/
theorem holds_seven (hKeys : ∀ m ∈ members, m.1.string? ≠ some "serial" ∧ m.1.string? ≠ some "message") :
    Holds (.openChannel 7 []) (.object ((serialKey, .number seven) :: members)) := by
  have hSerial : serialKey.string? = some "serial" := Spelling.string?_ofText _ _
  have hSeven : (Tree.number seven).natural? UInt64.size = some (7 : UInt64).toNat := by
    decide +kernel
  have hNone (name : String) (h : ∀ m ∈ members, m.1.string? ≠ some name) : named name members = [] :=
    List.filterMap_eq_nil_iff.mpr fun m hm => if_neg (h m hm)
  refine .openChannel ((named_cons_self hSerial _ _).trans ?_) hSeven (Or.inl ⟨?_, rfl⟩)
  · rw [hNone "serial" fun m hm => (hKeys m hm).1]
  · exact (named_cons_ne hSerial (by decide) _ _).trans (hNone "message" fun m hm => (hKeys m hm).2)

def serialSeven : Tree := .object [(serialKey, .number seven)]

def openingSeven : Tree := .object (contentFirst .openChannel serialSeven)

theorem accepted_iff_denoted_seven :
    Writes openingSeven openingSeven.compact ∧ openingSeven.Modest 100 ∧
      read openingSeven.compact = .ok (.openChannel 7 []) := by
  have hModest : openingSeven.Modest 100 := by decide +kernel
  have hAccepted := (accepted_iff_denoted openingSeven.writes_compact hModest).1
  exact ⟨openingSeven.writes_compact, hModest,
    (hAccepted _).mpr (denotes_contentFirst (holds_seven nofun))⟩

/-- The tree of `\x7b"tag":\x7b"close_bluetooth_connection":null\x7d\x7d`. -/
def wrappedClosing : List (Spelling × Tree) :=
  [(Member.tag.key, .object [(Tag.closeChannel.spelling, .null)])]

/-- The number 1.7976931348623157081e308. -/
def nearGreatest : Literal :=
  ⟨false, ⟨[0x31], by decide, by decide +kernel⟩,
    some ⟨utf8 "7976931348623157081", by decide +kernel, by decide +kernel⟩,
    some ⟨0x65, rfl, none, ⟨utf8 "308", by decide +kernel, by decide +kernel⟩⟩, by decide⟩

/-- The greatest finite double. -/
def greatestDouble : Nat := (2 ^ 53 - 1) * 2 ^ 971

def extraKey : Spelling := .ofText "x" (by decide +kernel)

/-- The content of an open command with a number in a member that is passed over. -/
def serialNearGreatest : Tree :=
  .object [(serialKey, .number seven), (extraKey, .number nearGreatest)]

/-- A tag need not be a string, and a number may be refused that is not beyond the greatest double. -/
theorem wrapped_tag_accepted_near_greatest_refused :
    ((Tree.object wrappedClosing).Modest 100 ∧ (∀ s, named "tag" wrappedClosing ≠ [.string s]) ∧
      read (Tree.object wrappedClosing).compact = .ok .closeChannel) ∧
    nearGreatest.AtMost greatestDouble ∧
      Denotes (.openChannel 7 []) (.object (contentFirst .openChannel serialNearGreatest)) ∧
      read (Tree.object (contentFirst .openChannel serialNearGreatest)).compact =
        .error (.breach .numberOutOfRange) := by
  refine ⟨⟨by decide +kernel, nofun, by decide +kernel⟩, by decide +kernel, ?_, by decide +kernel⟩
  exact denotes_contentFirst (holds_seven (by decide +kernel))

end Command

end LockRelay
