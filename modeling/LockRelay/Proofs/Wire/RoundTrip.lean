import LockRelay.Wire.Reader
import LockRelay.Proofs.Json.Collections

/-! Messages survive the wire. Each reader takes back what is printed for its kind, and an object is
read member by member into the record that it was printed from. -/
namespace LockRelay

namespace Json

variable {bound : Nat} {expected : String} {n : Nat} {text rest : Bytes}

/-! Readers of one kind -/

theorem reads_natural (h : n < bound) (hBound : bound ≤ UInt64.size) :
    Reads (readNatural bound expected) (printNatural n) n := by
  intro rest hRest
  obtain ⟨b, digits, hText, hDigit⟩ := printNatural_eq_cons n
  obtain ⟨hBlank, -, -, -, hMinus, -⟩ := not_of_isDigit hDigit
  have hRead := readNumber_printNatural (lt_of_lt_of_le h hBound) rest hRest
  rw [hText, List.cons_append] at hRead ⊢
  unfold readNatural
  simp only [skipBlank_cons hBlank, if_neg hMinus, if_pos hDigit, hRead, fitNatural, if_pos h]

theorem reads_text (text : String) : Reads (readText expected) (printString text) text := by
  intro rest hRest
  unfold readText
  rw [printString_eq, List.cons_append]
  simp only [skipBlank_cons (b := quoteMark) rfl, readString_stringBody]
  rfl

/-! Lists of bytes -/

def printItems (data : Bytes) : List Bytes := data.map fun b => printNatural b.toNat

theorem printItems_cons (b : UInt8) (data : Bytes) :
    printItems (b :: data) = printNatural b.toNat :: printItems data := rfl

theorem printBytes_eq (data : Bytes) :
    printBytes data = openBracket :: (separate (printItems data) ++ [closeBracket]) := rfl

theorem reads_byte (b : UInt8) :
    Reads (readNatural 256 expected) (printNatural b.toNat) b.toNat :=
  reads_natural b.toNat_lt (by decide)

theorem readByteItems_restOf (data : Bytes) (fuel : Nat) (hFuel : data.length < fuel)
    (rest : Bytes) :
    readByteItems fuel false (restOf closeBracket (printItems data) ++ rest) =
      .ok (data, rest) := by
  induction data generalizing fuel with
  | nil =>
      cases fuel with
      | zero => cases hFuel
      | succ fuel => rfl
  | cons b data ih =>
      rw [printItems_cons, restOf_cons, List.cons_append, List.append_assoc]
      cases fuel with
      | zero => cases hFuel
      | succ fuel =>
          have hEnds := ends_restOf (Or.inl rfl) (printItems data) rest
          have hMore := ih fuel (Nat.lt_of_succ_lt_succ hFuel)
          unfold readByteItems
          simp only [nextItem_comma (begins_printNatural b.toNat), reads_byte b _ hEnds, hMore,
            UInt8.ofNat_toNat]

theorem readByteItems_separate (data : Bytes) (fuel : Nat) (hFuel : data.length < fuel)
    (rest : Bytes) :
    readByteItems fuel true (separate (printItems data) ++ [closeBracket] ++ rest) =
      .ok (data, rest) := by
  cases fuel with
  | zero => cases hFuel
  | succ fuel =>
  cases data with
  | nil => rfl
  | cons b data =>
      rw [printItems_cons, separate_append, List.append_assoc]
      have hEnds := ends_restOf (Or.inl rfl) (printItems data) rest
      have hMore := readByteItems_restOf data fuel (Nat.lt_of_succ_lt_succ hFuel) rest
      unfold readByteItems
      simp only [nextItem_first (begins_printNatural b.toNat), reads_byte b _ hEnds, hMore,
        UInt8.ofNat_toNat]

theorem reads_bytes (data : Bytes) : Reads readBytes (printBytes data) data := by
  intro rest hRest
  have hLength :
      data.length < (separate (printItems data) ++ [closeBracket] ++ rest).length + 1 := by
    have hItems := length_le_separate closeBracket (printItems data)
    rw [printItems, List.length_map, ← printItems] at hItems
    rw [List.length_append]
    omega
  rw [printBytes_eq, List.cons_append]
  unfold readBytes
  simp only [skipBlank_cons (b := openBracket) rfl, if_true]
  exact readByteItems_separate data _ hLength rest

/-! Records -/

variable {σ α : Type} {fields : Fields σ} {record next final : σ}

/-- Members that are taken one after another into a record. -/
inductive Fills (fields : Fields σ) : σ → List (String × Bytes) → σ → Prop where
  | nil (record : σ) : Fills fields record [] record
  | cons {record next final : σ} {key : String} {text : Bytes} {members : List (String × Bytes)}
      {field : Field σ} (hField : fields record key = .ok (some field))
      (hRead : Reads field.read text next) (hMembers : Fills fields next members final) :
      Fills fields record ((key, text) :: members) final

theorem readFields_restOf {members : List (String × Bytes)} (h : Fills fields record members final)
    (fuel : Nat) (hFuel : members.length < fuel) (rest : Bytes) :
    readFields fields fuel false record (restOf closeBrace (printMembers members) ++ rest) =
      .ok (final, rest) := by
  induction h generalizing fuel with
  | nil record =>
      cases fuel with
      | zero => cases hFuel
      | succ fuel => rfl
  | @cons record next final key text members field hField hRead hMembers ih =>
      rw [printMembers_cons, restOf_cons, List.cons_append, List.append_assoc]
      cases fuel with
      | zero => cases hFuel
      | succ fuel =>
          have hValue := hRead _ (ends_restOf (Or.inr rfl) (printMembers members) rest)
          have hMore := ih fuel (Nat.lt_of_succ_lt_succ hFuel)
          unfold readFields
          simp only [nextKey_comma, readColon_colon, hField, hValue, hMore]

theorem readFields_separate {members : List (String × Bytes)}
    (h : Fills fields record members final) (fuel : Nat) (hFuel : members.length < fuel)
    (rest : Bytes) :
    readFields fields fuel true record
        (separate (printMembers members) ++ [closeBrace] ++ rest) = .ok (final, rest) := by
  cases fuel with
  | zero => cases hFuel
  | succ fuel =>
  cases h with
  | nil => rfl
  | @cons _ next _ key text members field hField hRead hMembers =>
      rw [printMembers_cons, separate_append, List.append_assoc]
      have hValue := hRead _ (ends_restOf (Or.inr rfl) (printMembers members) rest)
      have hMore := readFields_restOf hMembers fuel (Nat.lt_of_succ_lt_succ hFuel) rest
      unfold readFields
      simp only [nextKey_first, readColon_colon, hField, hValue, hMore]

/-- The length of an object is fuel enough for its members. -/
theorem readFields_printed {members : List (String × Bytes)}
    (h : Fills fields record members final) (rest : Bytes) :
    readFields fields ((separate (printMembers members) ++ [closeBrace] ++ rest).length + 1) true
        record (separate (printMembers members) ++ [closeBrace] ++ rest) = .ok (final, rest) := by
  apply readFields_separate h
  have hMembers := length_le_separate closeBrace (printMembers members)
  rw [printMembers, List.length_map, ← printMembers] at hMembers
  rw [List.length_append]
  omega

/-- A field that is not set yet takes what its reader reads. -/
theorem reads_once (name : String) {set : α → σ} {read : Bytes → Reading α}
    {take : Value → Except Fault α} {value : α} {field : Field σ} (h : Reads read text value)
    (hField : Field.once name false set read take = .ok (some field)) :
    Reads field.read text (set value) := by
  obtain rfl := Option.some.inj (Except.ok.inj hField)
  intro rest hRest
  simp only [h rest hRest]

end Json

open Json

/-- A whole text that is an object is what its members say. -/
theorem readWhole_object {α : Type} {list object : Bytes → Reading α} {value : α}
    (expected : String) (members : List (String × Bytes))
    (h : object (separate (printMembers members) ++ [closeBrace]) = .ok (value, [])) :
    readWhole expected list object (printObject members) = .ok value := by
  have hBracket : openBrace ≠ openBracket := by decide
  unfold readWhole
  rw [printObject_eq]
  simp only [skipBlank_cons (b := openBrace) rfl, if_neg hBracket, if_true, h]
  rfl

/-! Requests -/

namespace RelayRequest

theorem fills_fields (r : RelayRequest) :
    Fills fields {} [("serial", printNatural r.serial.toNat), ("message", printBytes r.message)]
      ⟨some r.serial, some r.message⟩ := by
  have hSerial : Reads (readNatural UInt32.size "u32") (printNatural r.serial.toNat)
      r.serial.toNat := reads_natural r.serial.toNat_lt (by decide)
  refine .cons rfl (reads_once "serial" hSerial rfl) ?_
  rw [UInt32.ofNat_toNat]
  exact .cons rfl (reads_once "message" (reads_bytes r.message) rfl) (.nil _)

theorem read_print (r : RelayRequest) : read r.print = .ok r := by
  apply readWhole_object
  have hFields := readFields_printed r.fills_fields []
  rw [List.append_nil] at hFields
  unfold readObject
  simp only [hFields]
  rfl

end RelayRequest

namespace ActivationRequest

theorem fills_fields (r : ActivationRequest) :
    Fills fields none [("endpointId", printString r.endpointId)] (some r.endpointId) :=
  .cons rfl (reads_once "endpointId" (reads_text r.endpointId) rfl) (.nil _)

theorem read_print (r : ActivationRequest) : read r.print = .ok r := by
  apply readWhole_object
  have hFields := readFields_printed r.fills_fields []
  rw [List.append_nil] at hFields
  unfold readObject
  simp only [hFields]
  rfl

end ActivationRequest

/-! Commands -/

namespace Command

theorem nextMember_first {known : Member} {seen : List Member} (h : known ∉ seen)
    (value rest : Bytes) :
    nextMember seen true (member known.name value ++ rest) = .ok (some known, value ++ rest) := by
  unfold nextMember nextMemberOf
  cases known <;> simp [nextKey_first, readColon_colon, h, Member.name]

theorem nextMember_comma {known : Member} {seen : List Member} (h : known ∉ seen)
    (value rest : Bytes) :
    nextMember seen false (comma :: (member known.name value ++ rest)) =
      .ok (some known, value ++ rest) := by
  unfold nextMember nextMemberOf
  cases known <;> simp [nextKey_comma, readColon_colon, h, Member.name]

/-- A command tells the name that is in its text. -/
theorem variant_eq_name (tag : Tag) : tag.variant = tag.name := by
  cases tag <;> rfl

theorem ofVariant_variant (tag : Tag) : Tag.ofVariant? tag.variant = some tag := by
  cases tag <;> decide

theorem reads_tag (tag : Tag) : Reads Tag.read (printString tag.variant) tag := by
  intro rest hRest
  have hText : readText "variant identifier" (printString tag.variant ++ rest) =
      .ok (tag.variant, rest) := reads_text tag.variant rest hRest
  rw [printString_eq, List.cons_append] at hText ⊢
  unfold Tag.read
  simp only [skipBlank_cons (b := quoteMark) rfl, if_true, Tag.readName, hText, ofVariant_variant]

/-- The content of a command as it is printed, if it has one. -/
def printContent : Command → Option Bytes
  | .openChannel serial message =>
      some (printObject [("serial", printNatural serial.toNat), ("message", printBytes message)])
  | .sendPayload payload => some (printBytes payload)
  | .closeChannel => none

theorem print_eq (c : Command) :
    c.print = printObject (("tag", printString c.tag.variant) ::
      (c.printContent.map fun content => ("data", content)).toList) := by
  cases c <;> rfl

theorem fills_opening (serial : UInt64) (message : Bytes) :
    Fills Opening.fields {} [("serial", printNatural serial.toNat), ("message", printBytes message)]
      ⟨some serial, some message⟩ := by
  have hSerial : Reads (readNatural UInt64.size "u64") (printNatural serial.toNat) serial.toNat :=
    reads_natural serial.toNat_lt le_rfl
  refine .cons rfl (reads_once "serial" hSerial rfl) ?_
  rw [UInt64.ofNat_toNat]
  exact .cons rfl (reads_once "message" (reads_bytes message) rfl) (.nil _)

theorem reads_content {c : Command} {content : Bytes} (h : c.printContent = some content) :
    Reads (readContent c.tag) content c := by
  intro rest hRest
  cases c with
  | openChannel serial message =>
      obtain rfl := Option.some.inj h
      have hFields := readFields_printed (fills_opening serial message) rest
      rw [printObject_eq, List.cons_append]
      simp only [tag, readContent, skipBlank_cons (b := openBrace) rfl, if_true, hFields]
      rfl
  | sendPayload payload =>
      obtain rfl := Option.some.inj h
      simp only [tag, readContent, reads_bytes payload rest hRest]
  | closeChannel => cases h

theorem readTagFirst_content {c : Command} {content : Bytes} (h : c.printContent = some content) :
    readTagFirst (printString c.tag.variant ++ restOf closeBrace [member "data" content]) =
      .ok (c, []) := by
  have hTag := reads_tag c.tag _ (ends_restOf (Or.inr rfl) [member "data" content] [])
  have hContent := reads_content h [closeBrace] (ends_cons (Or.inr (Or.inr rfl)) [])
  have hNext : nextMember [.tag] false (restOf closeBrace [member "data" content]) =
      .ok (some .data, content ++ [closeBrace]) := by
    rw [restOf_cons]
    exact @nextMember_comma .data [.tag] (by decide) content [closeBrace]
  rw [List.append_nil] at hTag
  unfold readTagFirst
  rw [hTag]
  simp only [bind, Except.bind, hNext, hContent]
  rfl

theorem readTagFirst_nothing : readTagFirst (printString Tag.closeChannel.variant ++ [closeBrace]) =
    .ok (closeChannel, []) := by
  have hTag := reads_tag .closeChannel [closeBrace] (ends_cons (Or.inr (Or.inr rfl)) [])
  unfold readTagFirst
  rw [hTag]
  rfl

theorem read_print (c : Command) : read c.print = .ok c := by
  have hFirst (items : List Bytes) :
      readObject (member "tag" (printString c.tag.variant) ++ restOf closeBrace items) =
        readTagFirst (printString c.tag.variant ++ restOf closeBrace items) := by
    have hNext := @nextMember_first .tag [] nofun (printString c.tag.variant)
      (restOf closeBrace items)
    unfold readObject
    simp only [bind, Except.bind]
    rw [show member "tag" = member Member.tag.name from rfl, hNext]
  rw [print_eq]
  apply readWhole_object
  rw [printMembers_cons, separate_append, hFirst]
  cases hContent : c.printContent with
  | some content => exact readTagFirst_content hContent
  | none =>
      cases c with
      | closeChannel => exact readTagFirst_nothing
      | openChannel serial message => cases hContent
      | sendPayload payload => cases hContent

/-! What a reader makes of a command's text that knows nothing of commands. -/

theorem yields_bytes (levels : Nat) (data : Bytes) :
    Yields (levels + 1) (printBytes data)
      (.array (data.map fun b => .number (.natural b.toNat))) := by
  apply yields_array
  rw [List.forall₂_map_left_iff, List.forall₂_map_right_iff, List.forall₂_same]
  intro b _
  exact yields_natural (lt_trans b.toNat_lt (by decide))

/-- The content of a command as a value, if it has one. -/
def contentValue : Command → Option Value
  | .openChannel serial message => some (.object [("serial", .number (.natural serial.toNat)),
      ("message", .array (message.map fun b => .number (.natural b.toNat)))])
  | .sendPayload payload => some (.array (payload.map fun b => .number (.natural b.toNat)))
  | .closeChannel => none

/-- The members of a command's text. -/
def members (c : Command) : List (String × Value) :=
  ("tag", .string c.tag.variant) :: (c.contentValue.map fun content => ("data", content)).toList

theorem yields_print (levels : Nat) (c : Command) :
    Yields (levels + 3) c.print (.object c.members) := by
  have hTag : Yields (levels + 2) (printString c.tag.variant) (.string c.tag.variant) := yields_string _
  rw [print_eq]
  apply yields_object
  refine .cons ⟨rfl, hTag⟩ ?_
  cases c with
  | openChannel serial message =>
      have hSerial : Yields (levels + 1) (printNatural serial.toNat)
          (.number (.natural serial.toNat)) := yields_natural serial.toNat_lt
      exact .cons ⟨rfl, yields_object
        (.cons ⟨rfl, hSerial⟩ (.cons ⟨rfl, yields_bytes levels message⟩ .nil))⟩ .nil
  | sendPayload payload => exact .cons ⟨rfl, yields_bytes (levels + 1) payload⟩ .nil
  | closeChannel => exact .nil

end Command

/-- Whatever is printed is read back, at every size of its numbers and lists and for every text. A
reader that knows nothing of commands finds in the text of one its tag, and besides the tag nothing
but the content that all commands have except the one to close the channel. -/
theorem messages_round_trip :
    (∀ c : Command, Command.read c.print = .ok c ∧
        ∃ members, readValue nestingLimit c.print = .ok (.object members, []) ∧
          members.lookup "tag" = some (.string c.tag.name) ∧
          members.map Prod.fst = if c = .closeChannel then ["tag"] else ["tag", "data"]) ∧
      (∀ r : RelayRequest, RelayRequest.read r.print = .ok r) ∧
      ∀ r : ActivationRequest, ActivationRequest.read r.print = .ok r := by
  refine ⟨fun c => ⟨c.read_print, c.members, ?_, ?_, ?_⟩, RelayRequest.read_print,
    ActivationRequest.read_print⟩
  · have hYields := (c.yields_print 124).reads _ [] le_rfl ends_nil
    rw [List.append_nil] at hYields
    exact hYields
  · rw [← Command.variant_eq_name]
    rfl
  · cases c <;> rfl

end LockRelay
