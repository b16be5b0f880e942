import LockRelay.Proofs.Json.Tokens

/-! Values that nobody wants. A text of the grammar is passed over to its last byte, however deep it
is, whatever its numbers and strings are. Each byte takes two steps at most. -/
namespace LockRelay.Json

variable {α : Type} {R : α → Bytes → Prop} {close b : UInt8} {items : List α} {tree : Tree}
  {depth : Nat} {text lead gap rest : Bytes} {first : Bool}

/-- A leaf is passed over at its first byte. -/
theorem skipLeaf_leaf (h : Leaf tree text) (hRest : Stops rest) :
    ∃ b more, text = b :: more ∧ b ≠ openBracket ∧ b ≠ openBrace ∧
      skipLeaf b (more ++ rest) = .ok rest := by
  cases h with
  | null => exact ⟨_, _, rfl, nofun, nofun, readWord_append restOfNull rest⟩
  | true => exact ⟨_, _, rfl, nofun, nofun, readWord_append restOfTrue rest⟩
  | false => exact ⟨_, _, rfl, nofun, nofun, readWord_append restOfFalse rest⟩
  | number l =>
      have hSkip := l.skipNumber_magnitude hRest
      rcases l.text_cases with ⟨-, hText⟩ | ⟨-, hText⟩
      · exact ⟨minus, l.magnitude, hText, nofun, nofun, hSkip⟩
      · obtain ⟨b, more, hMagnitude, hDigit⟩ := l.magnitude_eq
        obtain ⟨-, hNull, hTrue, hFalse, hMinus, -⟩ := not_of_isDigit hDigit
        rw [hMagnitude, List.cons_append] at hSkip
        refine ⟨b, more, hText.trans hMagnitude, ?_, ?_, ?_⟩
        · rintro rfl
          cases hDigit
        · rintro rfl
          cases hDigit
        · unfold skipLeaf
          rw [if_neg hNull, if_neg hTrue, if_neg hFalse, if_neg hMinus, if_pos hDigit]
          exact hSkip
  | string s => exact ⟨_, _, rfl, nofun, nofun, s.skipString_body rest⟩

/-- The reader that passes over a value leaves what follows it. -/
structure Skips (text : Bytes) : Prop where
  opens : Opens text
  skips : ∃ used < 2 * text.length, ∀ fuel frames gap rest, Blank gap → Stops rest →
    skipOpen (fuel + used) frames (gap ++ (text ++ rest)) = skipRest fuel true frames rest

def Frame.closing : Frame → UInt8
  | .list => closeBracket
  | .object => closeBrace

/-- The same of an item of a list or a member of an object, which begins with a key. -/
structure SkipsIn (frame : Frame) (text : Bytes) : Prop where
  opens : Opens text
  skips : ∃ used < 2 * text.length, ∀ fuel frames gap rest, Blank gap → Stops rest →
    ∃ after, skipKey frame (gap ++ (text ++ rest)) = .ok after ∧
      skipOpen (fuel + used) (frame :: frames) after = skipRest fuel true (frame :: frames) rest

theorem Skips.item (h : Skips text) : SkipsIn .list text := by
  obtain ⟨used, hUsed, hSkip⟩ := h.skips
  refine ⟨h.opens, used, hUsed, fun fuel frames gap rest hGap hRest => ⟨_, rfl, ?_⟩⟩
  exact hSkip fuel (.list :: frames) gap rest hGap hRest

theorem Member.skips {m : Spelling × Tree} (h : Member (fun _ => Skips) m text) :
    SkipsIn .object text := by
  obtain ⟨gap, gap', value, hGap, hGap', hValue, rfl⟩ := h
  obtain ⟨used, hUsed, hSkip⟩ := hValue.skips
  refine ⟨opens_member _ _, used, ?_, fun fuel frames front rest hFront hRest => ?_⟩
  · simp only [List.length_cons, List.length_append]
    omega
  · refine ⟨gap' ++ (value ++ rest), ?_, hSkip fuel _ gap' rest hGap' hRest⟩
    unfold skipKey
    rw [skipBlank_append hFront]
    simp only [List.cons_append, List.append_assoc, skipBlank_cons (b := quoteMark) rfl, if_true,
      Spelling.skipString_body]
    exact readColon_append hGap _

variable {frame : Frame} {frames : List Frame} {fuel : Nat} {after : Bytes}

theorem skipRest_close (started : Bool) (hGap : Blank gap) :
    skipRest (fuel + 1) started (frame :: frames) (gap ++ frame.closing :: rest) =
      skipRest fuel true frames rest := by
  cases frame <;> rw [skipRest, skipBlank_append hGap] <;> rfl

/-- An item is passed over from its first byte on, or from the white space before it. -/
theorem skipRest_lead (hLead : Lead first lead) (hOpens : Opens text) (fuel : Nat) (frame : Frame)
    (frames : List Frame) (rest : Bytes) :
    ∃ gap, Blank gap ∧ ∀ after, skipKey frame (gap ++ (text ++ rest)) = .ok after →
      skipRest (fuel + 1) (!first) (frame :: frames) (lead ++ (text ++ rest)) =
        skipOpen fuel (frame :: frames) after := by
  cases first with
  | true =>
      have hText := hOpens.skipBlank hLead rest
      obtain ⟨b, more, rfl, hBlank, hBracket, hBrace⟩ := hOpens
      rw [List.cons_append] at hText
      refine ⟨[], blank_nil, fun after hKey => ?_⟩
      rw [List.nil_append, List.cons_append] at hKey
      cases frame with
      | list =>
          rw [skipRest]
          simp only [List.cons_append, hText, hKey, if_neg hBracket, Bool.not_true,
            Bool.false_eq_true, if_false]
      | object =>
          rw [skipRest]
          simp only [List.cons_append, hText, hKey, if_neg hBrace, Bool.not_true,
            Bool.false_eq_true, if_false]
  | false =>
      obtain ⟨gap, gap', hGap, hGap', rfl⟩ := hLead
      refine ⟨gap', hGap', fun after hKey => ?_⟩
      cases frame
      all_goals
        rw [skipRest, List.append_assoc, skipBlank_append hGap, List.cons_append, skipBlank_cons rfl]
        simp only [hKey, if_true]
        rfl

theorem Frame.closing_cases (frame : Frame) :
    frame.closing = closeBracket ∨ frame.closing = closeBrace := by
  cases frame
  · exact Or.inl rfl
  · exact Or.inr rfl

theorem skipRest_inside (h : Inside (fun _ => SkipsIn frame) frame.closing first items text) :
    ∃ used < 2 * text.length, ∀ fuel frames rest,
      skipRest (fuel + used) (!first) (frame :: frames) (text ++ rest) =
        skipRest fuel true frames rest := by
  induction h with
  | done hGap =>
      refine ⟨1, ?_, fun fuel frames rest => ?_⟩
      · simp only [List.length_append, List.length_singleton]
        omega
      · rw [List.append_assoc]
        exact skipRest_close _ hGap
  | @item first lead text further item items hLead hItem hFurther ih =>
      obtain ⟨used, hUsed, hSkip⟩ := hItem.skips
      obtain ⟨used', hUsed', hRest⟩ := ih
      refine ⟨used' + used + 1, ?_, fun fuel frames rest => ?_⟩
      · simp only [List.length_append]
        omega
      · have hStops := hFurther.stops frame.closing_cases rest
        obtain ⟨gap, hGap, hLeads⟩ := skipRest_lead hLead hItem.opens (fuel + used' + used) frame
          frames (further ++ rest)
        obtain ⟨after, hKey, hOpen⟩ := hSkip (fuel + used') frames gap (further ++ rest) hGap hStops
        simp only [List.append_assoc, ← Nat.add_assoc]
        calc skipRest (fuel + used' + used + 1) (!first) (frame :: frames)
              (lead ++ (text ++ (further ++ rest)))
            = skipOpen (fuel + used' + used) (frame :: frames) after := hLeads after hKey
          _ = skipRest (fuel + used') true (frame :: frames) (further ++ rest) := hOpen
          _ = skipRest fuel true frames rest := hRest fuel frames rest

/-- A leaf takes one step. -/
theorem skips_leaf (h : Leaf tree text) : Skips text := by
  have hOpens := opens_leaf h
  refine ⟨hOpens, 1, ?_, fun fuel frames gap rest hGap hRest => ?_⟩
  · obtain ⟨b, more, rfl, -⟩ := hOpens
    simp only [List.length_cons]
    omega
  · have hText := hOpens.skipBlank hGap rest
    obtain ⟨b, more, rfl, hBracket, hBrace, hLeaf⟩ := skipLeaf_leaf h hRest
    rw [List.cons_append] at hText ⊢
    rw [skipOpen]
    simp only [hText, if_neg hBracket, if_neg hBrace, hLeaf]

theorem skips_collection (frame : Frame) {b : UInt8} (hOpens : Opens (b :: text))
    (hOpen : ∀ fuel frames gap rest, Blank gap → skipOpen (fuel + 1) frames (gap ++ b :: rest) =
      skipRest fuel false (frame :: frames) rest)
    (h : Inside (fun _ : α => SkipsIn frame) frame.closing true items text) : Skips (b :: text) := by
  obtain ⟨used, hUsed, hSkip⟩ := skipRest_inside h
  refine ⟨hOpens, used + 1, ?_, fun fuel frames gap rest hGap _ => ?_⟩
  · simp only [List.length_cons]
    omega
  · rw [List.cons_append, ← Nat.add_assoc]
    exact (hOpen (fuel + used) frames gap (text ++ rest) hGap).trans (hSkip fuel frames rest)

theorem skips_spells (h : Spells depth tree text) : Skips text := by
  refine h.induction (P := fun _ => Skips) (fun _ _ hLeaf => skips_leaf hLeaf) ?_ ?_
  · intro items inside hItems
    refine skips_collection .list (opens_bracket inside) ?_
      (hItems.mono fun _ _ hItem => hItem.item)
    intro fuel frames gap rest hGap
    rw [skipOpen, skipBlank_append hGap]
    rfl
  · intro members inside hMembers
    refine skips_collection .object (opens_brace inside) ?_
      (hMembers.mono fun _ _ hMember => hMember.skips)
    intro fuel frames gap rest hGap
    rw [skipOpen, skipBlank_append hGap]
    rfl

/-- A value is passed over, with the white space before it. -/
theorem skipValue_spells (h : Spells depth tree text) (hGap : Blank gap) (hRest : Stops rest) :
    skipValue (gap ++ (text ++ rest)) = .ok rest := by
  obtain ⟨used, hUsed, hSkip⟩ := (skips_spells h).skips
  have hFuel : 2 * (gap ++ (text ++ rest)).length + 2 =
      2 * gap.length + 2 * rest.length + 2 + (2 * text.length - used) + used := by
    simp only [List.length_append]
    omega
  unfold skipValue
  rw [hFuel, hSkip _ [] gap rest hGap hRest]
  rw [skipRest]

end LockRelay.Json
