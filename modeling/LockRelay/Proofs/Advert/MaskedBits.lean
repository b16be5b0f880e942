import Mathlib
import LockRelay.Advert

/-! What any filter looks at, whatever its pattern and its mask are. It sees the bits under its mask
in the first twelve bytes of an entry and nothing else, and accepts an entry in which they are those
of its pattern. So other bits do not matter, every bit under the mask does, and a filter that looks
at more accepts less. -/
namespace LockRelay

/-- The entry with some bits of one byte turned over. -/
def Advert.flip (entry : Advert) (place : Nat) (bits : UInt8) : Advert :=
  { entry with data := entry.data.modify place (· ^^^ bits) }

/-- Two bytes are the same under a mask exactly if the bits that it selects are. -/
theorem and_eq_and_iff_testBit {a b mask : UInt8} :
    a &&& mask = b &&& mask ↔
      ∀ j < 8, mask.toNat.testBit j = true → a.toNat.testBit j = b.toNat.testBit j := by
  rw [← UInt8.toNat_inj, UInt8.toNat_and, UInt8.toNat_and]
  constructor
  · intro hSame j _ hSelected
    have hBit := congrArg (Nat.testBit · j) hSame
    simpa only [Nat.testBit_and, hSelected, Bool.and_true] using hBit
  · intro hBits
    apply Nat.eq_of_testBit_eq
    intro j
    rw [Nat.testBit_and, Nat.testBit_and]
    cases hSelected : mask.toNat.testBit j with
    | false => rw [Bool.and_false, Bool.and_false]
    | true =>
        have hj : j < 8 := (Nat.pow_lt_pow_iff_right (by decide)).mp
          (lt_of_le_of_lt (Nat.ge_two_pow_of_testBit hSelected) mask.toNat_lt)
        rw [hBits j hj hSelected]

/-- Turning bits over does not show under a mask exactly if none of them is under it. -/
theorem xor_and_eq_and_iff {a bits mask : UInt8} :
    (a ^^^ bits) &&& mask = a &&& mask ↔ bits &&& mask = 0 := by
  have hDistrib : (a ^^^ bits) &&& mask = (a &&& mask) ^^^ (bits &&& mask) := by
    rw [← UInt8.toNat_inj, UInt8.toNat_xor, UInt8.toNat_and, UInt8.toNat_and, UInt8.toNat_and,
      UInt8.toNat_xor, Nat.and_xor_distrib_right]
  rw [hDistrib, xor_left_eq_self_iff]

namespace DiscoveryFilter

variable (f : DiscoveryFilter)

/-- What a filter sees of data: the bits under its mask, in the bytes that are there. -/
def seen (data : Bytes) : Vector (Option UInt8) 12 :=
  Vector.ofFn fun i => data[i.val]?.map (· &&& f.mask[i])

theorem seen_eq_iff {a b : Bytes} :
    f.seen a = f.seen b ↔
      ∀ i (_ : i < 12), a[i]?.map (· &&& f.mask[i]) = b[i]?.map (· &&& f.mask[i]) := by
  rw [Vector.ext_iff]
  simp only [seen, Vector.getElem_ofFn]
  rfl

theorem accepts_iff_forall (entry : Advert) :
    f.accepts entry = true ↔
      entry.manufacturer = f.manufacturer ∧ ∃ _ : 12 ≤ entry.data.length,
        ∀ i (_ : i < 12), entry.data[i] &&& f.mask[i] = f.pattern[i] &&& f.mask[i] := by
  rw [accepts, Bool.and_eq_true, Bool.and_eq_true, beq_iff_eq, decide_eq_true_eq, and_assoc]
  refine and_congr_right fun _ => exists_prop.symm.trans (exists_congr fun hSize => ?_)
  have hLength : ((f.pattern.toList.zip f.mask.toList).zip entry.data).length = 12 := by
    simpa using show 12 ≤ entry.data.length from hSize
  rw [List.all_eq_true, List.forall_mem_iff_forall_getElem]
  simp only [hLength, List.getElem_zip, Vector.getElem_toList, beq_iff_eq]

/-- A filter accepts an entry under its company in which it sees its own pattern. -/
theorem accepts_iff_seen (entry : Advert) :
    f.accepts entry = true ↔
      entry.manufacturer = f.manufacturer ∧ f.seen entry.data = f.seen f.pattern.toList := by
  rw [accepts_iff_forall, seen_eq_iff]
  refine and_congr_right fun _ => ⟨fun ⟨hSize, h⟩ i hi => ?_, fun h => ?_⟩
  · have hData : entry.data[i]? = some entry.data[i] := List.getElem?_eq_getElem (by omega)
    simp [hData, h i hi, hi]
  · have hSize : 12 ≤ entry.data.length := by
      by_contra hShort
      have hLast := h 11 (by decide)
      simp [List.getElem?_eq_none (show entry.data.length ≤ 11 by omega)] at hLast
    refine ⟨hSize, fun i hi => ?_⟩
    have hByte := h i hi
    simpa [List.getElem?_eq_getElem (show i < entry.data.length by omega), hi] using hByte

/-- Entries in which a filter sees the same get the same verdict. -/
theorem accepts_congr {entry other : Advert} (hManufacturer : entry.manufacturer = other.manufacturer)
    (hSeen : f.seen entry.data = f.seen other.data) : f.accepts entry = f.accepts other := by
  rw [Bool.eq_iff_iff, accepts_iff_seen, accepts_iff_seen, hManufacturer, hSeen]

theorem accepts_iff_bits (entry : Advert) :
    f.accepts entry = true ↔
      entry.manufacturer = f.manufacturer ∧ ∃ _ : 12 ≤ entry.data.length,
        ∀ i (_ : i < 12), ∀ j < 8, f.mask[i].toNat.testBit j = true →
          entry.data[i].toNat.testBit j = f.pattern[i].toNat.testBit j := by
  simp only [accepts_iff_forall, and_eq_and_iff_testBit]

theorem seen_flip_of_unmasked (entry : Advert) {i : Nat} (hi : i < 12) {bits : UInt8}
    (h : bits &&& f.mask[i] = 0) : f.seen (entry.flip i bits).data = f.seen entry.data := by
  rw [seen_eq_iff]
  intro k hk
  rw [Advert.flip, List.getElem?_modify]
  by_cases hPlace : i = k
  · subst hPlace
    cases entry.data[i]? with
    | none => rfl
    | some b => exact congrArg some (by simpa using xor_and_eq_and_iff.mpr h)
  · simp [hPlace]

/-- Nothing after the twelfth byte is seen. -/
theorem seen_append {front : Bytes} (h : front.length = 12) (rest : Bytes) :
    f.seen (front ++ rest) = f.seen front := by
  rw [seen_eq_iff]
  intro i hi
  rw [List.getElem?_append_left (by omega)]

/-- Turning over a bit under the mask is seen. -/
theorem accepts_flip_of_masked {entry : Advert} (hAccepts : f.accepts entry = true) {i : Nat}
    (hi : i < 12) {bits : UInt8} (h : bits &&& f.mask[i] ≠ 0) :
    f.accepts (entry.flip i bits) = false := by
  rw [Bool.eq_false_iff]
  intro hFlipped
  obtain ⟨-, hSize, hBefore⟩ := (f.accepts_iff_forall entry).mp hAccepts
  obtain ⟨-, hSize', hAfter⟩ := (f.accepts_iff_forall _).mp hFlipped
  have hByte : (entry.flip i bits).data[i] = entry.data[i] ^^^ bits := by
    simp [Advert.flip]
  have hSame := (hAfter i hi).trans (hBefore i hi).symm
  rw [hByte, xor_and_eq_and_iff] at hSame
  exact h hSame

/-- A filter under the same company whose mask selects every bit that the mask of another one does,
and perhaps more, with the same pattern in the bits that both select. -/
structure Narrows (narrow wide : DiscoveryFilter) : Prop where
  manufacturer : narrow.manufacturer = wide.manufacturer
  bits : ∀ i (_ : i < 12), ∀ j < 8, wide.mask[i].toNat.testBit j = true →
    narrow.mask[i].toNat.testBit j = true ∧
      narrow.pattern[i].toNat.testBit j = wide.pattern[i].toNat.testBit j

theorem Narrows.accepts {narrow wide : DiscoveryFilter} (h : narrow.Narrows wide) {entry : Advert}
    (hAccepts : narrow.accepts entry = true) : wide.accepts entry = true := by
  rw [accepts_iff_bits] at hAccepts ⊢
  obtain ⟨hManufacturer, hSize, hBits⟩ := hAccepts
  refine ⟨hManufacturer.trans h.manufacturer, hSize, fun i hi j hj hSelected => ?_⟩
  obtain ⟨hAlso, hPattern⟩ := h.bits i hi j hj hSelected
  exact (hBits i hi j hj hAlso).trans hPattern

/-- An advertisement is admitted for any of its entries, so neither their order matters nor what
stands beside an entry that is accepted. -/
theorem admits_of_subset {entries more : List Advert} (h : entries ⊆ more)
    (hAdmits : f.admits entries = true) : f.admits more = true := by
  obtain ⟨entry, hEntry, hAccepts⟩ := List.any_eq_true.mp hAdmits
  exact List.any_eq_true.mpr ⟨entry, h hEntry, hAccepts⟩

theorem admits_perm {entries others : List Advert} (h : entries.Perm others) :
    f.admits entries = f.admits others := by
  rw [Bool.eq_iff_iff]
  exact ⟨f.admits_of_subset h.subset, f.admits_of_subset h.symm.subset⟩

/-- A filter compares bits. It accepts an entry exactly if the entry is under its company, has twelve
bytes at least, and has the bit of the pattern wherever the mask selects one. So its verdict does not
change with a bit that is not selected, nor with anything after the twelfth byte, and an entry that is
accepted is refused as soon as a selected bit of it is turned over. A filter that selects more bits
and has the same pattern in the old ones accepts no entry that the other refuses. An advertisement is
admitted in every order of its entries, and with more entries. -/
theorem accepts_exactly_selected_bits :
    (∀ entry, f.accepts entry = true ↔
      entry.manufacturer = f.manufacturer ∧ ∃ _ : 12 ≤ entry.data.length,
        ∀ i (_ : i < 12), ∀ j < 8, f.mask[i].toNat.testBit j = true →
          entry.data[i].toNat.testBit j = f.pattern[i].toNat.testBit j) ∧
      (∀ entry i (_ : i < 12) bits, bits &&& f.mask[i] = 0 →
        f.accepts (entry.flip i bits) = f.accepts entry) ∧
      (∀ manufacturer front rest other, front.length = 12 →
        f.accepts ⟨manufacturer, front ++ rest⟩ = f.accepts ⟨manufacturer, front ++ other⟩) ∧
      (∀ entry i (_ : i < 12) bits, bits &&& f.mask[i] ≠ 0 → f.accepts entry = true →
        f.accepts (entry.flip i bits) = false) ∧
      (∀ narrow : DiscoveryFilter, narrow.Narrows f → ∀ entry, narrow.accepts entry = true →
        f.accepts entry = true) ∧
      (∀ entries others, entries.Perm others → f.admits entries = f.admits others) ∧
      ∀ entries more, entries ⊆ more → f.admits entries = true → f.admits more = true := by
  refine ⟨f.accepts_iff_bits, fun entry i hi bits hBits => ?_, ?_, ?_, ?_, ?_, ?_⟩
  · exact f.accepts_congr rfl (f.seen_flip_of_unmasked entry hi hBits)
  · intro manufacturer front rest other hFront
    exact f.accepts_congr rfl ((f.seen_append hFront rest).trans (f.seen_append hFront other).symm)
  · exact fun entry i hi bits hBits hAccepts => f.accepts_flip_of_masked hAccepts hi hBits
  · exact fun narrow hNarrows entry hAccepts => hNarrows.accepts hAccepts
  · exact fun entries others hPerm => f.admits_perm hPerm
  · exact fun entries more hSubset hAdmits => f.admits_of_subset hSubset hAdmits

/-- The upper half of one byte, with a pattern that has bits in the lower half as well. -/
def upperHalf : DiscoveryFilter :=
  ⟨0, 0x004C, (Vector.replicate 12 0).set 2 0xA5, (Vector.replicate 12 0).set 2 0xF0⟩

/-- The whole of that byte. -/
def wholeByte : DiscoveryFilter := { upperHalf with mask := (Vector.replicate 12 0).set 2 0xFF }

theorem accepts_exactly_selected_bits_upperHalf :
    wholeByte.Narrows upperHalf ∧
      wholeByte.accepts ⟨0x004C, [1, 2, 0xA5, 4, 5, 6, 7, 8, 9, 10, 11, 12, 13]⟩ = true ∧
      upperHalf.admits [⟨0x004C, [1, 2, 0xA5, 4, 5, 6, 7, 8, 9, 10, 11, 12]⟩, ⟨0x065B, []⟩] = true ∧
      upperHalf.accepts ⟨0x004C, [1, 2, 0xA9, 4, 5, 6, 7, 8, 9, 10, 11, 12]⟩ = true ∧
      upperHalf.accepts ⟨0x004C, [1, 2, 0xB5, 4, 5, 6, 7, 8, 9, 10, 11, 12]⟩ = false := by
  obtain ⟨-, hUnselected, hBeyond, hSelected, hNarrower, hOrder, hMore⟩ :=
    accepts_exactly_selected_bits upperHalf
  have hNarrows : wholeByte.Narrows upperHalf := ⟨rfl, by decide⟩
  have hWhole :
      wholeByte.accepts ⟨0x004C, [1, 2, 0xA5, 4, 5, 6, 7, 8, 9, 10, 11, 12, 13]⟩ = true := by decide
  have hHalf : upperHalf.accepts ⟨0x004C, [1, 2, 0xA5, 4, 5, 6, 7, 8, 9, 10, 11, 12]⟩ = true :=
    (hBeyond 0x004C [1, 2, 0xA5, 4, 5, 6, 7, 8, 9, 10, 11, 12] [] [13] rfl).trans
      (hNarrower _ hNarrows _ hWhole)
  have hAlone :
      upperHalf.admits [⟨0x004C, [1, 2, 0xA5, 4, 5, 6, 7, 8, 9, 10, 11, 12]⟩] = true :=
    List.any_eq_true.mpr ⟨_, List.mem_singleton_self _, hHalf⟩
  refine ⟨hNarrows, hWhole, ?_, ?_, ?_⟩
  · exact (hOrder _ _ (.swap _ _ [])).trans (hMore _ _ (List.subset_cons_self _ _) hAlone)
  · exact (hUnselected _ 2 (by decide) 0x0C (by decide)).trans hHalf
  · exact hSelected _ 2 (by decide) 0x10 (by decide) hHalf

end DiscoveryFilter

end LockRelay
