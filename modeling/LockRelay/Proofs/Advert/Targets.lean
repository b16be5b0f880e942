import Mathlib
import LockRelay.Advert

/-! Which lock a filter is for. A filter made from a serial number holds that number and accepts the
entries in which the lock with that number announces itself ready for use, and no others. So no entry
passes the filters of two numbers. -/
namespace LockRelay

/-- A byte string is what is written of its value in its own width. -/
theorem Bytes.ofNatLE_toNatLE (data : Bytes) :
    Bytes.ofNatLE data.length (Bytes.toNatLE data) = data := by
  induction data with
  | nil => rfl
  | cons b rest ih =>
      have hByte : UInt8.ofNat (b.toNat + 256 * toNatLE rest) = b := by
        rw [← UInt8.toNat_inj, UInt8.toNat_ofNat']
        have hRange := b.toNat_lt
        omega
      have hRest : (b.toNat + 256 * toNatLE rest) / 256 = toNatLE rest := by
        have hRange := b.toNat_lt
        omega
      rw [toNatLE, List.length_cons, ofNatLE, hByte, hRest, ih]

/-- Bytes are those of a number that fits into them exactly if the number is their value. -/
theorem Bytes.eq_ofNatLE_iff {data : Bytes} {n : Nat} (h : n < Nat.pow 256 data.length) :
    data = Bytes.ofNatLE data.length n ↔ Bytes.toNatLE data = n := by
  constructor
  · intro hData
    rw [hData, toNatLE_ofNatLE]
    exact Nat.mod_eq_of_lt h
  · rintro rfl
    exact (ofNatLE_toNatLE data).symm

/-- An advertisement of the lock with a serial number, ready for use. -/
structure Advert.Announces (entry : Advert) (serial : UInt32) : Prop where
  manufacturer : entry.manufacturer = 0x065B
  size : 12 ≤ entry.data.length
  serial : (entry.data.drop 3).take 4 = Bytes.ofNatLE 4 serial.toNat
  flags : ∃ flags, entry.data[11]? = some flags ∧
    flags &&& Advert.updating = 0 ∧ flags &&& Advert.installable = 0

/-- An entry announces a lock by the value of four bytes and two bits of a fifth. -/
theorem Advert.announces_iff (entry : Advert) (serial : UInt32) :
    entry.Announces serial ↔ entry.manufacturer = 0x065B ∧ ∃ _ : 12 ≤ entry.data.length,
      entry.data[3].toNat + 256 * entry.data[4].toNat + 65536 * entry.data[5].toNat +
        16777216 * entry.data[6].toNat = serial.toNat ∧
      entry.data[11] &&& 0x08 = 0 ∧ entry.data[11] &&& 0x01 = 0 := by
  have hSerial (hSize : 12 ≤ entry.data.length) :
      (entry.data.drop 3).take 4 = Bytes.ofNatLE 4 serial.toNat ↔
        entry.data[3].toNat + 256 * entry.data[4].toNat + 65536 * entry.data[5].toNat +
          16777216 * entry.data[6].toNat = serial.toNat := by
    have hBytes : (entry.data.drop 3).take 4 =
        [entry.data[3], entry.data[4], entry.data[5], entry.data[6]] := by
      apply List.ext_getElem
      · simp
        omega
      · intro i hLeft hRight
        have hi : i < 4 := hRight
        interval_cases i <;> simp
    have hFits : serial.toNat < Nat.pow 256 4 := serial.toNat_lt
    have hValue : [entry.data[3], entry.data[4], entry.data[5], entry.data[6]] =
          Bytes.ofNatLE 4 serial.toNat ↔
        Bytes.toNatLE [entry.data[3], entry.data[4], entry.data[5], entry.data[6]] =
          serial.toNat := Bytes.eq_ofNatLE_iff hFits
    rw [hBytes, hValue]
    simp only [Bytes.toNatLE]
    exact ⟨fun h => by omega, fun h => by omega⟩
  constructor
  · rintro ⟨hManufacturer, hSize, hAnnounced, flags, hFlags, hUpdating, hInstallable⟩
    obtain ⟨_, rfl⟩ := List.getElem?_eq_some_iff.mp hFlags
    exact ⟨hManufacturer, hSize, (hSerial hSize).mp hAnnounced, hUpdating, hInstallable⟩
  · rintro ⟨hManufacturer, hSize, hValue, hUpdating, hInstallable⟩
    exact ⟨hManufacturer, hSize, (hSerial hSize).mpr hValue, entry.data[11],
      List.getElem?_eq_getElem _, hUpdating, hInstallable⟩

namespace DiscoveryFilter

/-- A filter for a serial number holds that number. -/
theorem serial_ofSerial (serial : UInt32) : (ofSerial serial).serial = serial := by
  have hBytes : [(ofSerial serial).pattern[3], (ofSerial serial).pattern[4],
      (ofSerial serial).pattern[5], (ofSerial serial).pattern[6]] =
        Bytes.ofNatLE 4 serial.toNat := by
    simp [ofSerial, Advert.layout, Bytes.ofNatLE, Nat.div_div_eq_div_mul]
  have hFits : serial.toNat % Nat.pow 256 4 = serial.toNat := Nat.mod_eq_of_lt serial.toNat_lt
  rw [DiscoveryFilter.serial, hBytes, Bytes.toNatLE_ofNatLE, hFits]
  exact UInt32.ofNat_toNat

/-- A filter for a serial number is known by the number that it holds. -/
theorem eq_ofSerial {serial : UInt64} {filter : DiscoveryFilter}
    (h : forSerial serial = .ok filter) : filter = ofSerial filter.serial := by
  unfold forSerial at h
  split_ifs at h
  obtain rfl := Except.ok.inj h
  rw [serial_ofSerial]

theorem forSerial_ok {serial : UInt64} {filter : DiscoveryFilter}
    (h : forSerial serial = .ok filter) :
    forSerial filter.serial.toUInt64 = .ok filter ∧ filter.serial.toUInt64 = serial := by
  unfold forSerial at h
  split_ifs at h with hFits
  obtain rfl := Except.ok.inj h
  rw [serial_ofSerial]
  have hSame : serial.toUInt32.toUInt64 = serial := by
    apply UInt64.toNat_inj.mp
    simp [Nat.mod_eq_of_lt hFits]
  rw [hSame]
  refine ⟨?_, rfl⟩
  unfold forSerial
  rw [if_pos hFits]

/-- A mask of two flags selects neither exactly if each is clear. -/
private theorem and_or_eq_zero_iff (flags a b : UInt8) :
    flags &&& (a ||| b) = 0 ↔ flags &&& a = 0 ∧ flags &&& b = 0 := by
  have hDistrib : flags &&& (a ||| b) = flags &&& a ||| flags &&& b := by
    simp [← UInt8.toBitVec_inj, BitVec.and_or_distrib_left]
  rw [hDistrib, UInt8.or_eq_zero_iff]

/-- A filter for a serial number accepts the advertisements of that lock, and no others. -/
theorem accepts_ofSerial_iff (serial : UInt32) (entry : Advert) :
    (ofSerial serial).accepts entry = true ↔ entry.Announces serial := by
  have hFull (b : UInt8) : b &&& 0xFF = b := UInt8.and_neg_one
  obtain ⟨manufacturer, data⟩ := entry
  by_cases hSize : 12 ≤ data.length
  · have hFront : (data.take 12).length = 12 := by simp [hSize]
    rw [← List.take_append_drop 12 data] at hSize ⊢
    generalize data.take 12 = front at hFront hSize ⊢
    generalize data.drop 12 = rest at hSize ⊢
    match front, hFront with
    | [a, b, c, d, e, f, g, h, i, j, k, l], _ =>
      have hAccepts : (ofSerial serial).accepts
          ⟨manufacturer, [a, b, c, d, e, f, g, h, i, j, k, l] ++ rest⟩ = true ↔
            manufacturer = 0x065B ∧ [d, e, f, g] = Bytes.ofNatLE 4 serial.toNat ∧
              l &&& Advert.updating = 0 ∧ l &&& Advert.installable = 0 := by
        simp [accepts, ofSerial, lockMask, Advert.layout, Advert.size, hFull, and_or_eq_zero_iff,
          Bytes.ofNatLE, Nat.div_div_eq_div_mul, lockManufacturer, and_assoc]
      rw [hAccepts]
      constructor
      · rintro ⟨hManufacturer, hSerial, hUpdating, hInstallable⟩
        exact ⟨hManufacturer, hSize, hSerial, l, rfl, hUpdating, hInstallable⟩
      · rintro ⟨hManufacturer, -, hSerial, flags, hFlags, hUpdating, hInstallable⟩
        obtain rfl : l = flags := Option.some.inj hFlags
        exact ⟨hManufacturer, hSerial, hUpdating, hInstallable⟩
  · constructor
    · simp [accepts, Advert.size, hSize]
    · exact fun hAnnounces => absurd hAnnounces.size hSize

/-- What a filter made from a serial number looks for, read off the bytes of an entry. -/
theorem accepts_iff_bytes {serial : UInt64} {filter : DiscoveryFilter}
    (h : forSerial serial = .ok filter) (entry : Advert) :
    filter.accepts entry = true ↔ entry.manufacturer = 0x065B ∧ ∃ _ : 12 ≤ entry.data.length,
      entry.data[3].toNat + 256 * entry.data[4].toNat + 65536 * entry.data[5].toNat +
        16777216 * entry.data[6].toNat = serial.toNat ∧
      entry.data[11] &&& 0x08 = 0 ∧ entry.data[11] &&& 0x01 = 0 := by
  have hSerial : filter.serial.toNat = serial.toNat := congrArg UInt64.toNat (forSerial_ok h).2
  rw [eq_ofSerial h, accepts_ofSerial_iff, Advert.announces_iff, hSerial]

/-- A filter can be made for the serial numbers of 32 bits, and the fault for any other names it. The
filter holds its number and accepts an entry exactly if the entry is under the lock's company, has
twelve bytes at least, bears the number in four of them with the lowest first, and has neither of two
flags set. Some entry of an advertisement has to be accepted. No entry is accepted for two
numbers. -/
theorem accepts_only_target (serial : UInt64) :
    (forSerial serial = .error ⟨serial⟩ ↔ 0xFFFFFFFF < serial.toNat) ∧
      (serial.toNat ≤ 0xFFFFFFFF → ∃ filter, forSerial serial = .ok filter ∧
        filter.serial.toNat = serial.toNat ∧
        (∀ entry, filter.accepts entry = true ↔
          entry.manufacturer = 0x065B ∧ ∃ _ : 12 ≤ entry.data.length,
            entry.data[3].toNat + 256 * entry.data[4].toNat + 65536 * entry.data[5].toNat +
              16777216 * entry.data[6].toNat = serial.toNat ∧
            entry.data[11] &&& 0x08 = 0 ∧ entry.data[11] &&& 0x01 = 0) ∧
        ∀ entries, filter.admits entries = true ↔
          ∃ entry ∈ entries, filter.accepts entry = true) ∧
      ∀ other filter otherFilter, forSerial serial = .ok filter →
        forSerial other = .ok otherFilter → serial ≠ other →
          ∀ entry, ¬(filter.accepts entry = true ∧ otherFilter.accepts entry = true) := by
  have hSize : UInt32.size = 4294967296 := rfl
  refine ⟨?_, fun hRange => ?_, ?_⟩
  · unfold forSerial
    split_ifs with hFits
    · exact iff_of_false nofun (by omega)
    · exact iff_of_true rfl (by omega)
  · have hFilter : forSerial serial = .ok (ofSerial serial.toUInt32) := if_pos (by omega)
    refine ⟨_, hFilter, congrArg UInt64.toNat (forSerial_ok hFilter).2, ?_, fun entries => ?_⟩
    · exact accepts_iff_bytes hFilter
    · exact List.any_eq_true
  · rintro other filter otherFilter hFilter hOther hDiffer entry ⟨hAccepts, hAlso⟩
    obtain ⟨-, _, hValue, -⟩ := (accepts_iff_bytes hFilter entry).mp hAccepts
    obtain ⟨-, _, hOtherValue, -⟩ := (accepts_iff_bytes hOther entry).mp hAlso
    exact hDiffer (UInt64.toNat_inj.mp (hValue.symm.trans hOtherValue))

/-- The bytes that a filter does not look at may be anything, and there may be more of them. -/
theorem accepts_only_target_with_other_bytes :
    ∃ filter, forSerial 12345 = .ok filter ∧ filter.admits [⟨0x004C, []⟩,
        ⟨0x065B, [0xA5, 0x5A, 0x01, 0x39, 0x30, 0, 0, 0x10, 0x20, 0x30, 0x40, 0xF6, 0xDE]⟩] = true ∧
      filter.accepts ⟨0x065B, [0, 0, 0, 0x39, 0x30, 0, 0, 0, 0, 0, 0, 0x08]⟩ = false ∧
      forSerial 4294967296 = .error ⟨4294967296⟩ := by
  obtain ⟨-, hInRange, -⟩ := accepts_only_target 12345
  obtain ⟨hFault, -, -⟩ := accepts_only_target 4294967296
  obtain ⟨filter, hFilter, -, hAccepts, hAdmits⟩ := hInRange (by decide)
  refine ⟨filter, hFilter, (hAdmits _).mpr ⟨_, List.mem_cons_of_mem _ List.mem_cons_self, ?_⟩, ?_,
    hFault.mpr (by decide)⟩
  · exact (hAccepts _).mpr (by decide)
  · rw [Bool.eq_false_iff, ne_eq, hAccepts]
    decide

end DiscoveryFilter

end LockRelay
