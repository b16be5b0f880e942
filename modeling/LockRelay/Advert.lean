import LockRelay.Uuid

/-! Advertisements and the filter that picks one lock out of them. The manufacturer data of a
lock has twelve bytes: three protocol bytes, the serial number with its lowest byte first, four
protocol bytes, and the capability flags. A filter compares the bits that its mask selects. -/
namespace LockRelay

/-- One entry of an advertisement: data under a company identifier. -/
structure Advert where
  manufacturer : UInt16
  data : Bytes
  deriving DecidableEq, Repr

namespace Advert

/-- Number of bytes that a filter looks at. -/
def size : Nat := 12

/-- Place of the serial number. -/
def serialOffset : Nat := 3

/-- Place of the capability flags. -/
def flagsOffset : Nat := 11

/-- Flag of a lock in firmware update mode. -/
def updating : UInt8 := 0x08

/-- Flag of a lock that waits to be installed. -/
def installable : UInt8 := 0x01

/-- Manufacturer data with a serial number and flags in their places, and zeros elsewhere. -/
def layout (serial : UInt32) (flags : UInt8) : Vector UInt8 12 :=
  let byte (i : Nat) : UInt8 := UInt8.ofNat (serial.toNat / Nat.pow 256 i)
  #v[0, 0, 0, byte 0, byte 1, byte 2, byte 3, 0, 0, 0, 0, flags]

/-- What a lock with this serial number and these flags broadcasts. -/
def ofLock (serial : UInt32) (flags : UInt8) : Advert :=
  ⟨lockManufacturer, (layout serial flags).toList⟩

end Advert

/-- A serial number that does not fit into 32 bits. -/
structure SerialOutOfRange where
  serial : UInt64
  deriving DecidableEq, Repr

def SerialOutOfRange.message (e : SerialOutOfRange) : String :=
  s!"serial {e.serial.toNat} does not fit in 32 bits"

/-- The admission rule for discovery. -/
structure DiscoveryFilter where
  serviceId : UInt16
  manufacturer : UInt16
  pattern : Vector UInt8 12
  mask : Vector UInt8 12
  deriving DecidableEq, Repr

namespace DiscoveryFilter

/-- Selects the four serial bytes and the two flags. -/
def lockMask : Vector UInt8 12 :=
  #v[0, 0, 0, 0xFF, 0xFF, 0xFF, 0xFF, 0, 0, 0, 0, Advert.updating ||| Advert.installable]

/-- The filter for the lock with this serial number, neither updating nor waiting to be
installed. -/
def ofSerial (serial : UInt32) : DiscoveryFilter :=
  ⟨lockServiceId, lockManufacturer, Advert.layout serial 0, lockMask⟩

/-- The filter for a serial number as the controller sends it. -/
def forSerial (serial : UInt64) : Except SerialOutOfRange DiscoveryFilter :=
  if serial.toNat < UInt32.size then .ok (ofSerial serial.toUInt32) else .error ⟨serial⟩

/-- The serial number that the pattern holds. -/
def serial (f : DiscoveryFilter) : UInt32 :=
  UInt32.ofNat (Bytes.toNatLE [f.pattern[3], f.pattern[4], f.pattern[5], f.pattern[6]])

/-- Whether one entry agrees with the pattern on every bit of the mask. Data after the twelfth
byte is not looked at; shorter data is refused. -/
def accepts (f : DiscoveryFilter) (entry : Advert) : Bool :=
  entry.manufacturer == f.manufacturer && Advert.size ≤ entry.data.length &&
    ((f.pattern.toList.zip f.mask.toList).zip entry.data).all fun ((p, m), d) =>
      d &&& m == p &&& m

/-- Whether some entry of an advertisement is accepted. -/
def admits (f : DiscoveryFilter) (entries : List Advert) : Bool := entries.any f.accepts

end DiscoveryFilter

end LockRelay
