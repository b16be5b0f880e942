import LockRelay.Hex

/-! Bluetooth identifiers of the lock: its service, the company under which it advertises, and
the two characteristics of its serial port. -/
namespace LockRelay

/-- A 128-bit attribute identifier. -/
abbrev Uuid := BitVec 128

namespace Uuid

/-- The identifier that a 16-bit assigned number stands for. -/
def ofShort (short : UInt16) : Uuid :=
  0x0000000000001000800000805f9b34fb ||| (BitVec.ofNat 128 short.toNat <<< 96)

/-- Thirty-two lowercase hexadecimal digits. -/
def text (uuid : Uuid) : String := Hex.encode (Bytes.ofNatBE 16 uuid.toNat)

end Uuid

/-- The lock service as a 16-bit assigned number. -/
def lockServiceId : UInt16 := 0xFD30

/-- The lock service. -/
def lockService : Uuid := 0x0000fd3000001000800000805f9b34fb

/-- Characteristic that the host writes to. -/
def outboundCharacteristic : Uuid := 0x6e400002b5a3f393e0a9e50e24dcca9e

/-- Characteristic on which the lock notifies the host. -/
def inboundCharacteristic : Uuid := 0x6e400003b5a3f393e0a9e50e24dcca9e

/-- The company identifier under which a lock publishes manufacturer data. -/
def lockManufacturer : UInt16 := 0x065B

theorem ofShort_lockServiceId : Uuid.ofShort lockServiceId = lockService := by decide

end LockRelay
