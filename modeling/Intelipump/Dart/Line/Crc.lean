import Mathlib.Logic.Function.Iterate
import Mathlib.Tactic.Common
import Intelipump.Dart.Line.Control

namespace Intelipump
namespace Dart
namespace Line

/-!
# The canonical CRC-16 of DART DATA frames

The bit-serial, least-significant-bit-first CRC and its capture-proven
parameters.  The CRC register is sixteen bits wide, as the `& 0xFFFF` of every
step keeps it.
-/

/-- One inner step: shift right, and subtract the polynomial when a one falls
out. -/
def crcBitStep (poly crc : UInt16) : UInt16 :=
  if crc &&& 0x0001 ≠ 0 then (crc >>> 1) ^^^ poly else crc >>> 1

/-- Eight inner steps after the byte has been added in. -/
def crcByteStep (poly crc : UInt16) (byte : Byte) : UInt16 :=
  (crcBitStep poly)^[8] (crc ^^^ byte.toUInt16)

def crc16LsbFirst (data : List Byte) (poly init xorout : UInt16) : UInt16 :=
  data.foldl (crcByteStep poly) init ^^^ xorout

/-- Reflected polynomial `0xA001`, start value and final xor zero. -/
def crc16DartIbmAnsiInit0000 (data : List Byte) : UInt16 :=
  crc16LsbFirst data 0xA001 0x0000 0x0000

/-- The name the call sites use. -/
def dartCrc16 : List Byte → UInt16 := crc16DartIbmAnsiInit0000

/-- CRC-1 (low) then CRC-2 (high). -/
def crcBytesLe (crc : UInt16) : List Byte :=
  [(crc &&& 0xFF).toUInt8, ((crc >>> 8) &&& 0xFF).toUInt8]

@[simp] theorem length_crcBytesLe (crc : UInt16) :
    (crcBytesLe crc).length = 2 := rfl

/-- The CRC word of its two bytes. -/
def crcFromLeBytes (crc1 crc2 : Byte) : UInt16 :=
  crc1.toUInt16 ||| (crc2.toUInt16 <<< 8)

/-- Reading back the two CRC bytes gives the word they were made of. -/
theorem crcFromLeBytes_crcBytesLe (crc : UInt16) :
    crcFromLeBytes (crc &&& 0xFF).toUInt8 ((crc >>> 8) &&& 0xFF).toUInt8 =
      crc := by
  apply UInt16.toNat_inj.mp
  have hcrc : crc.toNat < 65536 := crc.toNat_lt
  have hmask : ∀ word : Nat, word &&& 255 = word % 256 := fun word =>
    Nat.and_two_pow_sub_one_eq_mod word 8
  have hhigh : crc.toNat >>> 8 = crc.toNat / 256 := Nat.shiftRight_eq_div_pow _ 8
  have hunshift : (crc.toNat / 256) <<< 8 % 65536 = (crc.toNat / 256) <<< 8 := by
    rw [Nat.shiftLeft_eq]
    omega
  have hbytes : (crc.toNat / 256) <<< 8 ||| crc.toNat % 256 = crc.toNat := by
    rw [← Nat.shiftLeft_add_eq_or_of_lt (by omega), Nat.shiftLeft_eq]
    omega
  calc
    (crcFromLeBytes (crc &&& 0xFF).toUInt8 ((crc >>> 8) &&& 0xFF).toUInt8).toNat =
        (crc.toNat % 256 &&& 255) |||
          ((crc.toNat >>> 8 % 256 &&& 255) <<< 8 % 65536) := by
      simp [crcFromLeBytes]
    _ = crc.toNat % 256 ||| (crc.toNat / 256) <<< 8 := by
      rw [hmask, hmask, hhigh, Nat.mod_mod,
        Nat.mod_eq_of_lt (show crc.toNat / 256 % 256 < 256 by omega),
        Nat.mod_eq_of_lt (show crc.toNat / 256 < 256 by omega), hunshift]
    _ = crc.toNat := by rw [Nat.or_comm, hbytes]

example : dartCrc16 [0x01, 0x30, 0x01, 0x01, 0x01] = 0x50A3 := by
  decide +kernel

end Line
end Dart
end Intelipump
