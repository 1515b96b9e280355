import Mathlib.Tactic.Common
import Intelipump.Dart.Application.Bcd
import Intelipump.Dart.Application.Constants

namespace Intelipump
namespace Simulator

open Dart.Line
open Dart.Application

/-!
# Encoding application transactions

Each encoder gives one `TRANS LNG DATA` unit.  The unit fits a DATA frame
because its data is short (`Unit.length_le`).
-/

/-- One unit: TRANS, LNG, DATA. -/
def encodeUnit (trans : Byte) (data : List Byte) : Except Raised (List Byte) :=
  if data.length > 255 then
    .error (.valueError "application DATA length exceeds 255")
  else .ok (trans :: UInt8.ofNat data.length :: data)

def encodeCd1Command (code : Byte) : Except Raised (List Byte) :=
  encodeUnit 0x01 [code]

def encodeDc1Status (status : Byte) : Except Raised (List Byte) :=
  encodeUnit 0x01 [status]

def encodeDc2VolumeAmount (volumeRaw amountRaw : Nat) :
    Except Raised (List Byte) := do
  let volume ← encodePackedBcd volumeRaw (some 4)
  let amount ← encodePackedBcd amountRaw (some 4)
  encodeUnit 0x02 (volume ++ amount)

/-- The NOZIO byte: nozzle number in the low nibble, bit 0x10 for nozzle out. -/
def nozioByte (logicalNozzle : Nat) (nozzleOut : Bool) : Byte :=
  UInt8.ofNat (logicalNozzle &&& 0x0F) ||| (if nozzleOut then 0x10 else 0x00)

def encodeDc3NozzlePrice (priceRaw logicalNozzle : Nat) (nozzleOut : Bool) :
    Except Raised (List Byte) := do
  let price ← encodePackedBcd priceRaw (some 3)
  encodeUnit 0x03 (price ++ [nozioByte logicalNozzle nozzleOut])

def encodeCd3PresetVolume (volumeRaw : Nat) : Except Raised (List Byte) := do
  encodeUnit 0x03 (← encodePackedBcd volumeRaw (some 4))

def encodeCd4PresetAmount (amountRaw : Nat) : Except Raised (List Byte) := do
  encodeUnit 0x04 (← encodePackedBcd amountRaw (some 4))

def encodeCd5PriceUpdate (priceRaw : Nat) : Except Raised (List Byte) := do
  encodeUnit 0x05 (← encodePackedBcd priceRaw (some 3))

def encodeDc5Alarm (alarmCode : Nat) : Except Raised (List Byte) :=
  encodeUnit 0x05 [UInt8.ofNat (alarmCode % 256)]

def encodeDc101Totals (counterSelect : Byte)
    (totalValueRaw totalMeter1Raw totalMeter2Raw : Nat) :
    Except Raised (List Byte) := do
  let totalValue ← encodePackedBcd totalValueRaw (some 5)
  let totalMeter1 ← encodePackedBcd totalMeter1Raw (some 5)
  let totalMeter2 ← encodePackedBcd totalMeter2Raw (some 5)
  encodeUnit 0x65 (counterSelect :: (totalValue ++ totalMeter1 ++ totalMeter2))

/-- The default identity, `SIM-WP01`. -/
def encodeDc9Identity : Except Raised (List Byte) :=
  encodeUnit 0x09 [0x53, 0x49, 0x4D, 0x2D, 0x57, 0x50, 0x30, 0x31]

/-- What a successful unit looks like. -/
theorem encodeUnit_eq_ok {trans : Byte} {data payload : List Byte}
    (hencoded : encodeUnit trans data = .ok payload) :
    payload = trans :: UInt8.ofNat data.length :: data ∧
      (UInt8.ofNat data.length).toNat = data.length := by
  unfold encodeUnit at hencoded
  split at hencoded
  · cases hencoded
  · obtain rfl := Except.ok.inj hencoded
    refine ⟨rfl, ?_⟩
    rw [UInt8.toNat_ofNat']
    exact Nat.mod_eq_of_lt (by omega)

/-- The units a pump queues. -/
def ShortUnit (encoded : Except Raised (List Byte)) : Prop :=
  ∀ payload, encoded = .ok payload → payload.length ≤ 18

theorem shortUnit_of_length {trans : Byte} {data : List Byte}
    (hlength : data.length ≤ 16) : ShortUnit (encodeUnit trans data) := by
  intro payload hencoded
  obtain ⟨rfl, -⟩ := encodeUnit_eq_ok hencoded
  simp only [List.length_cons]
  omega

/-- A step that fails or yields a value leaves the bound to what follows. -/
theorem shortUnit_bind {α : Type} (first : Except Raised α)
    (next : α → Except Raised (List Byte))
    (hnext : ∀ value, first = .ok value → ShortUnit (next value)) :
    ShortUnit (first >>= next) := by
  intro payload hencoded
  cases hfirst : first with
  | error exc => rw [hfirst] at hencoded; cases hencoded
  | ok value => rw [hfirst] at hencoded; exact hnext value hfirst payload hencoded

theorem shortUnit_dc1 (status : Byte) : ShortUnit (encodeDc1Status status) :=
  shortUnit_of_length (by simp)

theorem shortUnit_dc2 (volumeRaw amountRaw : Nat) :
    ShortUnit (encodeDc2VolumeAmount volumeRaw amountRaw) := by
  refine shortUnit_bind _ _ fun volume hvolume => ?_
  refine shortUnit_bind _ _ fun amount hamount => ?_
  refine shortUnit_of_length ?_
  rw [List.length_append, length_encodePackedBcd hvolume, length_encodePackedBcd hamount]
  omega

theorem shortUnit_dc3 (priceRaw logicalNozzle : Nat) (nozzleOut : Bool) :
    ShortUnit (encodeDc3NozzlePrice priceRaw logicalNozzle nozzleOut) := by
  refine shortUnit_bind _ _ fun price hprice => ?_
  refine shortUnit_of_length ?_
  rw [List.length_append, length_encodePackedBcd hprice, List.length_singleton]
  omega

theorem shortUnit_dc5 (alarmCode : Nat) : ShortUnit (encodeDc5Alarm alarmCode) :=
  shortUnit_of_length (by simp)

theorem shortUnit_dc9 : ShortUnit encodeDc9Identity :=
  shortUnit_of_length (by simp)

theorem shortUnit_dc101 (counterSelect : Byte)
    (totalValueRaw totalMeter1Raw totalMeter2Raw : Nat) :
    ShortUnit (encodeDc101Totals counterSelect totalValueRaw totalMeter1Raw
      totalMeter2Raw) := by
  refine shortUnit_bind _ _ fun totalValue hvalue => ?_
  refine shortUnit_bind _ _ fun totalMeter1 hmeter1 => ?_
  refine shortUnit_bind _ _ fun totalMeter2 hmeter2 => ?_
  refine shortUnit_of_length ?_
  simp only [List.length_cons, List.length_append, length_encodePackedBcd hvalue,
    length_encodePackedBcd hmeter1, length_encodePackedBcd hmeter2]
  omega

/-! ## What can be encoded -/

theorem isOk_encodeUnit {trans : Byte} {data : List Byte} (hlength : data.length ≤ 255) :
    ∃ payload, encodeUnit trans data = .ok payload :=
  ⟨_, if_neg (not_lt.mpr hlength)⟩

/-- A number in front of a unit decides whether the unit can be encoded. -/
theorem isOk_packedBcd_bind_iff (value : Nat) {length : Nat} (hlength : length ≠ 0)
    {next : List Byte → Except Raised (List Byte)} {P : Prop}
    (hnext : ∀ data : List Byte, data.length = length →
      ((∃ payload, next data = .ok payload) ↔ P)) :
    (∃ payload, (encodePackedBcd value (some length) >>= next) = .ok payload) ↔
      value < 100 ^ length ∧ P := by
  rw [← encodePackedBcd_isOk_iff value hlength]
  cases hdata : encodePackedBcd value (some length) with
  | error error => exact ⟨fun ⟨_, h⟩ => (nomatch h), fun ⟨⟨_, h⟩, _⟩ => (nomatch h)⟩
  | ok data =>
      have hbind : (Except.ok data >>= next) = next data := rfl
      rw [hbind, hnext data (length_encodePackedBcd hdata)]
      exact ⟨fun h => ⟨⟨data, rfl⟩, h⟩, And.right⟩

theorem encodeDc1Status_isOk (status : Byte) :
    ∃ payload, encodeDc1Status status = .ok payload :=
  isOk_encodeUnit (by simp)

theorem encodeDc9Identity_isOk : ∃ payload, encodeDc9Identity = .ok payload :=
  isOk_encodeUnit (by simp)

theorem encodeDc3NozzlePrice_isOk_iff (priceRaw logicalNozzle : Nat) (nozzleOut : Bool) :
    (∃ payload, encodeDc3NozzlePrice priceRaw logicalNozzle nozzleOut = .ok payload) ↔
      priceRaw < 100 ^ 3 := by
  unfold encodeDc3NozzlePrice
  rw [isOk_packedBcd_bind_iff priceRaw (by decide) (P := True), and_true]
  intro price hprice
  refine iff_of_true (isOk_encodeUnit ?_) trivial
  rw [List.length_append, hprice, List.length_singleton]
  decide

theorem encodeDc2VolumeAmount_isOk_iff (volumeRaw amountRaw : Nat) :
    (∃ payload, encodeDc2VolumeAmount volumeRaw amountRaw = .ok payload) ↔
      volumeRaw < 100 ^ 4 ∧ amountRaw < 100 ^ 4 := by
  unfold encodeDc2VolumeAmount
  refine isOk_packedBcd_bind_iff volumeRaw (by decide) fun volume hvolume => ?_
  rw [isOk_packedBcd_bind_iff amountRaw (by decide) (P := True), and_true]
  intro amount hamount
  refine iff_of_true (isOk_encodeUnit ?_) trivial
  rw [List.length_append, hvolume, hamount]
  decide

theorem encodeDc101Totals_isOk_iff (counterSelect : Byte)
    (totalValueRaw totalMeter1Raw totalMeter2Raw : Nat) :
    (∃ payload, encodeDc101Totals counterSelect totalValueRaw totalMeter1Raw
        totalMeter2Raw = .ok payload) ↔
      totalValueRaw < 100 ^ 5 ∧ totalMeter1Raw < 100 ^ 5 ∧ totalMeter2Raw < 100 ^ 5 := by
  unfold encodeDc101Totals
  refine isOk_packedBcd_bind_iff totalValueRaw (by decide) fun value hvalue => ?_
  refine isOk_packedBcd_bind_iff totalMeter1Raw (by decide) fun meter1 hmeter1 => ?_
  rw [isOk_packedBcd_bind_iff totalMeter2Raw (by decide) (P := True), and_true]
  intro meter2 hmeter2
  refine iff_of_true (isOk_encodeUnit ?_) trivial
  simp only [List.length_cons, List.length_append, hvalue, hmeter1, hmeter2]
  decide

end Simulator
end Intelipump
