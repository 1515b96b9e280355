import Mathlib.Data.List.Forall2
import Mathlib.Tactic.Common
import Intelipump.Dart.Application.Decoder
import Intelipump.Simulator.Encoding

namespace Intelipump
namespace Simulator

open Dart.Line
open Dart.Application

/-!
# The application codec

What the encoders of the pump write is what the decoder of the controller reads: one
transaction for each message, in order, with the values that were encoded.  A status is
read as an ambiguous transaction, since a command has the same TRANS and LNG, and keeps
its raw code.
-/

/-- A message of the pump, with values that its fields have room for. -/
inductive PumpMessage where
  | dc1 (status : Byte)
  | dc2 (volumeRaw amountRaw : Nat) (volume_lt : volumeRaw < 10 ^ 8)
      (amount_lt : amountRaw < 10 ^ 8)
  | dc3 (priceRaw logicalNozzle : Nat) (nozzleOut : Bool) (price_lt : priceRaw < 10 ^ 6)
      (nozzle_le : logicalNozzle ≤ 15)
  | dc5 (alarmCode : Byte)
  | dc101 (counterSelect : Byte) (totalValueRaw totalMeter1Raw totalMeter2Raw : Nat)
      (value_lt : totalValueRaw < 10 ^ 10) (meter1_lt : totalMeter1Raw < 10 ^ 10)
      (meter2_lt : totalMeter2Raw < 10 ^ 10)

namespace PumpMessage

/-- The encoder of the message. -/
def encode : PumpMessage → Except Raised (List Byte)
  | .dc1 status => encodeDc1Status status
  | .dc2 volumeRaw amountRaw _ _ => encodeDc2VolumeAmount volumeRaw amountRaw
  | .dc3 priceRaw logicalNozzle nozzleOut _ _ =>
      encodeDc3NozzlePrice priceRaw logicalNozzle nozzleOut
  | .dc5 alarmCode => encodeDc5Alarm alarmCode.toNat
  | .dc101 counterSelect totalValueRaw totalMeter1Raw totalMeter2Raw _ _ _ =>
      encodeDc101Totals counterSelect totalValueRaw totalMeter1Raw totalMeter2Raw

/-- The decoded fields carry the values of the message. -/
def CarriedBy : PumpMessage → Option DecodedBody → Prop
  | .dc1 status, body => ∃ dc1 cd1, body = some (.ambiguous01 status dc1 cd1)
  | .dc2 volumeRaw amountRaw _ _, body =>
      ∃ volume amount, body = some (.dc2 volume amount) ∧ volume.rawScaled = volumeRaw ∧
        amount.rawScaled = amountRaw
  | .dc3 priceRaw logicalNozzle nozzleOut _ _, body =>
      ∃ price nozio, body = some (.dc3 price nozio logicalNozzle nozzleOut) ∧
        price.rawScaled = priceRaw
  | .dc5 alarmCode, body => body = some (.dc5 alarmCode)
  | .dc101 counterSelect totalValueRaw totalMeter1Raw totalMeter2Raw _ _ _, body =>
      ∃ totalValue totalMeter1 totalMeter2,
        body = some (.dc101 counterSelect totalValue totalMeter1 totalMeter2) ∧
          totalValue.rawScaled = totalValueRaw ∧ totalMeter1.rawScaled = totalMeter1Raw ∧
          totalMeter2.rawScaled = totalMeter2Raw

/-- A transaction that was decoded from the message. -/
structure DecodedAs (message : PumpMessage) (decoded : ApplicationTransaction) : Prop where
  carried : message.CarriedBy decoded.decodedBody
  known : decoded.decodeStatus ≠ .UNKNOWN
  wellFormed : decoded.decodeStatus ≠ .MALFORMED

end PumpMessage

/-! ## One field -/

/-- A number that its field has room for is written in full and read back. -/
theorem packedField {value length : Nat} (hlength : length ≠ 0) (hfits : value < 100 ^ length) :
    ∃ data, encodePackedBcd value (some length) = .ok data ∧ data.length = length ∧
      decodeScaledBcd data = .ok ⟨data, value⟩ := by
  obtain ⟨data, hencoded⟩ := (encodePackedBcd_isOk_iff value hlength).mpr hfits
  refine ⟨data, hencoded, length_encodePackedBcd hencoded, ?_⟩
  unfold decodeScaledBcd
  rw [decodePackedBcd_encodePackedBcd hlength hencoded]
  rfl

/-- The NOZIO byte keeps the nozzle and the flag. -/
theorem nozioByte_fields {nozzle : Nat} (hnozzle : nozzle ≤ 15) (nozzleOut : Bool) :
    (nozioByte nozzle nozzleOut &&& 0x0F).toNat = nozzle ∧
      decide (nozioByte nozzle nozzleOut &&& 0x10 ≠ 0) = nozzleOut := by
  have hall : ∀ small < 16, ∀ out : Bool,
      (nozioByte small out &&& 0x0F).toNat = small ∧
        decide (nozioByte small out &&& 0x10 ≠ 0) = out := by decide
  exact hall nozzle (Nat.lt_succ_of_le hnozzle) nozzleOut

/-! ## One message -/

/-- The unit an encoder writes, from its data. -/
theorem encodeUnit_eq_bytes (unit : TransactionUnit) :
    encodeUnit unit.transactionId unit.data = .ok unit.bytes := by
  unfold encodeUnit
  rw [if_neg (Nat.not_lt.mpr unit.length_le)]
  rfl

namespace PumpMessage

/-- The message is written as one unit, which is read back as the message wherever it
lies. -/
def RoundTrips (message : PumpMessage) : Prop :=
  ∃ unit : TransactionUnit, message.encode = .ok unit.bytes ∧
    ∀ offset origin, message.DecodedAs (decodeRawTransaction (unit.carvedAt offset) origin)

/-- A message round trips when its encoder writes a unit, and the decoder reads any
transaction with the TRANS and DATA of this unit as the message. -/
theorem roundTrips_of {message : PumpMessage} (trans : Byte) {data : List Byte}
    (hlength : data.length ≤ 255) (hencode : message.encode = encodeUnit trans data)
    (hdecode : ∀ raw offset origin, message.DecodedAs
      (decodeRawTransaction ⟨trans, data.length, data, raw, offset⟩ origin)) :
    message.RoundTrips := by
  refine ⟨⟨trans, data, hlength⟩, ?_, fun offset origin => hdecode _ offset origin⟩
  rw [hencode]
  exact encodeUnit_eq_bytes ⟨trans, data, hlength⟩

theorem dc1_roundTrips (status : Byte) : (PumpMessage.dc1 status).RoundTrips := by
  have hlength : [status].length ≤ 255 := by
    rw [List.length_singleton]
    decide
  refine roundTrips_of 0x01 hlength rfl fun raw offset origin => ?_
  exact ⟨⟨_, _, rfl⟩, DecodeStatus.noConfusion, DecodeStatus.noConfusion⟩

theorem dc5_roundTrips (alarmCode : Byte) : (PumpMessage.dc5 alarmCode).RoundTrips := by
  have hlength : [alarmCode].length ≤ 255 := by
    rw [List.length_singleton]
    decide
  have hcode : UInt8.ofNat (alarmCode.toNat % 256) = alarmCode := by
    rw [Nat.mod_eq_of_lt alarmCode.toNat_lt]
    exact UInt8.ofNat_toNat
  refine roundTrips_of 0x05 hlength ?_ fun raw offset origin => ?_
  · change encodeUnit 0x05 [UInt8.ofNat (alarmCode.toNat % 256)] = _
    rw [hcode]
  · exact ⟨rfl, DecodeStatus.noConfusion, DecodeStatus.noConfusion⟩

theorem dc2_roundTrips {volumeRaw amountRaw : Nat} (hvolume : volumeRaw < 10 ^ 8)
    (hamount : amountRaw < 10 ^ 8) :
    (PumpMessage.dc2 volumeRaw amountRaw hvolume hamount).RoundTrips := by
  have hfour : (4 : Nat) ≠ 0 := by decide
  obtain ⟨volume, hvolumeEncoded, hvolumeLength, hvolumeDecoded⟩ := packedField hfour hvolume
  obtain ⟨amount, hamountEncoded, hamountLength, hamountDecoded⟩ := packedField hfour hamount
  have hlength : (volume ++ amount).length = 8 := by
    rw [List.length_append, hvolumeLength, hamountLength]
  refine roundTrips_of 0x02 (hlength.trans_le (by decide)) ?_ fun raw offset origin => ?_
  · change encodeDc2VolumeAmount volumeRaw amountRaw = _
    unfold encodeDc2VolumeAmount
    rw [hvolumeEncoded, hamountEncoded]
    rfl
  · -- the first four bytes are the volume, the other four the amount
    have htake : (volume ++ amount).take 4 = volume := List.take_left' hvolumeLength
    have hdrop : ((volume ++ amount).drop 4).take 4 = amount := by
      rw [List.drop_left' hvolumeLength, ← hamountLength, List.take_length]
    rw [hlength]
    change DecodedAs _ (decodeDc2 ⟨0x02, 8, volume ++ amount, raw, offset⟩ origin)
    unfold decodeDc2
    dsimp only
    rw [htake, hdrop, hvolumeDecoded, hamountDecoded]
    exact ⟨⟨_, _, rfl, rfl, rfl⟩, DecodeStatus.noConfusion, DecodeStatus.noConfusion⟩

theorem dc3_roundTrips {priceRaw logicalNozzle : Nat} (nozzleOut : Bool)
    (hprice : priceRaw < 10 ^ 6) (hnozzle : logicalNozzle ≤ 15) :
    (PumpMessage.dc3 priceRaw logicalNozzle nozzleOut hprice hnozzle).RoundTrips := by
  have hthree : (3 : Nat) ≠ 0 := by decide
  obtain ⟨price, hpriceEncoded, hpriceLength, hpriceDecoded⟩ := packedField hthree hprice
  obtain ⟨hnozzleRead, houtRead⟩ := nozioByte_fields hnozzle nozzleOut
  have hlength : (price ++ [nozioByte logicalNozzle nozzleOut]).length = 4 := by
    rw [List.length_append, hpriceLength, List.length_singleton]
  refine roundTrips_of 0x03 (hlength.trans_le (by decide)) ?_ fun raw offset origin => ?_
  · change encodeDc3NozzlePrice priceRaw logicalNozzle nozzleOut = _
    unfold encodeDc3NozzlePrice
    rw [hpriceEncoded]
    rfl
  · have htake : (price ++ [nozioByte logicalNozzle nozzleOut]).take 3 = price :=
      List.take_left' hpriceLength
    have hnozio : (price ++ [nozioByte logicalNozzle nozzleOut]).getD 3 0 =
        nozioByte logicalNozzle nozzleOut := by
      rw [← hpriceLength, List.getD_eq_getElem?_getD, List.getElem?_concat_length]
      rfl
    rw [hlength]
    change DecodedAs _ (decodeDc3Preferred ⟨0x03, 4, price ++ _, raw, offset⟩ origin)
    unfold decodeDc3Preferred
    dsimp only
    rw [htake, hnozio, hpriceDecoded]
    dsimp only
    rw [hnozzleRead, houtRead]
    exact ⟨⟨_, _, rfl, rfl⟩, DecodeStatus.noConfusion, DecodeStatus.noConfusion⟩

theorem dc101_roundTrips (counterSelect : Byte)
    {totalValueRaw totalMeter1Raw totalMeter2Raw : Nat} (hvalue : totalValueRaw < 10 ^ 10)
    (hmeter1 : totalMeter1Raw < 10 ^ 10) (hmeter2 : totalMeter2Raw < 10 ^ 10) :
    (PumpMessage.dc101 counterSelect totalValueRaw totalMeter1Raw totalMeter2Raw hvalue
      hmeter1 hmeter2).RoundTrips := by
  have hfive : (5 : Nat) ≠ 0 := by decide
  obtain ⟨value, hvalueEncoded, hvalueLength, hvalueDecoded⟩ := packedField hfive hvalue
  obtain ⟨meter1, hmeter1Encoded, hmeter1Length, hmeter1Decoded⟩ := packedField hfive hmeter1
  obtain ⟨meter2, hmeter2Encoded, hmeter2Length, hmeter2Decoded⟩ := packedField hfive hmeter2
  have hlength : (counterSelect :: (value ++ meter1 ++ meter2)).length = 16 := by
    rw [List.length_cons, List.length_append, List.length_append, hvalueLength, hmeter1Length,
      hmeter2Length]
  refine roundTrips_of 0x65 (hlength.trans_le (by decide)) ?_ fun raw offset origin => ?_
  · change encodeDc101Totals counterSelect totalValueRaw totalMeter1Raw totalMeter2Raw = _
    unfold encodeDc101Totals
    rw [hvalueEncoded, hmeter1Encoded, hmeter2Encoded]
    rfl
  · -- behind the selector lie the three totals, five bytes each
    have hfirst : ((counterSelect :: (value ++ meter1 ++ meter2)).drop 1).take 5 = value := by
      rw [List.drop_succ_cons, List.drop_zero, List.append_assoc, List.take_left' hvalueLength]
    have hsecond : ((counterSelect :: (value ++ meter1 ++ meter2)).drop 6).take 5 = meter1 := by
      rw [List.drop_succ_cons, List.append_assoc, List.drop_left' hvalueLength,
        List.take_left' hmeter1Length]
    have hthird : ((counterSelect :: (value ++ meter1 ++ meter2)).drop 11).take 5 = meter2 := by
      have hboth : (value ++ meter1).length = 10 := by
        rw [List.length_append, hvalueLength, hmeter1Length]
      rw [List.drop_succ_cons, List.drop_left' hboth, ← hmeter2Length, List.take_length]
    rw [hlength]
    change DecodedAs _ (decodeDc101 ⟨0x65, 16, counterSelect :: _, raw, offset⟩ origin)
    unfold decodeDc101
    dsimp only
    rw [hfirst, hsecond, hthird, hvalueDecoded, hmeter1Decoded, hmeter2Decoded]
    exact ⟨⟨_, _, _, rfl, rfl, rfl, rfl⟩, DecodeStatus.noConfusion, DecodeStatus.noConfusion⟩

theorem roundTrips (message : PumpMessage) : message.RoundTrips := by
  cases message with
  | dc1 status => exact dc1_roundTrips status
  | dc2 volumeRaw amountRaw hvolume hamount => exact dc2_roundTrips hvolume hamount
  | dc3 priceRaw logicalNozzle nozzleOut hprice hnozzle =>
      exact dc3_roundTrips nozzleOut hprice hnozzle
  | dc5 alarmCode => exact dc5_roundTrips alarmCode
  | dc101 counterSelect totalValueRaw totalMeter1Raw totalMeter2Raw hvalue hmeter1 hmeter2 =>
      exact dc101_roundTrips counterSelect hvalue hmeter1 hmeter2

end PumpMessage

/-! ## Every list of messages -/

/-- The units of messages, one behind the other, are read back in order. -/
theorem exists_units_decodedAs (messages : List PumpMessage) :
    ∃ units : List TransactionUnit,
      messages.mapM PumpMessage.encode = .ok (units.map TransactionUnit.bytes) ∧
        ∀ offset origin, List.Forall₂ PumpMessage.DecodedAs messages
          ((TransactionUnit.carvedFrom offset units).map (decodeRawTransaction · origin)) := by
  induction messages with
  | nil => exact ⟨[], rfl, fun _ _ => List.Forall₂.nil⟩
  | cons message later ih =>
      obtain ⟨units, hencoded, hdecoded⟩ := ih
      obtain ⟨unit, hunit, hmessage⟩ := message.roundTrips
      refine ⟨unit :: units, ?_, fun offset origin => ?_⟩
      · rw [List.mapM_cons, hunit, hencoded]
        rfl
      · exact List.Forall₂.cons (hmessage offset origin) (hdecoded _ origin)

/-- Any messages are encoded, and the concatenation of their bytes is decoded into one
transaction for each, in order, that carries its values; nothing is left over. -/
theorem decodeDataPayload_encoded (messages : List PumpMessage) (origin : FrameOrigin) :
    ∃ payloads, messages.mapM PumpMessage.encode = .ok payloads ∧
      List.Forall₂ PumpMessage.DecodedAs messages
        (decodeDataPayload payloads.flatten origin).transactions ∧
      (decodeDataPayload payloads.flatten origin).trailingBytes = [] := by
  obtain ⟨units, hencoded, hdecoded⟩ := exists_units_decodedAs messages
  have hnothing : Incomplete [] := trivial
  obtain ⟨htransactions, htrailing⟩ := splitFrom_units units hnothing 0
  rw [List.append_nil] at htransactions htrailing
  refine ⟨units.map TransactionUnit.bytes, hencoded, ?_, htrailing⟩
  unfold decodeDataPayload splitTransactions
  dsimp only
  rw [htransactions]
  exact hdecoded 0 origin

end Simulator
end Intelipump
