import Mathlib.Tactic.Common
import Intelipump.Dart.Application.Bcd
import Intelipump.Dart.Application.Splitter

namespace Intelipump
namespace Dart
namespace Application

open Line

/-!
# Decoding application transactions

The read-only decoder of one payload.  No caller of the modelled program
supplies decimal parameters, so scaled values are raw integers here, and the
remarks the decoder attaches for a human reader are left out.
-/

/-- A packed-BCD field and its scaled integer. -/
structure ScaledBcdValue where
  rawBcd : List Byte
  rawScaled : Nat
deriving DecidableEq, Repr

def decodeScaledBcd (raw : List Byte) : Except Raised ScaledBcdValue := do
  let scaled ← decodePackedBcd raw
  return ⟨raw, scaled⟩

/-- The decoded fields of a transaction, by layout. -/
inductive DecodedBody where
  | ambiguous01 (rawCode : Byte) (dc1PumpStatus : Option WaynePumpStatus)
      (cd1Command : Option PumpControlCommand)
  | dc2 (volume amount : ScaledBcdValue)
  | dc3 (price : ScaledBcdValue) (nozioRaw : Byte) (selectedLogicalNozzle : Nat)
      (nozzleOut : Bool)
  | cd5 (prices : List ScaledBcdValue)
  | dc5 (alarmCode : Byte)
  | cd101 (counterSelect : Byte)
  | dc101 (counterSelect : Byte) (totalValue totalMeter1OrNofill totalMeter2 : ScaledBcdValue)
deriving DecidableEq, Repr

/-- What the caller knows about the frame a payload came in. -/
structure FrameOrigin where
  pumpAddress : Option Byte
  lineSequence : Option (Fin 16)
  sourceFrameRawHex : Option String
deriving DecidableEq, Repr

structure ApplicationTransaction where
  transactionId : Byte
  transactionType : TransactionType
  length : Nat
  rawPayload : List Byte
  rawTransaction : List Byte
  decodedBody : Option DecodedBody
  pumpAddress : Option Byte
  lineSequence : Option (Fin 16)
  direction : MessageDirection
  decodeStatus : DecodeStatus
  sourceFrameRawHex : Option String
  offset : Nat
deriving DecidableEq, Repr

structure DecodeBundle where
  transactions : List ApplicationTransaction
  trailingBytes : List Byte
  warnings : List String
deriving DecidableEq, Repr

def envelope (rawTx : RawTransaction) (transactionType : TransactionType)
    (direction : MessageDirection) (decodeStatus : DecodeStatus)
    (decodedBody : Option DecodedBody) (origin : FrameOrigin) :
    ApplicationTransaction where
  transactionId := rawTx.transactionId
  transactionType := transactionType
  length := rawTx.length
  rawPayload := rawTx.data
  rawTransaction := rawTx.raw
  decodedBody := decodedBody
  pumpAddress := origin.pumpAddress
  lineSequence := origin.lineSequence
  direction := direction
  decodeStatus := decodeStatus
  sourceFrameRawHex := origin.sourceFrameRawHex
  offset := rawTx.offset

def unknownTransaction (rawTx : RawTransaction) (origin : FrameOrigin) :
    ApplicationTransaction :=
  envelope rawTx .UNKNOWN .UNKNOWN .UNKNOWN none origin

/-- CD1 and DC1 share TRANS=0x01 / LNG=1. -/
def decodeAmbiguous01 (rawTx : RawTransaction) (origin : FrameOrigin) :
    ApplicationTransaction :=
  let code := rawTx.data.headD 0
  envelope rawTx .AMBIGUOUS_CD1_OR_DC1 .UNKNOWN .PARTIAL
    (some (.ambiguous01 code (WaynePumpStatus.ofCode? code)
      (PumpControlCommand.ofCode? code))) origin

def decodeDc2 (rawTx : RawTransaction) (origin : FrameOrigin) :
    ApplicationTransaction :=
  let fields : Except Raised DecodedBody := do
    let volume ← decodeScaledBcd (rawTx.data.take 4)
    let amount ← decodeScaledBcd ((rawTx.data.drop 4).take 4)
    return .dc2 volume amount
  match fields with
  | .error _ =>
      envelope rawTx .DC2_FILLED_VOLUME_AMOUNT .SLAVE_TO_MASTER .MALFORMED none origin
  | .ok body =>
      envelope rawTx .DC2_FILLED_VOLUME_AMOUNT .SLAVE_TO_MASTER .DECODED
        (some body) origin

def decodeDc3Preferred (rawTx : RawTransaction) (origin : FrameOrigin) :
    ApplicationTransaction :=
  match decodeScaledBcd (rawTx.data.take 3) with
  | .error _ =>
      envelope rawTx .DC3_NOZZLE_STATUS_PRICE .SLAVE_TO_MASTER .MALFORMED none origin
  | .ok price =>
      let nozio := rawTx.data.getD 3 0
      let nozzle := (nozio &&& 0x0F).toNat
      let nozzleOut := decide (nozio &&& 0x10 ≠ 0)
      envelope rawTx .DC3_NOZZLE_STATUS_PRICE .SLAVE_TO_MASTER .PARTIAL
        (some (.dc3 price nozio nozzle nozzleOut)) origin

/-- The three-byte prices of a CD5, one for each logical nozzle in order. -/
def decodePriceChunks : List Byte → Except Raised (List ScaledBcdValue)
  | first :: second :: third :: rest => do
      let price ← decodeScaledBcd [first, second, third]
      let later ← decodePriceChunks rest
      return price :: later
  | _ => .ok []

def decodeCd5 (rawTx : RawTransaction) (origin : FrameOrigin) :
    ApplicationTransaction :=
  match decodePriceChunks rawTx.data with
  | .error _ =>
      envelope rawTx .CD5_PRICE_UPDATE .MASTER_TO_SLAVE .MALFORMED none origin
  | .ok prices =>
      envelope rawTx .CD5_PRICE_UPDATE .MASTER_TO_SLAVE .DECODED
        (some (.cd5 prices)) origin

def decodeDc5 (rawTx : RawTransaction) (origin : FrameOrigin) :
    ApplicationTransaction :=
  envelope rawTx .DC5_ALARM .SLAVE_TO_MASTER .DECODED
    (some (.dc5 (rawTx.data.headD 0))) origin

def decodeCd101Request (rawTx : RawTransaction) (origin : FrameOrigin) :
    ApplicationTransaction :=
  envelope rawTx .CD101_REQUEST_TOTALS .MASTER_TO_SLAVE .DECODED
    (some (.cd101 (rawTx.data.headD 0))) origin

def decodeDc101 (rawTx : RawTransaction) (origin : FrameOrigin) :
    ApplicationTransaction :=
  let fields : Except Raised DecodedBody := do
    let totval ← decodeScaledBcd ((rawTx.data.drop 1).take 5)
    let totm1 ← decodeScaledBcd ((rawTx.data.drop 6).take 5)
    let totm2 ← decodeScaledBcd ((rawTx.data.drop 11).take 5)
    return .dc101 (rawTx.data.headD 0) totval totm1 totm2
  match fields with
  | .error _ =>
      envelope rawTx .DC101_TOTAL_COUNTERS .SLAVE_TO_MASTER .MALFORMED none origin
  | .ok body =>
      envelope rawTx .DC101_TOTAL_COUNTERS .SLAVE_TO_MASTER .DECODED
        (some body) origin

/-- Decode one raw TRANS+LNG+DATA unit. -/
def decodeRawTransaction (rawTx : RawTransaction) (origin : FrameOrigin) :
    ApplicationTransaction :=
  let tid := rawTx.transactionId
  let lng := rawTx.length
  if tid = 0x01 ∧ lng = 1 then decodeAmbiguous01 rawTx origin
  else if tid = 0x02 ∧ lng = 8 then decodeDc2 rawTx origin
  else if tid = 0x03 ∧ lng = 4 then decodeDc3Preferred rawTx origin
  else if tid = 0x05 ∧ lng = 1 then decodeDc5 rawTx origin
  else if tid = 0x05 ∧ lng ≥ 3 ∧ lng % 3 = 0 then decodeCd5 rawTx origin
  else if tid = 0x65 ∧ lng = 1 then decodeCd101Request rawTx origin
  else if tid = 0x65 ∧ lng = 16 then decodeDc101 rawTx origin
  else unknownTransaction rawTx origin

/-- Split and decode all transactions of a payload. -/
def decodeDataPayload (payload : List Byte) (origin : FrameOrigin) : DecodeBundle :=
  let split := splitTransactions payload
  { transactions := split.transactions.map (decodeRawTransaction · origin)
    trailingBytes := split.trailingBytes
    warnings := split.warnings }

/-- Decoding without a place and an origin: what the transaction itself says. -/
def decodeContent (rawTx : RawTransaction) : ApplicationTransaction :=
  decodeRawTransaction { rawTx with raw := [], offset := 0 } ⟨none, none, none⟩

/-- The place and the origin of a transaction are only carried along. -/
theorem decodeRawTransaction_eq (rawTx : RawTransaction) (origin : FrameOrigin) :
    decodeRawTransaction rawTx origin =
      { decodeContent rawTx with
        rawTransaction := rawTx.raw
        offset := rawTx.offset
        pumpAddress := origin.pumpAddress
        lineSequence := origin.lineSequence
        sourceFrameRawHex := origin.sourceFrameRawHex } := by
  unfold decodeContent decodeRawTransaction
  dsimp only
  split_ifs
  · rfl
  · unfold decodeDc2
    dsimp only
    split <;> rfl
  · unfold decodeDc3Preferred
    dsimp only
    split <;> rfl
  · rfl
  · unfold decodeCd5
    dsimp only
    split <;> rfl
  · rfl
  · unfold decodeDc101
    dsimp only
    split <;> rfl
  · rfl

@[simp] theorem decodeRawTransaction_sourceFrameRawHex (rawTx : RawTransaction)
    (origin : FrameOrigin) :
    (decodeRawTransaction rawTx origin).sourceFrameRawHex =
      origin.sourceFrameRawHex := by
  rw [decodeRawTransaction_eq]

end Application
end Dart
end Intelipump
