import Mathlib.Tactic.Common
import Intelipump.Dart.Application.Constants
import Intelipump.Domain

namespace Intelipump
namespace Controller

open Domain
open Dart.Line
open Dart.Application

/-!
# Controller session records and events

What a session keeps about its pump's line, and the events it publishes.
Wall-clock stamps are left out: no modelled function reads them back.
-/

inductive CommunicationHealth where
  | UNKNOWN | HEALTHY | DEGRADED | DISCONNECTED
deriving DecidableEq, Repr

structure PumpSessionStats where
  pollCount : Nat := 0
  eotCount : Nat := 0
  dataCount : Nat := 0
  ackSentCount : Nat := 0
  nakCount : Nat := 0
  timeoutCount : Nat := 0
  crcErrorCount : Nat := 0
  duplicateCount : Nat := 0
  sequenceErrorCount : Nat := 0
  retryCount : Nat := 0
deriving DecidableEq, Repr

structure PumpSessionState where
  address : Byte
  pumpId : String
  txSequence : Fin 16 := 0
  expectedRxSequence : Fin 16 := 0
  lastAcceptedRxSequence : Option (Fin 16) := none
  communication : CommunicationHealth := .UNKNOWN
  consecutiveTimeouts : Nat := 0
  lastValidFrame : Option (List Byte) := none
  lastRawFrame : Option (List Byte) := none
  lastError : Option String := none
  lastState : PumpState := .DISCONNECTED
  stats : PumpSessionStats := {}
deriving DecidableEq, Repr

inductive ControllerEventType where
  | FRAME_SENT | FRAME_RECEIVED | FRAME_REJECTED | POLL_SENT | DATA_RECEIVED
  | EOT_RECEIVED | ACK_SENT | NAK_RECEIVED | RESPONSE_TIMEOUT | PUMP_CONNECTED
  | PUMP_DISCONNECTED | STATE_CHANGED | APPLICATION_TRANSACTION_DECODED
deriving DecidableEq, Repr

/-- The payload of `STATE_CHANGED`. -/
structure StateChangedPayload where
  event : PumpEvent
  previousState : PumpState
  normalizedState : PumpState
  stateVersion : Nat
  selectedNozzle : Option Nat
  activeTransactionId : Option String
  communicationHealthy : Bool
  rawWayneStatus : Option Byte
  sourceFrameRef : Option String
  completionEvidenceKey : Option String
deriving DecidableEq, Repr

/-- The payload of `APPLICATION_TRANSACTION_DECODED`. -/
structure TransactionDecodedPayload where
  decodeStatus : DecodeStatus
  direction : MessageDirection
  transactionType : TransactionType
  transactionId : Byte
  sourceFrameRef : Option String
  rawVolume : Option Nat
  rawAmount : Option Nat
  rawPrice : Option Nat
deriving DecidableEq, Repr

inductive EventPayload where
  | empty
  | rawHex (hex : String)
  | stateChanged (payload : StateChangedPayload)
  | transactionDecoded (payload : TransactionDecodedPayload)
deriving DecidableEq, Repr

structure ControllerEvent where
  type : ControllerEventType
  address : Byte
  detail : String := ""
  payload : EventPayload := .empty
deriving DecidableEq, Repr

end Controller
end Intelipump
