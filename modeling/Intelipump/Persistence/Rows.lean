import Mathlib.Tactic.Common
import Intelipump.Controller.Outbound
import Intelipump.Dart.Line.Control

namespace Intelipump
namespace Persistence

open Dart.Line
open Controller

/-!
# The tables of the database

A table is the list of its rows in the order they were inserted, an instant is
an integer number of microseconds.  Status columns that the code only fills
with fixed texts are enumerations; a persisted pump state is a text, because
the code reads texts back that name no state.  Columns that nothing reads are
left out.
-/

/-- A JSON column. -/
inductive Json where
  | null
  | bool (value : Bool)
  | number (value : Int)
  | float (literal : String)
  | text (value : String)
  | list (items : List Json)
  | object (fields : List (String × Json))
deriving Repr

/-- `None` or a text. -/
def Json.ofText? : Option String → Json
  | some value => .text value
  | none => .null

/-- `None` or an integer. -/
def Json.ofNumber? : Option Int → Json
  | some value => .number value
  | none => .null

def Json.texts (values : List String) : Json := .list (values.map .text)

structure PumpRow where
  id : String
  stationId : String
  logicalPumpId : String
  dartAddress : Byte
deriving DecidableEq, Repr

structure PumpStateSnapshotRow where
  pumpId : String
  normalizedState : String
  previousState : Option String
  selectedNozzle : Option Nat
  activeTransactionId : Option String
  communicationHealthy : Bool
  rawWayneStatus : Option Byte
  sourceFrameRef : Option String
  stateVersion : Nat
  persistedAt : Int
deriving DecidableEq, Repr

inductive TransactionStatus where
  | ACTIVE | SUSPENDED | OPEN | COMPLETED
deriving DecidableEq, Repr

def TransactionStatus.value : TransactionStatus → String
  | .ACTIVE => "ACTIVE"
  | .SUSPENDED => "SUSPENDED"
  | .OPEN => "OPEN"
  | .COMPLETED => "COMPLETED"

structure TransactionRow where
  id : String
  transactionUuid : String
  stationId : String
  pumpId : String
  nozzleId : Option Nat
  status : TransactionStatus
  rawPrice : Option Int
  priceDecimals : Option Nat
  rawVolume : Int := 0
  volumeDecimals : Option Nat
  rawAmount : Int := 0
  amountDecimals : Option Nat
  startedAt : Option Int
  completedAt : Option Int := none
  sourceCompletionKey : Option String := none
  simulated : Bool
  environment : String
deriving DecidableEq, Repr

inductive TransactionEventType where
  | STARTED | FILLING_UPDATE | COMPLETED
deriving DecidableEq, Repr

structure TransactionEventRow where
  transactionId : String
  eventType : TransactionEventType
  eventKey : String
  rawPayload : Json
  sourceFrameRef : Option String
deriving Repr

inductive CommandStatus where
  | PENDING | IN_PROGRESS | QUEUED | ELIGIBLE | REJECTED | NOT_EXECUTED
  | EVALUATED_ONLY | ENQUEUE_FAILED | EXPIRED | NEEDS_RECONCILIATION
deriving DecidableEq, Repr

def CommandStatus.value : CommandStatus → String
  | .PENDING => "PENDING"
  | .IN_PROGRESS => "IN_PROGRESS"
  | .QUEUED => "QUEUED"
  | .ELIGIBLE => "ELIGIBLE"
  | .REJECTED => "REJECTED"
  | .NOT_EXECUTED => "NOT_EXECUTED"
  | .EVALUATED_ONLY => "EVALUATED_ONLY"
  | .ENQUEUE_FAILED => "ENQUEUE_FAILED"
  | .EXPIRED => "EXPIRED"
  | .NEEDS_RECONCILIATION => "NEEDS_RECONCILIATION"

structure CommandRow where
  correlationId : String
  stationId : String
  pumpId : Option String
  commandType : String
  status : CommandStatus
  idempotencyClass : IdempotencyClass
  simulatorOnly : Bool
  expiresAt : Option Int := none
  completedAt : Option Int := none
  requestPayload : Json
  resultPayload : Option Json := none
  blockingReasons : List String := []
deriving Repr

structure AuditLogRow where
  id : String
  correlationId : Option String
  actor : String
  source : String
  action : String
  stationId : String
  pumpId : Option String
  previousState : Option String
  resultingState : Option String
  result : String
  details : Option Json
  createdAt : Int
  previousHash : String
  recordHash : String
deriving Repr

inductive SyncEventType where
  | TRANSACTION_STARTED | FILLING_UPDATED | TRANSACTION_COMPLETED | STATE_CHANGED
  | ALARM_ACTIVE
deriving DecidableEq, Repr

structure TransactionStartedPayload where
  transactionUuid : String
  stationId : String
  environment : String
  simulated : Bool
deriving DecidableEq, Repr

structure FillingUpdatedPayload where
  transactionUuid : String
  stationId : String
  pumpId : String
  rawVolume : Int
  volumeDecimals : Option Nat
  rawAmount : Int
  amountDecimals : Option Nat
  environment : String
  simulated : Bool
deriving DecidableEq, Repr

structure TransactionCompletedPayload where
  transactionUuid : String
  stationId : String
  pumpId : String
  pumpDbId : String
  nozzleId : Option Nat
  rawUnitPrice : Option Int
  priceDecimals : Option Nat
  rawVolume : Int
  volumeDecimals : Option Nat
  rawAmount : Int
  amountDecimals : Option Nat
  startedAt : Option Int
  completedAt : Option Int
  finalStatus : TransactionStatus
  sourceCompletionKey : String
  environment : String
  simulated : Bool
deriving DecidableEq, Repr

structure StateChangedSyncPayload where
  pumpId : String
  normalizedState : String
  stateVersion : Nat
deriving DecidableEq, Repr

structure AlarmActivePayload where
  alarmId : String
  stationId : String
  environment : String
  simulated : Bool
  alarmType : String
deriving DecidableEq, Repr

inductive SyncPayload where
  | transactionStarted (payload : TransactionStartedPayload)
  | fillingUpdated (payload : FillingUpdatedPayload)
  | transactionCompleted (payload : TransactionCompletedPayload)
  | stateChanged (payload : StateChangedSyncPayload)
  | alarmActive (payload : AlarmActivePayload)
deriving DecidableEq, Repr

inductive SyncStatus where
  | PENDING | CLAIMED | DELIVERED | FAILED
deriving DecidableEq, Repr

structure SyncQueueRow where
  id : String
  entityType : String
  entityId : String
  eventType : SyncEventType
  payload : SyncPayload
  status : SyncStatus := .PENDING
  attemptCount : Nat := 0
  availableAt : Int
  lockedAt : Option Int := none
  lastError : Option String := none
  createdAt : Int
  deduplicationKey : String
deriving DecidableEq, Repr

structure Database where
  pumps : List PumpRow := []
  states : List PumpStateSnapshotRow := []
  transactions : List TransactionRow := []
  transactionEvents : List TransactionEventRow := []
  commands : List CommandRow := []
  auditLog : List AuditLogRow := []
  syncQueue : List SyncQueueRow := []
deriving Repr

end Persistence
end Intelipump
