import Mathlib.Tactic.Common
import Intelipump.Controller.SessionModels
import Intelipump.Persistence.AuditLog
import Intelipump.Persistence.Snapshots
import Intelipump.Services.TransactionService
import Intelipump.StateMachine.Models

namespace Intelipump
namespace Services

open Controller
open Dart.Line
open Domain
open Persistence
open StateMachine

/-!
# The persistence bridge

The bridge takes the events of the controller into the database.  Which
transaction a pump address is at is only kept in memory (`txByAddress`).
Rejected frames raise alarms, which no other table depends on; they are left
out, as is the live broker.
-/

namespace PumpStateService

def snapshotFields (pumpDbId : String) (context : PumpContext)
    (sourceFrameRef : Option String) : StateRepository.SnapshotFields where
  pumpId := pumpDbId
  normalizedState := context.currentState.value
  previousState := context.previousState.map (·.value)
  selectedNozzle := context.selectedNozzle
  activeTransactionId := context.activeTransactionId
  communicationHealthy := context.communicationHealthy
  rawWayneStatus := context.lastRawWayneStatus
  sourceFrameRef := sourceFrameRef
  stateVersion := context.stateVersion

def stateEntry (pumpDbId : String) (snap : PumpStateSnapshotRow) :
    SyncQueueRepository.SyncEntry where
  entityType := "pump_state"
  entityId := pumpDbId
  eventType := .STATE_CHANGED
  payload := .stateChanged {
    pumpId := pumpDbId
    normalizedState := snap.normalizedState
    stateVersion := snap.stateVersion }
  deduplicationKey :=
    "state:" ++ s!"{pumpDbId}:{snap.stateVersion}:{snap.normalizedState}"

def persistContext (env : Env) (pumpDbId : String) (context : PumpContext)
    (sourceFrameRef : Option String) : UnitOfWork (Option PumpStateSnapshotRow) := do
  let snap ← StateRepository.insertIfMeaningful (env.now .snapshotRow)
    (snapshotFields pumpDbId context sourceFrameRef)
  match snap with
  | some row =>
      let _ ← SyncQueueRepository.enqueueChecked (env.uuid4 .stateQueueRow)
        (env.now .stateQueueRow) (stateEntry pumpDbId row)
      return some row
  | none => return none

end PumpStateService

structure PersistenceBridge where
  stationId : String
  environment : String
  simulated : Bool
  pumpIdByAddress : List (Byte × String)
  logicalByAddress : List (Byte × String)
deriving DecidableEq, Repr

/-- The text of an optional column, where an empty text counts as none. -/
def usable (text : Option String) : Option String := text.filter (· ≠ "")

namespace PersistenceBridge

variable (bridge : PersistenceBridge)

/-- The database identifier of the pump at an address. -/
def pumpDb (address : Byte) : Option String := usable (bridge.pumpIdByAddress.lookup address)

def logical (address : Byte) : String :=
  (bridge.logicalByAddress.lookup address).getD s!"pump-{address.toNat}"

/-- The version of the snapshot after the latest one. -/
def nextVersion (latest : Option PumpStateSnapshotRow) : Nat :=
  match latest with
  | some row => row.stateVersion + 1
  | none => 1

/-- The context a changed state is persisted from. -/
def stateContext (address : Byte) (payload : StateChangedPayload)
    (latest : Option PumpStateSnapshotRow) : PumpContext where
  pumpId := bridge.logical address
  dartAddress := address
  currentState := payload.normalizedState
  previousState := some payload.previousState
  selectedNozzle := payload.selectedNozzle
  activeTransactionId := usable payload.activeTransactionId
  communicationHealthy := payload.communicationHealthy
  lastRawWayneStatus := payload.rawWayneStatus
  stateVersion := if payload.stateVersion = 0 then nextVersion latest else payload.stateVersion
  lastSourceFrameHex := payload.sourceFrameRef

/-- The address is at a transaction from now on. -/
def remember (address : Byte) (transactionUuid : String) (process : Process) : Process :=
  { process with
    txByAddress := (address, transactionUuid) ::
      process.txByAddress.filter (·.1 ≠ address) }

/-- The transaction a changed state belongs to: the one it names, else the one
the address is at. -/
def knownTransaction (address : Byte) (payload : StateChangedPayload) (process : Process) :
    Option String :=
  (usable payload.activeTransactionId).or (usable (process.txByAddress.lookup address))

def beginRequest (pumpDb : String) (transactionUuid : String)
    (payload : StateChangedPayload) : BeginTransactionRequest where
  stationId := bridge.stationId
  pumpDbId := pumpDb
  transactionUuid := transactionUuid
  nozzleId := payload.selectedNozzle
  rawPrice := none
  priceDecimals := none
  volumeDecimals := none
  amountDecimals := none
  simulated := bridge.simulated
  environment := bridge.environment

/-- The sale begins when the pump enters `FILLING`. -/
def beginSale (env : Env) (pumpDb : String) (address : Byte)
    (payload : StateChangedPayload) : ProcessM Unit := do
  let process ← get
  let txUuid := (knownTransaction address payload process).getD (env.uuid4 .transactionUuid)
  set (remember address txUuid process)
  let _ ← TransactionService.begin env (bridge.beginRequest pumpDb txUuid payload)

/-- The states that end a delivery. -/
def EndsDelivery (state : PumpState) : Prop :=
  state ∈ [PumpState.FILLING_COMPLETE, .LIMIT_REACHED]

instance (state : PumpState) : Decidable (EndsDelivery state) :=
  inferInstanceAs (Decidable (_ ∈ _))

def completeRequest (transactionUuid : String) (payload : StateChangedPayload) :
    CompleteTransactionRequest where
  transactionUuid := transactionUuid
  sourceCompletionKey := (usable payload.completionEvidenceKey).getD
    s!"complete:{transactionUuid}:{payload.normalizedState.value}"
  rawVolume := 0
  rawAmount := 0
  sourceFrameRef := payload.sourceFrameRef

/-- The sale is completed when the delivery has ended; the mapping is kept for
duplicate DATA until a new sale. -/
def completeSale (env : Env) (address : Byte) (payload : StateChangedPayload) :
    ProcessM Unit := do
  let process ← get
  match knownTransaction address payload process with
  | none => return ()
  | some completeUuid =>
      let _ ← TransactionService.complete env (completeRequest completeUuid payload)
      modify (remember address completeUuid)

/-- The body of the unit of work of a changed state. -/
def stateChangedUnit (env : Env) (pumpDb : String) (address : Byte)
    (payload : StateChangedPayload) : ProcessM Unit := do
  let process ← get
  let latest := StateRepository.latest pumpDb process.db.states
  let _ ← onDb (PumpStateService.persistContext env pumpDb
    (bridge.stateContext address payload latest) payload.sourceFrameRef)
  if payload.normalizedState = .FILLING ∧ payload.previousState ≠ .FILLING then
    bridge.beginSale env pumpDb address payload
  if EndsDelivery payload.normalizedState then completeSale env address payload

def handleStateChanged (env : Env) (address : Byte) (payload : StateChangedPayload)
    (process : Process) : Process :=
  match bridge.pumpDb address with
  | none => process
  | some pumpDb => (unitOfWork (bridge.stateChangedUnit env pumpDb address payload) process).2

/-- The event is about filled volume and amount. -/
def IsDc2 (detail : String) : Prop := "DC2".toList <:+: detail.toUpper.toList

instance (detail : String) : Decidable (IsDc2 detail) :=
  inferInstanceAs (Decidable (_ <:+: _))

/-- The update of a DC2; its key is made from its values, so that a repeated
block adds no event. -/
def fillingRequest (txUuid : String) (rawVolume rawAmount : Nat)
    (payload : TransactionDecodedPayload) : FillingUpdateRequest where
  transactionUuid := txUuid
  rawVolume := rawVolume
  rawAmount := rawAmount
  rawPrice := payload.rawPrice.map Nat.cast
  eventKey := some (fillKey txUuid rawVolume rawAmount)
  sourceFrameRef := payload.sourceFrameRef

/-- The update that a decoded transaction asks for, if any. -/
def decodedRequest (address : Byte) (detail : String) (payload : TransactionDecodedPayload)
    (process : Process) : Option FillingUpdateRequest :=
  if IsDc2 detail then
    match usable (process.txByAddress.lookup address), payload.rawVolume,
        payload.rawAmount with
    | some txUuid, some rawVolume, some rawAmount =>
        some (fillingRequest txUuid rawVolume rawAmount payload)
    | _, _, _ => none
  else none

def handleAppDecoded (env : Env) (address : Byte) (detail : String)
    (payload : TransactionDecodedPayload) (process : Process) : Process :=
  match decodedRequest address detail payload process with
  | none => process
  | some req => (unitOfWork (TransactionService.updateFilling env req) process).2

/-- The two communication events, with the texts of their types. -/
inductive CommType where
  | PUMP_CONNECTED | PUMP_DISCONNECTED
deriving DecidableEq, Repr

def CommType.value : CommType → String
  | .PUMP_CONNECTED => "PUMP_CONNECTED"
  | .PUMP_DISCONNECTED => "PUMP_DISCONNECTED"

def commAudit (type : CommType) (address : Byte) : AuditEntry where
  actor := "controller"
  source := "transport"
  action := type.value
  stationId := bridge.stationId
  pumpId := bridge.pumpDb address
  result := "OK"
  details := some (.object [("address", .number address.toNat),
    ("environment", .text bridge.environment)])

/-- The context a communication event is persisted from: the latest state with
the new health; a persisted text that names no state raises. -/
def commContext (type : CommType) (address : Byte)
    (latest : Option PumpStateSnapshotRow) : Except Raised PumpContext := do
  let state ←
    match latest with
    | none => pure PumpState.DISCONNECTED
    | some row =>
        match PumpState.ofValue? row.normalizedState with
        | some state => pure state
        | none => .error (.valueError s!"{row.normalizedState} is not a valid PumpState")
  return {
    pumpId := bridge.logical address
    dartAddress := address
    currentState := state
    communicationHealthy := decide (type = .PUMP_CONNECTED)
    stateVersion := nextVersion latest }

def commUnit (env : Env) (type : CommType) (address : Byte) : UnitOfWork Unit := do
  let _ ← AuditRepository.append env (bridge.commAudit type address)
  match bridge.pumpDb address with
  | none => return ()
  | some pumpDb =>
      let db ← get
      let context ← Foundation.StateEffect.fromExcept
        (bridge.commContext type address (StateRepository.latest pumpDb db.states))
      let _ ← PumpStateService.persistContext env pumpDb context none

def handleComm (env : Env) (type : CommType) (address : Byte) (process : Process) : Process :=
  { process with db := commit (bridge.commUnit env type address) process.db }

/-- The handler of an event of the controller. -/
def handle (env : Env) (event : ControllerEvent) (process : Process) : Process :=
  match event.type, event.payload with
  | .STATE_CHANGED, .stateChanged payload =>
      bridge.handleStateChanged env event.address payload process
  | .APPLICATION_TRANSACTION_DECODED, .transactionDecoded payload =>
      handleAppDecoded env event.address event.detail payload process
  | .PUMP_CONNECTED, _ => bridge.handleComm env .PUMP_CONNECTED event.address process
  | .PUMP_DISCONNECTED, _ => bridge.handleComm env .PUMP_DISCONNECTED event.address process
  | _, _ => process

/-- A bridge that knows the pump at address 1. -/
def onePump : PersistenceBridge := ⟨"S1", "LAB", true, [(1, "db-1")], [(1, "fp-1")]⟩

end PersistenceBridge
end Services
end Intelipump
