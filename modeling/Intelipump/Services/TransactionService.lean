import Mathlib.Algebra.Order.Group.Abs
import Mathlib.Algebra.Order.Group.Int
import Mathlib.Tactic.Common
import Intelipump.Persistence.Ledger

namespace Intelipump
namespace Services

open Dart.Line
open Persistence

/-!
# The transaction service

A sale is begun, updated and completed in one unit of work with its events and
its queue rows.  The throttle of the cloud updates is kept in memory: a unit
that rolls back leaves it as it is.
-/

/-! ## The fill throttle -/

structure FillThrottleConfig where
  minInterval : Int := 2000000
  minVolumeDelta : Int := 100
  minAmountDelta : Int := 100
deriving DecidableEq, Repr

structure FillThrottleState where
  lastPublishedAt : Option Int := none
  lastRawVolume : Option Int := none
  lastRawAmount : Option Int := none
  publishedFirst : Bool := false
deriving DecidableEq, Repr

/-- An update moved far enough from the last one published. -/
def movedBy (delta value : Int) (last : Option Int) : Prop :=
  ∃ published ∈ last, |value - published| ≥ delta

instance (delta value : Int) (last : Option Int) : Decidable (movedBy delta value last) :=
  inferInstanceAs (Decidable (∃ published ∈ last, |value - published| ≥ delta))

def shouldPublishFill (now rawVolume rawAmount : Int) (state : FillThrottleState)
    (config : FillThrottleConfig) (isFinal : Bool) : Bool :=
  if isFinal then true
  else if state.publishedFirst = false then true
  else if movedBy config.minVolumeDelta rawVolume state.lastRawVolume ∨
      movedBy config.minAmountDelta rawAmount state.lastRawAmount then true
  else
    match state.lastPublishedAt with
    | none => true
    | some last => decide (now - last ≥ config.minInterval)

def advanceFillState (now rawVolume rawAmount : Int) : FillThrottleState where
  lastPublishedAt := some now
  lastRawVolume := some rawVolume
  lastRawAmount := some rawAmount
  publishedFirst := true

/-- Per-transaction throttle bookkeeping. -/
structure FillPublishBook where
  config : FillThrottleConfig := {}
  states : List (String × FillThrottleState) := []
deriving DecidableEq, Repr

namespace FillPublishBook

def stateOf (book : FillPublishBook) (transactionUuid : String) : FillThrottleState :=
  (book.states.lookup transactionUuid).getD {}

def forget (book : FillPublishBook) (transactionUuid : String) : FillPublishBook :=
  { book with states := book.states.filter (·.1 ≠ transactionUuid) }

/-- The decision, and the book after it. -/
def decide (book : FillPublishBook) (transactionUuid : String)
    (rawVolume rawAmount : Int) (isFinal : Bool) (now : Int) : Bool × FillPublishBook :=
  if shouldPublishFill now rawVolume rawAmount (book.stateOf transactionUuid) book.config
      isFinal then
    let forgotten := book.forget transactionUuid
    if isFinal then (true, forgotten)
    else (true, { forgotten with
      states := (transactionUuid, advanceFillState now rawVolume rawAmount) ::
        forgotten.states })
  else (false, book)

end FillPublishBook

/-! ## The running process -/

/-- The database and what the process keeps in memory. -/
structure Process where
  db : Database := {}
  fillBook : Option FillPublishBook := none
  txByAddress : List (Byte × String) := []
deriving Repr

abbrev ProcessM := EStateM Raised Process

/-- A repository call inside a unit of work. -/
def onDb {α : Type} (unit : UnitOfWork α) : ProcessM α := fun process =>
  match unit process.db with
  | .ok value db => .ok value { process with db := db }
  | .error error db => .error error { process with db := db }

theorem onDb_ok {α : Type} {unit : UnitOfWork α} {process : Process} {value : α}
    {db : Database} (hunit : unit process.db = .ok value db) :
    onDb unit process = .ok value { process with db := db } := by
  unfold onDb
  rw [hunit]

theorem onDb_error {α : Type} {unit : UnitOfWork α} {process : Process} {error : Raised}
    {db : Database} (hunit : unit process.db = .error error db) :
    onDb unit process = .error error { process with db := db } := by
  unfold onDb
  rw [hunit]

/-- `async with unit_of_work(…)`: a raise rolls the database back, and what was
written to memory stays. -/
def unitOfWork {α : Type} (body : ProcessM α) (process : Process) : Option α × Process :=
  match body process with
  | .ok value after => (some value, after)
  | .error _ after => (none, { after with db := process.db })

/-! ## Requests -/

structure BeginTransactionRequest where
  stationId : String
  pumpDbId : String
  transactionUuid : String
  nozzleId : Option Nat
  rawPrice : Option Int
  priceDecimals : Option Nat
  volumeDecimals : Option Nat
  amountDecimals : Option Nat
  simulated : Bool
  environment : String
  startedAt : Option Int := none
deriving DecidableEq, Repr

structure FillingUpdateRequest where
  transactionUuid : String
  rawVolume : Int
  rawAmount : Int
  rawPrice : Option Int := none
  eventKey : Option String := none
  sourceFrameRef : Option String := none
deriving DecidableEq, Repr

structure CompleteTransactionRequest where
  transactionUuid : String
  sourceCompletionKey : String
  rawVolume : Int
  rawAmount : Int
  sourceFrameRef : Option String := none
  completedAt : Option Int := none
deriving DecidableEq, Repr

/-- The key of a filling update with its values. -/
def fillKey (transactionUuid : String) (rawVolume rawAmount : Int) : String :=
  "fill:" ++ s!"{transactionUuid}:{rawVolume}:{rawAmount}"

/-- The name of a transaction's pump: its logical identifier, when the pump is
known. -/
def pumpName (db : Database) (pumpId : String) : String :=
  ((db.pumps.find? (·.id = pumpId)).map (·.logicalPumpId)).getD pumpId

namespace TransactionService

/-- The row that `begin` creates. -/
def newTransaction (env : Env) (req : BeginTransactionRequest) : TransactionRow where
  id := env.uuid4 .transactionRow
  transactionUuid := req.transactionUuid
  stationId := req.stationId
  pumpId := req.pumpDbId
  nozzleId := req.nozzleId
  status := .ACTIVE
  rawPrice := req.rawPrice
  priceDecimals := req.priceDecimals
  volumeDecimals := req.volumeDecimals
  amountDecimals := req.amountDecimals
  startedAt := some (req.startedAt.getD (env.now .transactionRow))
  simulated := req.simulated
  environment := req.environment

def startedEvent (tx : TransactionRow) : TransactionEventRow where
  transactionId := tx.id
  eventType := .STARTED
  eventKey := "started:" ++ tx.transactionUuid
  rawPayload := .object [("status", .text "ACTIVE")]
  sourceFrameRef := none

def startedEntry (tx : TransactionRow) : SyncQueueRepository.SyncEntry where
  entityType := "transaction"
  entityId := tx.transactionUuid
  eventType := .TRANSACTION_STARTED
  payload := .transactionStarted {
    transactionUuid := tx.transactionUuid
    stationId := tx.stationId
    environment := tx.environment
    simulated := tx.simulated }
  deduplicationKey := "tx-started:" ++ tx.transactionUuid

def begin (env : Env) (req : BeginTransactionRequest) : ProcessM TransactionRow := do
  let process ← get
  match TransactionRepository.getByUuid req.transactionUuid process.db with
  | some existing => return existing
  | none =>
      let tx ← onDb (TransactionRepository.create (newTransaction env req))
      let _ ← onDb (TransactionRepository.addEvent (startedEvent tx))
      let _ ← onDb (SyncQueueRepository.enqueueChecked (env.uuid4 .transactionQueueRow)
        (env.now .transactionQueueRow) (startedEntry tx))
      return tx

def fillingEvent (tx : TransactionRow) (key : String) (req : FillingUpdateRequest) :
    TransactionEventRow where
  transactionId := tx.id
  eventType := .FILLING_UPDATE
  eventKey := key
  rawPayload := .object [("raw_volume", .number req.rawVolume),
    ("raw_amount", .number req.rawAmount)]
  sourceFrameRef := req.sourceFrameRef

def fillingEntry (db : Database) (tx : TransactionRow) (req : FillingUpdateRequest) :
    SyncQueueRepository.SyncEntry where
  entityType := "transaction"
  entityId := tx.transactionUuid
  eventType := .FILLING_UPDATED
  payload := .fillingUpdated {
    transactionUuid := tx.transactionUuid
    stationId := tx.stationId
    pumpId := pumpName db tx.pumpId
    rawVolume := req.rawVolume
    volumeDecimals := tx.volumeDecimals
    rawAmount := req.rawAmount
    amountDecimals := tx.amountDecimals
    environment := tx.environment
    simulated := tx.simulated }
  deduplicationKey := fillKey tx.transactionUuid req.rawVolume req.rawAmount

/-- The answer of the throttle, when there is one, and the book after it. -/
def fillDecision (book : Option FillPublishBook) (transactionUuid : String)
    (rawVolume rawAmount : Int) (isFinal : Bool) (now : Int) :
    Bool × Option FillPublishBook :=
  match book with
  | none => (false, none)
  | some book =>
      (book.decide transactionUuid rawVolume rawAmount isFinal now).map id some

def decideFill (env : Env) (tx : TransactionRow) (rawVolume rawAmount : Int)
    (isFinal : Bool) : ProcessM Bool := fun process =>
  let decision := fillDecision process.fillBook tx.transactionUuid rawVolume rawAmount
    isFinal (env.now .completion)
  .ok decision.1 { process with fillBook := decision.2 }

def updateFilling (env : Env) (req : FillingUpdateRequest) :
    ProcessM (Option TransactionRow) := do
  let updated ← onDb (TransactionRepository.updateFilling req.transactionUuid
    req.rawVolume req.rawAmount req.rawPrice)
  match updated with
  | none => return none
  | some tx =>
      match req.eventKey.filter (· ≠ "") with
      | some key =>
          let _ ← onDb (TransactionRepository.addEvent (fillingEvent tx key req))
      | none => pure ()
      let publish ← decideFill env tx req.rawVolume req.rawAmount false
      if publish then
        let process ← get
        let _ ← onDb (SyncQueueRepository.enqueueChecked (env.uuid4 .transactionQueueRow)
          (env.now .transactionQueueRow) (fillingEntry process.db tx req))
      return some tx

def completedEvent (tx : TransactionRow) (req : CompleteTransactionRequest) :
    TransactionEventRow where
  transactionId := tx.id
  eventType := .COMPLETED
  eventKey := "completed:" ++ req.sourceCompletionKey
  rawPayload := .object [("raw_volume", .number tx.rawVolume),
    ("raw_amount", .number tx.rawAmount),
    ("source_completion_key", .text req.sourceCompletionKey)]
  sourceFrameRef := req.sourceFrameRef

def completedEntry (db : Database) (tx : TransactionRow) (key : String) :
    SyncQueueRepository.SyncEntry where
  entityType := "transaction"
  entityId := tx.transactionUuid
  eventType := .TRANSACTION_COMPLETED
  payload := .transactionCompleted {
    transactionUuid := tx.transactionUuid
    stationId := tx.stationId
    pumpId := pumpName db tx.pumpId
    pumpDbId := tx.pumpId
    nozzleId := tx.nozzleId
    rawUnitPrice := tx.rawPrice
    priceDecimals := tx.priceDecimals
    rawVolume := tx.rawVolume
    volumeDecimals := tx.volumeDecimals
    rawAmount := tx.rawAmount
    amountDecimals := tx.amountDecimals
    startedAt := tx.startedAt
    completedAt := tx.completedAt
    finalStatus := tx.status
    sourceCompletionKey := key
    environment := tx.environment
    simulated := tx.simulated }
  deduplicationKey := "tx-completed:" ++ key

def complete (env : Env) (req : CompleteTransactionRequest) :
    ProcessM (TransactionRow × Bool) := do
  let (tx, newly) ← onDb (TransactionRepository.completeOnce req.transactionUuid
    req.sourceCompletionKey req.rawVolume req.rawAmount
    (req.completedAt.getD (env.now .completion)))
  if newly then
    let _ ← onDb (TransactionRepository.addEvent (completedEvent tx req))
    let _ ← decideFill env tx tx.rawVolume tx.rawAmount true
    let process ← get
    let _ ← onDb (SyncQueueRepository.enqueueChecked (env.uuid4 .transactionQueueRow)
      (env.now .transactionQueueRow)
      (completedEntry process.db tx req.sourceCompletionKey))
  return (tx, newly)

end TransactionService
end Services
end Intelipump
