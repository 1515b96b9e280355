import Mathlib.Tactic.Common
import Intelipump.Foundation.Tables
import Intelipump.Persistence.UnitOfWork

namespace Intelipump
namespace Persistence

open Foundation.Tables

/-!
# Transactions, their events and the sync queue

The three repositories a sale is recorded through.  Identifiers drawn from
`uuid4()` are taken to be new to their table; only for transactions is the
primary key checked, beside the columns that a caller fills.
-/

namespace TransactionRepository

def getByUuid (transactionUuid : String) (db : Database) : Option TransactionRow :=
  db.transactions.find? (·.transactionUuid = transactionUuid)

def getByCompletionKey (key : String) (db : Database) : Option TransactionRow :=
  db.transactions.find? (·.sourceCompletionKey = some key)

/-- The unresolved transactions of a station. -/
def listUnresolved (stationId : String) (db : Database) : List TransactionRow :=
  db.transactions.filter fun row =>
    row.stationId = stationId ∧ row.status ∈ [TransactionStatus.ACTIVE, .SUSPENDED, .OPEN]

/-- Insert a row; its identifier and its `transaction_uuid` have to be new. -/
def create (row : TransactionRow) : UnitOfWork TransactionRow := fun db =>
  if row.id ∈ db.transactions.map (·.id) ∨
      row.transactionUuid ∈ db.transactions.map (·.transactionUuid) then
    .error (.integrityError "UNIQUE constraint failed: transactions") db
  else .ok row { db with transactions := db.transactions ++ [row] }

/-- Write back the row that was selected by its `transaction_uuid`. -/
def write (row : TransactionRow) (db : Database) : Database :=
  { db with transactions := updateBy (·.transactionUuid) row db.transactions }

/-- A row after a filling update: volume and amount never decrease. -/
def filled (row : TransactionRow) (rawVolume rawAmount : Int) (rawPrice : Option Int) :
    TransactionRow :=
  { row with
    rawVolume := max row.rawVolume rawVolume
    rawAmount := max row.rawAmount rawAmount
    rawPrice := rawPrice.or row.rawPrice }

def updateFilling (transactionUuid : String) (rawVolume rawAmount : Int)
    (rawPrice : Option Int) : UnitOfWork (Option TransactionRow) := fun db =>
  match getByUuid transactionUuid db with
  | none => .ok none db
  | some row =>
      let updated := filled row rawVolume rawAmount rawPrice
      .ok (some updated) (write updated db)

/-- A row after its completion. -/
def completed (row : TransactionRow) (sourceCompletionKey : String)
    (rawVolume rawAmount : Int) (completedAt : Int) : TransactionRow :=
  { row with
    status := .COMPLETED
    sourceCompletionKey := some sourceCompletionKey
    rawVolume := max row.rawVolume rawVolume
    rawAmount := max row.rawAmount rawAmount
    completedAt := some completedAt }

/-- The row is completed under a key; an empty key counts as none. -/
def IsClosed (row : TransactionRow) : Prop :=
  row.status = .COMPLETED ∧ ∃ key ∈ row.sourceCompletionKey, key ≠ ""

instance (row : TransactionRow) : Decidable (IsClosed row) :=
  inferInstanceAs (Decidable (_ ∧ ∃ key ∈ row.sourceCompletionKey, key ≠ ""))

/-- Complete a transaction once; the flag says whether this call did it.  The
key was looked up first, so the write meets no other row that has it. -/
def completeOnce (transactionUuid sourceCompletionKey : String) (rawVolume rawAmount : Int)
    (completedAt : Int) : UnitOfWork (TransactionRow × Bool) := fun db =>
  match getByCompletionKey sourceCompletionKey db with
  | some existing => .ok (existing, false) db
  | none =>
      match getByUuid transactionUuid db with
      | none => .error (.lookupError s!"transaction not found: {transactionUuid}") db
      | some row =>
          if IsClosed row then .ok (row, false) db
          else
            let closed := completed row sourceCompletionKey rawVolume rawAmount completedAt
            .ok (closed, true) (write closed db)

/-- The unique key of an event. -/
def eventId (event : TransactionEventRow) : String × String :=
  (event.transactionId, event.eventKey)

/-- Insert an event unless its transaction has one under its key. -/
def addEvent (event : TransactionEventRow) : UnitOfWork Bool := fun db =>
  .ok (decide (eventId event ∉ db.transactionEvents.map eventId))
    { db with transactionEvents := insertNew eventId event db.transactionEvents }

end TransactionRepository

namespace SyncQueueRepository

/-- The keyword arguments of `enqueue`. -/
structure SyncEntry where
  entityType : String
  entityId : String
  eventType : SyncEventType
  payload : SyncPayload
  deduplicationKey : String
deriving DecidableEq, Repr

/-- A pending row for an entry. -/
def newRow (id : String) (now : Int) (entry : SyncEntry) : SyncQueueRow where
  id := id
  entityType := entry.entityType
  entityId := entry.entityId
  eventType := entry.eventType
  payload := entry.payload
  availableAt := now
  createdAt := now
  deduplicationKey := entry.deduplicationKey

/-- Insert a row unless the queue has one under its deduplication key. -/
def enqueue (id : String) (now : Int) (entry : SyncEntry) :
    UnitOfWork (Option SyncQueueRow) := fun db =>
  .ok (if entry.deduplicationKey ∈ db.syncQueue.map (·.deduplicationKey) then none
      else some (newRow id now entry))
    { db with
      syncQueue := insertNew (·.deduplicationKey) (newRow id now entry) db.syncQueue }

def enqueueChecked (id : String) (now : Int) (entry : SyncEntry) :
    UnitOfWork (Option SyncQueueRow) :=
  enqueue id now entry

/-- A row that is claimed and was locked a minute before, in microseconds. -/
def IsStale (now : Int) (row : SyncQueueRow) : Prop :=
  row.status = .CLAIMED ∧ ∃ lockedAt ∈ row.lockedAt, lockedAt ≤ now - 60000000

instance (now : Int) (row : SyncQueueRow) : Decidable (IsStale now row) :=
  inferInstanceAs (Decidable (_ ∧ ∃ lockedAt ∈ row.lockedAt, lockedAt ≤ _))

/-- Give stale rows back to the queue; the result is their number. -/
def releaseStaleLocks (now : Int) : UnitOfWork Nat := fun db =>
  .ok (db.syncQueue.countP fun row => IsStale now row)
    { db with
      syncQueue := db.syncQueue.map fun row =>
        if IsStale now row then { row with status := .PENDING, lockedAt := none } else row }

end SyncQueueRepository

end Persistence
end Intelipump
