import Mathlib.Tactic.Common
import Intelipump.Services.TransactionService

namespace Intelipump
namespace Services

open Foundation.StateEffect
open Foundation.Tables
open Persistence
open TransactionService
open TransactionRepository (getByUuid getByCompletionKey IsClosed eventId)

/-!
# What a call of the transaction service can do

Every call has a few outcomes on the database (`LedgerOutcome`), said once
here; the results on the ledger are derived from these and never unfold the
service again.
-/

/-- A call of the service. -/
inductive LedgerCall where
  | begin (req : BeginTransactionRequest)
  | updateFilling (req : FillingUpdateRequest)
  | complete (req : CompleteTransactionRequest)
deriving DecidableEq, Repr

def LedgerCall.run (env : Env) : LedgerCall → ProcessM Unit
  | .begin req => do
      let _ ← TransactionService.begin env req
  | .updateFilling req => do
      let _ ← TransactionService.updateFilling env req
  | .complete req => do
      let _ ← TransactionService.complete env req

/-! ## The tables after a call -/

/-- The queue row of an entry of the ledger. -/
def queueRow (env : Env) (entry : SyncQueueRepository.SyncEntry) : SyncQueueRow :=
  SyncQueueRepository.newRow (env.uuid4 .transactionQueueRow)
    (env.now .transactionQueueRow) entry

/-- The queue after an entry of the ledger was offered to it. -/
def offered (env : Env) (entry : SyncQueueRepository.SyncEntry)
    (queue : List SyncQueueRow) : List SyncQueueRow :=
  insertNew (·.deduplicationKey) (queueRow env entry) queue

def begunDb (env : Env) (req : BeginTransactionRequest) (db : Database) : Database :=
  let tx := newTransaction env req
  { db with
    transactions := db.transactions ++ [tx]
    transactionEvents := insertNew eventId (startedEvent tx) db.transactionEvents
    syncQueue := offered env (startedEntry tx) db.syncQueue }

/-- The row after a filling update that was asked for. -/
def filledRow (req : FillingUpdateRequest) (row : TransactionRow) : TransactionRow :=
  TransactionRepository.filled row req.rawVolume req.rawAmount req.rawPrice

def filledDb (env : Env) (req : FillingUpdateRequest) (row : TransactionRow)
    (publish : Bool) (db : Database) : Database :=
  let tx := filledRow req row
  let written := TransactionRepository.write tx db
  { written with
    transactionEvents :=
      match req.eventKey.filter (· ≠ "") with
      | some key => insertNew eventId (fillingEvent tx key req) db.transactionEvents
      | none => db.transactionEvents
    syncQueue :=
      if publish then offered env (fillingEntry db tx req) db.syncQueue
      else db.syncQueue }

/-- The row after a completion that was asked for. -/
def closedRow (env : Env) (req : CompleteTransactionRequest) (row : TransactionRow) :
    TransactionRow :=
  TransactionRepository.completed row req.sourceCompletionKey req.rawVolume req.rawAmount
    (req.completedAt.getD (env.now .completion))

def closedDb (env : Env) (req : CompleteTransactionRequest) (row : TransactionRow)
    (db : Database) : Database :=
  let tx := closedRow env req row
  let written := TransactionRepository.write tx db
  { written with
    transactionEvents := insertNew eventId (completedEvent tx req) db.transactionEvents
    syncQueue := offered env (completedEntry db tx req.sourceCompletionKey) db.syncQueue }

/-- The throttle lets an update through. -/
def Publishes (env : Env) (process : Process) (req : FillingUpdateRequest) : Bool :=
  (fillDecision process.fillBook req.transactionUuid req.rawVolume req.rawAmount false
    (env.now .completion)).1

/-- Every outcome of a call on the database. -/
inductive LedgerOutcome (env : Env) (before : Process) : LedgerCall → Database → Prop where
  | nothing (call : LedgerCall) : LedgerOutcome env before call before.db
  | begun (req : BeginTransactionRequest)
      (hnew : getByUuid req.transactionUuid before.db = none)
      (hid : env.uuid4 .transactionRow ∉ before.db.transactions.map (·.id)) :
      LedgerOutcome env before (.begin req) (begunDb env req before.db)
  | filled (req : FillingUpdateRequest) (row : TransactionRow)
      (hrow : getByUuid req.transactionUuid before.db = some row) :
      LedgerOutcome env before (.updateFilling req)
        (filledDb env req row (Publishes env before req) before.db)
  | closed (req : CompleteTransactionRequest) (row : TransactionRow)
      (hkey : getByCompletionKey req.sourceCompletionKey before.db = none)
      (hrow : getByUuid req.transactionUuid before.db = some row) (hopen : ¬ IsClosed row) :
      LedgerOutcome env before (.complete req) (closedDb env req row before.db)

/-- No call changes the snapshots. -/
theorem LedgerOutcome.states {env : Env} {before : Process} {call : LedgerCall}
    {after : Database} (houtcome : LedgerOutcome env before call after) :
    after.states = before.db.states := by
  cases houtcome <;> rfl

/-! ## The outcomes of the calls -/

theorem onDb_addEvent (event : TransactionEventRow) (process : Process) :
    onDb (TransactionRepository.addEvent event) process =
      .ok (decide (eventId event ∉ process.db.transactionEvents.map eventId))
        { process with db := { process.db with
          transactionEvents := insertNew eventId event process.db.transactionEvents } } := rfl

theorem onDb_enqueueChecked (env : Env) (entry : SyncQueueRepository.SyncEntry)
    (process : Process) :
    onDb (SyncQueueRepository.enqueueChecked (env.uuid4 .transactionQueueRow)
        (env.now .transactionQueueRow) entry) process =
      .ok (if entry.deduplicationKey ∈ process.db.syncQueue.map (·.deduplicationKey)
          then none else some (queueRow env entry))
        { process with db := { process.db with
          syncQueue := offered env entry process.db.syncQueue } } := rfl

theorem decideFill_eq (env : Env) (tx : TransactionRow) (rawVolume rawAmount : Int)
    (isFinal : Bool) (process : Process) :
    decideFill env tx rawVolume rawAmount isFinal process =
      .ok (fillDecision process.fillBook tx.transactionUuid rawVolume rawAmount isFinal
          (env.now .completion)).1
        { process with
          fillBook := (fillDecision process.fillBook tx.transactionUuid rawVolume rawAmount
            isFinal (env.now .completion)).2 } := rfl

theorem getByUuid_eq_none_iff {transactionUuid : String} {db : Database} :
    getByUuid transactionUuid db = none ↔
      transactionUuid ∉ db.transactions.map (·.transactionUuid) :=
  find?_eq_none_iff

theorem transactionUuid_of_getByUuid {transactionUuid : String} {db : Database}
    {row : TransactionRow} (hrow : getByUuid transactionUuid db = some row) :
    row.transactionUuid = transactionUuid :=
  key_of_find? hrow

/-- Looking a transaction up after one was written back. -/
theorem getByUuid_write {db : Database} {row old : TransactionRow}
    (hold : getByUuid row.transactionUuid db = some old) (uuid : String) :
    getByUuid uuid (TransactionRepository.write row db) =
      if row.transactionUuid = uuid then some row else getByUuid uuid db := by
  refine find?_updateBy ?_
  rw [← transactionUuid_of_getByUuid hold]
  exact List.mem_map_of_mem (List.mem_of_find?_eq_some hold)

variable {process : Process}

theorem begin_existing (env : Env) {req : BeginTransactionRequest}
    {existing : TransactionRow}
    (hexisting : getByUuid req.transactionUuid process.db = some existing) :
    TransactionService.begin env req process = .ok existing process := by
  unfold TransactionService.begin
  rw [get_bind, hexisting]
  rfl

/-- A transaction that is not known is created, when its identifier is new. -/
theorem begin_new {env : Env} {req : BeginTransactionRequest}
    (hnew : getByUuid req.transactionUuid process.db = none)
    (hid : env.uuid4 .transactionRow ∉ process.db.transactions.map (·.id)) :
    TransactionService.begin env req process =
      .ok (newTransaction env req)
        { process with db := begunDb env req process.db } := by
  have hcreate : TransactionRepository.create (newTransaction env req) process.db =
      .ok (newTransaction env req) { process.db with
        transactions := process.db.transactions ++ [newTransaction env req] } :=
    if_neg (not_or.mpr ⟨hid, getByUuid_eq_none_iff.mp hnew⟩)
  unfold TransactionService.begin
  rw [get_bind, hnew]
  dsimp only
  rw [bind_ok (onDb_ok hcreate), bind_ok (onDb_addEvent _ _),
    bind_ok (onDb_enqueueChecked _ _ _)]
  rfl

theorem begin_conflict {env : Env} {req : BeginTransactionRequest}
    (hnew : getByUuid req.transactionUuid process.db = none)
    (hid : env.uuid4 .transactionRow ∈ process.db.transactions.map (·.id)) :
    TransactionService.begin env req process =
      .error (.integrityError "UNIQUE constraint failed: transactions") process := by
  have hcreate : TransactionRepository.create (newTransaction env req) process.db =
      .error (.integrityError "UNIQUE constraint failed: transactions") process.db :=
    if_pos (Or.inl hid)
  unfold TransactionService.begin
  rw [get_bind, hnew]
  dsimp only
  rw [bind_error (onDb_error hcreate)]

theorem updateFilling_unknown (env : Env) {req : FillingUpdateRequest}
    (hunknown : getByUuid req.transactionUuid process.db = none) :
    TransactionService.updateFilling env req process = .ok none process := by
  have hupdate : TransactionRepository.updateFilling req.transactionUuid req.rawVolume
      req.rawAmount req.rawPrice process.db = .ok none process.db := by
    unfold TransactionRepository.updateFilling
    rw [hunknown]
  unfold TransactionService.updateFilling
  rw [bind_ok (onDb_ok hupdate)]
  rfl

/-- An update of a known transaction is published when the throttle lets it. -/
theorem updateFilling_known (env : Env) {req : FillingUpdateRequest} {row : TransactionRow}
    (hrow : getByUuid req.transactionUuid process.db = some row) :
    ∃ book, TransactionService.updateFilling env req process =
      .ok (some (filledRow req row)) { process with
        db := filledDb env req row (Publishes env process req) process.db
        fillBook := book } := by
  have hupdate : TransactionRepository.updateFilling req.transactionUuid req.rawVolume
      req.rawAmount req.rawPrice process.db =
        .ok (some (filledRow req row))
          (TransactionRepository.write (filledRow req row) process.db) := by
    unfold TransactionRepository.updateFilling
    rw [hrow]
    rfl
  have huuid : (filledRow req row).transactionUuid = req.transactionUuid := by
    change row.transactionUuid = _
    exact transactionUuid_of_getByUuid hrow
  unfold TransactionService.updateFilling
  rw [bind_ok (onDb_ok hupdate)]
  dsimp only
  refine ⟨(fillDecision process.fillBook req.transactionUuid req.rawVolume req.rawAmount
    false (env.now .completion)).2, ?_⟩
  unfold filledDb Publishes
  cases hkey : req.eventKey.filter (· ≠ "") with
  | none =>
      dsimp only
      rw [bind_ok (decideFill_eq _ _ _ _ _ _), huuid]
      split
      · rw [get_bind, bind_ok (onDb_enqueueChecked _ _ _)]
        rfl
      · rfl
  | some key =>
      dsimp only
      rw [bind_ok (onDb_addEvent _ _), bind_ok (decideFill_eq _ _ _ _ _ _), huuid]
      split
      · rw [get_bind, bind_ok (onDb_enqueueChecked _ _ _)]
        rfl
      · rfl

theorem complete_keyUsed (env : Env) {req : CompleteTransactionRequest}
    {existing : TransactionRow}
    (hkey : getByCompletionKey req.sourceCompletionKey process.db = some existing) :
    TransactionService.complete env req process = .ok (existing, false) process := by
  have honce : TransactionRepository.completeOnce req.transactionUuid
      req.sourceCompletionKey req.rawVolume req.rawAmount
      (req.completedAt.getD (env.now .completion)) process.db =
        .ok (existing, false) process.db := by
    unfold TransactionRepository.completeOnce
    rw [hkey]
  unfold TransactionService.complete
  rw [bind_ok (onDb_ok honce)]
  rfl

theorem complete_unknown (env : Env) {req : CompleteTransactionRequest}
    (hkey : getByCompletionKey req.sourceCompletionKey process.db = none)
    (hunknown : getByUuid req.transactionUuid process.db = none) :
    TransactionService.complete env req process =
      .error (.lookupError s!"transaction not found: {req.transactionUuid}") process := by
  have honce : TransactionRepository.completeOnce req.transactionUuid
      req.sourceCompletionKey req.rawVolume req.rawAmount
      (req.completedAt.getD (env.now .completion)) process.db =
        .error (.lookupError s!"transaction not found: {req.transactionUuid}")
          process.db := by
    unfold TransactionRepository.completeOnce
    rw [hkey, hunknown]
  unfold TransactionService.complete
  rw [bind_error (onDb_error honce)]

theorem complete_closed (env : Env) {req : CompleteTransactionRequest}
    {row : TransactionRow}
    (hkey : getByCompletionKey req.sourceCompletionKey process.db = none)
    (hrow : getByUuid req.transactionUuid process.db = some row) (hclosed : IsClosed row) :
    TransactionService.complete env req process = .ok (row, false) process := by
  have honce : TransactionRepository.completeOnce req.transactionUuid
      req.sourceCompletionKey req.rawVolume req.rawAmount
      (req.completedAt.getD (env.now .completion)) process.db =
        .ok (row, false) process.db := by
    unfold TransactionRepository.completeOnce
    rw [hkey, hrow]
    exact if_pos hclosed
  unfold TransactionService.complete
  rw [bind_ok (onDb_ok honce)]
  rfl

/-- The call that completes a transaction. -/
theorem complete_open (env : Env) {req : CompleteTransactionRequest} {row : TransactionRow}
    (hkey : getByCompletionKey req.sourceCompletionKey process.db = none)
    (hrow : getByUuid req.transactionUuid process.db = some row) (hopen : ¬ IsClosed row) :
    ∃ book, TransactionService.complete env req process =
      .ok (closedRow env req row, true) { process with
        db := closedDb env req row process.db
        fillBook := book } := by
  have honce : TransactionRepository.completeOnce req.transactionUuid
      req.sourceCompletionKey req.rawVolume req.rawAmount
      (req.completedAt.getD (env.now .completion)) process.db =
        .ok (closedRow env req row, true)
          (TransactionRepository.write (closedRow env req row) process.db) := by
    unfold TransactionRepository.completeOnce
    rw [hkey, hrow]
    exact if_neg hopen
  unfold TransactionService.complete
  rw [bind_ok (onDb_ok honce)]
  dsimp only
  rw [if_pos rfl, bind_ok (onDb_addEvent _ _), bind_ok (decideFill_eq _ _ _ _ _ _),
    get_bind, bind_ok (onDb_enqueueChecked _ _ _)]
  exact ⟨_, rfl⟩

/-- A call changes the database by one of its outcomes, and the address map not
at all; when it raises, nothing changes. -/
theorem LedgerCall.outcome (env : Env) (call : LedgerCall) (process : Process) :
    (∃ db book, call.run env process =
        .ok () { process with db := db, fillBook := book } ∧
      LedgerOutcome env process call db) ∨
    ∃ error, call.run env process = .error error process := by
  cases call with
  | begin req =>
      unfold LedgerCall.run
      dsimp only
      cases hexisting : getByUuid req.transactionUuid process.db with
      | some existing =>
          rw [bind_ok (begin_existing env hexisting)]
          exact Or.inl ⟨process.db, process.fillBook, rfl, .nothing _⟩
      | none =>
          by_cases hid : env.uuid4 .transactionRow ∈ process.db.transactions.map (·.id)
          · rw [bind_error (begin_conflict hexisting hid)]
            exact Or.inr ⟨_, rfl⟩
          · rw [bind_ok (begin_new hexisting hid)]
            exact Or.inl ⟨_, process.fillBook, rfl, .begun req hexisting hid⟩
  | updateFilling req =>
      unfold LedgerCall.run
      dsimp only
      cases hrow : getByUuid req.transactionUuid process.db with
      | none =>
          rw [bind_ok (updateFilling_unknown env hrow)]
          exact Or.inl ⟨process.db, process.fillBook, rfl, .nothing _⟩
      | some row =>
          obtain ⟨book, hfilled⟩ := updateFilling_known env hrow
          rw [bind_ok hfilled]
          exact Or.inl ⟨_, book, rfl, .filled req row hrow⟩
  | complete req =>
      unfold LedgerCall.run
      dsimp only
      cases hkey : getByCompletionKey req.sourceCompletionKey process.db with
      | some existing =>
          rw [bind_ok (complete_keyUsed env hkey)]
          exact Or.inl ⟨process.db, process.fillBook, rfl, .nothing _⟩
      | none =>
          cases hrow : getByUuid req.transactionUuid process.db with
          | none =>
              rw [bind_error (complete_unknown env hkey hrow)]
              exact Or.inr ⟨_, rfl⟩
          | some row =>
              by_cases hclosed : IsClosed row
              · rw [bind_ok (complete_closed env hkey hrow hclosed)]
                exact Or.inl ⟨process.db, process.fillBook, rfl, .nothing _⟩
              · obtain ⟨book, hdone⟩ := complete_open env hkey hrow hclosed
                rw [bind_ok hdone]
                exact Or.inl ⟨_, book, rfl, .closed req row hkey hrow hclosed⟩

end Services
end Intelipump
