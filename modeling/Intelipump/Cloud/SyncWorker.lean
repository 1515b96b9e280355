import Mathlib.Logic.Function.Basic
import Mathlib.Tactic.Common
import Intelipump.Cloud.Delivery
import Intelipump.Foundation.Runs

namespace Intelipump
namespace Cloud

open Foundation.StateEffect
open Foundation.Tables
open Persistence
open Persistence.SyncQueueRepository

/-!
# Workers that deliver the sync queue

A worker claims a batch in one unit of work, publishes its records one after another, and
marks each in a unit of work of its own.  Any number of workers share the table; between
two of these steps anything may happen, and a process may stop.
-/

/-! ## One record -/

/-- What `publish` of the client did. -/
inductive PublishResult where
  | returned (acknowledged : Bool)
  | notConnected (message : String)
  | mqttError (message : String)
  | raised (error : Raised)
deriving DecidableEq, Repr

/-- How the sending of a record ended. -/
inductive Verdict where
  | delivered
  | failed (error : String)
  | disconnected (error : String)
deriving DecidableEq, Repr

/-- The text of an exception that is none of the client's. -/
def malformed (error : Raised) : String :=
  "malformed:" ++ error.typeName ++ ":" ++ error.message

/-- A record that cannot be mapped is not published. -/
def verdictOf (mapper : DeliveryMapper) (record : SyncQueueRow) (result : PublishResult) :
    Verdict :=
  match mapper.mapRecord record, result with
  | .error error, _ => .failed (malformed error)
  | .ok delivery, .returned acknowledged =>
      if 0 < delivery.qos ∧ acknowledged = false then .failed "publish not acknowledged"
      else .delivered
  | .ok _, .notConnected message => .disconnected message
  | .ok _, .mqttError message => .failed message
  | .ok _, .raised error => .failed (malformed error)

/-! ## Workers -/

structure SyncWorker where
  mapper : DeliveryMapper
  batchSize : Nat := 10
  staleLockSeconds : Nat := 60
  maxAttempts : Nat := 20
deriving DecidableEq, Repr

/-- Where a worker stands: between two cycles, before the publish of a record, or before
the unit of work that marks it. -/
inductive WorkerPhase where
  | idle
  | publishing (record : SyncQueueRow) (rest : List SyncQueueRow)
  | marking (record : SyncQueueRow) (verdict : Verdict) (rest : List SyncQueueRow)
deriving DecidableEq, Repr

namespace WorkerPhase

/-- The loop over the batch. -/
def next : List SyncQueueRow → WorkerPhase
  | [] => idle
  | record :: rest => publishing record rest

/-- The records that a worker has yet to mark. -/
def held : WorkerPhase → List SyncQueueRow
  | idle => []
  | publishing record rest | marking record _ rest => record :: rest

@[simp] theorem held_next (records : List SyncQueueRow) : (next records).held = records := by
  cases records <;> rfl

end WorkerPhase

/-- The first unit of work of a cycle. -/
def claimUnit (worker : SyncWorker) (cutoff now : Int) : UnitOfWork (List SyncQueueRow) := do
  let _ ← releaseStaleLocksAfter worker.staleLockSeconds cutoff
  claimBatch worker.batchSize now

/-- The rows after the first unit of work of a cycle. -/
def claimedRow (worker : SyncWorker) (cutoff now : Int) (rows : List SyncQueueRow)
    (row : SyncQueueRow) : SyncQueueRow :=
  let next := released worker.staleLockSeconds cutoff row
  if next.id ∈ ((availableRows worker.batchSize now
      (rows.map (released worker.staleLockSeconds cutoff))).map (·.id)) then claimed now next
  else next

theorem keepsEntry_claimedRow (worker : SyncWorker) (cutoff now : Int)
    (rows : List SyncQueueRow) : KeepsEntry (claimedRow worker cutoff now rows) := by
  have hreleased := keepsEntry_released worker.staleLockSeconds cutoff
  have hclaimed := keepsEntry_claimed now
  refine ⟨fun row => ?_, fun row => ?_, fun row => ?_⟩
  · unfold claimedRow
    dsimp only
    split
    · rw [hclaimed.id, hreleased.id]
    · exact hreleased.id row
  · unfold claimedRow
    dsimp only
    split
    · rw [hclaimed.entry, hreleased.entry]
    · exact hreleased.entry row
  · unfold claimedRow
    dsimp only
    split
    · rw [hclaimed.createdAt, hreleased.createdAt]
    · exact hreleased.createdAt row

/-- What a claim returns, oldest first. -/
def claimedBatch (worker : SyncWorker) (cutoff now : Int) (rows : List SyncQueueRow) :
    List SyncQueueRow :=
  (availableRows worker.batchSize now
    (rows.map (released worker.staleLockSeconds cutoff))).map (claimed now)

theorem claimUnit_eq (worker : SyncWorker) (cutoff now : Int) (db : Database) :
    claimUnit worker cutoff now db =
      .ok (claimedBatch worker cutoff now db.syncQueue)
        { db with
          syncQueue := db.syncQueue.map (claimedRow worker cutoff now db.syncQueue) } := by
  have hmaps : db.syncQueue.map (claimedRow worker cutoff now db.syncQueue) =
      (db.syncQueue.map (released worker.staleLockSeconds cutoff)).map fun row =>
        if row.id ∈ (availableRows worker.batchSize now
            (db.syncQueue.map (released worker.staleLockSeconds cutoff))).map (·.id) then
          claimed now row
        else row := by
    rw [List.map_map]
    rfl
  rw [hmaps]
  rfl

/-- What was claimed is a row that was available after the release. -/
theorem mem_claimedBatch {worker : SyncWorker} {cutoff now : Int} {rows : List SyncQueueRow}
    {record : SyncQueueRow} (hrecord : record ∈ claimedBatch worker cutoff now rows) :
    ∃ row ∈ rows, IsAvailable now (released worker.staleLockSeconds cutoff row) ∧
      claimed now (released worker.staleLockSeconds cutoff row) = record := by
  obtain ⟨next, hnext, rfl⟩ := List.mem_map.mp hrecord
  obtain ⟨hmem, havailable⟩ := mem_of_mem_availableRows hnext
  obtain ⟨row, hrow, rfl⟩ := List.mem_map.mp hmem
  exact ⟨row, hrow, havailable, rfl⟩

/-- A claim takes only rows that were available after the release: the identifiers are
unique. -/
theorem isAvailable_of_claimed {worker : SyncWorker} {cutoff now : Int}
    {rows : List SyncQueueRow} (hids : (rows.map (·.id)).Nodup) {row : SyncQueueRow}
    (hrow : row ∈ rows)
    (hclaimed : (released worker.staleLockSeconds cutoff row).id ∈
      (availableRows worker.batchSize now
        (rows.map (released worker.staleLockSeconds cutoff))).map (·.id)) :
    IsAvailable now (released worker.staleLockSeconds cutoff row) := by
  have hkeeps := keepsEntry_released worker.staleLockSeconds cutoff
  obtain ⟨next, hnext, hid⟩ := List.mem_map.mp hclaimed
  obtain ⟨hmem, havailable⟩ := mem_of_mem_availableRows hnext
  obtain ⟨other, hother, rfl⟩ := List.mem_map.mp hmem
  rw [hkeeps.id, hkeeps.id] at hid
  rw [List.inj_on_of_nodup_map hids hrow hother hid.symm]
  exact havailable

/-- A publish that returned, of the message that the row with the identifier maps to. -/
structure Publication where
  itemId : String
  delivery : Delivery
  acknowledged : Bool
deriving DecidableEq, Repr

def publicationOf (mapper : DeliveryMapper) (record : SyncQueueRow)
    (result : PublishResult) : Option Publication :=
  match mapper.mapRecord record, result with
  | .ok delivery, .returned acknowledged => some ⟨record.id, delivery, acknowledged⟩
  | _, _ => none

/-! ## Runs -/

/-- The database, where the workers stand, the publishes that returned, and the rows that
were marked as failed. -/
structure Outbox where
  db : Database
  workers : Nat → WorkerPhase := fun _ => .idle
  published : List Publication := []
  failures : List String := []

/-- A step of the outbox.  A cycle reads the clock for the stale locks and for the claim;
`backoff` is `compute_backoff_seconds` in microseconds, with its jitter. -/
inductive OutboxStep where
  | enqueue (id : String) (now : Int) (entry : SyncEntry)
  | cycle (index : Nat) (cutoff now : Int) (connected : Bool) (fault : Option Raised)
  | publish (index : Nat) (result : PublishResult)
  | mark (index : Nat) (now : Int) (backoff : Nat → Int) (fault : Option Raised)
  | crash (index : Nat)
  | recover (now : Int)

namespace Outbox

variable (worker : Nat → SyncWorker) (outbox : Outbox)

def queue : List SyncQueueRow := outbox.db.syncQueue

def setWorker (index : Nat) (phase : WorkerPhase) : Outbox :=
  { outbox with workers := Function.update outbox.workers index phase }

/-- A row is inserted; a used primary key raises. -/
def enqueued (id : String) (now : Int) (entry : SyncEntry) : Outbox :=
  if id ∈ outbox.queue.map (·.id) then outbox
  else { outbox with db := finalState (enqueueChecked id now entry) outbox.db }

def cycle (index : Nat) (cutoff now : Int) (connected : Bool) (fault : Option Raised) :
    Outbox :=
  match outbox.workers index with
  | .idle =>
      if connected = true ∧ fault = none then
        let unit := claimUnit (worker index) cutoff now
        { outbox with db := finalState unit outbox.db }.setWorker index
          (.next ((returned unit outbox.db).getD []))
      else outbox
  | _ => outbox

def publish (index : Nat) (result : PublishResult) : Outbox :=
  match outbox.workers index with
  | .publishing record rest =>
      { outbox with
        published := outbox.published ++
          (publicationOf (worker index).mapper record result).toList }.setWorker index
        (.marking record (verdictOf (worker index).mapper record result) rest)
  | _ => outbox

/-- The unit of work of a failure; the loop ends when the connection is gone. -/
def markedFailed (index : Nat) (record : SyncQueueRow) (rest : List SyncQueueRow)
    (error : String) (goesOn : Bool) (now : Int) (backoff : Nat → Int)
    (fault : Option Raised) : Outbox :=
  if fault = none then
    { outbox with
      db := finalState (SyncQueueRepository.markFailed record.id error
        (backoff (record.attemptCount + 1)) (worker index).maxAttempts now) outbox.db
      failures := outbox.failures ++ [record.id] }.setWorker index
        (if goesOn then .next rest else .idle)
  else outbox.setWorker index .idle

/-- A unit of work that raises: a delivery counts as malformed, and when a failure cannot
be marked the cycle is given up. -/
def mark (index : Nat) (now : Int) (backoff : Nat → Int) (fault : Option Raised) : Outbox :=
  match outbox.workers index with
  | .marking record .delivered rest =>
      match fault with
      | none =>
          { outbox with db := finalState (markDelivered record.id) outbox.db }.setWorker index
            (.next rest)
      | some error => outbox.setWorker index (.marking record (.failed (malformed error)) rest)
  | .marking record (.failed error) rest =>
      outbox.markedFailed worker index record rest error true now backoff fault
  | .marking record (.disconnected error) rest =>
      outbox.markedFailed worker index record rest error false now backoff fault
  | _ => outbox

def step : OutboxStep → Outbox
  | .enqueue id now entry => outbox.enqueued id now entry
  | .cycle index cutoff now connected fault =>
      outbox.cycle worker index cutoff now connected fault
  | .publish index result => outbox.publish worker index result
  | .mark index now backoff fault => outbox.mark worker index now backoff fault
  | .crash index => outbox.setWorker index .idle
  | .recover now => { outbox with db := finalState (releaseStaleLocks now) outbox.db }

/-- A row is appended under a new identifier and a new key, or nothing happens. -/
theorem enqueued_cases (id : String) (now : Int) (entry : SyncEntry) :
    outbox.enqueued id now entry = outbox ∨
    id ∉ outbox.queue.map (·.id) ∧
      entry.deduplicationKey ∉ outbox.queue.map (·.deduplicationKey) ∧
      outbox.enqueued id now entry = { outbox with db := { outbox.db with
        syncQueue := outbox.queue ++ [newRow id now entry] } } := by
  unfold enqueued
  split
  · exact Or.inl rfl
  · rename_i hfresh
    have hfinal : finalState (enqueueChecked id now entry) outbox.db = { outbox.db with
        syncQueue := insertNew (·.deduplicationKey) (newRow id now entry) outbox.queue } := rfl
    rw [hfinal]
    rcases insertNew_cases (·.deduplicationKey) (newRow id now entry) outbox.queue with
      hsame | ⟨hkey, hnew⟩
    · rw [hsame]
      exact Or.inl rfl
    · rw [hnew]
      exact Or.inr ⟨hfresh, hkey, rfl⟩

/-- A cycle claims a batch, or nothing happens. -/
theorem cycle_cases (index : Nat) (cutoff now : Int) (connected : Bool)
    (fault : Option Raised) :
    outbox.cycle worker index cutoff now connected fault = outbox ∨
    (outbox.workers index = .idle ∧ connected = true ∧ fault = none) ∧
      outbox.cycle worker index cutoff now connected fault = { outbox with
          db := { outbox.db with
            syncQueue := outbox.queue.map (claimedRow (worker index) cutoff now outbox.queue) }
        }.setWorker index (.next (claimedBatch (worker index) cutoff now outbox.queue)) := by
  unfold cycle
  split
  · rename_i hidle
    split
    · rename_i hruns
      refine Or.inr ⟨⟨hidle, hruns⟩, ?_⟩
      unfold finalState returned
      dsimp only
      rw [claimUnit_eq]
      rfl
    · exact Or.inl rfl
  · exact Or.inl rfl

end Outbox
end Cloud
end Intelipump
