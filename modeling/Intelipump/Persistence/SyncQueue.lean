import Mathlib.Data.List.Sort
import Mathlib.Tactic.Common
import Intelipump.Persistence.Ledger

namespace Intelipump
namespace Persistence

open Foundation.Tables

/-!
# The sync queue of a delivery worker

The operations that a worker claims rows with and reports their fate.  Times are in
microseconds.
-/

/-- The arguments that a row was enqueued with. -/
def SyncQueueRow.entry (row : SyncQueueRow) : SyncQueueRepository.SyncEntry where
  entityType := row.entityType
  entityId := row.entityId
  eventType := row.eventType
  payload := row.payload
  deduplicationKey := row.deduplicationKey

namespace SyncQueueRepository

/-! ## Operations -/

/-- The row has been locked for as many seconds. -/
def IsStaleAfter (seconds : Nat) (now : Int) (row : SyncQueueRow) : Prop :=
  row.status = .CLAIMED ∧ ∃ lockedAt ∈ row.lockedAt, lockedAt ≤ now - seconds * 1000000

instance (seconds : Nat) (now : Int) (row : SyncQueueRow) :
    Decidable (IsStaleAfter seconds now row) :=
  inferInstanceAs (Decidable (_ ∧ ∃ lockedAt ∈ row.lockedAt, lockedAt ≤ _))

/-- A row that is given back to the queue. -/
def released (seconds : Nat) (now : Int) (row : SyncQueueRow) : SyncQueueRow :=
  if IsStaleAfter seconds now row then { row with status := .PENDING, lockedAt := none }
  else row

/-- `release_stale_locks(older_than_seconds=…)`. -/
def releaseStaleLocksAfter (seconds : Nat) (now : Int) : UnitOfWork Nat := fun db =>
  .ok (db.syncQueue.countP fun row => IsStaleAfter seconds now row)
    { db with syncQueue := db.syncQueue.map (released seconds now) }

/-- The recovery releases what was locked a minute before. -/
theorem releaseStaleLocks_eq (now : Int) :
    releaseStaleLocks now = releaseStaleLocksAfter 60 now := rfl

/-- The row waits and may be sent. -/
def IsAvailable (now : Int) (row : SyncQueueRow) : Prop :=
  row.status = .PENDING ∧ row.availableAt ≤ now ∧ row.lockedAt = none

instance (now : Int) (row : SyncQueueRow) : Decidable (IsAvailable now row) :=
  inferInstanceAs (Decidable (_ ∧ _ ∧ _))

/-- The oldest rows that may be sent, in the order of `created_at`. -/
def availableRows (limit : Nat) (now : Int) (rows : List SyncQueueRow) : List SyncQueueRow :=
  ((rows.filter fun row => IsAvailable now row).insertionSort
    (·.createdAt ≤ ·.createdAt)).take limit

theorem mem_of_mem_availableRows {limit : Nat} {now : Int} {rows : List SyncQueueRow}
    {row : SyncQueueRow} (hrow : row ∈ availableRows limit now rows) :
    row ∈ rows ∧ IsAvailable now row := by
  have hsorted := List.mem_of_mem_take hrow
  have hfiltered := (List.perm_insertionSort _ _).mem_iff.mp hsorted
  exact ⟨(List.mem_filter.mp hfiltered).1, of_decide_eq_true (List.mem_filter.mp hfiltered).2⟩

/-- Of rows that were created at different times the oldest are taken. -/
theorem mem_availableRows (limit : Nat) (now : Int) {rows : List SyncQueueRow}
    (hcreated : (rows.map (·.createdAt)).Nodup) :
    (availableRows limit now rows).Pairwise (·.createdAt < ·.createdAt) ∧
      ∀ row ∈ availableRows limit now rows,
        (∀ older ∈ rows, IsAvailable now older → older.createdAt < row.createdAt →
          older ∈ availableRows limit now rows) ∧
        rows.countP (fun other =>
          decide (IsAvailable now other ∧ other.createdAt < row.createdAt)) < limit := by
  have hperm := List.perm_insertionSort (fun first second : SyncQueueRow =>
    first.createdAt ≤ second.createdAt) (rows.filter fun row => IsAvailable now row)
  have hfiltered : ((rows.filter fun row => IsAvailable now row).map (·.createdAt)).Nodup :=
    hcreated.sublist (List.filter_sublist.map _)
  have hordered : ((rows.filter fun row => IsAvailable now row).insertionSort
      (·.createdAt ≤ ·.createdAt)).Pairwise (·.createdAt < ·.createdAt) := by
    have hsorted := List.pairwise_insertionSort (fun first second : SyncQueueRow =>
      first.createdAt ≤ second.createdAt) (rows.filter fun row => IsAvailable now row)
    have hdistinct := List.pairwise_map.mp ((hperm.map (·.createdAt)).nodup_iff.mpr hfiltered)
    exact (hsorted.and hdistinct).imp fun hboth => lt_of_le_of_ne hboth.1 hboth.2
  refine ⟨hordered.sublist (List.take_sublist limit _), fun row hrow => ?_⟩
  obtain ⟨holder, hcount⟩ := take_of_pairwise hordered hrow
  constructor
  · intro older hmem havailable hlt
    refine holder older (hperm.mem_iff.mpr (List.mem_filter.mpr ⟨hmem, ?_⟩)) hlt
    exact decide_eq_true havailable
  · rw [hperm.countP_eq, List.countP_filter] at hcount
    refine lt_of_eq_of_lt (List.countP_congr fun other _ => ?_) hcount
    rw [Bool.and_eq_true, decide_eq_true_eq, decide_eq_true_eq, decide_eq_true_eq]
    exact and_comm

theorem nodup_availableRows {limit : Nat} {now : Int} {rows : List SyncQueueRow}
    (hids : (rows.map SyncQueueRow.id).Nodup) :
    ((availableRows limit now rows).map SyncQueueRow.id).Nodup := by
  have hfiltered : ((rows.filter fun row => IsAvailable now row).map SyncQueueRow.id).Nodup :=
    hids.sublist (List.filter_sublist.map SyncQueueRow.id)
  have hperm := (List.perm_insertionSort (fun first second : SyncQueueRow =>
    first.createdAt ≤ second.createdAt) (rows.filter fun row => IsAvailable now row)).map
      SyncQueueRow.id
  exact (hperm.nodup_iff.mpr hfiltered).sublist
    ((List.take_sublist limit _).map SyncQueueRow.id)

/-- A row that a worker takes. -/
def claimed (now : Int) (row : SyncQueueRow) : SyncQueueRow :=
  { row with status := .CLAIMED, lockedAt := some now }

def claimBatch (limit : Nat) (now : Int) : UnitOfWork (List SyncQueueRow) := fun db =>
  let batch := availableRows limit now db.syncQueue
  .ok (batch.map (claimed now))
    { db with
      syncQueue := db.syncQueue.map fun row =>
        if row.id ∈ batch.map (·.id) then claimed now row else row }

/-- Write back the row with an identifier. -/
def onRow (itemId : String) (update : SyncQueueRow → SyncQueueRow) (row : SyncQueueRow) :
    SyncQueueRow :=
  if row.id = itemId then update row else row

/-- A row that was sent. -/
def delivered (row : SyncQueueRow) : SyncQueueRow :=
  { row with status := .DELIVERED, lockedAt := none }

def markDelivered (itemId : String) : UnitOfWork Unit := fun db =>
  .ok () { db with syncQueue := db.syncQueue.map (onRow itemId delivered) }

/-- A row whose sending failed: it waits for its backoff, or was tried often enough. -/
def failed (error : String) (backoff : Int) (maxAttempts : Nat) (now : Int)
    (row : SyncQueueRow) : SyncQueueRow :=
  let row := { row with
    attemptCount := row.attemptCount + 1
    lastError := some error
    lockedAt := none }
  if maxAttempts ≤ row.attemptCount then { row with status := .FAILED }
  else { row with status := .PENDING, availableAt := now + backoff }

def markFailed (itemId error : String) (backoff : Int) (maxAttempts : Nat) (now : Int) :
    UnitOfWork Unit := fun db =>
  .ok () { db with
    syncQueue := db.syncQueue.map (onRow itemId (failed error backoff maxAttempts now)) }

/-! ## What an operation leaves -/

section

variable {seconds maxAttempts : Nat} {now backoff : Int} {itemId error : String}
  {row : SyncQueueRow}

/-- The update keeps what a row was enqueued with. -/
structure KeepsEntry (update : SyncQueueRow → SyncQueueRow) : Prop where
  id : ∀ row, (update row).id = row.id
  entry : ∀ row, (update row).entry = row.entry
  createdAt : ∀ row, (update row).createdAt = row.createdAt

theorem KeepsEntry.ite {condition : SyncQueueRow → Prop} [DecidablePred condition]
    {update : SyncQueueRow → SyncQueueRow} (hupdate : KeepsEntry update) :
    KeepsEntry fun row => if condition row then update row else row where
  id row := by split; exacts [hupdate.id row, rfl]
  entry row := by split; exacts [hupdate.entry row, rfl]
  createdAt row := by split; exacts [hupdate.createdAt row, rfl]

theorem keepsEntry_released (seconds : Nat) (now : Int) : KeepsEntry (released seconds now) :=
  .ite ⟨fun _ => rfl, fun _ => rfl, fun _ => rfl⟩

theorem keepsEntry_claimed (now : Int) : KeepsEntry (claimed now) :=
  ⟨fun _ => rfl, fun _ => rfl, fun _ => rfl⟩

theorem keepsEntry_delivered : KeepsEntry delivered :=
  ⟨fun _ => rfl, fun _ => rfl, fun _ => rfl⟩

theorem keepsEntry_failed (error : String) (backoff : Int) (maxAttempts : Nat) (now : Int) :
    KeepsEntry (failed error backoff maxAttempts now) where
  id row := by unfold failed; dsimp only; split <;> rfl
  entry row := by unfold failed; dsimp only; split <;> rfl
  createdAt row := by unfold failed; dsimp only; split <;> rfl

theorem keepsEntry_onRow {update : SyncQueueRow → SyncQueueRow} (hupdate : KeepsEntry update)
    (itemId : String) : KeepsEntry (onRow itemId update) :=
  .ite hupdate

end

end SyncQueueRepository
end Persistence
end Intelipump
