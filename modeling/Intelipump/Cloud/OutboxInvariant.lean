import Mathlib.Data.List.Count
import Mathlib.Tactic.Common
import Intelipump.Cloud.SyncWorker

namespace Intelipump
namespace Cloud

open Foundation.Runs
open Foundation.StateEffect
open Persistence
open Persistence.SyncQueueRepository

/-!
# What the outbox keeps

No row is lost, keys stay distinct, and the status of a row, its lock and its counter tell
what happened to it.  The invariant holds for any number of workers
(`outbox_at_least_once`).
-/

/-- A publish of the message that the row maps to was acknowledged, or needed no
acknowledgement. -/
def WasSent (worker : Nat → SyncWorker) (published : List Publication) (row : SyncQueueRow) :
    Prop :=
  ∃ index delivery acknowledged, (worker index).mapper.mapRecord row = .ok delivery ∧
    ⟨row.id, delivery, acknowledged⟩ ∈ published ∧ (acknowledged = true ∨ delivery.qos = 0)

/-- What a row tells of the publishes and failures so far. -/
structure RowSound (worker : Nat → SyncWorker) (published : List Publication)
    (failures : List String) (row : SyncQueueRow) : Prop where
  locked : row.lockedAt ≠ none ↔ row.status = .CLAIMED
  attempts : row.attemptCount = failures.count row.id
  delivered : row.status = .DELIVERED → WasSent worker published row
  failed : row.status = .FAILED → ∃ index, (worker index).maxAttempts ≤ row.attemptCount

/-- The record is the row with its identifier, as far as a message shows. -/
def IsRecordOf (record row : SyncQueueRow) : Prop :=
  row.id = record.id ∧ row.entry = record.entry

structure OutboxSound (worker : Nat → SyncWorker) (outbox : Outbox) : Prop where
  ids : (outbox.queue.map (·.id)).Nodup
  keys : (outbox.queue.map (·.deduplicationKey)).Nodup
  rows : ∀ row ∈ outbox.queue, RowSound worker outbox.published outbox.failures row
  failures : outbox.failures ⊆ outbox.queue.map (·.id)
  held : ∀ index, ∀ record ∈ (outbox.workers index).held,
    ∃ row ∈ outbox.queue, IsRecordOf record row
  sent : ∀ index record rest, outbox.workers index = .marking record .delivered rest →
    WasSent worker outbox.published record

/-- Every row is still there, with what it was enqueued with. -/
def KeepsRows (before after : Outbox) : Prop :=
  ∀ row ∈ before.queue, ∃ kept ∈ after.queue, IsRecordOf row kept

section

variable {worker : Nat → SyncWorker} {outbox : Outbox} {row record : SyncQueueRow}

theorem WasSent.congr {published : List Publication} (hsent : WasSent worker published record)
    (hrecord : IsRecordOf record row) : WasSent worker published row := by
  obtain ⟨index, delivery, acknowledged, hmapped, hpublished, hacknowledged⟩ := hsent
  refine ⟨index, delivery, acknowledged, ?_, ?_, hacknowledged⟩
  · rw [(worker index).mapper.mapRecord_congr hrecord.2]
    exact hmapped
  · rw [hrecord.1]
    exact hpublished

theorem WasSent.append {published : List Publication} (hsent : WasSent worker published row)
    (more : List Publication) : WasSent worker (published ++ more) row := by
  obtain ⟨index, delivery, acknowledged, hmapped, hpublished, hacknowledged⟩ := hsent
  exact ⟨index, delivery, acknowledged, hmapped, List.mem_append_left _ hpublished,
    hacknowledged⟩

/-! ## Rows under the operations -/

section

variable {published : List Publication} {failures : List String}

theorem RowSound.released (hrow : RowSound worker published failures row) (seconds : Nat)
    (now : Int) : RowSound worker published failures (released seconds now row) := by
  unfold SyncQueueRepository.released
  split
  · exact ⟨by simp, hrow.attempts, by simp, by simp⟩
  · exact hrow

theorem RowSound.claimed (hrow : RowSound worker published failures row) (now : Int) :
    RowSound worker published failures (claimed now row) :=
  ⟨by simp [SyncQueueRepository.claimed], hrow.attempts, by simp [SyncQueueRepository.claimed],
    by simp [SyncQueueRepository.claimed]⟩

theorem RowSound.onDelivered (hrow : RowSound worker published failures row)
    (hsent : WasSent worker published row) :
    RowSound worker published failures (SyncQueueRepository.delivered row) :=
  ⟨by simp [SyncQueueRepository.delivered], hrow.attempts, fun _ => hsent.congr ⟨rfl, rfl⟩,
    by simp [SyncQueueRepository.delivered]⟩

theorem RowSound.publish (hrow : RowSound worker published failures row)
    (more : List Publication) : RowSound worker (published ++ more) failures row :=
  ⟨hrow.locked, hrow.attempts, fun hdelivered => (hrow.delivered hdelivered).append more,
    hrow.failed⟩

/-- A failure counts for its own row alone. -/
theorem RowSound.onFailed (hrow : RowSound worker published failures row) (itemId : String)
    (error : String) (backoff : Int) (index : Nat) (now : Int) :
    RowSound worker published (failures ++ [itemId]) (onRow itemId
      (SyncQueueRepository.failed error backoff (worker index).maxAttempts now) row) := by
  have hcount (id : String) : (failures ++ [itemId]).count id =
      failures.count id + if itemId = id then 1 else 0 := by
    rw [List.count_append, List.count_singleton]
    simp
  unfold onRow
  split
  · rename_i hid
    unfold SyncQueueRepository.failed
    dsimp only
    split
    · rename_i hreached
      refine ⟨by simp, ?_, by simp, fun _ => ⟨index, hreached⟩⟩
      rw [hcount, if_pos hid.symm, hrow.attempts]
    · refine ⟨by simp, ?_, by simp, by simp⟩
      rw [hcount, if_pos hid.symm, hrow.attempts]
  · rename_i hid
    refine ⟨hrow.locked, ?_, hrow.delivered, hrow.failed⟩
    rw [hcount, if_neg (Ne.symm hid), hrow.attempts]
    rfl

end

/-! ## The table under a step -/

theorem map_id_map {update : SyncQueueRow → SyncQueueRow} (hkeeps : KeepsEntry update)
    (rows : List SyncQueueRow) : (rows.map update).map (·.id) = rows.map (·.id) := by
  rw [List.map_map]
  exact List.map_congr_left fun row _ => hkeeps.id row

theorem map_key_map {update : SyncQueueRow → SyncQueueRow} (hkeeps : KeepsEntry update)
    (rows : List SyncQueueRow) :
    (rows.map update).map (·.deduplicationKey) = rows.map (·.deduplicationKey) := by
  rw [List.map_map]
  exact List.map_congr_left fun row _ =>
    congrArg (·.deduplicationKey) (hkeeps.entry row)

/-- An update of the rows that keeps what they were enqueued with. -/
theorem OutboxSound.update (hsound : OutboxSound worker outbox) {after : Outbox}
    {update : SyncQueueRow → SyncQueueRow} (hkeeps : KeepsEntry update)
    (hqueue : after.queue = outbox.queue.map update)
    (hrows : ∀ row ∈ outbox.queue, RowSound worker outbox.published outbox.failures row →
      RowSound worker after.published after.failures (update row))
    (hfailures : after.failures ⊆ outbox.queue.map (·.id))
    (hheld : ∀ index, ∀ record ∈ (after.workers index).held,
      ∃ row ∈ outbox.queue, IsRecordOf record row)
    (hsent : ∀ index record rest, after.workers index = .marking record .delivered rest →
      WasSent worker after.published record) :
    OutboxSound worker after ∧ KeepsRows outbox after := by
  have hrecord (row : SyncQueueRow) : IsRecordOf row (update row) :=
    ⟨hkeeps.id row, hkeeps.entry row⟩
  refine ⟨⟨?_, ?_, ?_, ?_, ?_, hsent⟩, ?_⟩
  · rw [hqueue, map_id_map hkeeps]
    exact hsound.ids
  · rw [hqueue, map_key_map hkeeps]
    exact hsound.keys
  · intro row hrow
    rw [hqueue] at hrow
    obtain ⟨old, hold, rfl⟩ := List.mem_map.mp hrow
    exact hrows old hold (hsound.rows old hold)
  · rw [hqueue, map_id_map hkeeps]
    exact hfailures
  · intro index record hmem
    obtain ⟨row, hrow, hid, hentry⟩ := hheld index record hmem
    refine ⟨update row, ?_, (hrecord row).1.trans hid, (hrecord row).2.trans hentry⟩
    rw [hqueue]
    exact List.mem_map_of_mem hrow
  · intro row hrow
    refine ⟨update row, ?_, hrecord row⟩
    rw [hqueue]
    exact List.mem_map_of_mem hrow

/-- Only the worker of a step changes where it stands. -/
theorem held_setWorker {index : Nat} {phase : WorkerPhase} {P : SyncQueueRow → Prop}
    (hothers : ∀ other, ∀ record ∈ (outbox.workers other).held, P record)
    (hphase : ∀ record ∈ phase.held, P record) :
    ∀ other, ∀ record ∈ ((outbox.setWorker index phase).workers other).held, P record := by
  intro other record hmem
  unfold Outbox.setWorker at hmem
  dsimp only at hmem
  rw [Function.update_apply] at hmem
  split at hmem
  · exact hphase record hmem
  · exact hothers other record hmem

theorem sent_setWorker {index : Nat} {phase : WorkerPhase} {P : SyncQueueRow → Prop}
    (hothers : ∀ other record rest, outbox.workers other = .marking record .delivered rest →
      P record)
    (hphase : ∀ record rest, phase = .marking record .delivered rest → P record) :
    ∀ other record rest,
      (outbox.setWorker index phase).workers other = .marking record .delivered rest →
        P record := by
  intro other record rest hmarking
  unfold Outbox.setWorker at hmarking
  dsimp only at hmarking
  rw [Function.update_apply] at hmarking
  split at hmarking
  · exact hphase record rest hmarking
  · exact hothers other record rest hmarking

/-! ## The steps -/

theorem OutboxSound.same (hsound : OutboxSound worker outbox) :
    OutboxSound worker outbox ∧ KeepsRows outbox outbox :=
  ⟨hsound, fun row hrow => ⟨row, hrow, rfl, rfl⟩⟩

theorem OutboxSound.enqueued (hsound : OutboxSound worker outbox) (id : String) (now : Int)
    (entry : SyncEntry) :
    OutboxSound worker (outbox.enqueued id now entry) ∧
      KeepsRows outbox (outbox.enqueued id now entry) := by
  rcases outbox.enqueued_cases id now entry with hsame | ⟨hfresh, hkey, hnew⟩
  · rw [hsame]
    exact hsound.same
  · have hqueue : (outbox.enqueued id now entry).queue =
        outbox.queue ++ [newRow id now entry] := by
      rw [hnew]
      rfl
    have hold (row : SyncQueueRow) (hrow : row ∈ outbox.queue) :
        row ∈ (outbox.enqueued id now entry).queue := by
      rw [hqueue]
      exact List.mem_append_left _ hrow
    have hcount : outbox.failures.count id = 0 :=
      List.count_eq_zero.mpr fun hmem => hfresh (hsound.failures hmem)
    refine ⟨⟨?_, ?_, ?_, ?_, ?_, ?_⟩, fun row hrow => ⟨row, hold row hrow, rfl, rfl⟩⟩
    · rw [hqueue, List.map_append]
      exact List.Nodup.append hsound.ids (List.nodup_singleton _)
        (List.disjoint_singleton.mpr hfresh)
    · rw [hqueue, List.map_append]
      exact List.Nodup.append hsound.keys (List.nodup_singleton _)
        (List.disjoint_singleton.mpr hkey)
    · intro row hrow
      rw [hqueue] at hrow
      rw [hnew]
      rcases List.mem_append.mp hrow with hrow | hrow
      · exact hsound.rows row hrow
      · rw [List.mem_singleton.mp hrow]
        exact ⟨by simp [newRow], hcount.symm, by simp [newRow], by simp [newRow]⟩
    · rw [hqueue, List.map_append, hnew]
      exact List.Subset.trans hsound.failures (List.subset_append_left _ _)
    · intro index record hmem
      rw [hnew] at hmem
      obtain ⟨row, hrow, hrecord⟩ := hsound.held index record hmem
      exact ⟨row, hold row hrow, hrecord⟩
    · rw [hnew]
      exact hsound.sent

theorem OutboxSound.cycle (hsound : OutboxSound worker outbox) (index : Nat)
    (cutoff now : Int) (connected : Bool) (fault : Option Raised) :
    OutboxSound worker (outbox.cycle worker index cutoff now connected fault) ∧
      KeepsRows outbox (outbox.cycle worker index cutoff now connected fault) := by
  rcases outbox.cycle_cases worker index cutoff now connected fault with hsame | ⟨-, hcycle⟩
  · rw [hsame]
    exact hsound.same
  · rw [hcycle]
    refine hsound.update (keepsEntry_claimedRow (worker index) cutoff now outbox.queue) rfl
      (fun row _ hrow => ?_) hsound.failures ?_ ?_
    · have hreleased := hrow.released (worker index).staleLockSeconds cutoff
      unfold claimedRow
      dsimp only
      split
      · exact hreleased.claimed now
      · exact hreleased
    · refine held_setWorker hsound.held fun record hrecord => ?_
      rw [WorkerPhase.held_next] at hrecord
      obtain ⟨row, hrow, -, rfl⟩ := mem_claimedBatch hrecord
      have hkeeps := keepsEntry_released (worker index).staleLockSeconds cutoff
      exact ⟨row, hrow, (hkeeps.id row).symm, (hkeeps.entry row).symm⟩
    · refine sent_setWorker hsound.sent fun record rest hmarking => ?_
      cases hbatch : claimedBatch (worker index) cutoff now outbox.queue with
      | nil =>
          rw [hbatch] at hmarking
          cases hmarking
      | cons first others =>
          rw [hbatch] at hmarking
          cases hmarking

/-- A publish that ends well is in the log. -/
theorem wasSent_of_delivered {index : Nat} {result : PublishResult}
    (hverdict : verdictOf (worker index).mapper record result = .delivered)
    (published : List Publication) :
    WasSent worker (published ++
      (publicationOf (worker index).mapper record result).toList) record := by
  unfold verdictOf at hverdict
  unfold publicationOf
  split at hverdict
  · cases hverdict
  · rename_i delivery acknowledged hmapped
    rw [hmapped]
    refine ⟨index, delivery, acknowledged, hmapped,
      List.mem_append_right _ (List.mem_singleton_self _), ?_⟩
    split at hverdict
    · cases hverdict
    · rename_i hacknowledged
      rcases Nat.eq_zero_or_pos delivery.qos with hqos | hqos
      · exact Or.inr hqos
      · refine Or.inl (Bool.not_eq_false _ ▸ fun hunacknowledged => ?_)
        exact hacknowledged ⟨hqos, hunacknowledged⟩
  · cases hverdict
  · cases hverdict
  · cases hverdict

theorem OutboxSound.publish (hsound : OutboxSound worker outbox) (index : Nat)
    (result : PublishResult) :
    OutboxSound worker (outbox.publish worker index result) ∧
      KeepsRows outbox (outbox.publish worker index result) := by
  unfold Outbox.publish
  split
  · rename_i record rest hphase
    refine hsound.update ⟨fun _ => rfl, fun _ => rfl, fun _ => rfl⟩ (List.map_id' _).symm
      (fun row _ hrow => hrow.publish _) hsound.failures ?_ ?_
    · refine held_setWorker hsound.held fun other hother => hsound.held index other ?_
      rw [hphase]
      exact hother
    · refine sent_setWorker (fun other record rest hmarking =>
        (hsound.sent other record rest hmarking).append _) fun other others hmarking => ?_
      obtain ⟨rfl, hverdict, -⟩ := WorkerPhase.marking.inj hmarking
      exact wasSent_of_delivered hverdict outbox.published
  · exact hsound.same

theorem OutboxSound.crash (hsound : OutboxSound worker outbox) (index : Nat)
    {phase : WorkerPhase} (hheld : phase.held ⊆ (outbox.workers index).held)
    (hsent : ∀ record rest, phase ≠ .marking record .delivered rest) :
    OutboxSound worker (outbox.setWorker index phase) ∧
      KeepsRows outbox (outbox.setWorker index phase) := by
  refine hsound.update ⟨fun _ => rfl, fun _ => rfl, fun _ => rfl⟩ (List.map_id' _).symm
    (fun _ _ hrow => hrow) hsound.failures ?_ ?_
  · exact held_setWorker hsound.held fun record hrecord =>
      hsound.held index record (hheld hrecord)
  · exact sent_setWorker hsound.sent fun record rest hphase => absurd hphase (hsent record rest)

/-- After its record was marked, a worker holds the rest or nothing. -/
theorem held_of_marking {index : Nat} {verdict : Verdict} {rest : List SyncQueueRow}
    (hphase : outbox.workers index = .marking record verdict rest) :
    record ∈ (outbox.workers index).held ∧ rest ⊆ (outbox.workers index).held := by
  rw [hphase]
  exact ⟨List.mem_cons_self, List.subset_cons_self _ _⟩

theorem next_ne_marking (records : List SyncQueueRow) (verdict : Verdict)
    (rest : List SyncQueueRow) : WorkerPhase.next records ≠ .marking record verdict rest := by
  cases records <;> exact nofun

theorem OutboxSound.markedFailed (hsound : OutboxSound worker outbox) {index : Nat}
    {verdict : Verdict} {rest : List SyncQueueRow}
    (hphase : outbox.workers index = .marking record verdict rest) (error : String)
    (goesOn : Bool) (now : Int) (backoff : Nat → Int) (fault : Option Raised) :
    OutboxSound worker
        (outbox.markedFailed worker index record rest error goesOn now backoff fault) ∧
      KeepsRows outbox
        (outbox.markedFailed worker index record rest error goesOn now backoff fault) := by
  obtain ⟨hrecord, hrest⟩ := held_of_marking hphase
  unfold Outbox.markedFailed
  split
  · refine hsound.update (keepsEntry_onRow (keepsEntry_failed _ _ _ _) record.id) rfl
      (fun row _ hrow => hrow.onFailed record.id error _ index now) ?_ ?_ ?_
    · obtain ⟨row, hrow, hid, -⟩ := hsound.held index record hrecord
      refine List.append_subset.mpr ⟨hsound.failures,
        List.cons_subset.mpr ⟨?_, List.nil_subset _⟩⟩
      exact hid ▸ List.mem_map_of_mem hrow
    · refine held_setWorker hsound.held fun other hother => ?_
      split at hother
      · rw [WorkerPhase.held_next] at hother
        exact hsound.held index other (hrest hother)
      · cases hother
    · refine sent_setWorker hsound.sent fun other others hmarking => ?_
      split at hmarking
      · exact absurd hmarking (next_ne_marking _ _ _)
      · cases hmarking
  · exact hsound.crash index (List.nil_subset _) fun _ _ => nofun

theorem OutboxSound.mark (hsound : OutboxSound worker outbox) (index : Nat) (now : Int)
    (backoff : Nat → Int) (fault : Option Raised) :
    OutboxSound worker (outbox.mark worker index now backoff fault) ∧
      KeepsRows outbox (outbox.mark worker index now backoff fault) := by
  unfold Outbox.mark
  split
  · rename_i record rest hphase
    obtain ⟨hrecord, hrest⟩ := held_of_marking hphase
    split
    · refine hsound.update (keepsEntry_onRow keepsEntry_delivered record.id) rfl
        (fun row hrow hsoundRow => ?_) hsound.failures ?_ ?_
      · unfold onRow
        split
        · rename_i hid
          obtain ⟨kept, hkept, hrecordOf⟩ := hsound.held index record hrecord
          have hsame : kept = row :=
            List.inj_on_of_nodup_map hsound.ids hkept hrow (hrecordOf.1.trans hid.symm)
          exact hsoundRow.onDelivered
            ((hsound.sent index record rest hphase).congr (hsame ▸ hrecordOf))
        · exact hsoundRow
      · refine held_setWorker hsound.held fun other hother => ?_
        rw [WorkerPhase.held_next] at hother
        exact hsound.held index other (hrest hother)
      · exact sent_setWorker hsound.sent fun other others hmarking =>
          absurd hmarking (next_ne_marking _ _ _)
    · refine hsound.crash index ?_ fun _ _ => nofun
      rw [hphase]
      exact List.Subset.refl _
  · rename_i hphase
    exact hsound.markedFailed hphase _ _ _ _ _
  · rename_i hphase
    exact hsound.markedFailed hphase _ _ _ _ _
  · exact hsound.same

theorem OutboxSound.step (hsound : OutboxSound worker outbox) (step : OutboxStep) :
    OutboxSound worker (outbox.step worker step) ∧
      KeepsRows outbox (outbox.step worker step) := by
  cases step with
  | enqueue id now entry => exact hsound.enqueued id now entry
  | cycle index cutoff now connected fault =>
      exact hsound.cycle index cutoff now connected fault
  | publish index result => exact hsound.publish index result
  | mark index now backoff fault => exact hsound.mark index now backoff fault
  | crash index => exact hsound.crash index (List.nil_subset _) fun _ _ => nofun
  | recover now =>
      exact hsound.update (keepsEntry_released 60 now) rfl
        (fun row _ hrow => hrow.released 60 now) hsound.failures hsound.held hsound.sent

end

theorem KeepsRows.trans {first second third : Outbox} (hfirst : KeepsRows first second)
    (hsecond : KeepsRows second third) : KeepsRows first third := by
  intro row hrow
  obtain ⟨kept, hkept, hid, hentry⟩ := hfirst row hrow
  obtain ⟨last, hlast, hlastId, hlastEntry⟩ := hsecond kept hkept
  exact ⟨last, hlast, hlastId.trans hid, hlastEntry.trans hentry⟩

theorem OutboxSound.run {worker : Nat → SyncWorker} {outbox : Outbox}
    (hsound : OutboxSound worker outbox) (steps : List OutboxStep) :
    OutboxSound worker (steps.foldl (Outbox.step worker) outbox) ∧
      KeepsRows outbox (steps.foldl (Outbox.step worker) outbox) := by
  induction steps generalizing outbox with
  | nil => exact hsound.same
  | cons step rest ih =>
      obtain ⟨hnext, hkeeps⟩ := hsound.step step
      obtain ⟨hlast, hrest⟩ := ih hnext
      exact ⟨hlast, hkeeps.trans hrest⟩

theorem outboxSound_of_empty (worker : Nat → SyncWorker) {db : Database}
    (hempty : db.syncQueue = []) : OutboxSound worker { db := db } := by
  have hqueue : Outbox.queue { db := db } = [] := hempty
  refine ⟨?_, ?_, ?_, List.nil_subset _, fun _ _ h => absurd h List.not_mem_nil, ?_⟩
  · rw [hqueue]
    exact List.nodup_nil
  · rw [hqueue]
    exact List.nodup_nil
  · rw [hqueue]
    exact fun _ h => absurd h List.not_mem_nil
  · exact fun _ _ _ hmarking => by cases hmarking

/-- Workers that start on an empty queue, any number of them, enqueues, publishes that end
in any way, faults, crashes and recoveries in any order: the invariant holds after every
run, and no row is lost when it goes on. -/
theorem outbox_at_least_once (worker : Nat → SyncWorker) (db : Database)
    (hempty : db.syncQueue = []) (steps : List OutboxStep) :
    OutboxSound worker (steps.foldl (Outbox.step worker) { db := db }) ∧
      ∀ more : List OutboxStep, KeepsRows (steps.foldl (Outbox.step worker) { db := db })
        ((steps ++ more).foldl (Outbox.step worker) { db := db }) := by
  have hrun := ((outboxSound_of_empty worker hempty).run steps).1
  refine ⟨hrun, fun more => ?_⟩
  rw [List.foldl_append]
  exact (hrun.run more).2

/-- A worker of the laboratory station. -/
def labWorker : SyncWorker where
  mapper := {
    topics := { segment := "lab" }
    deviceId := "fdc-1"
    stationId := "S1"
    environment := "lab"
    simulated := true }

/-- The start of a sale. -/
def startedEntry (transactionUuid : String) : SyncEntry where
  entityType := "transaction"
  entityId := transactionUuid
  eventType := .TRANSACTION_STARTED
  payload := .transactionStarted ⟨transactionUuid, "S1", "LAB", true⟩
  deduplicationKey := "started:" ++ transactionUuid

/-- A worker publishes the first of two rows and stops before the mark.  After a recovery
another worker claims both; its first publish fails, and the row is sent in a later
cycle. -/
def sentAgain : List OutboxStep :=
  [.enqueue "q-1" 0 (startedEntry "t-1"), .enqueue "q-2" 1 (startedEntry "t-2"),
    .cycle 0 2 2 true none, .publish 0 (.returned true), .crash 0, .recover 60000002,
    .cycle 1 60000003 60000003 true none, .publish 1 (.mqttError "timed out"),
    .mark 1 60000004 (fun _ => 1) none, .publish 1 (.returned true),
    .mark 1 60000005 (fun _ => 0) none, .cycle 1 60000006 60000006 true none,
    .publish 1 (.returned true), .mark 1 60000007 (fun _ => 0) none]

theorem outbox_at_least_once_sent :
    (sentAgain.foldl (Outbox.step fun _ => labWorker) { db := {} }).queue.map (·.status) =
        [.DELIVERED, .DELIVERED] ∧
      (sentAgain.foldl (Outbox.step fun _ => labWorker) { db := {} }).published.map (·.itemId) =
        ["q-1", "q-2", "q-1"] ∧
      OutboxSound (fun _ => labWorker)
        (sentAgain.foldl (Outbox.step fun _ => labWorker) { db := {} }) ∧
      KeepsRows ((sentAgain.take 5).foldl (Outbox.step fun _ => labWorker) { db := {} })
        ((sentAgain.take 5 ++ sentAgain.drop 5).foldl (Outbox.step fun _ => labWorker)
          { db := {} }) :=
  ⟨by decide +kernel, by decide +kernel,
    (outbox_at_least_once (fun _ => labWorker) {} rfl sentAgain).1,
    (outbox_at_least_once (fun _ => labWorker) {} rfl (sentAgain.take 5)).2 _⟩

end Cloud
end Intelipump
