import Mathlib.Tactic.Common
import Intelipump.Cloud.OutboxInvariant

namespace Intelipump
namespace Cloud

open Foundation.Runs
open Foundation.StateEffect
open Persistence
open Persistence.SyncQueueRepository

/-!
# Rows that were delivered

A mark names its row by the identifier alone.  A worker that lost its lock and fails late
takes back what another worker delivered (`delivered_stays_iff`).
-/

def IsDelivered (itemId : String) (outbox : Outbox) : Prop :=
  ∃ row ∈ outbox.queue, row.id = itemId ∧ row.status = .DELIVERED

instance (itemId : String) (outbox : Outbox) : Decidable (IsDelivered itemId outbox) :=
  inferInstanceAs (Decidable (∃ row ∈ outbox.queue, _ ∧ _))

/-- What was delivered is still delivered. -/
def StaysDelivered (before after : Outbox) : Prop :=
  ∀ itemId, IsDelivered itemId before → IsDelivered itemId after

instance : IsPreorder Outbox StaysDelivered where
  refl _ _ hdelivered := hdelivered
  trans _ _ _ hfirst hsecond itemId hdelivered := hsecond itemId (hfirst itemId hdelivered)

/-- The record that the worker is about to mark as failed. -/
def WorkerPhase.toFail : WorkerPhase → Option SyncQueueRow
  | .marking record (.failed _) _ | .marking record (.disconnected _) _ => some record
  | .idle | .publishing _ _ | .marking _ .delivered _ => none

/-- No failure is marked for a row that was delivered. -/
def OutboxStep.SparesDelivered (outbox : Outbox) : OutboxStep → Prop
  | .mark index _ _ fault =>
      fault = none → ∀ record ∈ (outbox.workers index).toFail, ¬ IsDelivered record.id outbox
  | _ => True

section

variable {worker : Nat → SyncWorker} {outbox : Outbox}

/-- An update that leaves delivered rows delivered. -/
theorem staysDelivered_of_map {after : Outbox} {update : SyncQueueRow → SyncQueueRow}
    (hkeeps : KeepsEntry update) (hqueue : after.queue = outbox.queue.map update)
    (hrows : ∀ row ∈ outbox.queue, row.status = .DELIVERED →
      (update row).status = .DELIVERED) : StaysDelivered outbox after := by
  rintro itemId ⟨row, hrow, hid, hstatus⟩
  refine ⟨update row, ?_, (hkeeps.id row).trans hid, hrows row hrow hstatus⟩
  rw [hqueue]
  exact List.mem_map_of_mem hrow

theorem staysDelivered_of_queue {after : Outbox} (hqueue : after.queue = outbox.queue) :
    StaysDelivered outbox after := by
  rintro itemId ⟨row, hrow, hdelivered⟩
  exact ⟨row, hqueue ▸ hrow, hdelivered⟩

theorem status_released {seconds : Nat} {now : Int} {row : SyncQueueRow}
    (hstatus : row.status = .DELIVERED) : released seconds now row = row := by
  refine if_neg fun hstale => ?_
  rw [hstale.1] at hstatus
  cases hstatus

theorem staysDelivered_enqueued (id : String) (now : Int) (entry : SyncEntry) :
    StaysDelivered outbox (outbox.enqueued id now entry) := by
  rcases outbox.enqueued_cases id now entry with hsame | ⟨-, -, hnew⟩
  · rw [hsame]
    exact staysDelivered_of_queue rfl
  · rw [hnew]
    rintro itemId ⟨row, hrow, hdelivered⟩
    exact ⟨row, List.mem_append_left _ hrow, hdelivered⟩

/-- A claim takes no delivered row: the identifiers are unique. -/
theorem staysDelivered_cycle (hids : (outbox.queue.map (·.id)).Nodup) (index : Nat)
    (cutoff now : Int) (connected : Bool) (fault : Option Raised) :
    StaysDelivered outbox (outbox.cycle worker index cutoff now connected fault) := by
  rcases outbox.cycle_cases worker index cutoff now connected fault with hsame | ⟨-, hcycle⟩
  · rw [hsame]
    exact staysDelivered_of_queue rfl
  · rw [hcycle]
    refine staysDelivered_of_map (keepsEntry_claimedRow (worker index) cutoff now outbox.queue)
      rfl fun row hrow hstatus => ?_
    unfold claimedRow
    dsimp only
    rw [status_released hstatus]
    split
    · rename_i hclaimed
      rw [← status_released hstatus] at hclaimed
      have havailable := isAvailable_of_claimed hids hrow hclaimed
      rw [status_released hstatus] at havailable
      exact absurd (hstatus.symm.trans havailable.1) (by decide)
    · exact hstatus

/-- A mark of a failure keeps what was delivered exactly when its row was not. -/
theorem staysDelivered_markedFailed_iff {index : Nat} {record : SyncQueueRow}
    {rest : List SyncQueueRow} {error : String} {goesOn : Bool} {now : Int}
    {backoff : Nat → Int} {fault : Option Raised} :
    StaysDelivered outbox
        (outbox.markedFailed worker index record rest error goesOn now backoff fault) ↔
      (fault = none → ¬ IsDelivered record.id outbox) := by
  have hstatus (row : SyncQueueRow) : (failed error (backoff (record.attemptCount + 1))
      (worker index).maxAttempts now row).status ≠ .DELIVERED := by
    unfold failed
    dsimp only
    split <;> simp
  have hkeeps := keepsEntry_failed error (backoff (record.attemptCount + 1))
    (worker index).maxAttempts now
  unfold Outbox.markedFailed
  split
  · rename_i hfault
    constructor
    · intro hstays _ hdelivered
      obtain ⟨row, hrow, hid, hafter⟩ := hstays record.id hdelivered
      obtain ⟨old, -, rfl⟩ := List.mem_map.mp hrow
      rw [(keepsEntry_onRow hkeeps record.id).id] at hid
      unfold onRow at hafter
      rw [if_pos hid] at hafter
      exact hstatus old hafter
    · intro hspared
      refine staysDelivered_of_map (keepsEntry_onRow hkeeps record.id) rfl
        fun row hrow hdelivered => ?_
      unfold onRow
      split
      · rename_i hid
        exact absurd ⟨row, hrow, hid, hdelivered⟩ (hspared hfault)
      · exact hdelivered
  · rename_i hfault
    exact iff_of_true (staysDelivered_of_queue rfl) fun hnone => absurd hnone hfault

theorem staysDelivered_mark_iff (index : Nat) (now : Int) (backoff : Nat → Int)
    (fault : Option Raised) :
    StaysDelivered outbox (outbox.mark worker index now backoff fault) ↔
      (OutboxStep.mark index now backoff fault).SparesDelivered outbox := by
  change _ ↔ (fault = none → ∀ record ∈ (outbox.workers index).toFail,
    ¬ IsDelivered record.id outbox)
  unfold Outbox.mark
  cases hphase : outbox.workers index with
  | idle => exact iff_of_true (staysDelivered_of_queue rfl) fun _ _ => nofun
  | publishing record rest =>
      exact iff_of_true (staysDelivered_of_queue rfl) fun _ _ => nofun
  | marking record verdict rest =>
      cases verdict with
      | delivered =>
          refine iff_of_true ?_ fun _ _ => nofun
          cases fault with
          | some error => exact staysDelivered_of_queue rfl
          | none =>
              refine staysDelivered_of_map (keepsEntry_onRow keepsEntry_delivered record.id)
                rfl fun row _ hdelivered => ?_
              unfold onRow
              split
              · rfl
              · exact hdelivered
      | failed error =>
          rw [staysDelivered_markedFailed_iff]
          exact forall_congr' fun _ => ⟨fun hspared _ hrecord => Option.some.inj hrecord ▸ hspared,
            fun hspared => hspared record rfl⟩
      | disconnected error =>
          rw [staysDelivered_markedFailed_iff]
          exact forall_congr' fun _ => ⟨fun hspared _ hrecord => Option.some.inj hrecord ▸ hspared,
            fun hspared => hspared record rfl⟩

theorem staysDelivered_step_iff (hids : (outbox.queue.map (·.id)).Nodup) (step : OutboxStep) :
    StaysDelivered outbox (outbox.step worker step) ↔ step.SparesDelivered outbox := by
  cases step with
  | enqueue id now entry => exact iff_of_true (staysDelivered_enqueued id now entry) trivial
  | cycle index cutoff now connected fault =>
      exact iff_of_true (staysDelivered_cycle hids index cutoff now connected fault) trivial
  | publish index result =>
      refine iff_of_true ?_ trivial
      unfold Outbox.step Outbox.publish
      dsimp only
      split <;> exact staysDelivered_of_queue rfl
  | mark index now backoff fault => exact staysDelivered_mark_iff index now backoff fault
  | crash index => exact iff_of_true (staysDelivered_of_queue rfl) trivial
  | recover now =>
      refine iff_of_true ?_ trivial
      refine staysDelivered_of_map (keepsEntry_released 60 now) rfl fun row _ hdelivered => ?_
      rw [status_released hdelivered]
      exact hdelivered

end

end Cloud
end Intelipump
