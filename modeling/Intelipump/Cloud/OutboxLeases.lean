import Mathlib.Tactic.Common
import Intelipump.Cloud.OutboxTerminal

namespace Intelipump
namespace Cloud

open Foundation.Runs
open Foundation.StateEffect
open Persistence
open Persistence.SyncQueueRepository

/-!
# Locks as leases

As long as no lock is released under the worker that holds the record, every record is
held once, its row stays claimed, and nothing delivered is taken back.  Two workers and a
publish that outlives its lock break this (`delivered_not_terminal`).
-/

/-- No record that a worker holds has been locked for as many seconds. -/
def NoneStale (outbox : Outbox) (seconds : Nat) (now : Int) : Prop :=
  ∀ index, ∀ record ∈ (outbox.workers index).held, ∀ row ∈ outbox.queue,
    row.id = record.id → ¬ IsStaleAfter seconds now row

/-- No lock is released under the worker that holds the record. -/
def OutboxStep.KeepsLeases (worker : Nat → SyncWorker) (outbox : Outbox) : OutboxStep → Prop
  | .cycle index cutoff _ _ _ => NoneStale outbox (worker index).staleLockSeconds cutoff
  | .recover now => NoneStale outbox 60 now
  | _ => True

/-- Every record is held once, and its row is claimed. -/
structure Leased (outbox : Outbox) : Prop where
  claimed : ∀ index, ∀ record ∈ (outbox.workers index).held, ∀ row ∈ outbox.queue,
    row.id = record.id → row.status = .CLAIMED
  once : ∀ index, ((outbox.workers index).held.map (·.id)).Nodup
  apart : ∀ index other, index ≠ other →
    List.Disjoint ((outbox.workers index).held.map (·.id))
      ((outbox.workers other).held.map (·.id))

section

variable {worker : Nat → SyncWorker} {outbox : Outbox}

/-- A step after which every worker holds no more than before. -/
theorem Leased.shrink (hleased : Leased outbox) {after : Outbox}
    {update : SyncQueueRow → SyncQueueRow} (hkeeps : KeepsEntry update)
    (hqueue : after.queue = outbox.queue.map update)
    (hheld : ∀ index, (after.workers index).held.Sublist (outbox.workers index).held)
    (hrows : ∀ index, ∀ record ∈ (after.workers index).held, ∀ row ∈ outbox.queue,
      row.id = record.id → row.status = .CLAIMED → (update row).status = .CLAIMED) :
    Leased after := by
  have hids (index : Nat) := (hheld index).map (·.id)
  refine ⟨?_, fun index => (hleased.once index).sublist (hids index), ?_⟩
  · intro index record hrecord row hrow hid
    rw [hqueue] at hrow
    obtain ⟨old, hold, rfl⟩ := List.mem_map.mp hrow
    rw [hkeeps.id] at hid
    exact hrows index record hrecord old hold hid
      (hleased.claimed index record ((hheld index).subset hrecord) old hold hid)
  · intro index other hne
    exact List.disjoint_of_subset_left (hids index).subset
      (List.disjoint_of_subset_right (hids other).subset (hleased.apart index other hne))

theorem sublist_setWorker {index : Nat} {phase : WorkerPhase}
    (hphase : phase.held.Sublist (outbox.workers index).held) (other : Nat) :
    ((outbox.setWorker index phase).workers other).held.Sublist
      (outbox.workers other).held := by
  unfold Outbox.setWorker
  dsimp only
  rw [Function.update_apply]
  split
  · rename_i hsame
    rw [hsame]
    exact hphase
  · exact List.Sublist.refl _

theorem Leased.setWorker (hleased : Leased outbox) {index : Nat} {phase : WorkerPhase}
    (hphase : phase.held.Sublist (outbox.workers index).held) :
    Leased (outbox.setWorker index phase) :=
  hleased.shrink ⟨fun _ => rfl, fun _ => rfl, fun _ => rfl⟩ (List.map_id' _).symm
    (sublist_setWorker hphase) fun _ _ _ _ _ _ hstatus => hstatus

theorem Leased.enqueued (hsound : OutboxSound worker outbox) (hleased : Leased outbox)
    (id : String) (now : Int) (entry : SyncEntry) :
    Leased (outbox.enqueued id now entry) := by
  rcases outbox.enqueued_cases id now entry with hsame | ⟨hfresh, -, hnew⟩
  · rw [hsame]
    exact hleased
  · rw [hnew]
    refine ⟨?_, hleased.once, hleased.apart⟩
    intro index record hrecord row hrow hid
    rcases List.mem_append.mp hrow with hrow | hrow
    · exact hleased.claimed index record hrecord row hrow hid
    · -- a held record has a row of its own, so its identifier is not new
      obtain ⟨own, hown, hownId, -⟩ := hsound.held index record hrecord
      rw [List.mem_singleton.mp hrow] at hid
      have hidentifier : own.id = id := hownId.trans hid.symm
      exact absurd (hidentifier ▸ List.mem_map_of_mem hown) hfresh

/-- A row that is claimed under a fresh lock is not touched by a claim. -/
theorem claimedRow_of_claimed {worker : SyncWorker} {cutoff now : Int} {rows : List SyncQueueRow}
    (hids : (rows.map (·.id)).Nodup) {row : SyncQueueRow} (hrow : row ∈ rows)
    (hstatus : row.status = .CLAIMED)
    (hfresh : ¬ IsStaleAfter worker.staleLockSeconds cutoff row) :
    claimedRow worker cutoff now rows row = row := by
  have hreleased : released worker.staleLockSeconds cutoff row = row :=
    if_neg hfresh
  unfold claimedRow
  dsimp only
  rw [hreleased]
  refine if_neg fun hclaimed => ?_
  rw [← hreleased] at hclaimed
  have havailable := isAvailable_of_claimed hids hrow hclaimed
  rw [hreleased] at havailable
  exact absurd (hstatus.symm.trans havailable.1) (by decide)

/-- The identifiers of what was claimed. -/
theorem map_id_claimedBatch (worker : SyncWorker) (cutoff now : Int)
    (rows : List SyncQueueRow) :
    (claimedBatch worker cutoff now rows).map (·.id) =
      (availableRows worker.batchSize now
        (rows.map (released worker.staleLockSeconds cutoff))).map (·.id) :=
  map_id_map (keepsEntry_claimed now) _

theorem nodup_claimedBatch {rows : List SyncQueueRow} (hids : (rows.map (·.id)).Nodup)
    (worker : SyncWorker) (cutoff now : Int) :
    ((claimedBatch worker cutoff now rows).map (·.id)).Nodup := by
  rw [map_id_claimedBatch]
  refine nodup_availableRows ?_
  rw [map_id_map (keepsEntry_released _ _)]
  exact hids

/-- A record that another worker holds is not claimed. -/
theorem not_mem_claimedBatch (hsound : OutboxSound worker outbox) (hleased : Leased outbox)
    {index other : Nat} {cutoff now : Int}
    (hfresh : NoneStale outbox (worker index).staleLockSeconds cutoff) {record : SyncQueueRow}
    (hrecord : record ∈ (outbox.workers other).held) :
    record.id ∉ (claimedBatch (worker index) cutoff now outbox.queue).map (·.id) := by
  intro hclaimed
  obtain ⟨row, hrow, hid, -⟩ := hsound.held other record hrecord
  have hstatus := hleased.claimed other record hrecord row hrow hid
  have hreleased : released (worker index).staleLockSeconds cutoff row = row :=
    if_neg (hfresh other record hrecord row hrow hid)
  rw [map_id_claimedBatch, ← hid, ← hreleased] at hclaimed
  have havailable := isAvailable_of_claimed hsound.ids hrow hclaimed
  rw [hreleased] at havailable
  exact absurd (hstatus.symm.trans havailable.1) (by decide)

theorem Leased.cycle (hsound : OutboxSound worker outbox) (hleased : Leased outbox)
    (index : Nat) (cutoff now : Int) (connected : Bool) (fault : Option Raised)
    (hfresh : NoneStale outbox (worker index).staleLockSeconds cutoff) :
    Leased (outbox.cycle worker index cutoff now connected fault) := by
  rcases outbox.cycle_cases worker index cutoff now connected fault with hsame | ⟨-, hcycle⟩
  · rw [hsame]
    exact hleased
  · rw [hcycle]
    -- only the worker of the cycle holds something else afterwards
    have hheld (other : Nat) : (({ outbox with db := { outbox.db with
          syncQueue := outbox.queue.map (claimedRow (worker index) cutoff now outbox.queue) }
        }.setWorker index (.next (claimedBatch (worker index) cutoff now outbox.queue))).workers
          other).held =
        if other = index then claimedBatch (worker index) cutoff now outbox.queue
        else (outbox.workers other).held := by
      unfold Outbox.setWorker
      dsimp only
      rw [Function.update_apply]
      split
      · exact WorkerPhase.held_next _
      · rfl
    have hkeeps := keepsEntry_claimedRow (worker index) cutoff now outbox.queue
    refine ⟨?_, ?_, ?_⟩
    · intro other record hrecord row hrow hid
      rw [hheld] at hrecord
      obtain ⟨old, hold, rfl⟩ := List.mem_map.mp hrow
      rw [hkeeps.id] at hid
      split at hrecord
      · -- its own rows were claimed just now
        have hclaimed : (released (worker index).staleLockSeconds cutoff old).id ∈
            (claimedBatch (worker index) cutoff now outbox.queue).map (·.id) := by
          rw [(keepsEntry_released _ _).id, hid]
          exact List.mem_map_of_mem hrecord
        rw [map_id_claimedBatch] at hclaimed
        unfold claimedRow
        dsimp only
        rw [if_pos hclaimed]
        rfl
      · -- the rows of the others are not stale, so the release passes over them
        have hstatus := hleased.claimed other record hrecord old hold hid
        rw [claimedRow_of_claimed hsound.ids hold hstatus
          (hfresh other record hrecord old hold hid)]
        exact hstatus
    · intro other
      rw [hheld]
      split
      · exact nodup_claimedBatch hsound.ids _ _ _
      · exact hleased.once other
    · -- a claimed row was pending, and no held row is
      have hdisjoint (other : Nat) :
          List.Disjoint ((claimedBatch (worker index) cutoff now outbox.queue).map (·.id))
            ((outbox.workers other).held.map (·.id)) := by
        intro id hclaimed hmem
        obtain ⟨record, hrecord, rfl⟩ := List.mem_map.mp hmem
        exact not_mem_claimedBatch hsound hleased hfresh hrecord hclaimed
      intro first second hne
      rw [hheld, hheld]
      split
      · rename_i hfirst
        rw [if_neg fun hsecond => hne (hfirst.trans hsecond.symm)]
        exact hdisjoint second
      · split
        · exact (hdisjoint first).symm
        · exact hleased.apart first second hne

/-- Once a worker goes on, nobody holds the record that it marks. -/
theorem Leased.id_ne_of_marking (hleased : Leased outbox) {index : Nat}
    {record : SyncQueueRow} {verdict : Verdict} {rest : List SyncQueueRow}
    (hphase : outbox.workers index = .marking record verdict rest) {phase : WorkerPhase}
    (hrest : phase.held ⊆ rest) :
    ∀ other, ∀ held ∈ ((outbox.setWorker index phase).workers other).held,
      held.id ≠ record.id := by
  intro other held hheld
  have hrecord : record ∈ (outbox.workers index).held := (held_of_marking hphase).1
  unfold Outbox.setWorker at hheld
  dsimp only at hheld
  rw [Function.update_apply] at hheld
  split at hheld
  · have honce := hleased.once index
    rw [hphase] at honce
    intro hid
    have hmem : held.id ∈ rest.map (·.id) := List.mem_map_of_mem (hrest hheld)
    rw [hid] at hmem
    exact (List.nodup_cons.mp honce).1 hmem
  · rename_i hne
    intro hid
    have hmem : held.id ∈ (outbox.workers other).held.map (·.id) := List.mem_map_of_mem hheld
    exact hleased.apart other index hne hmem (hid ▸ List.mem_map_of_mem hrecord)

/-- A mark touches the row of its own record alone. -/
theorem Leased.marked (hleased : Leased outbox) {index : Nat} {record : SyncQueueRow}
    {verdict : Verdict} {rest : List SyncQueueRow}
    (hphase : outbox.workers index = .marking record verdict rest) (phase : WorkerPhase)
    (hrest : phase.held.Sublist rest) {update : SyncQueueRow → SyncQueueRow}
    (hkeeps : KeepsEntry update) {after : Outbox}
    (hqueue : after.queue = outbox.queue.map (onRow record.id update))
    (hworkers : after.workers = (outbox.setWorker index phase).workers) : Leased after := by
  refine hleased.shrink (keepsEntry_onRow hkeeps record.id) hqueue ?_ ?_
  · rw [hworkers]
    refine sublist_setWorker ?_
    rw [hphase]
    exact hrest.trans (List.sublist_cons_self _ _)
  · intro other held hheld row _ hid hstatus
    rw [hworkers] at hheld
    have hne := hleased.id_ne_of_marking hphase hrest.subset other held hheld
    unfold onRow
    rw [if_neg fun hsame => hne (hid.symm.trans hsame)]
    exact hstatus

theorem Leased.markedFailed (hleased : Leased outbox) {index : Nat} {record : SyncQueueRow}
    {verdict : Verdict} {rest : List SyncQueueRow}
    (hphase : outbox.workers index = .marking record verdict rest) (error : String)
    (goesOn : Bool) (now : Int) (backoff : Nat → Int) (fault : Option Raised) :
    Leased (outbox.markedFailed worker index record rest error goesOn now backoff fault) := by
  unfold Outbox.markedFailed
  split
  · refine hleased.marked hphase (if goesOn then .next rest else .idle) ?_
      (keepsEntry_failed error (backoff (record.attemptCount + 1))
        (worker index).maxAttempts now) rfl rfl
    split
    · rw [WorkerPhase.held_next]
    · exact List.nil_sublist _
  · exact hleased.setWorker (List.nil_sublist _)

theorem Leased.mark (hleased : Leased outbox) (index : Nat) (now : Int)
    (backoff : Nat → Int) (fault : Option Raised) :
    Leased (outbox.mark worker index now backoff fault) := by
  unfold Outbox.mark
  split
  · rename_i record rest hphase
    split
    · refine hleased.marked hphase (.next rest) ?_ keepsEntry_delivered rfl rfl
      rw [WorkerPhase.held_next]
    · refine hleased.setWorker ?_
      rw [hphase]
      exact List.Sublist.refl _
  · rename_i hphase
    exact hleased.markedFailed hphase _ _ _ _ _
  · rename_i hphase
    exact hleased.markedFailed hphase _ _ _ _ _
  · exact hleased

theorem Leased.publish (hleased : Leased outbox) (index : Nat) (result : PublishResult) :
    Leased (outbox.publish worker index result) := by
  unfold Outbox.publish
  split
  · rename_i record rest hphase
    refine hleased.shrink ⟨fun _ => rfl, fun _ => rfl, fun _ => rfl⟩ (List.map_id' _).symm
      (sublist_setWorker ?_) fun _ _ _ _ _ _ hstatus => hstatus
    rw [hphase]
    exact List.Sublist.refl _
  · exact hleased

theorem Leased.recover (hleased : Leased outbox) {now : Int}
    (hfresh : NoneStale outbox 60 now) :
    Leased { outbox with db := finalState (releaseStaleLocks now) outbox.db } := by
  refine hleased.shrink (keepsEntry_released 60 now) rfl (fun _ => List.Sublist.refl _) ?_
  intro index record hrecord row hrow hid hstatus
  unfold released
  rw [if_neg (hfresh index record hrecord row hrow hid)]
  exact hstatus

/-- What a step whose locks are kept does: nothing delivered is taken back, and the leases
hold again. -/
theorem Leased.step (hsound : OutboxSound worker outbox) (hleased : Leased outbox)
    (step : OutboxStep) (hkept : step.KeepsLeases worker outbox) :
    step.SparesDelivered outbox ∧ Leased (outbox.step worker step) := by
  cases step with
  | enqueue id now entry => exact ⟨trivial, hleased.enqueued hsound id now entry⟩
  | cycle index cutoff now connected fault =>
      exact ⟨trivial, hleased.cycle hsound index cutoff now connected fault hkept⟩
  | publish index result => exact ⟨trivial, hleased.publish index result⟩
  | mark index now backoff fault =>
      refine ⟨fun _ record hrecord => ?_, hleased.mark index now backoff fault⟩
      rintro ⟨row, hrow, hid, hstatus⟩
      have hheld : record ∈ (outbox.workers index).held := by
        unfold WorkerPhase.toFail at hrecord
        split at hrecord <;> rename_i hphase
        · rw [hphase, ← Option.some.inj hrecord]
          exact List.mem_cons_self
        · rw [hphase, ← Option.some.inj hrecord]
          exact List.mem_cons_self
        all_goals cases hrecord
      have hclaimed := hleased.claimed index record hheld row hrow hid
      exact absurd (hstatus.symm.trans hclaimed) (by decide)
  | crash index => exact ⟨trivial, hleased.setWorker (List.nil_sublist _)⟩
  | recover now => exact ⟨trivial, hleased.recover hkept⟩

end

/-- What the leases rest on. -/
def SoundAndLeased (worker : Nat → SyncWorker) (outbox : Outbox) : Prop :=
  OutboxSound worker outbox ∧ Leased outbox

theorem leased_initial (db : Database) : Leased { db := db } :=
  ⟨fun _ _ hrecord => absurd hrecord List.not_mem_nil, fun _ => List.nodup_nil,
    fun _ _ _ => List.disjoint_nil_left _⟩

/-- Workers that start on an empty queue: what was delivered at some state of the run is
delivered at every later one exactly when no failure is marked for a delivered row.  That
never happens while no lock is released under the worker that holds the record. -/
theorem delivered_stays_iff (worker : Nat → SyncWorker) (db : Database)
    (hempty : db.syncQueue = []) (steps : List OutboxStep) :
    ((∀ earlier later, earlier <+: later → later <+: steps →
        StaysDelivered (earlier.foldl (Outbox.step worker) { db := db })
          (later.foldl (Outbox.step worker) { db := db })) ↔
      Along (Outbox.step worker) (fun outbox step => step.SparesDelivered outbox)
        { db := db } steps) ∧
    (Along (Outbox.step worker) (fun outbox step => step.KeepsLeases worker outbox)
        { db := db } steps →
      Along (Outbox.step worker) (fun outbox step => step.SparesDelivered outbox)
        { db := db } steps) := by
  have hsound := outboxSound_of_empty worker hempty
  constructor
  · have hstays (outbox : Outbox) (step : OutboxStep) (hsound : OutboxSound worker outbox) :
        StaysDelivered outbox (outbox.step worker step) ↔ step.SparesDelivered outbox :=
      staysDelivered_step_iff hsound.ids step
    exact forall_prefixes_iff_along (fun _ step hsound => (hsound.step step).1) hstays hsound
  · have hinitial : SoundAndLeased worker { db := db } := ⟨hsound, leased_initial db⟩
    refine along_of_invariant (fun outbox step hboth hkept => ?_) hinitial
    obtain ⟨hspares, hnext⟩ := hboth.2.step hboth.1 step hkept
    exact ⟨hspares, (hboth.1.step step).1, hnext⟩

/-! ## Finitely many workers -/

/-- Only the first workers act. -/
def OutboxStep.IsBelow (count : Nat) : OutboxStep → Prop
  | .enqueue _ _ _ | .recover _ => True
  | .cycle index _ _ _ _ | .publish index _ | .mark index _ _ _ | .crash index => index < count

instance (count : Nat) : ∀ step : OutboxStep, Decidable (step.IsBelow count)
  | .enqueue _ _ _ | .recover _ => isTrue trivial
  | .cycle index _ _ _ _ | .publish index _ | .mark index _ _ _ | .crash index =>
      Nat.decLt index count

/-- The locks of the first workers are not stale. -/
def NoneStaleBelow (count : Nat) (outbox : Outbox) (seconds : Nat) (now : Int) : Prop :=
  ∀ index < count, ∀ record ∈ (outbox.workers index).held, ∀ row ∈ outbox.queue,
    row.id = record.id → ¬ IsStaleAfter seconds now row

instance (count : Nat) (outbox : Outbox) (seconds : Nat) (now : Int) :
    Decidable (NoneStaleBelow count outbox seconds now) :=
  inferInstanceAs (Decidable (∀ index < count, _))

def OutboxStep.KeepsLeasesBelow (count : Nat) (worker : Nat → SyncWorker) (outbox : Outbox) :
    OutboxStep → Prop
  | .cycle index cutoff _ _ _ =>
      NoneStaleBelow count outbox (worker index).staleLockSeconds cutoff
  | .recover now => NoneStaleBelow count outbox 60 now
  | _ => True

instance (count : Nat) (worker : Nat → SyncWorker) (outbox : Outbox) :
    ∀ step : OutboxStep, Decidable (step.KeepsLeasesBelow count worker outbox)
  | .cycle _ _ _ _ _ => inferInstanceAs (Decidable (NoneStaleBelow ..))
  | .recover _ => inferInstanceAs (Decidable (NoneStaleBelow ..))
  | .enqueue _ _ _ | .publish _ _ | .mark _ _ _ _ | .crash _ => isTrue trivial

/-- The workers from a number on have not begun. -/
def IdleFrom (count : Nat) (outbox : Outbox) : Prop :=
  ∀ index, count ≤ index → outbox.workers index = .idle

section

variable {worker : Nat → SyncWorker} {outbox : Outbox} {count : Nat}

theorem IdleFrom.setWorker (hidle : IdleFrom count outbox) {index : Nat} (hindex : index < count)
    {after : Outbox} (hworkers : after.workers = outbox.workers) (phase : WorkerPhase) :
    IdleFrom count (after.setWorker index phase) := by
  intro other hother
  change Function.update after.workers index phase other = .idle
  rw [hworkers, Function.update_of_ne (by omega)]
  exact hidle other hother

theorem IdleFrom.step (hidle : IdleFrom count outbox) {step : OutboxStep}
    (hbelow : step.IsBelow count) : IdleFrom count (outbox.step worker step) := by
  cases step with
  | enqueue id now entry =>
      change IdleFrom count (outbox.enqueued id now entry)
      rcases outbox.enqueued_cases id now entry with hsame | ⟨-, -, hnew⟩
      · rw [hsame]
        exact hidle
      · rw [hnew]
        exact hidle
  | cycle index cutoff now connected fault =>
      change IdleFrom count (outbox.cycle worker index cutoff now connected fault)
      rcases outbox.cycle_cases worker index cutoff now connected fault with
        hsame | ⟨-, hcycle⟩
      · rw [hsame]
        exact hidle
      · rw [hcycle]
        exact hidle.setWorker hbelow rfl _
  | publish index result =>
      change IdleFrom count (outbox.publish worker index result)
      unfold Outbox.publish
      split
      · exact hidle.setWorker hbelow rfl _
      · exact hidle
  | mark index now backoff fault =>
      change IdleFrom count (outbox.mark worker index now backoff fault)
      unfold Outbox.mark Outbox.markedFailed
      split
      · split <;> exact hidle.setWorker hbelow rfl _
      · split <;> exact hidle.setWorker hbelow rfl _
      · split <;> exact hidle.setWorker hbelow rfl _
      · exact hidle
  | crash index => exact hidle.setWorker hbelow rfl _
  | recover now => exact hidle

theorem IdleFrom.noneStale (hidle : IdleFrom count outbox) {seconds : Nat} {now : Int}
    (hbelow : NoneStaleBelow count outbox seconds now) : NoneStale outbox seconds now := by
  intro index record hrecord
  by_cases hindex : index < count
  · exact hbelow index hindex record hrecord
  · rw [hidle index (Nat.le_of_not_lt hindex)] at hrecord
    exact absurd hrecord List.not_mem_nil

/-- In a run of the first workers their locks are all that there are. -/
theorem along_keepsLeases (count : Nat) (hidle : IdleFrom count outbox) {steps : List OutboxStep}
    (hbelow : ∀ step ∈ steps, step.IsBelow count)
    (halong : Along (Outbox.step worker)
      (fun outbox step => step.KeepsLeasesBelow count worker outbox) outbox steps) :
    Along (Outbox.step worker) (fun outbox step => step.KeepsLeases worker outbox) outbox
      steps := by
  induction steps generalizing outbox with
  | nil => trivial
  | cons step rest ih =>
      obtain ⟨hkept, hlater⟩ := halong
      obtain ⟨hfirst, hrest⟩ := List.forall_mem_cons.mp hbelow
      refine ⟨?_, ih (hidle.step hfirst) hrest hlater⟩
      cases step with
      | cycle index cutoff now connected fault => exact hidle.noneStale hkept
      | recover now => exact hidle.noneStale hkept
      | _ => trivial

end

/-- Two workers share the queue.  The second one finds the row locked while the first one
sends it.  After it is delivered both go on: a second row fails, its lock becomes stale
when the second worker stops, and a recovery releases it. -/
def sentByTwo : List OutboxStep :=
  [.enqueue "q-1" 0 (startedEntry "t-1"), .cycle 0 1 1 true none, .cycle 1 2 2 true none,
    .publish 0 (.returned true), .cycle 1 3 3 true none, .mark 0 4 (fun _ => 0) none,
    .enqueue "q-2" 5 (startedEntry "t-2"), .cycle 1 6 6 true none,
    .publish 1 (.mqttError "timed out"), .cycle 0 7 7 true none, .mark 1 8 (fun _ => 0) none,
    .cycle 1 9 9 true none, .crash 1, .recover 61000009, .cycle 0 61000010 61000010 true none,
    .publish 0 (.returned true), .mark 0 61000011 (fun _ => 0) none]

theorem delivered_stays_sent :
    IsDelivered "q-1" ((sentByTwo.take 6).foldl (Outbox.step fun _ => labWorker) { db := {} }) ∧
      ∀ earlier later, earlier <+: later → later <+: sentByTwo →
        StaysDelivered (earlier.foldl (Outbox.step fun _ => labWorker) { db := {} })
          (later.foldl (Outbox.step fun _ => labWorker) { db := {} }) := by
  have hkept : Along (Outbox.step fun _ => labWorker)
      (fun outbox step => step.KeepsLeases (fun _ => labWorker) outbox) { db := {} }
      sentByTwo :=
    along_keepsLeases 2 (fun _ _ => rfl) (by decide) (by decide +kernel)
  obtain ⟨hstays, hleases⟩ := delivered_stays_iff (fun _ => labWorker) {} rfl sentByTwo
  exact ⟨by decide +kernel, hstays.mpr (hleases hkept)⟩

/-- The publish of one worker takes longer than its lock: another worker claims the row
again, sends it and marks it.  Then the first publish fails. -/
def outlived : List OutboxStep :=
  [.enqueue "q-1" 0 (startedEntry "t-1"), .cycle 0 1 1 true none,
    .cycle 1 61000001 61000001 true none, .publish 1 (.returned true),
    .mark 1 61000002 (fun _ => 0) none]

theorem delivered_not_terminal :
    ¬ ∀ (worker : Nat → SyncWorker) (db : Database), db.syncQueue = [] →
      ∀ steps earlier later : List OutboxStep, earlier <+: later → later <+: steps →
        StaysDelivered (earlier.foldl (Outbox.step worker) { db := db })
          (later.foldl (Outbox.step worker) { db := db }) := by
  intro hall
  have hstays := hall (fun _ => labWorker) {} rfl
    (outlived ++ [.publish 0 (.mqttError "timed out"), .mark 0 61000003 (fun _ => 0) none])
    outlived _ (List.prefix_append _ _) List.prefix_rfl "q-1" (by decide +kernel)
  revert hstays
  decide +kernel

end Cloud
end Intelipump
