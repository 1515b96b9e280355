import Mathlib.Tactic.Common
import Intelipump.Cloud.OutboxInvariant

namespace Intelipump
namespace Cloud

open Foundation.Runs
open Foundation.StateEffect
open Persistence
open Persistence.SyncQueueRepository

/-!
# The order of an entity's rows

A batch is claimed oldest first, but a failed row waits for its backoff while the worker
goes on.  Without that, one worker sends the rows of an entity in the order in which they
were enqueued (`entity_in_order`).
-/

/-- The row is neither delivered nor given up. -/
def IsOpen (row : SyncQueueRow) : Prop := row.status = .PENDING ∨ row.status = .CLAIMED

instance (row : SyncQueueRow) : Decidable (IsOpen row) := inferInstanceAs (Decidable (_ ∨ _))

/-- An older row of the same entity. -/
def Precedes (earlier row : SyncQueueRow) : Prop :=
  earlier.entityId = row.entityId ∧ earlier.createdAt < row.createdAt

instance (earlier row : SyncQueueRow) : Decidable (Precedes earlier row) :=
  inferInstanceAs (Decidable (_ ∧ _))

/-- The row is among the oldest available ones that fill a batch. -/
def IsNext (worker : SyncWorker) (cutoff now : Int) (rows : List SyncQueueRow)
    (row : SyncQueueRow) : Prop :=
  IsAvailable now (released worker.staleLockSeconds cutoff row) ∧
    rows.countP (fun other => decide
      (IsAvailable now (released worker.staleLockSeconds cutoff other) ∧
        other.createdAt < row.createdAt)) < worker.batchSize

namespace OutboxStep

/-- No other worker acts. -/
def IsOf (index : Nat) : OutboxStep → Prop
  | .enqueue _ _ _ | .recover _ => True
  | .cycle other _ _ _ _ | .publish other _ | .mark other _ _ _ | .crash other => other = index

/-- A row is created later than those of the queue. -/
def IsLater (outbox : Outbox) : OutboxStep → Prop
  | .enqueue _ now _ => ∀ row ∈ outbox.queue, row.createdAt < now
  | _ => True

/-- A publish succeeds only for a record that no open row precedes. -/
def InOrder (worker : Nat → SyncWorker) (outbox : Outbox) : OutboxStep → Prop
  | .publish index result => ∀ record rest, outbox.workers index = .publishing record rest →
      verdictOf (worker index).mapper record result = .delivered →
        ∀ row ∈ outbox.queue, Precedes row record → ¬ IsOpen row
  | _ => True

/-- A claim finds every open row available that precedes a row of its batch, and a worker
that goes on after a failure has no further record of the entity, or the row is given
up. -/
def KeepsOrder (worker : Nat → SyncWorker) (outbox : Outbox) : OutboxStep → Prop
  | .cycle index cutoff now connected fault =>
      outbox.workers index = .idle ∧ connected = true ∧ fault = none →
        ∀ row ∈ outbox.queue, IsNext (worker index) cutoff now outbox.queue row →
          ∀ earlier ∈ outbox.queue, Precedes earlier row → IsOpen earlier →
            IsAvailable now (released (worker index).staleLockSeconds cutoff earlier)
  | .mark index _ _ fault => ∀ record error rest,
      outbox.workers index = .marking record (.failed error) rest → fault = none →
        ∀ later ∈ rest, later.entityId = record.entityId →
          ∀ row ∈ outbox.queue, row.id = record.id →
            (worker index).maxAttempts ≤ row.attemptCount + 1
  | _ => True

instance (index : Nat) (step : OutboxStep) : Decidable (step.IsOf index) := by
  unfold IsOf
  cases step <;> infer_instance

instance (outbox : Outbox) (step : OutboxStep) : Decidable (step.IsLater outbox) := by
  unfold IsLater
  cases step <;> infer_instance

end OutboxStep

/-- A failure that is about to be marked: its record, and what is left of the batch. -/
def WorkerPhase.failing : WorkerPhase → Option (SyncQueueRow × List SyncQueueRow)
  | .marking record (.failed _) rest => some (record, rest)
  | _ => none

theorem WorkerPhase.forall_failing {phase : WorkerPhase}
    {P : SyncQueueRow → List SyncQueueRow → Prop} :
    (∀ failing ∈ phase.failing, P failing.1 failing.2) ↔
      ∀ record error rest, phase = .marking record (.failed error) rest → P record rest := by
  constructor
  · rintro hall record error rest rfl
    exact hall (record, rest) rfl
  · intro hall failing hfailing
    unfold WorkerPhase.failing at hfailing
    split at hfailing
    · rename_i record error rest
      obtain rfl := Option.some.inj hfailing
      exact hall record error rest rfl
    · cases hfailing

namespace OutboxStep

/-- What the order asks of the mark of a failure. -/
def MarkKeepsOrder (worker : Nat → SyncWorker) (outbox : Outbox) (index : Nat)
    (fault : Option Raised) (record : SyncQueueRow) (rest : List SyncQueueRow) : Prop :=
  fault = none → ∀ later ∈ rest, later.entityId = record.entityId →
    ∀ row ∈ outbox.queue, row.id = record.id →
      (worker index).maxAttempts ≤ row.attemptCount + 1

instance (worker : Nat → SyncWorker) (outbox : Outbox) (index : Nat) (fault : Option Raised)
    (record : SyncQueueRow) (rest : List SyncQueueRow) :
    Decidable (MarkKeepsOrder worker outbox index fault record rest) :=
  inferInstanceAs (Decidable (_ → _))

instance (worker : SyncWorker) (cutoff now : Int) (rows : List SyncQueueRow)
    (row : SyncQueueRow) : Decidable (IsNext worker cutoff now rows row) :=
  inferInstanceAs (Decidable (_ ∧ _))

instance (worker : Nat → SyncWorker) (outbox : Outbox) :
    ∀ step : OutboxStep, Decidable (step.KeepsOrder worker outbox)
  | .cycle index cutoff now connected fault => inferInstanceAs (Decidable
      (outbox.workers index = .idle ∧ connected = true ∧ fault = none →
        ∀ row ∈ outbox.queue, IsNext (worker index) cutoff now outbox.queue row →
          ∀ earlier ∈ outbox.queue, Precedes earlier row → IsOpen earlier →
            IsAvailable now (released (worker index).staleLockSeconds cutoff earlier)))
  | .mark index _ _ fault =>
      decidable_of_iff (∀ failing ∈ (outbox.workers index).failing,
          MarkKeepsOrder worker outbox index fault failing.1 failing.2)
        (WorkerPhase.forall_failing (P := MarkKeepsOrder worker outbox index fault))
  | .enqueue _ _ _ | .publish _ _ | .crash _ | .recover _ => isTrue trivial

end OutboxStep

/-- What a worker holds is sorted, and no open row outside of it precedes a record. -/
structure HeldInOrder (index : Nat) (outbox : Outbox) : Prop where
  created : outbox.queue.Pairwise (·.createdAt < ·.createdAt)
  records : ∀ record ∈ (outbox.workers index).held, ∃ row ∈ outbox.queue,
    row.id = record.id ∧ row.createdAt = record.createdAt
  sorted : (outbox.workers index).held.Pairwise (·.createdAt < ·.createdAt)
  earlier : ∀ record ∈ (outbox.workers index).held, ∀ row ∈ outbox.queue,
    Precedes row record → IsOpen row → row.id ∈ (outbox.workers index).held.map (·.id)

section

variable {worker : Nat → SyncWorker} {outbox : Outbox} {index : Nat}

/-- A step after which the worker holds no more than before. -/
theorem HeldInOrder.shrink (hin : HeldInOrder index outbox) {after : Outbox}
    {update : SyncQueueRow → SyncQueueRow} (hkeeps : KeepsEntry update)
    (hqueue : after.queue = outbox.queue.map update)
    (hheld : (after.workers index).held.Sublist (outbox.workers index).held)
    (hrows : ∀ record ∈ (after.workers index).held, ∀ row ∈ outbox.queue,
      Precedes row record → IsOpen (update row) → IsOpen row ∧
        (row.id ∈ (outbox.workers index).held.map (·.id) →
          row.id ∈ (after.workers index).held.map (·.id))) : HeldInOrder index after := by
  have hentity (row : SyncQueueRow) : (update row).entityId = row.entityId :=
    congrArg (·.entityId) (hkeeps.entry row)
  refine ⟨?_, ?_, hin.sorted.sublist hheld, ?_⟩
  · rw [hqueue, List.pairwise_map]
    refine hin.created.imp fun hlt => ?_
    rw [hkeeps.createdAt, hkeeps.createdAt]
    exact hlt
  · intro record hrecord
    obtain ⟨row, hrow, hid, hcreated⟩ := hin.records record (hheld.subset hrecord)
    refine ⟨update row, ?_, (hkeeps.id row).trans hid, (hkeeps.createdAt row).trans hcreated⟩
    rw [hqueue]
    exact List.mem_map_of_mem hrow
  · intro record hrecord row hrow hprecedes hopen
    rw [hqueue] at hrow
    obtain ⟨old, hold, rfl⟩ := List.mem_map.mp hrow
    unfold Precedes at hprecedes
    rw [hentity, hkeeps.createdAt] at hprecedes
    obtain ⟨hopenOld, hstays⟩ := hrows record hrecord old hold hprecedes hopen
    rw [hkeeps.id]
    exact hstays (hin.earlier record (hheld.subset hrecord) old hold hprecedes hopenOld)

theorem HeldInOrder.of_idle (hin : HeldInOrder index outbox) {after : Outbox}
    {update : SyncQueueRow → SyncQueueRow} (hkeeps : KeepsEntry update)
    (hqueue : after.queue = outbox.queue.map update)
    (hidle : (after.workers index).held = []) : HeldInOrder index after := by
  refine hin.shrink hkeeps hqueue ?_ ?_
  · rw [hidle]
    exact List.nil_sublist _
  · rw [hidle]
    exact fun _ hrecord => absurd hrecord List.not_mem_nil

theorem HeldInOrder.enqueued (hin : HeldInOrder index outbox) (id : String) (now : Int)
    (entry : SyncEntry) (hlater : ∀ row ∈ outbox.queue, row.createdAt < now) :
    HeldInOrder index (outbox.enqueued id now entry) := by
  rcases outbox.enqueued_cases id now entry with hsame | ⟨-, -, hnew⟩
  · rw [hsame]
    exact hin
  · rw [hnew]
    refine ⟨?_, ?_, hin.sorted, ?_⟩
    · refine List.pairwise_append.mpr ⟨hin.created, List.pairwise_singleton _ _, ?_⟩
      intro row hrow added hadded
      rw [List.mem_singleton.mp hadded]
      exact hlater row hrow
    · intro record hrecord
      obtain ⟨row, hrow, hrest⟩ := hin.records record hrecord
      exact ⟨row, List.mem_append_left _ hrow, hrest⟩
    · intro record hrecord row hrow hprecedes hopen
      rcases List.mem_append.mp hrow with hold | hadded
      · exact hin.earlier record hrecord row hold hprecedes hopen
      · -- the new row is younger than all that is held
        obtain ⟨own, hown, -, hcreated⟩ := hin.records record hrecord
        have hlt : now < record.createdAt := by
          rw [List.mem_singleton.mp hadded] at hprecedes
          exact hprecedes.2
        have hfresh := hlater own hown
        omega

/-! ## Claims -/

/-- A batch is sorted, and every available row that is older than a record of it is in it. -/
theorem claimedBatch_in_order (settings : SyncWorker) (cutoff now : Int)
    {rows : List SyncQueueRow} (hcreated : rows.Pairwise (·.createdAt < ·.createdAt)) :
    (claimedBatch settings cutoff now rows).Pairwise (·.createdAt < ·.createdAt) ∧
      ∀ record ∈ claimedBatch settings cutoff now rows,
        (∃ row ∈ rows, IsNext settings cutoff now rows row ∧
          claimed now (released settings.staleLockSeconds cutoff row) = record) ∧
        ∀ older ∈ rows, IsAvailable now (released settings.staleLockSeconds cutoff older) →
          older.createdAt < record.createdAt →
            older.id ∈ (claimedBatch settings cutoff now rows).map (·.id) := by
  have hkeeps := keepsEntry_released settings.staleLockSeconds cutoff
  have hdistinct :
      ((rows.map (released settings.staleLockSeconds cutoff)).map (·.createdAt)).Nodup := by
    rw [List.map_map]
    refine List.pairwise_map.mpr (hcreated.imp fun hlt => ?_)
    dsimp only [Function.comp]
    rw [hkeeps.createdAt, hkeeps.createdAt]
    exact ne_of_lt hlt
  obtain ⟨hsorted, holdest⟩ := mem_availableRows settings.batchSize now hdistinct
  refine ⟨List.pairwise_map.mpr hsorted, fun record hrecord => ?_⟩
  obtain ⟨next, hnext, rfl⟩ := List.mem_map.mp hrecord
  obtain ⟨holder, hcount⟩ := holdest next hnext
  obtain ⟨hmem, havailable⟩ := mem_of_mem_availableRows hnext
  obtain ⟨row, hrow, rfl⟩ := List.mem_map.mp hmem
  constructor
  · refine ⟨row, hrow, ⟨havailable, ?_⟩, rfl⟩
    rw [List.countP_map, hkeeps.createdAt] at hcount
    refine lt_of_eq_of_lt (List.countP_congr fun other _ => ?_) hcount
    dsimp only [Function.comp]
    rw [hkeeps.createdAt]
  · intro older hmem' holderAvailable hlt
    have hclaimed := holder _ (List.mem_map_of_mem hmem') holderAvailable
      (by rw [hkeeps.createdAt]; exact hlt)
    exact List.mem_map.mpr ⟨_, List.mem_map_of_mem hclaimed, hkeeps.id older⟩

/-- A claim opens no row. -/
theorem isOpen_of_claimedRow {settings : SyncWorker} {cutoff now : Int}
    {rows : List SyncQueueRow} (hids : (rows.map (·.id)).Nodup) {row : SyncQueueRow}
    (hrow : row ∈ rows) (hopen : IsOpen (claimedRow settings cutoff now rows row)) :
    IsOpen row := by
  have hreleased (hstill : IsOpen (released settings.staleLockSeconds cutoff row)) :
      IsOpen row := by
    unfold released at hstill
    split at hstill
    · rename_i hstale
      exact Or.inr hstale.1
    · exact hstill
  unfold claimedRow at hopen
  dsimp only at hopen
  split at hopen
  · rename_i hclaimed
    exact hreleased (Or.inl (isAvailable_of_claimed hids hrow hclaimed).1)
  · exact hreleased hopen

theorem HeldInOrder.cycle (hids : (outbox.queue.map (·.id)).Nodup)
    (hin : HeldInOrder index outbox) (cutoff now : Int) (connected : Bool)
    (fault : Option Raised)
    (hkept : (OutboxStep.cycle index cutoff now connected fault).KeepsOrder worker outbox) :
    HeldInOrder index (outbox.cycle worker index cutoff now connected fault) := by
  rcases outbox.cycle_cases worker index cutoff now connected fault with
    hsame | ⟨hruns, hcycle⟩
  · rw [hsame]
    exact hin
  · have hkeeps := keepsEntry_claimedRow (worker index) cutoff now outbox.queue
    obtain ⟨hsorted, hbatch⟩ := claimedBatch_in_order (worker index) cutoff now hin.created
    have hheld : ((outbox.cycle worker index cutoff now connected fault).workers index).held =
        claimedBatch (worker index) cutoff now outbox.queue := by
      rw [hcycle]
      unfold Outbox.setWorker
      dsimp only
      rw [Function.update_self, WorkerPhase.held_next]
    have hqueue : (outbox.cycle worker index cutoff now connected fault).queue =
        outbox.queue.map (claimedRow (worker index) cutoff now outbox.queue) := by
      rw [hcycle]
      rfl
    refine ⟨?_, ?_, ?_, ?_⟩
    · rw [hqueue, List.pairwise_map]
      refine hin.created.imp fun hlt => ?_
      rw [hkeeps.createdAt, hkeeps.createdAt]
      exact hlt
    · intro record hrecord
      rw [hheld] at hrecord
      obtain ⟨⟨row, hrow, -, rfl⟩, -⟩ := hbatch record hrecord
      have hreleased := keepsEntry_released (worker index).staleLockSeconds cutoff
      refine ⟨_, ?_, (hkeeps.id row).trans (hreleased.id row).symm,
        (hkeeps.createdAt row).trans (hreleased.createdAt row).symm⟩
      rw [hqueue]
      exact List.mem_map_of_mem hrow
    · rw [hheld]
      exact hsorted
    · -- an open row before a claimed one was claimed with it, the cycle skips none
      intro record hrecord row hrow hprecedes hopen
      rw [hheld] at hrecord ⊢
      obtain ⟨⟨next, hnext, hisNext, rfl⟩, holder⟩ := hbatch record hrecord
      rw [hqueue] at hrow
      obtain ⟨old, hold, rfl⟩ := List.mem_map.mp hrow
      have hreleased := keepsEntry_released (worker index).staleLockSeconds cutoff
      have hprecedesOld : Precedes old next := by
        have hentityNext : (released (worker index).staleLockSeconds cutoff next).entityId =
            next.entityId := congrArg (·.entityId) (hreleased.entry next)
        have hentityOld : (claimedRow (worker index) cutoff now outbox.queue old).entityId =
            old.entityId := congrArg (·.entityId) (hkeeps.entry old)
        refine ⟨hentityOld.symm.trans (hprecedes.1.trans hentityNext), ?_⟩
        have hlt := hprecedes.2
        rw [hkeeps.createdAt] at hlt
        exact lt_of_lt_of_eq hlt (hreleased.createdAt next)
      rw [hkeeps.id]
      refine holder old hold ?_ (lt_of_lt_of_eq hprecedesOld.2 (hreleased.createdAt next).symm)
      exact hkept hruns next hnext hisNext old hold hprecedesOld
        (isOpen_of_claimedRow hids hold hopen)

/-! ## Marks and publishes -/

theorem HeldInOrder.setWorker (hin : HeldInOrder index outbox) {phase : WorkerPhase}
    (hphase : phase.held = (outbox.workers index).held) (published : List Publication) :
    HeldInOrder index ({ outbox with published := published }.setWorker index phase) := by
  have hheld : (({ outbox with published := published }.setWorker index phase).workers
      index).held = (outbox.workers index).held := by
    unfold Outbox.setWorker
    dsimp only
    rw [Function.update_self, hphase]
  refine ⟨hin.created, ?_, ?_, ?_⟩
  · rw [hheld]
    exact hin.records
  · rw [hheld]
    exact hin.sorted
  · rw [hheld]
    exact hin.earlier

/-- A worker marks the row of its first record and goes on with the rest. -/
theorem HeldInOrder.marked (hin : HeldInOrder index outbox) {record : SyncQueueRow}
    {verdict : Verdict} {rest : List SyncQueueRow}
    (hphase : outbox.workers index = .marking record verdict rest)
    {update : SyncQueueRow → SyncQueueRow} (hkeeps : KeepsEntry update) {after : Outbox}
    (hqueue : after.queue = outbox.queue.map (onRow record.id update))
    (hheld : (after.workers index).held = rest)
    (hclosed : ∀ later ∈ rest, ∀ row ∈ outbox.queue, row.id = record.id →
      Precedes row later → ¬ IsOpen (update row)) : HeldInOrder index after := by
  have hbefore : (outbox.workers index).held = record :: rest := by
    rw [hphase]
    rfl
  refine hin.shrink (keepsEntry_onRow hkeeps record.id) hqueue ?_ ?_
  · rw [hheld, hbefore]
    exact List.sublist_cons_self _ _
  · intro later hlater row hrow hprecedes hopen
    rw [hheld] at hlater
    unfold onRow at hopen
    split at hopen
    · rename_i hid
      exact absurd hopen (hclosed later hlater row hrow hid hprecedes)
    · rename_i hid
      refine ⟨hopen, fun hmem => ?_⟩
      rw [hbefore, List.map_cons] at hmem
      rw [hheld]
      exact (List.mem_cons.mp hmem).resolve_left hid

theorem HeldInOrder.mark (hsound : OutboxSound worker outbox) (hin : HeldInOrder index outbox)
    (now : Int) (backoff : Nat → Int) (fault : Option Raised)
    (hkept : (OutboxStep.mark index now backoff fault).KeepsOrder worker outbox) :
    HeldInOrder index (outbox.mark worker index now backoff fault) := by
  -- a worker that lets go of everything holds nothing out of order
  have hidle (after : Outbox) {update : SyncQueueRow → SyncQueueRow}
      (hkeeps : KeepsEntry update) (hqueue : after.queue = outbox.queue.map update)
      (hphase : after.workers index = .idle) : HeldInOrder index after := by
    refine hin.of_idle hkeeps hqueue ?_
    rw [hphase]
    rfl
  have hsame : KeepsEntry fun row => row := ⟨fun _ => rfl, fun _ => rfl, fun _ => rfl⟩
  unfold Outbox.mark
  split
  · -- the record goes out, or the publication raises
    rename_i record rest hphase
    split
    · refine hin.marked hphase keepsEntry_delivered rfl ?_ fun _ _ row _ _ _ => ?_
      · unfold Outbox.setWorker
        dsimp only
        rw [Function.update_self, WorkerPhase.held_next]
      · simp [IsOpen, delivered]
    · rename_i error
      refine hin.setWorker ?_ outbox.published
      rw [hphase]
      rfl
  · rename_i record error rest hphase
    unfold Outbox.markedFailed
    split
    · rename_i hfault
      refine hin.marked hphase (keepsEntry_failed _ _ _ _) rfl ?_
        fun later hlater row hrow hid hprecedes => ?_
      · unfold Outbox.setWorker
        dsimp only
        rw [Function.update_self, if_pos rfl, WorkerPhase.held_next]
      · -- the row is of the record's entity, so this failure gives it up
        obtain ⟨own, hown, hownId, hentry⟩ :=
          hsound.held index record (held_of_marking hphase).1
        have hsameRow : own = row :=
          List.inj_on_of_nodup_map hsound.ids hown hrow (hownId.trans hid.symm)
        have hentity : row.entityId = record.entityId :=
          congrArg (·.entityId) (hsameRow ▸ hentry)
        have hreached := hkept record error rest hphase hfault later hlater
          (hprecedes.1.symm.trans hentity) row hrow hid
        unfold failed
        dsimp only
        rw [if_pos hreached]
        simp [IsOpen]
    · exact hidle _ hsame (List.map_id' _).symm (Function.update_self _ _ _)
  · rename_i record error rest hphase
    unfold Outbox.markedFailed
    split
    · exact hidle _ (keepsEntry_onRow (keepsEntry_failed _ _ _ _) record.id) rfl
        (Function.update_self _ _ _)
    · exact hidle _ hsame (List.map_id' _).symm (Function.update_self _ _ _)
  · exact hin

/-- The first of the held records is preceded by no open row. -/
theorem HeldInOrder.inOrder (hids : (outbox.queue.map (·.id)).Nodup)
    (hin : HeldInOrder index outbox) (result : PublishResult) :
    (OutboxStep.publish index result).InOrder worker outbox := by
  intro record rest hphase _ row hrow hprecedes hopen
  have hheld : (outbox.workers index).held = record :: rest := by
    rw [hphase]
    rfl
  have hmem := hin.earlier record (hheld ▸ List.mem_cons_self) row hrow hprecedes hopen
  obtain ⟨other, hother, hid⟩ := List.mem_map.mp hmem
  obtain ⟨own, hown, hownId, hcreated⟩ := hin.records other hother
  have hsame : own = row :=
    List.inj_on_of_nodup_map hids hown hrow (hownId.trans hid)
  have hlt : other.createdAt < record.createdAt := by
    rw [← hcreated, hsame]
    exact hprecedes.2
  have hsorted := hin.sorted
  rw [hheld] at hother hsorted
  rcases List.mem_cons.mp hother with rfl | hlater
  · exact absurd hlt (lt_irrefl _)
  · exact absurd hlt ((List.pairwise_cons.mp hsorted).1 other hlater).asymm

/-! ## Runs -/

/-- A step of the worker that keeps the order sends no record ahead of an open row, and
what the worker holds is in order again. -/
theorem HeldInOrder.step (hsound : OutboxSound worker outbox) (hin : HeldInOrder index outbox)
    (step : OutboxStep) (hof : step.IsOf index) (hlater : step.IsLater outbox)
    (hkept : step.KeepsOrder worker outbox) :
    step.InOrder worker outbox ∧ HeldInOrder index (outbox.step worker step) := by
  have hsame : KeepsEntry fun row => row := ⟨fun _ => rfl, fun _ => rfl, fun _ => rfl⟩
  cases step with
  | enqueue id now entry => exact ⟨trivial, hin.enqueued id now entry hlater⟩
  | cycle other cutoff now connected fault =>
      cases hof
      exact ⟨trivial, hin.cycle hsound.ids cutoff now connected fault hkept⟩
  | publish other result =>
      cases hof
      refine ⟨hin.inOrder hsound.ids result, ?_⟩
      change HeldInOrder index (outbox.publish worker index result)
      unfold Outbox.publish
      split
      · rename_i record rest hphase
        refine hin.setWorker ?_ _
        rw [hphase]
        rfl
      · exact hin
  | mark other now backoff fault =>
      cases hof
      exact ⟨trivial, hin.mark hsound now backoff fault hkept⟩
  | crash other =>
      cases hof
      refine ⟨trivial, hin.of_idle hsame (List.map_id' _).symm ?_⟩
      change (Function.update outbox.workers index .idle index).held = []
      rw [Function.update_self]
      rfl
  | recover now =>
      refine ⟨trivial, hin.shrink (keepsEntry_released 60 now) rfl (List.Sublist.refl _) ?_⟩
      intro record _ row _ _ hopen
      refine ⟨?_, fun hmem => hmem⟩
      unfold released at hopen
      split at hopen
      · rename_i hstale
        exact Or.inr hstale.1
      · exact hopen

end

/-- What the order rests on. -/
def SoundInOrder (worker : Nat → SyncWorker) (index : Nat) (outbox : Outbox) : Prop :=
  OutboxSound worker outbox ∧ HeldInOrder index outbox

theorem soundInOrder_of_empty (worker : Nat → SyncWorker) (index : Nat) {db : Database}
    (hempty : db.syncQueue = []) : SoundInOrder worker index { db := db } := by
  refine ⟨outboxSound_of_empty worker hempty, ?_, fun _ hrecord => ?_, List.Pairwise.nil,
    fun _ hrecord => ?_⟩
  · have hqueue : Outbox.queue { db := db } = [] := hempty
    rw [hqueue]
    exact List.Pairwise.nil
  · exact absurd hrecord List.not_mem_nil
  · exact absurd hrecord List.not_mem_nil

/-- What the steps of one worker do in a run in which rows are created one after another. -/
def OutboxStep.KeepsOrderOf (worker : Nat → SyncWorker) (index : Nat) (outbox : Outbox)
    (step : OutboxStep) : Prop :=
  step.IsOf index ∧ step.IsLater outbox ∧ step.KeepsOrder worker outbox

/-- One worker that starts on an empty queue, in a run in which rows are created one after
another: if no row of an entity waits while a younger one is claimed, and no failed row
leaves a younger one of its entity in the batch, then no publish succeeds for a record
that an open row of its entity precedes. -/
theorem entity_in_order (worker : Nat → SyncWorker) (index : Nat) (db : Database)
    (hempty : db.syncQueue = []) (steps : List OutboxStep)
    (hof : ∀ step ∈ steps, step.IsOf index)
    (hlater : Along (Outbox.step worker) (fun outbox step => step.IsLater outbox)
      { db := db } steps)
    (hkept : Along (Outbox.step worker) (fun outbox step => step.KeepsOrder worker outbox)
      { db := db } steps) :
    Along (Outbox.step worker) (fun outbox step => step.InOrder worker outbox)
      { db := db } steps := by
  have hsteps : Along (Outbox.step worker)
      (fun outbox step => step.KeepsOrderOf worker index outbox) { db := db } steps :=
    along_and.mpr ⟨along_of_forall fun step hstep _ => hof step hstep,
      along_and.mpr ⟨hlater, hkept⟩⟩
  refine along_of_invariant (fun outbox step hboth hstep => ?_)
    (soundInOrder_of_empty worker index hempty) hsteps
  obtain ⟨hofStep, hlaterStep, hkeptStep⟩ := hstep
  obtain ⟨hinOrder, hnext⟩ := hboth.2.step hboth.1 step hofStep hlaterStep hkeptStep
  exact ⟨hinOrder, (hboth.1.step step).1, hnext⟩

/-- A fill of the sale. -/
def filledEntry (transactionUuid : String) : SyncEntry where
  entityType := "transaction"
  entityId := transactionUuid
  eventType := .FILLING_UPDATED
  payload := .fillingUpdated ⟨transactionUuid, "S1", "pump-1", 5, some 2, 7, some 2, "LAB", true⟩
  deduplicationKey := "fill:" ++ transactionUuid

/-- The start of a sale, the start of another one and a fill of the first are claimed
together.  The other start fails, and is sent by the next cycle. -/
def sentInOrder : List OutboxStep :=
  [.enqueue "q-1" 0 (startedEntry "t-1"), .enqueue "q-2" 1 (startedEntry "t-2"),
    .enqueue "q-3" 2 (filledEntry "t-1"), .cycle 0 3 3 true none, .publish 0 (.returned true),
    .mark 0 4 (fun _ => 0) none, .publish 0 (.mqttError "timed out"),
    .mark 0 5 (fun _ => 1) none, .publish 0 (.returned true), .mark 0 6 (fun _ => 0) none,
    .cycle 0 7 7 true none, .publish 0 (.returned true), .mark 0 8 (fun _ => 0) none]

theorem entity_in_order_sent :
    (sentInOrder.foldl (Outbox.step fun _ => labWorker) { db := {} }).published.map (·.itemId) =
        ["q-1", "q-3", "q-2"] ∧
      Along (Outbox.step fun _ => labWorker)
        (fun outbox step => step.InOrder (fun _ => labWorker) outbox) { db := {} }
        sentInOrder :=
  ⟨by decide +kernel, entity_in_order (fun _ => labWorker) 0 {} rfl sentInOrder (by decide)
    (by decide +kernel) (by decide +kernel)⟩

/-- The start of a sale and a fill are claimed together, and the publish of the start
fails. -/
def startFailed : List OutboxStep :=
  [.enqueue "q-1" 0 (startedEntry "t-1"), .enqueue "q-2" 1 (filledEntry "t-1"),
    .cycle 0 2 2 true none, .publish 0 (.mqttError "timed out"), .mark 0 3 (fun _ => 1) none]

theorem entity_not_in_order :
    ¬ ∀ (worker : Nat → SyncWorker) (index : Nat) (db : Database), db.syncQueue = [] →
      ∀ steps : List OutboxStep, (∀ step ∈ steps, step.IsOf index) →
        Along (Outbox.step worker) (fun outbox step => step.IsLater outbox)
          { db := db } steps →
        Along (Outbox.step worker) (fun outbox step => step.InOrder worker outbox)
          { db := db } steps := by
  intro hall
  have halong := hall (fun _ => labWorker) 0 {} rfl
    (startFailed ++ [.publish 0 (.returned true)]) ?_ ?_
  · obtain ⟨hinOrder, -⟩ := (along_append.mp halong).2
    refine hinOrder (claimed 2 (newRow "q-2" 1 (filledEntry "t-1"))) [] (by decide +kernel)
      (by decide +kernel)
      (failed "timed out" 1 20 3 (claimed 2 (newRow "q-1" 0 (startedEntry "t-1"))))
      (by decide +kernel) (by decide +kernel) (by decide +kernel)
  · intro step hstep
    simp only [startFailed, List.cons_append, List.nil_append, List.mem_cons,
      List.not_mem_nil, or_false] at hstep
    rcases hstep with rfl | rfl | rfl | rfl | rfl | rfl
    · trivial
    · trivial
    · rfl
    · rfl
    · rfl
    · rfl
  · refine ⟨fun _ hrow => absurd hrow List.not_mem_nil, fun row hrow => ?_, trivial, trivial,
      trivial, trivial, trivial⟩
    obtain rfl := List.mem_singleton.mp hrow
    decide

end Cloud
end Intelipump
