import Mathlib.Algebra.Order.Group.Int
import Mathlib.Order.Lattice
import Intelipump.Foundation.ReportedMaximum
import Intelipump.Foundation.Runs
import Intelipump.Services.LedgerCoupling

namespace Intelipump
namespace Services

open Foundation.ReportedMaximum
open Foundation.Runs
open Foundation.StateEffect
open Foundation.Tables
open Persistence
open TransactionService
open TransactionRepository (getByUuid getByCompletionKey IsClosed)

/-!
# What the cloud is told of a sale

The row of a sale keeps the largest volume and amount that updates brought.  A
published update tells the values of its request instead, so that what the
cloud is told agrees with the ledger as long as published updates bring no less
than the row has and no more than the completion told.
-/

/-- Volume and amount of a sale. -/
abbrev Amounts := Int × Int

def rowAmounts (row : TransactionRow) : Amounts := (row.rawVolume, row.rawAmount)

def updateAmounts (req : FillingUpdateRequest) : Amounts := (req.rawVolume, req.rawAmount)

/-- What a filling update of a transaction tells. -/
def fillingTold (uuid : String) (row : SyncQueueRow) : Option Amounts :=
  match row.payload with
  | .fillingUpdated payload =>
      if payload.transactionUuid = uuid then some (payload.rawVolume, payload.rawAmount)
      else none
  | _ => none

/-- What the completion of a transaction tells. -/
def completionTold (uuid : String) (row : SyncQueueRow) : Option Amounts :=
  match row.payload with
  | .transactionCompleted payload =>
      if payload.transactionUuid = uuid then some (payload.rawVolume, payload.rawAmount)
      else none
  | _ => none

/-- The stored values of a transaction beside what the queue tells of it, in the order
of the queue. -/
def saleReports (uuid : String) (db : Database) : Reported Amounts where
  stored := (getByUuid uuid db).map rowAmounts
  reports := db.syncQueue.filterMap (fillingTold uuid)
  finals := db.syncQueue.filterMap (completionTold uuid)

variable {uuid : String} {env : Env} {db : Database}

/-- An entry that is offered to the queue is told, unless its key is there. -/
theorem filterMap_offered (told : SyncQueueRow → Option Amounts)
    (entry : SyncQueueRepository.SyncEntry) (queue : List SyncQueueRow) :
    (offered env entry queue).filterMap told =
      if entry.deduplicationKey ∈ queue.map (·.deduplicationKey) then queue.filterMap told
      else queue.filterMap told ++ (told (queueRow env entry)).toList := by
  unfold offered
  split
  · rename_i hold
    rw [insertNew_of_mem hold]
  · rename_i hnew
    rw [insertNew_of_notMem hnew, List.filterMap_append]
    cases htold : told (queueRow env entry) with
    | none => rw [List.filterMap_cons_none htold]; rfl
    | some amounts => rw [List.filterMap_cons_some htold]; rfl

/-- An entry that tells nothing of a transaction is not seen in it. -/
theorem filterMap_offered_none {told : SyncQueueRow → Option Amounts}
    {entry : SyncQueueRepository.SyncEntry} (hnone : told (queueRow env entry) = none)
    (queue : List SyncQueueRow) :
    (offered env entry queue).filterMap told = queue.filterMap told := by
  rw [filterMap_offered, hnone, Option.toList_none, List.append_nil, ite_self]

/-! ## What a call does to the reports -/

theorem saleReports_begun (req : BeginTransactionRequest)
    (hnew : getByUuid req.transactionUuid db = none) :
    saleReports uuid (begunDb env req db) =
      if req.transactionUuid = uuid then (saleReports uuid db).start (0, 0)
      else saleReports uuid db := by
  have hqueue : ∀ told, told (queueRow env (startedEntry (newTransaction env req))) = none →
      (begunDb env req db).syncQueue.filterMap told = db.syncQueue.filterMap told :=
    fun told hnone => filterMap_offered_none hnone db.syncQueue
  have hrow : getByUuid uuid (begunDb env req db) =
      (getByUuid uuid db).or
        (if req.transactionUuid = uuid then some (newTransaction env req) else none) := by
    change (db.transactions ++ [newTransaction env req]).find? _ = _
    rw [List.find?_append]
    congr 1
    by_cases hsame : req.transactionUuid = uuid
    · rw [if_pos hsame]
      exact List.find?_cons_of_pos (decide_eq_true hsame)
    · have hother : ¬ decide ((newTransaction env req).transactionUuid = uuid) = true :=
        fun h => hsame (of_decide_eq_true h)
      rw [if_neg hsame]
      exact List.find?_cons_of_neg hother
  unfold saleReports
  rw [hqueue _ rfl, hqueue _ rfl, hrow]
  split
  · rename_i hsame
    subst hsame
    unfold Reported.start
    rw [hnew]
    rfl
  · rw [Option.or_none]

/-- Looking a transaction up after a row of it was written back. -/
theorem stored_write {uuid' : String} {row tx : TransactionRow}
    (hrow : getByUuid uuid' db = some row) (htx : tx.transactionUuid = row.transactionUuid) :
    (getByUuid uuid (TransactionRepository.write tx db)).map rowAmounts =
      if uuid' = uuid then some (rowAmounts tx) else (getByUuid uuid db).map rowAmounts := by
  have huuid := transactionUuid_of_getByUuid hrow
  have hold : getByUuid tx.transactionUuid db = some row := by
    rw [htx, huuid, hrow]
  rw [getByUuid_write hold, htx, huuid]
  split
  · rfl
  · rfl

theorem saleReports_filled {req : FillingUpdateRequest} {row : TransactionRow}
    (hrow : getByUuid req.transactionUuid db = some row) (publish : Bool) :
    saleReports uuid (filledDb env req row publish db) =
      if req.transactionUuid = uuid then
        (saleReports uuid db).report (updateAmounts req)
          (publish && decide (fillKey req.transactionUuid req.rawVolume req.rawAmount ∉
            db.syncQueue.map (·.deduplicationKey)))
      else saleReports uuid db := by
  have huuid := transactionUuid_of_getByUuid hrow
  have hstored : (getByUuid uuid (filledDb env req row publish db)).map rowAmounts =
      if req.transactionUuid = uuid then some (rowAmounts (filledRow req row))
      else (getByUuid uuid db).map rowAmounts := stored_write hrow rfl
  have hqueue : (filledDb env req row publish db).syncQueue =
      if publish then offered env (fillingEntry db (filledRow req row) req) db.syncQueue
      else db.syncQueue := rfl
  have hkey : (fillingEntry db (filledRow req row) req).deduplicationKey =
      fillKey req.transactionUuid req.rawVolume req.rawAmount := by
    rw [← huuid]
    rfl
  have hfinals : (filledDb env req row publish db).syncQueue.filterMap (completionTold uuid) =
      db.syncQueue.filterMap (completionTold uuid) := by
    rw [hqueue]
    split
    · exact filterMap_offered_none rfl db.syncQueue
    · rfl
  have htold : fillingTold uuid (queueRow env (fillingEntry db (filledRow req row) req)) =
      if req.transactionUuid = uuid then some (updateAmounts req) else none := by
    change (if row.transactionUuid = uuid then _ else _) = _
    rw [huuid]
    rfl
  unfold saleReports
  rw [hfinals, hqueue, hstored]
  by_cases hsame : req.transactionUuid = uuid
  · rw [if_pos hsame] at htold ⊢
    rw [if_pos hsame]
    unfold Reported.report
    subst hsame
    rw [hrow]
    cases publish with
    | false => rfl
    | true =>
        rw [if_pos rfl, filterMap_offered, htold, hkey]
        by_cases hqueued : fillKey req.transactionUuid req.rawVolume req.rawAmount ∈
            db.syncQueue.map (·.deduplicationKey)
        · simp only [hqueued, not_true_eq_false, decide_false, Bool.and_false,
            Bool.false_eq_true, if_false]
          rfl
        · simp only [hqueued, not_false_eq_true, decide_true, Bool.and_true,
            if_true]
          rfl
  · rw [if_neg hsame] at htold ⊢
    rw [if_neg hsame]
    congr 1
    split
    · exact filterMap_offered_none htold db.syncQueue
    · rfl

theorem saleReports_closed {req : CompleteTransactionRequest} {row : TransactionRow}
    (hrow : getByUuid req.transactionUuid db = some row) :
    saleReports uuid (closedDb env req row db) =
      if req.transactionUuid = uuid then
        (saleReports uuid db).close (req.rawVolume, req.rawAmount)
          (decide ("tx-completed:" ++ req.sourceCompletionKey ∉
            db.syncQueue.map (·.deduplicationKey)))
      else saleReports uuid db := by
  have huuid := transactionUuid_of_getByUuid hrow
  have hstored : (getByUuid uuid (closedDb env req row db)).map rowAmounts =
      if req.transactionUuid = uuid then some (rowAmounts (closedRow env req row))
      else (getByUuid uuid db).map rowAmounts := stored_write hrow rfl
  have hqueue : (closedDb env req row db).syncQueue =
      offered env (completedEntry db (closedRow env req row) req.sourceCompletionKey)
        db.syncQueue := rfl
  have hkey : (completedEntry db (closedRow env req row)
      req.sourceCompletionKey).deduplicationKey =
        "tx-completed:" ++ req.sourceCompletionKey := rfl
  have htold : completionTold uuid (queueRow env (completedEntry db (closedRow env req row)
      req.sourceCompletionKey)) =
        if req.transactionUuid = uuid then some (rowAmounts (closedRow env req row))
        else none := by
    change (if row.transactionUuid = uuid then _ else _) = _
    rw [huuid]
    rfl
  unfold saleReports
  rw [hqueue, filterMap_offered_none rfl, hstored]
  by_cases hsame : req.transactionUuid = uuid
  · rw [if_pos hsame] at htold ⊢
    rw [if_pos hsame, filterMap_offered, htold, hkey]
    unfold Reported.close
    subst hsame
    rw [hrow]
    by_cases hqueued : "tx-completed:" ++ req.sourceCompletionKey ∈
        db.syncQueue.map (·.deduplicationKey)
    · simp only [hqueued, not_true_eq_false, decide_false,
        Bool.false_eq_true, if_false]
      rfl
    · simp only [hqueued, not_false_eq_true, decide_true, if_true]
      rfl
  · rw [if_neg hsame] at htold ⊢
    rw [if_neg hsame, filterMap_offered_none htold]

/-! ## One unit of work -/

/-- What the queue tells of every transaction rises and is not above its completion. -/
def FillsAgree (db : Database) : Prop := ∀ uuid, (saleReports uuid db).Agrees

/-- What the unit adds to the reports of a transaction are its stored values. -/
def TellsStored (process : Process) (unit : LedgerUnit) : Prop :=
  ∀ uuid added, (saleReports uuid (unit.run process).db).reports =
      (saleReports uuid process.db).reports ++ added →
    ∀ told ∈ added, (saleReports uuid (unit.run process).db).stored = some told

/-- An update that commits, passes the throttle and is not queued yet brings no less than
the row has, and no more than a completion of the transaction told. -/
def BringsStored (process : Process) (unit : LedgerUnit) : Prop :=
  unit.commitFails = true ∨
    match unit.call with
    | .updateFilling req =>
        ∀ row ∈ getByUuid req.transactionUuid process.db,
          Publishes unit.env process req = true →
          fillKey req.transactionUuid req.rawVolume req.rawAmount ∉
            process.db.syncQueue.map (·.deduplicationKey) →
          rowAmounts row ≤ updateAmounts req ∧
            ∀ sold ∈ (saleReports req.transactionUuid process.db).finals,
              updateAmounts req ≤ sold
    | _ => True

/-- No report of a transaction is above its stored values. -/
def FillsCovered (db : Database) : Prop := ∀ uuid, (saleReports uuid db).Covered

variable {process : Process}

theorem LedgerOutcome.covered {call : LedgerCall} {after : Database}
    (houtcome : LedgerOutcome env process call after) (hcovered : FillsCovered process.db) :
    FillsCovered after := by
  intro uuid
  have hbefore := hcovered uuid
  cases houtcome with
  | nothing => exact hbefore
  | begun req hnew hid =>
      rw [saleReports_begun req hnew]
      split
      · exact hbefore.start
      · exact hbefore
  | filled req row hrow =>
      rw [saleReports_filled hrow]
      split
      · rename_i hsame
        subst hsame
        have hstored : (saleReports req.transactionUuid process.db).stored =
            some (rowAmounts row) := by
          unfold saleReports
          rw [hrow, Option.map_some]
        exact hbefore.report hstored _
      · exact hbefore
  | closed req row hkey hrow hopen =>
      rw [saleReports_closed hrow]
      split
      · exact hbefore.close _
      · exact hbefore

/-- A unit that adds no report tells nothing else than stored values. -/
theorem tellsStored_of_same {unit : LedgerUnit}
    (hsame : ∀ uuid, (saleReports uuid (unit.run process).db).reports =
      (saleReports uuid process.db).reports) : TellsStored process unit := by
  intro uuid added hadded told htold
  rw [hsame, List.self_eq_append_right] at hadded
  rw [hadded] at htold
  exact absurd htold List.not_mem_nil

/-- A call that is no update leaves the agreement, and tells nothing of a filling. -/
theorem LedgerOutcome.agrees {call : LedgerCall} {after : Database}
    (houtcome : LedgerOutcome env process call after) (hagrees : FillsAgree process.db)
    (hcovered : FillsCovered process.db) (hcall : ∀ req, call ≠ .updateFilling req)
    (uuid : String) :
    (saleReports uuid after).Agrees ∧
      (saleReports uuid after).reports = (saleReports uuid process.db).reports := by
  cases houtcome with
  | nothing => exact ⟨hagrees uuid, rfl⟩
  | begun req hnew hid =>
      rw [saleReports_begun req hnew]
      split
      · exact ⟨(hagrees uuid).start, rfl⟩
      · exact ⟨hagrees uuid, rfl⟩
  | filled req row hrow => exact absurd rfl (hcall req)
  | closed req row hkey hrow hopen =>
      rw [saleReports_closed hrow]
      split
      · exact ⟨(hagrees uuid).close (hcovered uuid) _, rfl⟩
      · exact ⟨hagrees uuid, rfl⟩

/-- The database after an update in its unit. -/
theorem db_updateFilling (env : Env) (req : FillingUpdateRequest) (commitFails : Bool) :
    (LedgerUnit.run ⟨env, .updateFilling req, commitFails⟩ process).db =
      if commitFails then process.db
      else
        match getByUuid req.transactionUuid process.db with
        | none => process.db
        | some row => filledDb env req row (Publishes env process req) process.db := by
  cases commitFails with
  | true => rfl
  | false =>
      unfold LedgerUnit.run unitOfWork
      dsimp only
      cases hrow : getByUuid req.transactionUuid process.db with
      | none =>
          have hrun : LedgerCall.run env (.updateFilling req) process = .ok () process := by
            unfold LedgerCall.run
            dsimp only
            rw [bind_ok (updateFilling_unknown env hrow)]
            rfl
          rw [hrun]
          rfl
      | some row =>
          obtain ⟨book, hfilled⟩ := updateFilling_known env hrow
          have hrun : LedgerCall.run env (.updateFilling req) process = .ok ()
              { process with
                db := filledDb env req row (Publishes env process req) process.db
                fillBook := book } := by
            unfold LedgerCall.run
            dsimp only
            rw [bind_ok hfilled]
            rfl
          rw [hrun]
          rfl

/-- A unit that leaves all reports as they are keeps the agreement. -/
theorem agree_of_quiet {unit : LedgerUnit} (hagrees : ∀ uuid,
    (saleReports uuid (unit.run process).db).Agrees ∧
      (saleReports uuid (unit.run process).db).reports =
        (saleReports uuid process.db).reports) :
    FillsAgree (unit.run process).db ∧ TellsStored process unit :=
  ⟨fun uuid => (hagrees uuid).1, tellsStored_of_same fun uuid => (hagrees uuid).2⟩

/-- An update of a known transaction that commits. -/
theorem saleReports_updated {req : FillingUpdateRequest} {row : TransactionRow}
    (hrow : getByUuid req.transactionUuid process.db = some row) :
    saleReports uuid (LedgerUnit.run ⟨env, .updateFilling req, false⟩ process).db =
      if req.transactionUuid = uuid then
        (saleReports uuid process.db).report (updateAmounts req)
          (Publishes env process req &&
            decide (fillKey req.transactionUuid req.rawVolume req.rawAmount ∉
              process.db.syncQueue.map (·.deduplicationKey)))
      else saleReports uuid process.db := by
  have hdb : (LedgerUnit.run ⟨env, .updateFilling req, false⟩ process).db =
      filledDb env req row (Publishes env process req) process.db := by
    rw [db_updateFilling, hrow]
    rfl
  rw [hdb, saleReports_filled hrow]

/-- Such an update that is queued. -/
theorem update_told_iff (hagrees : FillsAgree process.db)
    (hcovered : FillsCovered process.db) {req : FillingUpdateRequest} {row : TransactionRow}
    (hrow : getByUuid req.transactionUuid process.db = some row)
    (hpublishes : Publishes env process req = true)
    (hnew : fillKey req.transactionUuid req.rawVolume req.rawAmount ∉
      process.db.syncQueue.map (·.deduplicationKey)) :
    FillsAgree (LedgerUnit.run ⟨env, .updateFilling req, false⟩ process).db ∧
        TellsStored process ⟨env, .updateFilling req, false⟩ ↔
      rowAmounts row ≤ updateAmounts req ∧
        ∀ sold ∈ (saleReports req.transactionUuid process.db).finals,
          updateAmounts req ≤ sold := by
  have hstored : (saleReports req.transactionUuid process.db).stored =
      some (rowAmounts row) := by
    unfold saleReports
    rw [hrow, Option.map_some]
  have hview : ∀ uuid,
      saleReports uuid (LedgerUnit.run ⟨env, .updateFilling req, false⟩ process).db =
        if req.transactionUuid = uuid then
          (saleReports uuid process.db).report (updateAmounts req) true
        else saleReports uuid process.db := by
    intro uuid
    rw [saleReports_updated hrow, hpublishes, decide_eq_true hnew]
    rfl
  have hown := hview req.transactionUuid
  rw [if_pos rfl] at hown
  rw [← Reported.agrees_report_true_iff (hagrees req.transactionUuid)
    (hcovered req.transactionUuid) hstored, ← hown]
  constructor
  · rintro ⟨hlater, htells⟩
    refine ⟨hlater req.transactionUuid,
      htells req.transactionUuid [updateAmounts req] ?_ _ (List.mem_singleton_self _)⟩
    rw [hown]
    rfl
  · rintro ⟨hlater, htold⟩
    refine ⟨fun uuid => ?_, fun uuid added hadded told hmember => ?_⟩
    · by_cases hsame : req.transactionUuid = uuid
      · exact hsame ▸ hlater
      · rw [hview, if_neg hsame]
        exact hagrees uuid
    · by_cases hsame : req.transactionUuid = uuid
      · subst hsame
        have hone : [updateAmounts req] = added := by
          rw [hown] at hadded
          exact List.append_cancel_left hadded
        rw [← hone, List.mem_singleton] at hmember
        rw [hmember, htold]
      · rw [hview, if_neg hsame, List.self_eq_append_right] at hadded
        rw [hadded] at hmember
        exact absurd hmember List.not_mem_nil

theorem update_agrees_iff (hagrees : FillsAgree process.db)
    (hcovered : FillsCovered process.db) {req : FillingUpdateRequest} {row : TransactionRow}
    (hrow : getByUuid req.transactionUuid process.db = some row) :
    FillsAgree (LedgerUnit.run ⟨env, .updateFilling req, false⟩ process).db ∧
        TellsStored process ⟨env, .updateFilling req, false⟩ ↔
      (Publishes env process req = true →
        fillKey req.transactionUuid req.rawVolume req.rawAmount ∉
          process.db.syncQueue.map (·.deduplicationKey) →
        rowAmounts row ≤ updateAmounts req ∧
          ∀ sold ∈ (saleReports req.transactionUuid process.db).finals,
            updateAmounts req ≤ sold) := by
  by_cases hsent : Publishes env process req = true ∧
      fillKey req.transactionUuid req.rawVolume req.rawAmount ∉
        process.db.syncQueue.map (·.deduplicationKey)
  · obtain ⟨hpublishes, hnew⟩ := hsent
    rw [forall_prop_of_true hpublishes, forall_prop_of_true hnew]
    exact update_told_iff hagrees hcovered hrow hpublishes hnew
  · -- nothing is queued
    refine iff_of_true (agree_of_quiet fun uuid => ?_) fun hpublishes hnew =>
      absurd ⟨hpublishes, hnew⟩ hsent
    have hsilent : (Publishes env process req &&
        decide (fillKey req.transactionUuid req.rawVolume req.rawAmount ∉
          process.db.syncQueue.map (·.deduplicationKey))) = false := by
      rw [Bool.eq_false_iff, ne_eq, Bool.and_eq_true, decide_eq_true_iff]
      exact hsent
    rw [saleReports_updated hrow, hsilent]
    split
    · exact ⟨Reported.agrees_report_false (hagrees uuid), rfl⟩
    · exact ⟨hagrees uuid, rfl⟩

/-- A unit keeps the agreement and tells stored values exactly when it brings such. -/
theorem unit_agrees_iff (hagrees : FillsAgree process.db) (hcovered : FillsCovered process.db)
    (unit : LedgerUnit) :
    FillsAgree (unit.run process).db ∧ TellsStored process unit ↔
      BringsStored process unit := by
  have hkept : (unit.run process).db = process.db →
      FillsAgree (unit.run process).db ∧ TellsStored process unit := by
    intro hsame
    refine agree_of_quiet fun uuid => ?_
    rw [hsame]
    exact ⟨hagrees uuid, rfl⟩
  obtain ⟨env, call, commitFails⟩ := unit
  cases call with
  | begin req =>
      refine iff_of_true (agree_of_quiet fun uuid => ?_) (Or.inr trivial)
      exact (LedgerUnit.outcome _ process).agrees hagrees hcovered
        (fun _ h => LedgerCall.noConfusion h) uuid
  | complete req =>
      refine iff_of_true (agree_of_quiet fun uuid => ?_) (Or.inr trivial)
      exact (LedgerUnit.outcome _ process).agrees hagrees hcovered
        (fun _ h => LedgerCall.noConfusion h) uuid
  | updateFilling req =>
      cases commitFails with
      | true =>
          refine iff_of_true (hkept ?_) (Or.inl rfl)
          rw [db_updateFilling]
          rfl
      | false =>
          unfold BringsStored
          rw [or_iff_right Bool.false_ne_true]
          cases hrow : getByUuid req.transactionUuid process.db with
          | none =>
              refine iff_of_true (hkept ?_) fun row hmember => ?_
              · rw [db_updateFilling, hrow]
                rfl
              · rw [hrow] at hmember
                exact absurd hmember (Option.not_mem_none row)
          | some row =>
              rw [update_agrees_iff hagrees hcovered hrow]
              simp only [Option.mem_def, hrow, Option.some.injEq, forall_eq']

/-! ## Runs -/

theorem FillsCovered.run (hcovered : FillsCovered process.db) (unit : LedgerUnit) :
    FillsCovered (unit.run process).db :=
  (unit.outcome process).covered hcovered

theorem fillsCovered_runUnits (hcovered : FillsCovered process.db) (units : List LedgerUnit) :
    FillsCovered (runUnits process units).db := by
  induction units generalizing process with
  | nil => exact hcovered
  | cons unit rest ih => exact ih (hcovered.run unit)

/-- In every run of begin, update and complete calls, some of them rolled back, the
queued updates of each transaction rise, tell its stored values and stay below its
completion exactly when every published update brings stored values. -/
theorem fill_reports_agree_iff {start : Process} (hempty : start.LedgerEmpty)
    (units : List LedgerUnit) :
    (∀ earlier, earlier <+: units → FillsAgree (runUnits start earlier).db) ∧
        Along (fun process unit => unit.run process) TellsStored start units ↔
      Along (fun process unit => unit.run process) BringsStored start units := by
  have hstart : ∀ uuid, saleReports uuid start.db = {} := by
    intro uuid
    unfold saleReports getByUuid
    rw [hempty.1, hempty.2.2]
    rfl
  have hagrees : FillsAgree start.db := by
    intro uuid
    rw [hstart uuid]
    exact ⟨.nil, fun _ h => absurd h List.not_mem_nil⟩
  have hcovered : FillsCovered start.db := by
    intro uuid
    rw [hstart uuid]
    exact fun _ h => absurd h List.not_mem_nil
  have hstep : ∀ (process : Process) (unit : LedgerUnit),
      FillsAgree process.db ∧ FillsCovered process.db →
        ((FillsAgree (unit.run process).db ∧ FillsCovered (unit.run process).db) ∧
          TellsStored process unit ↔ BringsStored process unit) := by
    intro process unit hprocess
    rw [and_iff_left (hprocess.2.run unit)]
    exact unit_agrees_iff hprocess.1 hprocess.2 unit
  have hrule : ((∀ earlier, earlier <+: units →
      FillsAgree (runUnits start earlier).db ∧ FillsCovered (runUnits start earlier).db) ∧
        Along (fun process unit => unit.run process) TellsStored start units) ↔
      Along (fun process unit => unit.run process) BringsStored start units :=
    forall_prefix_and_along_iff hstep ⟨hagrees, hcovered⟩
  rw [← hrule]
  refine and_congr_left fun _ => forall₂_congr fun earlier _ => ?_
  exact (and_iff_left (fillsCovered_runUnits hcovered earlier)).symm

instance decidableBringsStored (process : Process) :
    ∀ unit, Decidable (BringsStored process unit)
  | ⟨_, .begin _, _⟩ => isTrue (Or.inr trivial)
  | ⟨_, .complete _, _⟩ => isTrue (Or.inr trivial)
  | ⟨env, .updateFilling req, commitFails⟩ =>
      inferInstanceAs (Decidable (commitFails = true ∨
        ∀ row ∈ getByUuid req.transactionUuid process.db,
          Publishes env process req = true →
          fillKey req.transactionUuid req.rawVolume req.rawAmount ∉
            process.db.syncQueue.map (·.deduplicationKey) →
          rowAmounts row ≤ updateAmounts req ∧
            ∀ sold ∈ (saleReports req.transactionUuid process.db).finals,
              updateAmounts req ≤ sold))

/-- A process that throttles the updates it publishes. -/
def throttled : Process := { fillBook := some {} }

def saleBegin : LedgerUnit :=
  ⟨numberedEnv 1, .begin ⟨"S1", "db-1", "sale", some 1, none, none, none, none, true, "LAB",
    none⟩, false⟩

/-- An update of the sale, in the unit with the number. -/
def saleUpdate (number : Nat) (volume amount : Int) : LedgerUnit :=
  ⟨numberedEnv number, .updateFilling ⟨"sale", volume, amount, none,
    some (fillKey "sale" volume amount), none⟩, false⟩

def saleComplete (number : Nat) (volume amount : Int) : LedgerUnit :=
  ⟨numberedEnv number, .complete ⟨"sale", "frame-1", volume, amount, none, none⟩, false⟩

theorem fill_reports_agree_rising :
    (saleReports "sale" (runUnits throttled [saleBegin, saleUpdate 2 500 900,
      saleUpdate 3 700 1260, saleComplete 4 700 1260]).db).reports =
        [(500, 900), (700, 1260)] ∧
      Along (fun process unit => unit.run process) TellsStored throttled
        [saleBegin, saleUpdate 2 500 900, saleUpdate 3 700 1260, saleComplete 4 700 1260] :=
  ⟨by decide +kernel, ((fill_reports_agree_iff ⟨rfl, rfl, rfl⟩ _).mpr (by decide +kernel)).2⟩

/-- The sale after updates that came in the wrong order, and one after the completion. -/
def disordered : Process :=
  runUnits throttled [saleBegin, saleUpdate 2 700 1260, saleUpdate 3 500 900,
    saleComplete 4 700 1260, saleUpdate 5 900 1620]

/-- An update below the row is published as it came in, and one after the completion too. -/
theorem fill_reports_fall :
    saleReports "sale" disordered.db = {
      stored := some (900, 1620)
      reports := [(700, 1260), (500, 900), (900, 1620)]
      finals := [(700, 1260)] } ∧ ¬ FillsAgree disordered.db := by
  have hview : saleReports "sale" disordered.db = {
      stored := some (900, 1620)
      reports := [(700, 1260), (500, 900), (900, 1620)]
      finals := [(700, 1260)] } := by decide +kernel
  refine ⟨hview, fun hagrees => ?_⟩
  have hrising := (hagrees "sale").rising
  rw [hview] at hrising
  exact absurd hrising (by decide)

end Services
end Intelipump
