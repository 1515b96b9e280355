import Mathlib.Tactic.Common
import Intelipump.Foundation.Runs
import Intelipump.Services.LedgerSteps

namespace Intelipump
namespace Services

open Controller
open Dart.Line
open Domain
open Foundation.Runs
open Foundation.StateEffect
open Foundation.Tables
open Persistence
open TransactionService
open PersistenceBridge
open TransactionRepository (getByUuid getByCompletionKey IsClosed)

/-!
# A completed sale

What the cloud was told about a completed sale is compared with its row
(`Frozen`).  A later call can still write to the row or publish an update;
`Spares` says which calls do neither, and a sale stays frozen exactly as long as
every call spares it (`completed_sale_frozen_iff`).
-/

/-! ## The two views of a sale -/

/-- The data that a completed sale is settled with. -/
structure SaleView where
  status : TransactionStatus
  rawVolume : Int
  rawAmount : Int
  rawPrice : Option Int
  completionKey : Option String
deriving DecidableEq, Repr

def rowView (row : TransactionRow) : SaleView where
  status := row.status
  rawVolume := row.rawVolume
  rawAmount := row.rawAmount
  rawPrice := row.rawPrice
  completionKey := row.sourceCompletionKey

/-- What a queue row tells about a completed sale. -/
def payloadView : SyncPayload → Option SaleView
  | .transactionCompleted payload => some {
      status := payload.finalStatus
      rawVolume := payload.rawVolume
      rawAmount := payload.rawAmount
      rawPrice := payload.rawUnitPrice
      completionKey := some payload.sourceCompletionKey }
  | _ => none

/-- The queue rows of one type for one transaction. -/
def queuedFor (type : SyncEventType) (uuid : String) (queue : List SyncQueueRow) :
    List SyncQueueRow :=
  queue.filter fun row => row.eventType = type ∧ row.entityId = uuid

/-- The row shows the sale, the queue has told exactly that, and the filling
updates that were queued are the given ones. -/
structure Frozen (uuid : String) (sale : SaleView) (fillings : List SyncQueueRow)
    (db : Database) : Prop where
  row : (getByUuid uuid db).map rowView = some sale
  told : (queuedFor .TRANSACTION_COMPLETED uuid db.syncQueue).map
    (payloadView ∘ SyncQueueRow.payload) = [some sale]
  fillings : queuedFor .FILLING_UPDATED uuid db.syncQueue = fillings

instance (uuid : String) (sale : SaleView) (fillings : List SyncQueueRow) (db : Database) :
    Decidable (Frozen uuid sale fillings db) :=
  decidable_of_iff
    ((getByUuid uuid db).map rowView = some sale ∧
      (queuedFor .TRANSACTION_COMPLETED uuid db.syncQueue).map
        (payloadView ∘ SyncQueueRow.payload) = [some sale] ∧
      queuedFor .FILLING_UPDATED uuid db.syncQueue = fillings)
    ⟨fun ⟨hrow, htold, hfillings⟩ => ⟨hrow, htold, hfillings⟩,
      fun ⟨hrow, htold, hfillings⟩ => ⟨hrow, htold, hfillings⟩⟩

/-! ## Calls that spare a sale -/

/-- The update raises nothing, changes no price, and is not newly published. -/
structure SparesUpdate (env : Env) (process : Process) (req : FillingUpdateRequest)
    (row : TransactionRow) : Prop where
  volume : req.rawVolume ≤ row.rawVolume
  amount : req.rawAmount ≤ row.rawAmount
  price : req.rawPrice.or row.rawPrice = row.rawPrice
  published : Publishes env process req = true →
    fillKey row.transactionUuid req.rawVolume req.rawAmount ∈
      process.db.syncQueue.map (·.deduplicationKey)

instance (env : Env) (process : Process) (req : FillingUpdateRequest)
    (row : TransactionRow) : Decidable (SparesUpdate env process req row) :=
  decidable_of_iff
    (req.rawVolume ≤ row.rawVolume ∧ req.rawAmount ≤ row.rawAmount ∧
      req.rawPrice.or row.rawPrice = row.rawPrice ∧
      (Publishes env process req = true →
        fillKey row.transactionUuid req.rawVolume req.rawAmount ∈
          process.db.syncQueue.map (·.deduplicationKey)))
    ⟨fun ⟨hvolume, hamount, hprice, hpublished⟩ => ⟨hvolume, hamount, hprice, hpublished⟩,
      fun ⟨hvolume, hamount, hprice, hpublished⟩ =>
        ⟨hvolume, hamount, hprice, hpublished⟩⟩

/-- The call leaves the sale as it is: an update of it spares it, and it is not
completed once more. -/
def Spares (uuid : String) (env : Env) (process : Process) : LedgerCall → Prop
  | .begin _ => True
  | .updateFilling req => req.transactionUuid = uuid →
      ∀ row ∈ getByUuid uuid process.db, SparesUpdate env process req row
  | .complete req => req.transactionUuid = uuid →
      getByCompletionKey req.sourceCompletionKey process.db = none →
        ∀ row ∈ getByUuid uuid process.db, IsClosed row

instance (uuid : String) (env : Env) (process : Process) :
    ∀ call : LedgerCall, Decidable (Spares uuid env process call)
  | .begin _ => isTrue trivial
  | .updateFilling req =>
      inferInstanceAs (Decidable (req.transactionUuid = uuid →
        ∀ row ∈ getByUuid uuid process.db, SparesUpdate env process req row))
  | .complete req =>
      inferInstanceAs (Decidable (req.transactionUuid = uuid →
        getByCompletionKey req.sourceCompletionKey process.db = none →
          ∀ row ∈ getByUuid uuid process.db, IsClosed row))

section

variable {uuid : String} {sale : SaleView} {fillings : List SyncQueueRow} {env : Env}

/-- What the rows and the queue of a sale decide. -/
theorem Frozen.of_eq {before after : Database} (hfrozen : Frozen uuid sale fillings before)
    (hrow : getByUuid uuid after = getByUuid uuid before)
    (hqueue : ∀ type, type = .TRANSACTION_COMPLETED ∨ type = .FILLING_UPDATED →
      queuedFor type uuid after.syncQueue = queuedFor type uuid before.syncQueue) :
    Frozen uuid sale fillings after where
  row := hrow ▸ hfrozen.row
  told := by
    rw [hqueue _ (Or.inl rfl)]
    exact hfrozen.told
  fillings := by
    rw [hqueue _ (Or.inr rfl)]
    exact hfrozen.fillings

/-- A queue row of another type or of another transaction is not seen. -/
theorem queuedFor_insertNew {type : SyncEventType} {row : SyncQueueRow}
    {queue : List SyncQueueRow} (hother : ¬ (row.eventType = type ∧ row.entityId = uuid)) :
    queuedFor type uuid (insertNew (·.deduplicationKey) row queue) =
      queuedFor type uuid queue :=
  filter_insertNew (decide_eq_false hother)

/-- What is only noted leaves every sale. -/
theorem Frozen.noted {before after : Database} (hfrozen : Frozen uuid sale fillings before)
    (hnoted : Noted before after) : Frozen uuid sale fillings after := by
  refine hfrozen.of_eq ?_ fun type htype => ?_
  · unfold getByUuid
    rw [hnoted.transactions]
  · rcases hnoted.syncQueue with hsame | ⟨row, hstate, -, hinserted⟩
    · rw [hsame]
    · rw [hinserted]
      refine queuedFor_insertNew fun hrow => ?_
      rw [hstate] at hrow
      rcases htype with rfl | rfl <;> cases hrow.1

/-! ## Calls -/

theorem Frozen.begun {db : Database} (hfrozen : Frozen uuid sale fillings db)
    (req : BeginTransactionRequest) : Frozen uuid sale fillings (begunDb env req db) := by
  refine hfrozen.of_eq ?_ fun type htype => ?_
  · unfold getByUuid begunDb
    rw [List.find?_append]
    obtain ⟨row, hrow, -⟩ := Option.map_eq_some_iff.mp hfrozen.row
    unfold getByUuid at hrow
    rw [hrow]
    rfl
  · refine queuedFor_insertNew fun hrow => ?_
    rcases htype with rfl | rfl <;> cases hrow.1

/-- The view of a row after a filling update. -/
theorem rowView_filledRow_eq_iff {req : FillingUpdateRequest} {row : TransactionRow} :
    rowView (filledRow req row) = rowView row ↔
      req.rawVolume ≤ row.rawVolume ∧ req.rawAmount ≤ row.rawAmount ∧
        req.rawPrice.or row.rawPrice = row.rawPrice := by
  simp [rowView, filledRow, TransactionRepository.filled]

/-- A filling update spares the sale or shows in it. -/
theorem frozen_filled_iff {process : Process} (hfrozen : Frozen uuid sale fillings process.db)
    {req : FillingUpdateRequest} {row : TransactionRow}
    (hrow : getByUuid req.transactionUuid process.db = some row) :
    Frozen uuid sale fillings
        (filledDb env req row (Publishes env process req) process.db) ↔
      Spares uuid env process (.updateFilling req) := by
  generalize hafter : filledDb env req row (Publishes env process req) process.db = after
  have huuid := transactionUuid_of_getByUuid hrow
  have hold : getByUuid (filledRow req row).transactionUuid process.db = some row := by
    change getByUuid row.transactionUuid process.db = some row
    rw [huuid, hrow]
  have hwritten : getByUuid uuid after =
      if row.transactionUuid = uuid then some (filledRow req row)
      else getByUuid uuid process.db := by
    rw [← hafter]
    exact getByUuid_write hold uuid
  have hqueue : after.syncQueue =
      if Publishes env process req then
        offered env (fillingEntry process.db (filledRow req row) req) process.db.syncQueue
      else process.db.syncQueue := by
    rw [← hafter]
    rfl
  -- an update never queues a completion
  have htold : queuedFor .TRANSACTION_COMPLETED uuid after.syncQueue =
      queuedFor .TRANSACTION_COMPLETED uuid process.db.syncQueue := by
    rw [hqueue]
    split
    · exact queuedFor_insertNew fun hentry => SyncEventType.noConfusion hentry.1
    · rfl
  unfold Spares
  -- the sale itself: its row and its queued fillings must both stay
  by_cases hsame : req.transactionUuid = uuid
  · subst hsame
    have hview : some (rowView row) = some sale := by
      rw [← hfrozen.row, hrow]
      rfl
    have hfillings : queuedFor .FILLING_UPDATED req.transactionUuid after.syncQueue =
        queuedFor .FILLING_UPDATED req.transactionUuid process.db.syncQueue ↔
          (Publishes env process req = true →
            fillKey row.transactionUuid req.rawVolume req.rawAmount ∈
              process.db.syncQueue.map (·.deduplicationKey)) := by
      rw [hqueue]
      split
      · rename_i hpublishes
        rw [forall_prop_of_true hpublishes]
        exact filter_insertNew_eq_iff (decide_eq_true ⟨rfl, huuid⟩)
      · rename_i hquiet
        exact iff_of_true rfl fun hpublishes => absurd hpublishes hquiet
    rw [if_pos huuid] at hwritten
    constructor
    · intro hlater _ other hother
      obtain rfl : row = other := Option.some.inj (hrow.symm.trans hother)
      have hkept : rowView (filledRow req row) = rowView row := by
        have hlaterRow := hlater.row
        rw [hwritten, ← hview] at hlaterRow
        exact Option.some.inj hlaterRow
      obtain ⟨hvolume, hamount, hprice⟩ := rowView_filledRow_eq_iff.mp hkept
      exact ⟨hvolume, hamount, hprice,
        hfillings.mp (hlater.fillings.trans hfrozen.fillings.symm)⟩
    · intro hspares
      obtain ⟨hvolume, hamount, hprice, hpublished⟩ := hspares rfl row hrow
      have hkept := rowView_filledRow_eq_iff.mpr ⟨hvolume, hamount, hprice⟩
      exact {
        row := by
          rw [hwritten, ← hview]
          exact congrArg some hkept
        told := by
          rw [htold]
          exact hfrozen.told
        fillings := (hfillings.mpr hpublished).trans hfrozen.fillings }
  · -- another sale has its own row and its own entries
    rw [if_neg (huuid ▸ hsame)] at hwritten
    refine iff_of_true ?_ fun h => absurd h hsame
    refine hfrozen.of_eq hwritten fun type htype => ?_
    rw [hqueue]
    split
    · exact queuedFor_insertNew fun hentry => hsame (huuid.symm.trans hentry.2)
    · rfl

/-- A completion of the sale shows in it. -/
theorem frozen_closed_iff {process : Process} (hfrozen : Frozen uuid sale fillings process.db)
    {req : CompleteTransactionRequest} {row : TransactionRow}
    (hkey : getByCompletionKey req.sourceCompletionKey process.db = none)
    (hrow : getByUuid req.transactionUuid process.db = some row) (hopen : ¬ IsClosed row) :
    Frozen uuid sale fillings (closedDb env req row process.db) ↔
      Spares uuid env process (.complete req) := by
  have huuid := transactionUuid_of_getByUuid hrow
  have hold : getByUuid (closedRow env req row).transactionUuid process.db = some row := by
    change getByUuid row.transactionUuid process.db = some row
    rw [huuid, hrow]
  have hwritten : getByUuid uuid (closedDb env req row process.db) =
      if row.transactionUuid = uuid then some (closedRow env req row)
      else getByUuid uuid process.db :=
    getByUuid_write hold uuid
  unfold Spares
  by_cases hsame : req.transactionUuid = uuid
  · subst hsame
    refine iff_of_false (fun hlater => ?_) fun hspares => hopen (hspares rfl hkey row hrow)
    -- the key that the sale had was not used by the request
    have hview : some (rowView row) = some sale := by
      rw [← hfrozen.row, hrow]
      rfl
    have hlaterRow := hlater.row
    rw [hwritten, if_pos huuid, ← hview] at hlaterRow
    have hsameKey : some req.sourceCompletionKey = row.sourceCompletionKey :=
      congrArg SaleView.completionKey (Option.some.inj hlaterRow)
    exact List.find?_eq_none.mp hkey row (List.mem_of_find?_eq_some hrow)
      (decide_eq_true hsameKey.symm)
  · rw [if_neg (huuid ▸ hsame)] at hwritten
    refine iff_of_true ?_ fun h => absurd h hsame
    refine hfrozen.of_eq hwritten fun type htype => ?_
    exact queuedFor_insertNew fun hentry => hsame (huuid.symm.trans hentry.2)

/-- A call that returns leaves the sale exactly when it spares it; a call that
raises is one that spares it. -/
theorem frozen_call_iff {process : Process} (hfrozen : Frozen uuid sale fillings process.db)
    (env : Env) (call : LedgerCall) :
    (∃ db book, call.run env process = .ok () { process with db := db, fillBook := book } ∧
      (Frozen uuid sale fillings db ↔ Spares uuid env process call)) ∨
    (∃ error, call.run env process = .error error process) ∧
      Spares uuid env process call := by
  -- the sale has a row, so calls that find none are about another sale
  obtain ⟨saleRow, hsaleRow, -⟩ := Option.map_eq_some_iff.mp hfrozen.row
  cases call with
  | begin req =>
      unfold LedgerCall.run
      dsimp only
      cases hexisting : getByUuid req.transactionUuid process.db with
      | some existing =>
          rw [bind_ok (begin_existing env hexisting)]
          exact Or.inl ⟨_, _, rfl, iff_of_true hfrozen trivial⟩
      | none =>
          -- a taken row id makes the call raise
          by_cases hid : env.uuid4 .transactionRow ∈ process.db.transactions.map (·.id)
          · rw [bind_error (begin_conflict hexisting hid)]
            exact Or.inr ⟨⟨_, rfl⟩, trivial⟩
          · rw [bind_ok (begin_new hexisting hid)]
            exact Or.inl ⟨_, process.fillBook, rfl, iff_of_true (hfrozen.begun req) trivial⟩
  | updateFilling req =>
      unfold LedgerCall.run
      dsimp only
      cases hrow : getByUuid req.transactionUuid process.db with
      | none =>
          rw [bind_ok (updateFilling_unknown env hrow)]
          refine Or.inl ⟨_, _, rfl, iff_of_true hfrozen ?_⟩
          intro hsame
          rw [hsame, hsaleRow] at hrow
          cases hrow
      | some row =>
          obtain ⟨book, hfilled⟩ := updateFilling_known env hrow
          rw [bind_ok hfilled]
          exact Or.inl ⟨_, book, rfl, frozen_filled_iff hfrozen hrow⟩
  | complete req =>
      unfold LedgerCall.run
      dsimp only
      cases hkey : getByCompletionKey req.sourceCompletionKey process.db with
      | some existing =>
          rw [bind_ok (complete_keyUsed env hkey)]
          refine Or.inl ⟨_, _, rfl, iff_of_true hfrozen ?_⟩
          intro _ hunused
          rw [hkey] at hunused
          cases hunused
      | none =>
          cases hrow : getByUuid req.transactionUuid process.db with
          | none =>
              rw [bind_error (complete_unknown env hkey hrow)]
              refine Or.inr ⟨⟨_, rfl⟩, ?_⟩
              intro hsame
              rw [hsame, hsaleRow] at hrow
              cases hrow
          | some row =>
              -- a closed sale is handed back as it is
              by_cases hclosed : IsClosed row
              · rw [bind_ok (complete_closed env hkey hrow hclosed)]
                refine Or.inl ⟨_, _, rfl, iff_of_true hfrozen ?_⟩
                intro hsame _ other hother
                rw [← hsame, hrow] at hother
                exact Option.some.inj hother ▸ hclosed
              · obtain ⟨book, hdone⟩ := complete_open env hkey hrow hclosed
                rw [bind_ok hdone]
                exact Or.inl ⟨_, book, rfl, frozen_closed_iff hfrozen hkey hrow hclosed⟩

/-! ## Steps of the process -/

/-- The step is rolled back, or its call spares the sale. -/
def SparesStep (bridge : PersistenceBridge) (uuid : String) (process : Process) :
    LedgerStep → Prop
  | .call unit => unit.commitFails = true ∨ Spares uuid unit.env process unit.call
  | .handle env event => ∀ call ∈ eventCall bridge env event process,
      Spares uuid env process call

instance (bridge : PersistenceBridge) (uuid : String) (process : Process) :
    ∀ step : LedgerStep, Decidable (SparesStep bridge uuid process step)
  | .call _ => inferInstanceAs (Decidable (_ ∨ _))
  | .handle env event => inferInstanceAs
      (Decidable (∀ call ∈ eventCall bridge env event process, Spares uuid env process call))

/-- A call in its own unit. -/
theorem frozen_unit_iff {process : Process} (hfrozen : Frozen uuid sale fillings process.db)
    (unit : LedgerUnit) :
    Frozen uuid sale fillings (unit.run process).db ↔
      unit.commitFails = true ∨ Spares uuid unit.env process unit.call := by
  unfold LedgerUnit.run unitOfWork
  dsimp only
  split
  · rename_i hfails
    exact iff_of_true hfrozen (Or.inl hfails)
  · rename_i hcommits
    rw [or_iff_right hcommits]
    rcases frozen_call_iff hfrozen unit.env unit.call with
      ⟨db, book, hran, hiff⟩ | ⟨⟨error, hraised⟩, hspares⟩
    · rw [hran]
      exact hiff
    · rw [hraised]
      exact iff_of_true hfrozen hspares

/-- Whether a completion spares a sale depends on the transactions only. -/
theorem spares_complete_congr {before after : Process}
    (htransactions : after.db.transactions = before.db.transactions)
    (req : CompleteTransactionRequest) :
    Spares uuid env after (.complete req) ↔ Spares uuid env before (.complete req) := by
  unfold Spares getByUuid getByCompletionKey
  rw [htransactions]

theorem frozen_stateChanged_iff {process : Process} {bridge : PersistenceBridge}
    (hfrozen : Frozen uuid sale fillings process.db) (address : Byte)
    (payload : StateChangedPayload) :
    Frozen uuid sale fillings (bridge.handleStateChanged env address payload process).db ↔
      ∀ call ∈ (bridge.pumpDb address).bind fun pumpDb =>
        saleCall bridge env pumpDb address payload process, Spares uuid env process call := by
  unfold handleStateChanged
  cases hpump : bridge.pumpDb address with
  | none => exact iff_of_true hfrozen fun _ h => absurd h (Option.not_mem_none _)
  | some pumpDb =>
      dsimp only [Option.bind_some]
      have hpersisted : Noted process.db
          (notedProcess bridge env pumpDb address payload process).db :=
        noted_persisted env pumpDb _ _ process.db
      have hnoted := hfrozen.noted hpersisted
      rcases saleCall_cases bridge env pumpDb address payload process with hplain |
        ⟨hbegins, hcall⟩ | ⟨hbegins, hends, known, hknown, hcall⟩
      · rw [hplain]
        unfold unitOfWork
        rw [stateChangedUnit_plain hplain]
        exact iff_of_true hnoted fun _ h => absurd h (Option.not_mem_none _)
      · rw [hcall]
        unfold unitOfWork
        rw [stateChangedUnit_begins hbegins]
        simp only [Option.mem_def, Option.some.injEq, forall_eq']
        have hmarked : Frozen uuid sale fillings (remember address
            (saleUuid env address payload process)
            (notedProcess bridge env pumpDb address payload process)).db := hnoted
        rcases frozen_call_iff hmarked env (LedgerCall.begin (bridge.beginRequest pumpDb
            (saleUuid env address payload process) payload)) with
          ⟨db, book, hran, hiff⟩ | ⟨⟨error, hraised⟩, hspares⟩
        · rw [hran]
          exact hiff
        · rw [hraised]
          exact iff_of_true hfrozen trivial
      · rw [hcall]
        unfold unitOfWork
        rw [stateChangedUnit_ends hbegins hends hknown]
        simp only [Option.mem_def, Option.some.injEq, forall_eq']
        rw [← spares_complete_congr hpersisted.transactions]
        rcases frozen_call_iff hnoted env (LedgerCall.complete (completeRequest known payload)) with
          ⟨db, book, hran, hiff⟩ | ⟨⟨error, hraised⟩, hspares⟩
        · rw [bind_ok hran]
          exact hiff
        · rw [bind_error hraised]
          exact iff_of_true hfrozen hspares

theorem frozen_appDecoded_iff {process : Process}
    (hfrozen : Frozen uuid sale fillings process.db) (address : Byte) (detail : String)
    (payload : TransactionDecodedPayload) :
    Frozen uuid sale fillings (handleAppDecoded env address detail payload process).db ↔
      ∀ call ∈ (decodedRequest address detail payload process).map .updateFilling,
        Spares uuid env process call := by
  cases hrequest : decodedRequest address detail payload process with
  | none =>
      unfold handleAppDecoded
      rw [hrequest]
      exact iff_of_true hfrozen fun _ h => absurd h (Option.not_mem_none _)
  | some req =>
      rw [handleAppDecoded_eq hrequest, frozen_unit_iff hfrozen]
      simp

/-- One step leaves the sale exactly when it spares it. -/
theorem frozen_step_iff {process : Process} {bridge : PersistenceBridge}
    (hfrozen : Frozen uuid sale fillings process.db) (step : LedgerStep) :
    Frozen uuid sale fillings (step.run bridge process).db ↔
      SparesStep bridge uuid process step := by
  cases step with
  | call unit => exact frozen_unit_iff hfrozen unit
  | handle env event =>
      have hnothing : ∀ call ∈ (none : Option LedgerCall), Spares uuid env process call :=
        fun _ h => absurd h (Option.not_mem_none _)
      obtain ⟨type, address, detail, payload⟩ := event
      cases type with
      | STATE_CHANGED =>
          cases payload with
          | stateChanged payload => exact frozen_stateChanged_iff hfrozen address payload
          | _ => exact iff_of_true hfrozen hnothing
      | APPLICATION_TRANSACTION_DECODED =>
          cases payload with
          | transactionDecoded payload =>
              exact frozen_appDecoded_iff hfrozen address detail payload
          | _ => exact iff_of_true hfrozen hnothing
      | PUMP_CONNECTED =>
          exact iff_of_true (hfrozen.noted (noted_handleComm _ _ _ _ _)) hnothing
      | PUMP_DISCONNECTED =>
          exact iff_of_true (hfrozen.noted (noted_handleComm _ _ _ _ _)) hnothing
      | _ => exact iff_of_true hfrozen hnothing

end

/-! ## Runs after a completion -/

/-- An open transaction has told no completion. -/
theorem Books.queuedFor_open {db : Database} (hbooks : Books db) {uuid : String}
    {row : TransactionRow} (hrow : getByUuid uuid db = some row) (hopen : ¬ IsClosed row) :
    queuedFor .TRANSACTION_COMPLETED uuid db.syncQueue = [] := by
  refine List.filter_eq_nil_iff.mpr fun queued hqueued hmatches => ?_
  obtain ⟨htype, hentity⟩ := of_decide_eq_true hmatches
  have hmem : saleKey queued ∈
      (queuedOf .TRANSACTION_COMPLETED db.syncQueue).map saleKey :=
    List.mem_map_of_mem (List.mem_filter.mpr ⟨hqueued, decide_eq_true htype⟩)
  rw [hbooks.completedQueue.mem_iff, List.mem_map] at hmem
  obtain ⟨closed, hclosed, hkey⟩ := hmem
  obtain ⟨hclosed, hstatus⟩ := List.mem_filter.mp hclosed
  have huuid : closed.transactionUuid = row.transactionUuid := by
    rw [transactionUuid_of_getByUuid hrow, ← hentity]
    exact congrArg Prod.fst hkey
  -- identifiers are unique, so the completed transaction is the open one
  have hsame : closed = row :=
    List.inj_on_of_nodup_map hbooks.uuids hclosed (List.mem_of_find?_eq_some hrow) huuid
  rw [hsame] at hclosed hstatus
  exact hopen (hbooks.closed row hclosed (of_decide_eq_true hstatus))

/-- The one way in which a call completes a transaction. -/
theorem complete_newly {before after : Process} {env : Env}
    {req : CompleteTransactionRequest} {tx : TransactionRow}
    (hdone : TransactionService.complete env req before = .ok (tx, true) after) :
    ∃ row, getByCompletionKey req.sourceCompletionKey before.db = none ∧
      getByUuid req.transactionUuid before.db = some row ∧ ¬ IsClosed row ∧
      tx = closedRow env req row ∧ after.db = closedDb env req row before.db := by
  cases hkey : getByCompletionKey req.sourceCompletionKey before.db with
  | some existing =>
      rw [complete_keyUsed env hkey] at hdone
      cases hdone
  | none =>
      cases hrow : getByUuid req.transactionUuid before.db with
      | none =>
          rw [complete_unknown env hkey hrow] at hdone
          cases hdone
      | some row =>
          by_cases hclosed : IsClosed row
          · rw [complete_closed env hkey hrow hclosed] at hdone
            cases hdone
          · obtain ⟨book, hran⟩ := complete_open env hkey hrow hclosed
            rw [hran] at hdone
            cases hdone
            exact ⟨row, rfl, rfl, hclosed, rfl, rfl⟩

/-- The call that completes a transaction leaves it frozen. -/
theorem frozen_of_complete {before after : Process} {env : Env}
    {req : CompleteTransactionRequest} {tx : TransactionRow} (hbooks : Books before.db)
    (hdone : TransactionService.complete env req before = .ok (tx, true) after) :
    Frozen tx.transactionUuid (rowView tx)
      (queuedFor .FILLING_UPDATED tx.transactionUuid after.db.syncQueue) after.db := by
  obtain ⟨row, hkey, hrow, hopen, rfl, hafter⟩ := complete_newly hdone
  have huuid : (closedRow env req row).transactionUuid = req.transactionUuid := by
    change row.transactionUuid = _
    exact transactionUuid_of_getByUuid hrow
  have hold : getByUuid (closedRow env req row).transactionUuid before.db = some row := by
    rw [huuid, hrow]
  rw [hafter]
  refine ⟨?_, ?_, rfl⟩
  · have hwritten := getByUuid_write hold (closedRow env req row).transactionUuid
    rw [if_pos rfl] at hwritten
    exact congrArg (Option.map rowView) hwritten
  · have hnew := hbooks.completedRow_new (hbooks.completionKey_new hkey)
    have hqueue : (closedDb env req row before.db).syncQueue = before.db.syncQueue ++
        [queueRow env (completedEntry before.db (closedRow env req row)
          req.sourceCompletionKey)] :=
      insertNew_of_notMem hnew
    have hbefore := hbooks.queuedFor_open hold hopen
    unfold queuedFor at hbefore ⊢
    rw [hqueue, List.filter_append, hbefore, List.nil_append, List.filter_singleton,
      decide_eq_true ⟨rfl, rfl⟩]
    rfl

/-- A sale that is completed after any history stays as the cloud was told it for
as long as every step spares it. -/
theorem completed_sale_frozen_iff (bridge : PersistenceBridge) {start after : Process}
    (hempty : start.LedgerEmpty) {history : List LedgerStep}
    (hhistory : ∀ step ∈ history, step.WellFormed) {env : Env}
    {req : CompleteTransactionRequest} {tx : TransactionRow}
    (hdone : TransactionService.complete env req (runSteps bridge start history) =
      .ok (tx, true) after)
    (steps : List LedgerStep) :
    (∀ earlier, earlier <+: steps →
      Frozen tx.transactionUuid (rowView tx)
        (queuedFor .FILLING_UPDATED tx.transactionUuid after.db.syncQueue)
        (runSteps bridge after earlier).db) ↔
      Along (LedgerStep.run bridge) (SparesStep bridge tx.transactionUuid) after steps := by
  have hstep : ∀ process step,
      Frozen tx.transactionUuid (rowView tx)
          (queuedFor .FILLING_UPDATED tx.transactionUuid after.db.syncQueue) process.db →
        (Frozen tx.transactionUuid (rowView tx)
            (queuedFor .FILLING_UPDATED tx.transactionUuid after.db.syncQueue)
            (LedgerStep.run bridge process step).db ↔
          SparesStep bridge tx.transactionUuid process step) :=
    fun _ step hfrozen => frozen_step_iff hfrozen step
  exact forall_prefix_iff_along hstep
    (frozen_of_complete (books_runSteps hhistory hempty.books) hdone)

/-- The fill data of a DC2. -/
def dc2Event (rawVolume rawAmount : Nat) : ControllerEvent where
  type := .APPLICATION_TRANSACTION_DECODED
  address := 1
  detail := "DC2_FILLED_VOLUME_AMOUNT"
  payload := .transactionDecoded {
    decodeStatus := .DECODED
    direction := .SLAVE_TO_MASTER
    transactionType := .DC2_FILLED_VOLUME_AMOUNT
    transactionId := 0x02
    sourceFrameRef := none
    rawVolume := some rawVolume
    rawAmount := some rawAmount
    rawPrice := none }

/-- A state that changed. -/
def stateEvent (previousState normalizedState : PumpState) (stateVersion : Nat) :
    ControllerEvent where
  type := .STATE_CHANGED
  address := 1
  payload := .stateChanged {
    event := .UNKNOWN_OBSERVATION
    previousState := previousState
    normalizedState := normalizedState
    stateVersion := stateVersion
    selectedNozzle := some 1
    activeTransactionId := none
    communicationHealthy := true
    rawWayneStatus := none
    sourceFrameRef := none
    completionEvidenceKey := none }

/-- The sale up to its completion: begun by the bridge, and filled. -/
def saleHistory : List LedgerStep :=
  [.handle { numberedEnv 1 with uuid4 := fun _ => "sale" } (stateEvent .NOZZLE_UP .FILLING 4),
    .handle (numberedEnv 2) (dc2Event 700 1260)]

def beforeCompletion : Process :=
  runSteps onePump { fillBook := some {} } saleHistory

def completeSaleCall : ProcessM (TransactionRow × Bool) :=
  TransactionService.complete (numberedEnv 4) ⟨"sale", "frame-1", 0, 0, none, none⟩

/-- The row of the sale that was completed. -/
def soldRow : TransactionRow :=
  ⟨"sale", "sale", "S1", "db-1", some 1, .COMPLETED, none, none, 700, none, 1260, none, some 1,
    some 4, some "frame-1", true, "LAB"⟩

/-- What was seen of the sale when it was completed. -/
def StaysFrozen (steps : List LedgerStep) : Prop :=
  Frozen soldRow.transactionUuid (rowView soldRow)
    (queuedFor .FILLING_UPDATED soldRow.transactionUuid
      (finalState completeSaleCall beforeCompletion).db.syncQueue)
    (runSteps onePump (finalState completeSaleCall beforeCompletion) steps).db

instance (steps : List LedgerStep) : Decidable (StaysFrozen steps) :=
  inferInstanceAs (Decidable (Frozen _ _ _ _))

/-- The sale is completed again, and the next one is begun. -/
theorem completed_sale_frozen_next :
    returned completeSaleCall beforeCompletion = some (soldRow, true) ∧
      ∀ earlier, earlier <+:
          [LedgerStep.call ⟨numberedEnv 5, .complete ⟨"sale", "frame-2", 0, 0, none, none⟩,
              false⟩,
            .call ⟨numberedEnv 6, .begin ⟨"S1", "db-1", "next", some 1, none, none, none,
              none, true, "LAB", none⟩, false⟩] →
        StaysFrozen earlier := by
  have hreturned : returned completeSaleCall beforeCompletion = some (soldRow, true) := by
    decide +kernel
  have hempty : Process.LedgerEmpty { fillBook := some {} } := ⟨rfl, rfl, rfl⟩
  exact ⟨hreturned, (completed_sale_frozen_iff onePump hempty
    (by decide +kernel : ∀ step ∈ saleHistory, step.WellFormed)
    (eq_ok_of_returned hreturned) _).mpr (by decide +kernel)⟩

/-- Fill data that comes in late raises the volume of the completed row. -/
theorem completed_sale_not_always_frozen :
    ¬ ∀ steps : List LedgerStep, StaysFrozen steps := by
  intro hall
  have hlate := hall [.handle (numberedEnv 5) (dc2Event 750 1350)]
  revert hlate
  decide +kernel

end Services
end Intelipump
