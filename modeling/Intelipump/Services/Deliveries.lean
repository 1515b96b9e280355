import Mathlib.Tactic.Common
import Intelipump.Controller.Completion
import Intelipump.Controller.Publications
import Intelipump.Foundation.Runs
import Intelipump.Services.BridgeSteps

namespace Intelipump
namespace Services

open Controller
open Dart.Line
open Domain
open Foundation.Runs
open Foundation.StateEffect
open Foundation.Tables
open Persistence
open TransactionService
open PersistenceBridge
open TransactionRepository (getByUuid getByCompletionKey IsClosed)

/-!
# Deliveries and sales

The deliveries of a pump are counted from its changed states alone
(`DeliveryLog`), and compared with the rows that the bridge writes
(`OneSalePerDelivery`).  The bridge never forgets the transaction an address is
at, so the comparison holds while no second delivery starts on it
(`one_sale_per_delivery`).
-/

/-! ## Deliveries -/

/-- A delivery starts: `FILLING` is entered from a state in which the pump was not
delivering. -/
def StartsDelivery (payload : StateChangedPayload) : Prop :=
  payload.normalizedState = .FILLING ∧
    payload.previousState ∉ [PumpState.FILLING, .SUSPENDED]

/-- A suspended delivery goes on. -/
def ResumesDelivery (payload : StateChangedPayload) : Prop :=
  payload.normalizedState = .FILLING ∧ payload.previousState = .SUSPENDED

instance (payload : StateChangedPayload) : Decidable (StartsDelivery payload) :=
  inferInstanceAs (Decidable (_ ∧ _))

instance (payload : StateChangedPayload) : Decidable (ResumesDelivery payload) :=
  inferInstanceAs (Decidable (_ ∧ _))

/-- The deliveries so far, by the identifiers that were drawn for them. -/
structure DeliveryLog where
  current : Option String := none
  begun : List String := []
  ended : List String := []
deriving DecidableEq, Repr

def DeliveryLog.note (log : DeliveryLog) (env : Env) (payload : StateChangedPayload) :
    DeliveryLog :=
  if StartsDelivery payload then
    { log with
      current := some (env.uuid4 .transactionUuid)
      begun := log.begun ++ [env.uuid4 .transactionUuid] }
  else if EndsDelivery payload.normalizedState then
    { log with
      current := none
      ended := log.ended ++ log.current.toList }
  else log

/-- The completed sales of a pump. -/
def completedSales (pumpDb : String) (db : Database) : List TransactionRow :=
  db.transactions.filter fun row => row.status = .COMPLETED ∧ row.pumpId = pumpDb

/-- Since `start`, every delivery that was begun has a row of its own under a new
identifier, and the sales that were completed are those of the deliveries that
ended. -/
structure OneSalePerDelivery (start : Database) (pumpDb : String) (log : DeliveryLog)
    (db : Database) : Prop where
  created : db.transactions.map (·.transactionUuid) =
    start.transactions.map (·.transactionUuid) ++ log.begun
  distinct : (db.transactions.map (·.transactionUuid)).Nodup
  completed : ((completedSales pumpDb db).map (·.transactionUuid)).Perm
    ((completedSales pumpDb start).map (·.transactionUuid) ++ log.ended)

/-- As many sales were completed as deliveries ended. -/
theorem OneSalePerDelivery.count {start db : Database} {pumpDb : String} {log : DeliveryLog}
    (hsales : OneSalePerDelivery start pumpDb log db) :
    (completedSales pumpDb db).length =
      (completedSales pumpDb start).length + log.ended.length := by
  have hlength := hsales.completed.length_eq
  rwa [List.length_map, List.length_append, List.length_map] at hlength

/-! ## Runs -/

/-- A changed state with what its unit of work draws. -/
structure DeliveryStep where
  env : Env
  payload : StateChangedPayload

/-- The process and the deliveries it has seen. -/
structure DeliveryRun where
  process : Process
  log : DeliveryLog := {}

def DeliveryRun.step (bridge : PersistenceBridge) (address : Byte) (run : DeliveryRun)
    (step : DeliveryStep) : DeliveryRun where
  process := bridge.handleStateChanged step.env address step.payload run.process
  log := run.log.note step.env step.payload

/-- The transaction that an address is at. -/
def mapped (address : Byte) (process : Process) : Option String :=
  usable (process.txByAddress.lookup address)

/-- The unit of work of the step commits. -/
def StepCommits (bridge : PersistenceBridge) (address : Byte) (run : DeliveryRun)
    (step : DeliveryStep) : Prop :=
  ∀ pumpDb ∈ bridge.pumpDb address,
    (unitOfWork (bridge.stateChangedUnit step.env pumpDb address step.payload)
      run.process).1.isSome

/-- `uuid4()` answers with an identifier that no transaction has. -/
def DrawsFresh (run : DeliveryRun) (step : DeliveryStep) : Prop :=
  step.env.uuid4 .transactionUuid ≠ "" ∧
    step.env.uuid4 .transactionUuid ∉ run.process.db.transactions.map (·.transactionUuid)

/-- A delivery starts only at an address that is at no transaction, goes on only
at one that is, and ends under a completion key that no sale has. -/
structure DeliveryFits (address : Byte) (run : DeliveryRun) (step : DeliveryStep) : Prop where
  starts : StartsDelivery step.payload → mapped address run.process = none
  resumes : ResumesDelivery step.payload → mapped address run.process ≠ none
  ends : EndsDelivery step.payload.normalizedState → ∀ uuid ∈ run.log.current,
    getByCompletionKey (completeRequest uuid step.payload).sourceCompletionKey
      run.process.db = none

instance (bridge : PersistenceBridge) (address : Byte) (run : DeliveryRun)
    (step : DeliveryStep) : Decidable (StepCommits bridge address run step) :=
  inferInstanceAs (Decidable (∀ pumpDb ∈ bridge.pumpDb address, _ = true))

instance (run : DeliveryRun) (step : DeliveryStep) : Decidable (DrawsFresh run step) :=
  inferInstanceAs (Decidable (_ ∧ _))

instance (address : Byte) (run : DeliveryRun) (step : DeliveryStep) :
    Decidable (DeliveryFits address run step) :=
  decidable_of_iff
    ((StartsDelivery step.payload → mapped address run.process = none) ∧
      (ResumesDelivery step.payload → mapped address run.process ≠ none) ∧
      (EndsDelivery step.payload.normalizedState → ∀ uuid ∈ run.log.current,
        getByCompletionKey (completeRequest uuid step.payload).sourceCompletionKey
          run.process.db = none))
    ⟨fun ⟨hstarts, hresumes, hends⟩ => ⟨hstarts, hresumes, hends⟩,
      fun ⟨hstarts, hresumes, hends⟩ => ⟨hstarts, hresumes, hends⟩⟩

/-! ## The handler on a committing run -/

section

variable {bridge : PersistenceBridge} {env : Env} {address : Byte} {process : Process}
  {payload : StateChangedPayload} {pumpDb uuid : String}

theorem knownTransaction_eq_mapped (hunnamed : payload.activeTransactionId = none) :
    knownTransaction address payload process = mapped address process := by
  unfold knownTransaction
  rw [hunnamed]
  rfl

theorem mapped_remember (huuid : uuid ≠ "") :
    mapped address (remember address uuid process) = some uuid := by
  unfold mapped remember usable
  dsimp only
  rw [List.lookup_cons_self]
  simp [huuid]

theorem mapped_ne_empty (hmapped : mapped address process = some uuid) : uuid ≠ "" :=
  of_decide_eq_true (Option.mem_filter_iff.mp hmapped).2

theorem handleStateChanged_plain (hpump : bridge.pumpDb address = some pumpDb)
    (hcall : saleCall bridge env pumpDb address payload process = none) :
    bridge.handleStateChanged env address payload process =
      notedProcess bridge env pumpDb address payload process := by
  unfold handleStateChanged
  rw [hpump]
  dsimp only
  unfold unitOfWork
  rw [stateChangedUnit_plain hcall]
  rfl

/-- A sale that is begun under a new identifier. -/
theorem handleStateChanged_begun (hpump : bridge.pumpDb address = some pumpDb)
    (hbegins : BeginsDelivery payload)
    (hcommits : (unitOfWork (bridge.stateChangedUnit env pumpDb address payload)
      process).1.isSome)
    (huuid : saleUuid env address payload process = uuid)
    (hnew : getByUuid uuid process.db = none) :
    bridge.handleStateChanged env address payload process =
      remember address uuid { process with
        db := begunDb env (bridge.beginRequest pumpDb uuid payload)
          (stateNoted bridge env pumpDb address payload process.db) } := by
  have hnoted : (stateNoted bridge env pumpDb address payload process.db).transactions =
      process.db.transactions := (noted_persisted env pumpDb _ _ process.db).transactions
  have hnewNoted : getByUuid uuid
      (stateNoted bridge env pumpDb address payload process.db) = none := by
    unfold getByUuid at hnew ⊢
    rw [hnoted, hnew]
  unfold handleStateChanged
  rw [hpump]
  dsimp only
  unfold unitOfWork at hcommits ⊢
  rw [stateChangedUnit_begins hbegins, huuid] at hcommits ⊢
  unfold LedgerCall.run at hcommits ⊢
  dsimp only at hcommits ⊢
  generalize hmarked : remember address uuid
    (notedProcess bridge env pumpDb address payload process) = marked at hcommits ⊢
  have hnewMarked : getByUuid (bridge.beginRequest pumpDb uuid payload).transactionUuid
      marked.db = none := hmarked ▸ hnewNoted
  by_cases hid : env.uuid4 .transactionRow ∈ marked.db.transactions.map (·.id)
  · rw [bind_error (begin_conflict hnewMarked hid)] at hcommits
    cases hcommits
  · rw [bind_ok (begin_new hnewMarked hid), ← hmarked]
    rfl

/-- A sale that goes on. -/
theorem handleStateChanged_existing (hpump : bridge.pumpDb address = some pumpDb)
    (hbegins : BeginsDelivery payload)
    (huuid : saleUuid env address payload process = uuid) {row : TransactionRow}
    (hrow : getByUuid uuid process.db = some row) :
    bridge.handleStateChanged env address payload process =
      remember address uuid (notedProcess bridge env pumpDb address payload process) := by
  have hrowMarked : getByUuid (bridge.beginRequest pumpDb uuid payload).transactionUuid
      (remember address uuid (notedProcess bridge env pumpDb address payload process)).db =
        some row := by
    have hnoted : (stateNoted bridge env pumpDb address payload process.db).transactions =
        process.db.transactions := (noted_persisted env pumpDb _ _ process.db).transactions
    unfold getByUuid at hrow ⊢
    exact hnoted ▸ hrow
  unfold handleStateChanged
  rw [hpump]
  dsimp only
  unfold unitOfWork
  rw [stateChangedUnit_begins hbegins, huuid]
  unfold LedgerCall.run
  dsimp only
  rw [bind_ok (begin_existing env hrowMarked)]
  rfl

theorem not_begins_of_ends (hends : EndsDelivery payload.normalizedState) :
    ¬ BeginsDelivery payload :=
  fun hbegins => not_endsDelivery_of_begins hbegins hends

/-- A delivery that ends completes its open sale. -/
theorem handleStateChanged_closed (env : Env) (hpump : bridge.pumpDb address = some pumpDb)
    (hends : EndsDelivery payload.normalizedState)
    (hknown : knownTransaction address payload process = some uuid) {row : TransactionRow}
    (hrow : getByUuid uuid process.db = some row) (hopen : ¬ IsClosed row)
    (hkey : getByCompletionKey (completeRequest uuid payload).sourceCompletionKey
      process.db = none) :
    ∃ book, bridge.handleStateChanged env address payload process =
      remember address uuid { process with
        db := closedDb env (completeRequest uuid payload) row
          (stateNoted bridge env pumpDb address payload process.db)
        fillBook := book } := by
  have hnoted : (stateNoted bridge env pumpDb address payload process.db).transactions =
      process.db.transactions := (noted_persisted env pumpDb _ _ process.db).transactions
  have hrowNoted : getByUuid (completeRequest uuid payload).transactionUuid
      (notedProcess bridge env pumpDb address payload process).db = some row := by
    unfold getByUuid at hrow ⊢
    exact hnoted ▸ hrow
  have hkeyNoted : getByCompletionKey (completeRequest uuid payload).sourceCompletionKey
      (notedProcess bridge env pumpDb address payload process).db = none := by
    unfold getByCompletionKey at hkey ⊢
    exact hnoted ▸ hkey
  obtain ⟨book, hran⟩ := complete_open env hkeyNoted hrowNoted hopen
  refine ⟨book, ?_⟩
  unfold handleStateChanged
  rw [hpump]
  dsimp only
  unfold unitOfWork
  rw [stateChangedUnit_ends (not_begins_of_ends hends) hends hknown]
  unfold LedgerCall.run
  dsimp only
  rw [bind_assoc, bind_ok hran]
  rfl

/-- A sale that was completed is not completed again. -/
theorem handleStateChanged_ended (env : Env) (hpump : bridge.pumpDb address = some pumpDb)
    (hends : EndsDelivery payload.normalizedState)
    (hknown : knownTransaction address payload process = some uuid) {row : TransactionRow}
    (hrow : getByUuid uuid process.db = some row) (hclosed : IsClosed row) :
    bridge.handleStateChanged env address payload process =
      remember address uuid (notedProcess bridge env pumpDb address payload process) := by
  have hnoted : (stateNoted bridge env pumpDb address payload process.db).transactions =
      process.db.transactions := (noted_persisted env pumpDb _ _ process.db).transactions
  have hrowNoted : getByUuid (completeRequest uuid payload).transactionUuid
      (notedProcess bridge env pumpDb address payload process).db = some row := by
    unfold getByUuid at hrow ⊢
    exact hnoted ▸ hrow
  unfold handleStateChanged
  rw [hpump]
  dsimp only
  unfold unitOfWork
  rw [stateChangedUnit_ends (not_begins_of_ends hends) hends hknown]
  unfold LedgerCall.run
  dsimp only
  rw [bind_assoc]
  cases hkey : getByCompletionKey (completeRequest uuid payload).sourceCompletionKey
      (notedProcess bridge env pumpDb address payload process).db with
  | some existing =>
      rw [bind_ok (complete_keyUsed env hkey)]
      rfl
  | none =>
      rw [bind_ok (complete_closed env hkey hrowNoted hclosed)]
      rfl

end

/-! ## The invariant -/

/-- The sales are recorded, and an address that is at a transaction is at the one
of the running delivery, or at the completed one of the delivery before. -/
structure Recording (start : Database) (pumpDb : String) (address : Byte)
    (run : DeliveryRun) : Prop where
  sales : OneSalePerDelivery start pumpDb run.log run.process.db
  unmapped : mapped address run.process = none → run.log.current = none
  row : ∀ uuid ∈ mapped address run.process, ∃ row ∈ getByUuid uuid run.process.db,
    row.pumpId = pumpDb ∧
      (run.log.current = some uuid ∧ row.status ≠ .COMPLETED ∨
        run.log.current = none ∧ IsClosed row)

section

variable {bridge : PersistenceBridge} {address : Byte} {pumpDb : String} {start : Database}
  {run : DeliveryRun} {step : DeliveryStep}

/-- A step that changes neither the transactions nor the log. -/
theorem Recording.of_eq (hrecording : Recording start pumpDb address run) {next : DeliveryRun}
    (htransactions : next.process.db.transactions = run.process.db.transactions)
    (hmapped : mapped address next.process = mapped address run.process)
    (hlog : next.log = run.log) : Recording start pumpDb address next where
  sales := by
    have hsales := hrecording.sales
    constructor
    · rw [htransactions, hlog]
      exact hsales.created
    · rw [htransactions]
      exact hsales.distinct
    · unfold completedSales at hsales ⊢
      rw [htransactions, hlog]
      exact hsales.completed
  unmapped := by
    rw [hmapped, hlog]
    exact hrecording.unmapped
  row := by
    unfold getByUuid
    rw [hmapped, hlog, htransactions]
    exact hrecording.row

/-- A log that a state that neither starts nor ends a delivery leaves. -/
theorem DeliveryLog.note_of_not {log : DeliveryLog} {env : Env}
    {payload : StateChangedPayload} (hstarts : ¬ StartsDelivery payload)
    (hends : EndsDelivery payload.normalizedState → log.current = none) :
    log.note env payload = log := by
  unfold DeliveryLog.note
  rw [if_neg hstarts]
  split
  · rename_i hended
    have hcurrent := hends hended
    obtain ⟨current, begun, ended⟩ := log
    dsimp only at hcurrent
    rw [hcurrent]
    simp
  · rfl

/-- A delivery that starts at an unmapped address is recorded under a new row. -/
theorem Recording.started (hrecording : Recording start pumpDb address run)
    (hpump : bridge.pumpDb address = some pumpDb)
    (hunnamed : step.payload.activeTransactionId = none)
    (hcommits : StepCommits bridge address run step) (hfresh : DrawsFresh run step)
    (hstarts : StartsDelivery step.payload) (hunmapped : mapped address run.process = none) :
    Recording start pumpDb address (run.step bridge address step) := by
  generalize huuid : step.env.uuid4 .transactionUuid = uuid at hfresh
  obtain ⟨hnonempty, hnew⟩ := hfresh
  rw [huuid] at hnonempty hnew
  have hbegins : BeginsDelivery step.payload :=
    ⟨hstarts.1, fun hprevious => hstarts.2 (hprevious ▸ List.mem_cons_self)⟩
  -- nothing is mapped, so the sale gets the id drawn now
  have hsale : saleUuid step.env address step.payload run.process = uuid := by
    unfold saleUuid
    rw [knownTransaction_eq_mapped hunnamed, hunmapped, ← huuid]
    rfl
  have hhandled := handleStateChanged_begun hpump hbegins (hcommits pumpDb hpump) hsale
    (getByUuid_eq_none_iff.mpr hnew)
  have hnoted := (noted_persisted step.env pumpDb (bridge.stateContext address step.payload
    (StateRepository.latest pumpDb run.process.db.states)) step.payload.sourceFrameRef
    run.process.db).transactions
  generalize htx : newTransaction step.env (bridge.beginRequest pumpDb uuid step.payload) = tx
  have htxUuid : tx.transactionUuid = uuid := htx ▸ rfl
  have htransactions : (run.step bridge address step).process.db.transactions =
      run.process.db.transactions ++ [tx] := by
    unfold DeliveryRun.step
    dsimp only
    rw [hhandled, ← hnoted, ← htx]
    rfl
  have hlog : (run.step bridge address step).log =
      { run.log with current := some uuid, begun := run.log.begun ++ [uuid] } := by
    rw [← huuid]
    exact if_pos hstarts
  have hmapped : mapped address (run.step bridge address step).process = some uuid := by
    unfold DeliveryRun.step
    dsimp only
    rw [hhandled]
    exact mapped_remember hnonempty
  have hsales := hrecording.sales
  refine ⟨⟨?_, ?_, ?_⟩, fun hnone => ?_, fun other hother => ?_⟩
  · rw [htransactions, hlog, List.map_append, hsales.created, List.append_assoc,
      List.map_singleton, htxUuid]
  · rw [htransactions, List.map_append, List.map_singleton, htxUuid]
    exact List.Nodup.append hsales.distinct (List.nodup_singleton _)
      (List.disjoint_singleton.mpr hnew)
  · -- the new sale is active and not among the completed ones
    have hcompleted : completedSales pumpDb (run.step bridge address step).process.db =
        completedSales pumpDb run.process.db := by
      have hactive : tx.status = .ACTIVE := htx ▸ rfl
      unfold completedSales
      rw [htransactions, List.filter_append, List.filter_singleton, hactive]
      exact List.append_nil _
    rw [hcompleted, hlog]
    exact hsales.completed
  · rw [hmapped] at hnone
    cases hnone
  · obtain rfl : uuid = other := Option.some.inj (hmapped.symm.trans hother)
    refine ⟨tx, ?_, htx ▸ rfl, Or.inl ⟨congrArg DeliveryLog.current hlog, ?_⟩⟩
    · unfold getByUuid
      rw [htransactions, List.find?_append, find?_eq_none_iff.mpr hnew]
      simp [htxUuid]
    · rw [← htx]
      exact fun hstatus => TransactionStatus.noConfusion hstatus

/-- A running delivery that ends completes its row. -/
theorem Recording.ended (hrecording : Recording start pumpDb address run)
    (hpump : bridge.pumpDb address = some pumpDb)
    (hunnamed : step.payload.activeTransactionId = none)
    (hends : EndsDelivery step.payload.normalizedState) {uuid : String}
    (hmapped : mapped address run.process = some uuid) {row : TransactionRow}
    (hrow : getByUuid uuid run.process.db = some row) (hpumpId : row.pumpId = pumpDb)
    (hcurrent : run.log.current = some uuid) (hstatus : row.status ≠ .COMPLETED)
    (hkey : getByCompletionKey (completeRequest uuid step.payload).sourceCompletionKey
      run.process.db = none) :
    Recording start pumpDb address (run.step bridge address step) := by
  have hopen : ¬ IsClosed row := fun hclosed => hstatus hclosed.1
  obtain ⟨book, hhandled⟩ := handleStateChanged_closed step.env hpump hends
    ((knownTransaction_eq_mapped hunnamed).trans hmapped) hrow hopen hkey
  have hnoted := (noted_persisted step.env pumpDb (bridge.stateContext address step.payload
    (StateRepository.latest pumpDb run.process.db.states)) step.payload.sourceFrameRef
    run.process.db).transactions
  generalize htx : closedRow step.env (completeRequest uuid step.payload) row = tx
  have htxUuid : tx.transactionUuid = row.transactionUuid := htx ▸ rfl
  have htxStatus : tx.status = .COMPLETED := htx ▸ rfl
  have htxPump : tx.pumpId = pumpDb := htx ▸ hpumpId
  have hrowUuid := transactionUuid_of_getByUuid hrow
  have hmem := List.mem_of_find?_eq_some hrow
  have htransactions : (run.step bridge address step).process.db.transactions =
      updateBy (·.transactionUuid) tx run.process.db.transactions := by
    unfold DeliveryRun.step
    dsimp only
    rw [hhandled, ← hnoted, ← htx]
    rfl
  -- the end of a delivery starts none
  have hlog : (run.step bridge address step).log =
      { run.log with current := none, ended := run.log.ended ++ [uuid] } := by
    have hstarts : ¬ StartsDelivery step.payload := fun hstarts =>
      not_begins_of_ends hends
        ⟨hstarts.1, fun hprevious => hstarts.2 (hprevious ▸ List.mem_cons_self)⟩
    unfold DeliveryRun.step DeliveryLog.note
    dsimp only
    rw [if_neg hstarts, if_pos hends, hcurrent]
    rfl
  have hnextMapped : mapped address (run.step bridge address step).process = some uuid := by
    unfold DeliveryRun.step
    dsimp only
    rw [hhandled]
    exact mapped_remember (mapped_ne_empty hmapped)
  have hsales := hrecording.sales
  refine ⟨⟨?_, ?_, ?_⟩, fun hnone => ?_, fun other hother => ?_⟩
  · rw [htransactions, hlog, map_key_updateBy]
    exact hsales.created
  · rw [htransactions, map_key_updateBy]
    exact hsales.distinct
  · -- the sale of the delivery is the one that is completed now
    obtain ⟨before, after, hold, hnew⟩ := updateBy_split hsales.distinct hmem htxUuid
    have hcompleted : (completedSales pumpDb (run.step bridge address step).process.db).Perm
        (completedSales pumpDb run.process.db ++ [tx]) := by
      unfold completedSales
      rw [htransactions, hnew, hold]
      exact filter_replaced (by simp [htxStatus, htxPump]) (by simp [hstatus]) before after
    rw [hlog]
    refine (hcompleted.map _).trans ?_
    rw [List.map_append, List.map_singleton, htxUuid, hrowUuid, ← List.append_assoc]
    exact hsales.completed.append_right _
  · rw [hnextMapped] at hnone
    cases hnone
  · obtain rfl : uuid = other := Option.some.inj (hnextMapped.symm.trans hother)
    refine ⟨tx, ?_, htxPump, Or.inr ⟨congrArg DeliveryLog.current hlog, htxStatus, ?_⟩⟩
    · have hkeyMem : tx.transactionUuid ∈
          run.process.db.transactions.map (·.transactionUuid) :=
        htxUuid ▸ List.mem_map_of_mem hmem
      unfold getByUuid
      rw [htransactions, find?_updateBy hkeyMem, if_pos (htxUuid.trans hrowUuid)]
      rfl
    · exact ⟨(completeRequest uuid step.payload).sourceCompletionKey, htx ▸ rfl,
        completeRequest_key_ne_empty uuid step.payload⟩

theorem Recording.stepped (hrecording : Recording start pumpDb address run)
    (hpump : bridge.pumpDb address = some pumpDb)
    (hunnamed : step.payload.activeTransactionId = none)
    (hcommits : StepCommits bridge address run step) (hfresh : DrawsFresh run step)
    (hfits : DeliveryFits address run step) :
    Recording start pumpDb address (run.step bridge address step) := by
  have hknown : knownTransaction address step.payload run.process =
      mapped address run.process := knownTransaction_eq_mapped hunnamed
  have hnoted := (noted_persisted step.env pumpDb (bridge.stateContext address step.payload
    (StateRepository.latest pumpDb run.process.db.states)) step.payload.sourceFrameRef
    run.process.db).transactions
  -- every branch but two leaves the transactions, the mapping and the log
  have hkept : ∀ next,
      bridge.handleStateChanged step.env address step.payload run.process = next →
        next.db.transactions = run.process.db.transactions →
          mapped address next = mapped address run.process →
            run.log.note step.env step.payload = run.log →
              Recording start pumpDb address (run.step bridge address step) := by
    rintro next rfl htransactions hmapped hlog
    exact hrecording.of_eq htransactions hmapped hlog
  by_cases hstarts : StartsDelivery step.payload
  · exact hrecording.started hpump hunnamed hcommits hfresh hstarts (hfits.starts hstarts)
  · by_cases hends : EndsDelivery step.payload.normalizedState
    · cases hmapped : mapped address run.process with
      | none =>
          have hcall : saleCall bridge step.env pumpDb address step.payload run.process =
              none := by
            unfold saleCall
            rw [if_neg (not_begins_of_ends hends), if_pos hends, hknown, hmapped]
            rfl
          exact hkept _ (handleStateChanged_plain hpump hcall) hnoted rfl
            (DeliveryLog.note_of_not hstarts fun _ => hrecording.unmapped hmapped)
      | some uuid =>
          obtain ⟨row, hrow, hpumpId, ⟨hcurrent, hstatus⟩ | ⟨hcurrent, hclosed⟩⟩ :=
            hrecording.row uuid hmapped
          · exact hrecording.ended hpump hunnamed hends hmapped hrow hpumpId hcurrent hstatus
              (hfits.ends hends uuid hcurrent)
          · have hhandled := handleStateChanged_ended step.env hpump hends
              (hknown.trans hmapped) hrow hclosed
            exact hkept _ hhandled hnoted
              ((mapped_remember (mapped_ne_empty hmapped)).trans hmapped.symm)
              (DeliveryLog.note_of_not hstarts fun _ => hcurrent)
    · have hlog : run.log.note step.env step.payload = run.log :=
        DeliveryLog.note_of_not hstarts fun h => absurd h hends
      by_cases hbegins : BeginsDelivery step.payload
      · have hresumes : ResumesDelivery step.payload := by
          refine ⟨hbegins.1, ?_⟩
          by_contra hprevious
          exact hstarts ⟨hbegins.1, by simp [hbegins.2, hprevious]⟩
        cases hmapped : mapped address run.process with
        | none => exact absurd hmapped (hfits.resumes hresumes)
        | some uuid =>
            obtain ⟨row, hrow, -⟩ := hrecording.row uuid hmapped
            have hsale : saleUuid step.env address step.payload run.process = uuid := by
              unfold saleUuid
              rw [hknown, hmapped]
              rfl
            exact hkept _ (handleStateChanged_existing hpump hbegins hsale hrow) hnoted
              ((mapped_remember (mapped_ne_empty hmapped)).trans hmapped.symm) hlog
      · have hcall : saleCall bridge step.env pumpDb address step.payload run.process =
            none := by
          unfold saleCall
          rw [if_neg hbegins, if_neg hends]
        exact hkept _ (handleStateChanged_plain hpump hcall) hnoted rfl hlog

end

/-! ## Every run -/

/-- The run after its steps. -/
def DeliveryRun.after (bridge : PersistenceBridge) (address : Byte) (run : DeliveryRun)
    (steps : List DeliveryStep) : DeliveryRun :=
  steps.foldl (DeliveryRun.step bridge address) run

/-- For all changed states that a session publishes, handled by a bridge whose
address is at no transaction: as long as every delivery fits, every delivery has
one sale. -/
theorem one_sale_per_delivery (bridge : PersistenceBridge) {session : PumpSession}
    (hsale : session.context.activeTransactionId = none) (hbus : session.events = [])
    (inputs : List SessionInput) {pumpDb : String}
    (hpump : bridge.pumpDb session.address = some pumpDb) {start : Process}
    (hunmapped : mapped session.address start = none)
    (hunique : (start.db.transactions.map (·.transactionUuid)).Nodup)
    {steps : List DeliveryStep}
    (hsteps : steps.map (·.payload) = (session.run inputs).events.filterMap stateChange)
    (hcommits : Along (DeliveryRun.step bridge session.address)
      (StepCommits bridge session.address) { process := start } steps)
    (hfresh : Along (DeliveryRun.step bridge session.address) DrawsFresh
      { process := start } steps)
    (hfits : Along (DeliveryRun.step bridge session.address)
      (DeliveryFits session.address) { process := start } steps)
    {earlier : List DeliveryStep} (hearlier : earlier <+: steps) :
    let run := DeliveryRun.after bridge session.address { process := start } earlier
    OneSalePerDelivery start.db pumpDb run.log run.process.db := by
  have hunnamed : Along (DeliveryRun.step bridge session.address)
      (fun _ step => step.payload.activeTransactionId = none) { process := start } steps := by
    refine along_of_forall fun step hstep _ => ?_
    refine (namesNoSale_run hsale hbus inputs).2 step.payload ?_
    rw [← hsteps]
    exact List.mem_map_of_mem hstep
  obtain ⟨later, rfl⟩ := hearlier
  have hall := along_and.mpr ⟨hunnamed, along_and.mpr ⟨hcommits,
    along_and.mpr ⟨hfresh, hfits⟩⟩⟩
  have hinitial : Recording start.db pumpDb session.address { process := start } := by
    refine ⟨⟨(List.append_nil _).symm, hunique, ?_⟩, fun _ => rfl, fun uuid hmapped => ?_⟩
    · rw [List.append_nil]
    · rw [hunmapped] at hmapped
      cases hmapped
  have hrecorded := invariant_of_along
    (fun run step hrecording hstep => Recording.stepped hrecording hpump hstep.1 hstep.2.1
      hstep.2.2.1 hstep.2.2.2) hinitial (along_append.mp hall).1
  exact hrecorded.sales

/-- A new session for the pump at address 1. -/
def newSession : PumpSession := .create 0x01 "fp-1" .SPEC_F_TO_1

/-- The changed states that frames lead to, with numbered draws. -/
def stepsOf (frames : List DartLineFrame) : List DeliveryStep :=
  ((newSession.run (frames.map .response)).events.filterMap stateChange).zipIdx.map
    fun (payload, number) => ⟨numberedEnv number, payload⟩

def runOf (frames : List DartLineFrame) : DeliveryRun :=
  DeliveryRun.after onePump newSession.address { process := {} } (stepsOf frames)

/-- The first delivery up to its end. -/
def oneDelivery : List DartLineFrame := firstDelivery ++ [statusFrame 5 0x05]

/-- A second delivery has started. -/
def twoDeliveries : List DartLineFrame :=
  oneDelivery ++ [statusFrame 6 0x01, nozzleFrame 7 0x01, nozzleFrame 8 0x11,
    statusFrame 9 0x02, statusFrame 10 0x04]

theorem one_sale_per_delivery_first :
    (runOf oneDelivery).log.ended.length = 1 ∧
      OneSalePerDelivery {} "db-1" (runOf oneDelivery).log (runOf oneDelivery).process.db := by
  have hsteps : (stepsOf oneDelivery).map (·.payload) =
      (newSession.run (oneDelivery.map .response)).events.filterMap stateChange := by
    decide +kernel
  have hpump : onePump.pumpDb newSession.address = some "db-1" := by decide +kernel
  have hunmapped : mapped newSession.address {} = none := by decide +kernel
  have hnames : newSession.context.activeTransactionId = none := rfl
  refine ⟨by decide +kernel, ?_⟩
  unfold runOf
  exact one_sale_per_delivery onePump hnames rfl _ hpump hunmapped List.nodup_nil hsteps
    (by decide +kernel) (by decide +kernel) (by decide +kernel) (List.prefix_refl _)

/-- The second delivery goes under the row of the first one. -/
theorem second_delivery_without_sale :
    ¬ ∀ frames : List DartLineFrame,
      OneSalePerDelivery {} "db-1" (runOf frames).log (runOf frames).process.db := by
  intro hall
  have hcreated := (hall twoDeliveries).created
  revert hcreated
  decide +kernel

end Services
end Intelipump
