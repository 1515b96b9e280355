import Mathlib.Tactic.Common
import Intelipump.Services.LedgerCalls
import Intelipump.Services.PersistenceBridge

namespace Intelipump
namespace Services

open Controller
open Dart.Line
open Domain
open Foundation.StateEffect
open Foundation.Tables
open Persistence
open StateMachine
open PumpStateService
open PersistenceBridge

/-!
# What an event can do to the process

A changed state is first noted in the snapshots, then it may begin or complete
a sale (`saleCall`); a decoded DC2 updates one; a communication event is only
noted.  The handlers are unfolded here and nowhere else.
-/

section

variable {bridge : PersistenceBridge} {env : Env} {address : Byte} {process : Process}

/-! ## Snapshots -/

/-- The database after a context was persisted. -/
def persisted (env : Env) (pumpDb : String) (context : PumpContext)
    (sourceFrameRef : Option String) (db : Database) : Database :=
  let fields := snapshotFields pumpDb context sourceFrameRef
  if ∃ last ∈ StateRepository.latest pumpDb db.states,
      StateRepository.Obsolete fields last then db
  else
    let row := StateRepository.newSnapshot (env.now .snapshotRow) fields
    { db with
      states := db.states ++ [row]
      syncQueue := insertNew (·.deduplicationKey)
        (SyncQueueRepository.newRow (env.uuid4 .stateQueueRow) (env.now .stateQueueRow)
          (stateEntry pumpDb row)) db.syncQueue }

theorem persistContext_eq (env : Env) (pumpDb : String) (context : PumpContext)
    (sourceFrameRef : Option String) (db : Database) : ∃ snap,
    persistContext env pumpDb context sourceFrameRef db =
      .ok snap (persisted env pumpDb context sourceFrameRef db) := by
  unfold persistContext persisted
  dsimp only
  split
  · rename_i hobsolete
    have hinsert : StateRepository.insertIfMeaningful (env.now .snapshotRow)
        (snapshotFields pumpDb context sourceFrameRef) db = .ok none db :=
      if_pos hobsolete
    rw [bind_ok hinsert]
    exact ⟨none, rfl⟩
  · rename_i hnew
    have hinsert : StateRepository.insertIfMeaningful (env.now .snapshotRow)
        (snapshotFields pumpDb context sourceFrameRef) db =
          .ok (some (StateRepository.newSnapshot (env.now .snapshotRow)
              (snapshotFields pumpDb context sourceFrameRef)))
            { db with states := db.states ++ [StateRepository.newSnapshot
              (env.now .snapshotRow) (snapshotFields pumpDb context sourceFrameRef)] } :=
      if_neg hnew
    rw [bind_ok hinsert]
    exact ⟨some _, rfl⟩

/-- The snapshot that is the latest one after a context was persisted. -/
theorem latest_persisted (env : Env) (pumpDb : String) (context : PumpContext)
    (sourceFrameRef : Option String) (db : Database) :
    StateRepository.latest pumpDb (persisted env pumpDb context sourceFrameRef db).states =
      let fields := snapshotFields pumpDb context sourceFrameRef
      let row := StateRepository.newSnapshot (env.now .snapshotRow) fields
      match StateRepository.latest pumpDb db.states with
      | none => some row
      | some last =>
          if ¬ StateRepository.Obsolete fields last ∧
              StateRepository.order last < StateRepository.order row then some row
          else some last := by
  unfold persisted
  dsimp only
  generalize hfields : snapshotFields pumpDb context sourceFrameRef = fields
  generalize hrow : StateRepository.newSnapshot (env.now .snapshotRow) fields = row
  have hpumpId : row.pumpId = pumpDb := by rw [← hrow, ← hfields]; rfl
  cases hlatest : StateRepository.latest pumpDb db.states with
  | none =>
      rw [if_neg (by rintro ⟨last, hlast, -⟩; cases hlast), StateRepository.latest_concat,
        if_pos hpumpId, hlatest]
  | some last =>
      dsimp only
      by_cases hobsolete : StateRepository.Obsolete fields last
      · rw [if_pos ⟨last, rfl, hobsolete⟩, hlatest, if_neg fun h => h.1 hobsolete]
      · have hinserted : ¬ ∃ other ∈ some last, StateRepository.Obsolete fields other := by
          rintro ⟨other, hother, hotherObsolete⟩
          cases hother
          exact hobsolete hotherObsolete
        rw [if_neg hinserted, StateRepository.latest_concat, if_pos hpumpId, hlatest]
        dsimp only
        simp only [hobsolete, not_false_eq_true, true_and]

/-- A context with the next version becomes the latest snapshot. -/
theorem latest_persisted_next {pumpDb : String} {context : PumpContext} {db : Database}
    (hversion : context.stateVersion =
      nextVersion (StateRepository.latest pumpDb db.states))
    (env : Env) (sourceFrameRef : Option String) :
    StateRepository.latest pumpDb (persisted env pumpDb context sourceFrameRef db).states =
      some (StateRepository.newSnapshot (env.now .snapshotRow)
        (snapshotFields pumpDb context sourceFrameRef)) := by
  rw [latest_persisted]
  dsimp only
  cases hlatest : StateRepository.latest pumpDb db.states with
  | none => rfl
  | some last =>
      have hnext : last.stateVersion < context.stateVersion := by
        rw [hversion, hlatest]
        exact Nat.lt_succ_self _
      refine if_pos ⟨?_, Prod.Lex.toLex_lt_toLex.mpr (Or.inl hnext)⟩
      rintro (hlower | ⟨hequal, -⟩)
      · exact absurd hlower (Nat.not_lt.mpr hnext.le)
      · exact absurd hequal hnext.ne'

/-- A change that the ledger is not concerned with. -/
structure Noted (before after : Database) : Prop where
  transactions : after.transactions = before.transactions
  transactionEvents : after.transactionEvents = before.transactionEvents
  pumps : after.pumps = before.pumps
  syncQueue : after.syncQueue = before.syncQueue ∨
    ∃ row : SyncQueueRow, row.eventType = .STATE_CHANGED ∧
      (∃ rest, row.deduplicationKey = "state:" ++ rest) ∧
      after.syncQueue = insertNew (·.deduplicationKey) row before.syncQueue

theorem Noted.refl (db : Database) : Noted db db := ⟨rfl, rfl, rfl, Or.inl rfl⟩

theorem noted_persisted (env : Env) (pumpDb : String) (context : PumpContext)
    (sourceFrameRef : Option String) (db : Database) :
    Noted db (persisted env pumpDb context sourceFrameRef db) := by
  unfold persisted
  dsimp only
  split
  · exact .refl db
  · exact ⟨rfl, rfl, rfl, Or.inr ⟨_, rfl, ⟨_, rfl⟩, rfl⟩⟩

/-- The database after a changed state was noted. -/
def stateNoted (bridge : PersistenceBridge) (env : Env) (pumpDb : String) (address : Byte)
    (payload : StateChangedPayload) (db : Database) : Database :=
  persisted env pumpDb
    (bridge.stateContext address payload (StateRepository.latest pumpDb db.states))
    payload.sourceFrameRef db

/-! ## Changed states -/

/-- The pump begins to deliver. -/
def BeginsDelivery (payload : StateChangedPayload) : Prop :=
  payload.normalizedState = .FILLING ∧ payload.previousState ≠ .FILLING

instance (payload : StateChangedPayload) : Decidable (BeginsDelivery payload) :=
  inferInstanceAs (Decidable (_ ∧ _))

theorem not_endsDelivery_of_begins {payload : StateChangedPayload}
    (hbegins : BeginsDelivery payload) : ¬ EndsDelivery payload.normalizedState := by
  rw [hbegins.1]
  decide

/-- The transaction that a delivery is recorded under. -/
def saleUuid (env : Env) (address : Byte) (payload : StateChangedPayload)
    (process : Process) : String :=
  (knownTransaction address payload process).getD (env.uuid4 .transactionUuid)

/-- The call of the transaction service that a changed state leads to. -/
def saleCall (bridge : PersistenceBridge) (env : Env) (pumpDb : String) (address : Byte)
    (payload : StateChangedPayload) (process : Process) : Option LedgerCall :=
  if BeginsDelivery payload then
    some (.begin (bridge.beginRequest pumpDb (saleUuid env address payload process) payload))
  else if EndsDelivery payload.normalizedState then
    (knownTransaction address payload process).map fun completeUuid =>
      .complete (completeRequest completeUuid payload)
  else none

theorem completeRequest_key_ne_empty (uuid : String) (payload : StateChangedPayload) :
    (completeRequest uuid payload).sourceCompletionKey ≠ "" := by
  unfold completeRequest usable
  dsimp only
  cases hkey : payload.completionEvidenceKey.filter (· ≠ "") with
  | none =>
      intro hempty
      have hlist := congrArg String.toList hempty
      simp only [Option.getD_none, String.toList_append, List.append_eq_nil_iff,
        String.toList_empty] at hlist
      exact absurd hlist.1.1.1 (by decide)
  | some key => exact of_decide_eq_true (Option.mem_filter_iff.mp hkey).2

/-- The three kinds of changed states. -/
theorem saleCall_cases (bridge : PersistenceBridge) (env : Env) (pumpDb : String)
    (address : Byte) (payload : StateChangedPayload) (process : Process) :
    saleCall bridge env pumpDb address payload process = none ∨
    BeginsDelivery payload ∧
      saleCall bridge env pumpDb address payload process = some (.begin
        (bridge.beginRequest pumpDb (saleUuid env address payload process) payload)) ∨
    ¬ BeginsDelivery payload ∧ EndsDelivery payload.normalizedState ∧
      ∃ uuid, knownTransaction address payload process = some uuid ∧
        saleCall bridge env pumpDb address payload process =
          some (.complete (completeRequest uuid payload)) := by
  unfold saleCall
  by_cases hbegins : BeginsDelivery payload
  · rw [if_pos hbegins]
    exact Or.inr (Or.inl ⟨hbegins, rfl⟩)
  · rw [if_neg hbegins]
    by_cases hends : EndsDelivery payload.normalizedState
    · rw [if_pos hends]
      cases hknown : knownTransaction address payload process with
      | none => exact Or.inl rfl
      | some uuid => exact Or.inr (Or.inr ⟨hbegins, hends, uuid, rfl, rfl⟩)
    · rw [if_neg hends]
      exact Or.inl rfl

/-- The unit of a changed state that neither begins nor ends a sale. -/
theorem stateChangedUnit_plain {payload : StateChangedPayload} {pumpDb : String}
    (hcall : saleCall bridge env pumpDb address payload process = none) :
    bridge.stateChangedUnit env pumpDb address payload process =
      .ok () { process with
        db := stateNoted bridge env pumpDb address payload process.db } := by
  obtain ⟨snap, hpersisted⟩ := persistContext_eq env pumpDb
    (bridge.stateContext address payload
      (StateRepository.latest pumpDb process.db.states)) payload.sourceFrameRef process.db
  unfold saleCall at hcall
  split at hcall
  · cases hcall
  · rename_i hbegins
    unfold stateChangedUnit
    rw [get_bind]
    dsimp only
    rw [bind_ok (onDb_ok hpersisted)]
    unfold BeginsDelivery at hbegins
    rw [if_neg hbegins]
    split at hcall
    · rename_i hends
      rw [if_pos hends]
      unfold completeSale
      rw [get_bind]
      have hknown : ∀ db, knownTransaction address payload { process with db := db } = none :=
        fun _ => Option.map_eq_none_iff.mp hcall
      rw [hknown]
      rfl
    · rename_i hends
      rw [if_neg hends]
      rfl

/-- The process after the changed state was noted. -/
def notedProcess (bridge : PersistenceBridge) (env : Env) (pumpDb : String)
    (address : Byte) (payload : StateChangedPayload) (process : Process) : Process :=
  { process with db := stateNoted bridge env pumpDb address payload process.db }

/-- A state that begins a sale: the address is mapped first, then the service is
called. -/
theorem stateChangedUnit_begins {payload : StateChangedPayload} {pumpDb : String}
    (hbegins : BeginsDelivery payload) :
    bridge.stateChangedUnit env pumpDb address payload process =
      (LedgerCall.begin (bridge.beginRequest pumpDb
        (saleUuid env address payload process) payload)).run env
        (remember address (saleUuid env address payload process)
          (notedProcess bridge env pumpDb address payload process)) := by
  obtain ⟨snap, hpersisted⟩ := persistContext_eq env pumpDb
    (bridge.stateContext address payload
      (StateRepository.latest pumpDb process.db.states)) payload.sourceFrameRef process.db
  have hends := not_endsDelivery_of_begins hbegins
  unfold BeginsDelivery at hbegins
  unfold stateChangedUnit
  rw [get_bind]
  dsimp only
  rw [bind_ok (onDb_ok hpersisted), if_pos hbegins, if_neg hends, bind_pure_unit]
  rfl

/-- A state that ends a sale: the service is called, then the address is mapped
again. -/
theorem stateChangedUnit_ends {payload : StateChangedPayload} {pumpDb uuid : String}
    (hbegins : ¬ BeginsDelivery payload) (hends : EndsDelivery payload.normalizedState)
    (hknown : knownTransaction address payload process = some uuid) :
    bridge.stateChangedUnit env pumpDb address payload process =
      ((LedgerCall.complete (completeRequest uuid payload)).run env >>= fun _ =>
        modify (remember address uuid))
        (notedProcess bridge env pumpDb address payload process) := by
  obtain ⟨snap, hpersisted⟩ := persistContext_eq env pumpDb
    (bridge.stateContext address payload
      (StateRepository.latest pumpDb process.db.states)) payload.sourceFrameRef process.db
  unfold stateChangedUnit
  rw [get_bind]
  dsimp only
  rw [bind_ok (onDb_ok hpersisted)]
  unfold BeginsDelivery at hbegins
  rw [if_neg hbegins, if_pos hends]
  unfold completeSale
  rw [get_bind]
  have hnoted : ∀ db, knownTransaction address payload { process with db := db } =
      some uuid := fun _ => hknown
  rw [hnoted]
  unfold LedgerCall.run
  dsimp only
  rw [bind_assoc]
  rfl

/-! ## Communication events -/

/-- The database after a communication event was audited. -/
def audited (bridge : PersistenceBridge) (env : Env) (type : CommType) (address : Byte)
    (db : Database) : Database :=
  { db with auditLog := db.auditLog ++
    [AuditRepository.newRecord env.computeRecordHash (env.uuid4 .auditRow) (env.now .auditRow)
      (bridge.commAudit type address) db.auditLog] }

/-- The context of a communication event of a pump without a snapshot. -/
theorem commContext_of_none {type : CommType} :
    bridge.commContext type address none = .ok {
      pumpId := bridge.logical address
      dartAddress := address
      currentState := .DISCONNECTED
      communicationHealthy := decide (type = .PUMP_CONNECTED)
      stateVersion := nextVersion none } := rfl

/-- The context of a communication event after a snapshot that names a state. -/
theorem commContext_of_state (bridge : PersistenceBridge) (address : Byte) (type : CommType)
    {last : PumpStateSnapshotRow} {state : PumpState}
    (hstate : PumpState.ofValue? last.normalizedState = some state) :
    bridge.commContext type address (some last) = .ok {
      pumpId := bridge.logical address
      dartAddress := address
      currentState := state
      communicationHealthy := decide (type = .PUMP_CONNECTED)
      stateVersion := nextVersion (some last) } := by
  unfold commContext
  dsimp only
  rw [hstate]
  rfl

theorem commContext_of_unknown (bridge : PersistenceBridge) (address : Byte) (type : CommType)
    {last : PumpStateSnapshotRow} (hstate : PumpState.ofValue? last.normalizedState = none) :
    bridge.commContext type address (some last) =
      .error (.valueError s!"{last.normalizedState} is not a valid PumpState") := by
  unfold commContext
  dsimp only
  rw [hstate]
  rfl

/-- A communication event of a pump that is not known is only audited. -/
theorem commUnit_unknown {type : CommType} {db : Database}
    (hpump : bridge.pumpDb address = none) :
    bridge.commUnit env type address db = .ok () (audited bridge env type address db) := by
  unfold commUnit
  rw [hpump]
  rfl

/-- A communication event is audited and noted as a context, unless the latest
snapshot names no state. -/
theorem commUnit_known {type : CommType} {pumpDb : String} {db : Database}
    (hpump : bridge.pumpDb address = some pumpDb) :
    bridge.commUnit env type address db =
      match bridge.commContext type address (StateRepository.latest pumpDb db.states) with
      | .ok context => .ok ()
          (persisted env pumpDb context none (audited bridge env type address db))
      | .error error => .error error (audited bridge env type address db) := by
  have happend : AuditRepository.append env (bridge.commAudit type address) db =
      .ok _ (audited bridge env type address db) := rfl
  unfold commUnit
  rw [bind_ok happend, hpump]
  dsimp only
  rw [get_bind]
  change (fromExcept (bridge.commContext type address
    (StateRepository.latest pumpDb db.states)) >>= _) _ = _
  cases bridge.commContext type address (StateRepository.latest pumpDb db.states) with
  | error error => rfl
  | ok context =>
      obtain ⟨snap, hpersisted⟩ := persistContext_eq env pumpDb context none
        (audited bridge env type address db)
      have hcontext : fromExcept (.ok context : Except Raised PumpContext)
          (audited bridge env type address db) =
            .ok context (audited bridge env type address db) := rfl
      rw [bind_ok hcontext, bind_ok hpersisted]
      rfl

theorem noted_audited (bridge : PersistenceBridge) (env : Env) (type : CommType)
    (address : Byte) (db : Database) : Noted db (audited bridge env type address db) :=
  ⟨rfl, rfl, rfl, Or.inl rfl⟩

/-- A communication event is only noted. -/
theorem noted_handleComm (bridge : PersistenceBridge) (env : Env) (type : CommType)
    (address : Byte) (process : Process) :
    Noted process.db (bridge.handleComm env type address process).db := by
  unfold handleComm commit
  dsimp only
  cases hpump : bridge.pumpDb address with
  | none =>
      rw [commUnit_unknown hpump]
      exact noted_audited bridge env type address process.db
  | some pumpDb =>
      rw [commUnit_known hpump]
      cases bridge.commContext type address
          (StateRepository.latest pumpDb process.db.states) with
      | error error => exact .refl _
      | ok context =>
          have hpersisted := noted_persisted env pumpDb context none
            (audited bridge env type address process.db)
          exact ⟨hpersisted.transactions, hpersisted.transactionEvents, hpersisted.pumps,
            hpersisted.syncQueue⟩

end

end Services
end Intelipump
