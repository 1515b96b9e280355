import Mathlib.Tactic.Common
import Intelipump.Services.LiveState
import Intelipump.Services.RecoveryService

namespace Intelipump
namespace Services

open Controller
open Dart.Line
open Domain
open Foundation.StateEffect
open Foundation.Tables
open Persistence
open PersistenceBridge
open PumpStateService
open Simulator (SequencePolicy)
open StateMachine
open TransactionRepository (getByUuid)
open TransactionService (newTransaction)

/-!
# Sales across restarts

The transaction of a pump is looked up in the payload, which takes it from the
machine, and in the memory of the bridge.  No session gives its machine a
transaction and a new bridge remembers none, so a sale that was interrupted by a
restart is never found again (`interrupted_sale_stays_open`).
-/

/-! ## Events that name no sale -/

/-- The event reports no state with a transaction. -/
def Unnamed (event : ControllerEvent) : Prop :=
  ∀ payload ∈ stateChange event, payload.activeTransactionId = none

section

variable {bridge : PersistenceBridge} {env : Env} {event : ControllerEvent}
  {process : Process} {uuid : String}

theorem mem_states_persisted {pumpDb : String} {context : PumpContext}
    {sourceFrameRef : Option String} {db : Database} {row : PumpStateSnapshotRow}
    (hrow : row ∈ (persisted env pumpDb context sourceFrameRef db).states) :
    row ∈ db.states ∨ row.activeTransactionId = context.activeTransactionId := by
  unfold persisted at hrow
  dsimp only at hrow
  split at hrow
  · exact Or.inl hrow
  · rcases List.mem_append.mp hrow with hold | hnew
    · exact Or.inl hold
    · rw [List.mem_singleton.mp hnew]
      exact Or.inr rfl

/-- The snapshots of a changed state are written by its unit, if that commits. -/
theorem states_handleStateChanged_cases (bridge : PersistenceBridge) (env : Env)
    (address : Byte) (payload : StateChangedPayload) (process : Process) :
    (bridge.handleStateChanged env address payload process).db.states = process.db.states ∨
      ∃ pumpDb, (bridge.handleStateChanged env address payload process).db.states =
        (stateNoted bridge env pumpDb address payload process.db).states := by
  cases hpump : bridge.pumpDb address with
  | none =>
      unfold handleStateChanged
      rw [hpump]
      exact Or.inl rfl
  | some pumpDb =>
      by_cases hcommits : (unitOfWork (bridge.stateChangedUnit env pumpDb address payload)
          process).1.isSome
      · exact Or.inr ⟨pumpDb, states_handleStateChanged hpump hcommits⟩
      · refine Or.inl ?_
        unfold handleStateChanged
        rw [hpump]
        dsimp only
        unfold unitOfWork at hcommits ⊢
        cases hunit : bridge.stateChangedUnit env pumpDb address payload process with
        | ok value after =>
            rw [hunit] at hcommits
            exact absurd rfl hcommits
        | error error after => rfl

/-- The context of a communication event has no transaction. -/
theorem activeTransactionId_of_commContext {type : CommType} {address : Byte}
    {latest : Option PumpStateSnapshotRow} {context : PumpContext}
    (hcontext : bridge.commContext type address latest = .ok context) :
    context.activeTransactionId = none := by
  cases latest with
  | none =>
      rw [commContext_of_none] at hcontext
      cases hcontext
      rfl
  | some last =>
      cases hstate : PumpState.ofValue? last.normalizedState with
      | none =>
          rw [commContext_of_unknown _ _ _ hstate] at hcontext
          cases hcontext
      | some state =>
          rw [commContext_of_state _ _ _ hstate] at hcontext
          cases hcontext
          rfl

theorem mem_states_handleComm {type : CommType} {address : Byte} {row : PumpStateSnapshotRow}
    (hrow : row ∈ (bridge.handleComm env type address process).db.states) :
    row ∈ process.db.states ∨ row.activeTransactionId = none := by
  unfold handleComm commit at hrow
  dsimp only at hrow
  cases hpump : bridge.pumpDb address with
  | none =>
      rw [commUnit_unknown hpump] at hrow
      exact Or.inl hrow
  | some pumpDb =>
      rw [commUnit_known hpump] at hrow
      cases hcontext : bridge.commContext type address
          (StateRepository.latest pumpDb process.db.states) with
      | error error =>
          rw [hcontext] at hrow
          exact Or.inl hrow
      | ok context =>
          rw [hcontext] at hrow
          have hpersisted : row ∈ (persisted env pumpDb context none
              (audited bridge env type address process.db)).states := hrow
          have hcases := mem_states_persisted hpersisted
          rwa [activeTransactionId_of_commContext hcontext] at hcases

/-- An unnamed event leaves no snapshot with a transaction. -/
theorem mem_states_handle (hunnamed : Unnamed event) {row : PumpStateSnapshotRow}
    (hrow : row ∈ (bridge.handle env event process).db.states) :
    row ∈ process.db.states ∨ row.activeTransactionId = none := by
  obtain ⟨type, address, detail, payload⟩ := event
  cases type with
  | STATE_CHANGED =>
      cases payload with
      | stateChanged payload =>
          change row ∈ (bridge.handleStateChanged env address payload process).db.states at hrow
          rcases states_handleStateChanged_cases bridge env address payload process with
            hsame | ⟨pumpDb, hnoted⟩
          · rw [hsame] at hrow
            exact Or.inl hrow
          · rw [hnoted] at hrow
            have hcases := mem_states_persisted hrow
            have hnone : usable payload.activeTransactionId = none := by
              rw [hunnamed payload rfl]
              rfl
            exact hcases.imp_right fun hrow => hrow.trans hnone
      | _ => exact Or.inl hrow
  | APPLICATION_TRANSACTION_DECODED =>
      cases payload with
      | transactionDecoded payload =>
          change row ∈ (handleAppDecoded env address detail payload process).db.states at hrow
          cases hrequest : decodedRequest address detail payload process with
          | none =>
              unfold handleAppDecoded at hrow
              rw [hrequest] at hrow
              exact Or.inl hrow
          | some req =>
              rw [handleAppDecoded_eq hrequest, (LedgerUnit.outcome _ process).states] at hrow
              exact Or.inl hrow
      | _ => exact Or.inl hrow
  | PUMP_CONNECTED => exact mem_states_handleComm hrow
  | PUMP_DISCONNECTED => exact mem_states_handleComm hrow
  | _ => exact Or.inl hrow

/-! ## The memory of the bridge -/

/-- The transactions that the bridge remembers. -/
def remembered (process : Process) : List String := process.txByAddress.map (·.2)

theorem mem_remembered_remember {address : Byte} {known : String}
    (hmem : uuid ∈ remembered (remember address known process)) :
    uuid ∈ remembered process ∨ uuid = known := by
  rcases List.mem_cons.mp hmem with hhead | htail
  · exact Or.inr hhead
  · obtain ⟨entry, hentry, rfl⟩ := List.mem_map.mp htail
    exact Or.inl (List.mem_map_of_mem (List.mem_of_mem_filter hentry))

/-- Without a name in the payload only a remembered transaction is known. -/
theorem mem_remembered_of_known {address : Byte} {payload : StateChangedPayload}
    (hunnamed : payload.activeTransactionId = none)
    (hknown : knownTransaction address payload process = some uuid) :
    uuid ∈ remembered process := by
  rw [knownTransaction_eq_mapped hunnamed] at hknown
  have hlookup := (Option.mem_filter_iff.mp hknown).1
  obtain ⟨before, after, hsplit, -⟩ := List.lookup_eq_some_iff.mp hlookup
  unfold remembered
  rw [hsplit]
  simp

/-- The transaction of a delivery is remembered or drawn. -/
theorem mem_remembered_of_saleUuid {address : Byte} {payload : StateChangedPayload}
    (hunnamed : payload.activeTransactionId = none) :
    saleUuid env address payload process ∈ remembered process ∨
      saleUuid env address payload process = env.uuid4 .transactionUuid := by
  unfold saleUuid
  cases hknown : knownTransaction address payload process with
  | none => exact Or.inr rfl
  | some known => exact Or.inl (mem_remembered_of_known hunnamed hknown)

/-- After an unnamed changed state the bridge remembers what it did before, and at
most the transaction that was drawn. -/
theorem mem_remembered_handleStateChanged {address : Byte} {payload : StateChangedPayload}
    (hunnamed : payload.activeTransactionId = none)
    (hmem : uuid ∈ remembered (bridge.handleStateChanged env address payload process)) :
    uuid ∈ remembered process ∨ uuid = env.uuid4 .transactionUuid := by
  unfold handleStateChanged at hmem
  cases hpump : bridge.pumpDb address with
  | none =>
      rw [hpump] at hmem
      exact Or.inl hmem
  | some pumpDb =>
      rw [hpump] at hmem
      dsimp only at hmem
      unfold unitOfWork at hmem
      rcases saleCall_cases bridge env pumpDb address payload process with hplain |
        ⟨hbegins, -⟩ | ⟨hbegins, hends, known, hknown, -⟩
      · rw [stateChangedUnit_plain hplain] at hmem
        exact Or.inl hmem
      · have hmarked : uuid ∈ remembered (remember address (saleUuid env address payload process)
            (notedProcess bridge env pumpDb address payload process)) := by
          rw [stateChangedUnit_begins hbegins] at hmem
          rcases LedgerCall.outcome env (.begin (bridge.beginRequest pumpDb
              (saleUuid env address payload process) payload))
              (remember address (saleUuid env address payload process)
                (notedProcess bridge env pumpDb address payload process)) with
            ⟨db, book, hran, -⟩ | ⟨error, hraised⟩
          · rw [hran] at hmem
            exact hmem
          · rw [hraised] at hmem
            exact hmem
        rcases mem_remembered_remember hmarked with hold | rfl
        · exact Or.inl hold
        · exact mem_remembered_of_saleUuid hunnamed
      · have hmarked : uuid ∈ remembered process ∨ uuid = known := by
          rw [stateChangedUnit_ends hbegins hends hknown] at hmem
          rcases LedgerCall.outcome env (.complete (completeRequest known payload))
              (notedProcess bridge env pumpDb address payload process) with
            ⟨db, book, hran, -⟩ | ⟨error, hraised⟩
          · rw [bind_ok hran] at hmem
            exact mem_remembered_remember hmem
          · rw [bind_error hraised] at hmem
            exact Or.inl hmem
        rcases hmarked with hold | rfl
        · exact Or.inl hold
        · exact Or.inl (mem_remembered_of_known hunnamed hknown)

/-! ## The row of a sale -/

/-- A call keeps the status of a sale, unless it completes it. -/
theorem LedgerOutcome.status {before : Process} {call : LedgerCall} {after : Database}
    (houtcome : LedgerOutcome env before call after)
    (hother : ∀ req, call = .complete req → req.transactionUuid ≠ uuid) {row : TransactionRow}
    (hrow : getByUuid uuid before.db = some row) :
    ∃ found ∈ getByUuid uuid after, found.status = row.status := by
  cases houtcome with
  | nothing => exact ⟨row, hrow, rfl⟩
  | begun req hnew hid =>
      refine ⟨row, ?_, rfl⟩
      change (before.db.transactions ++ [newTransaction env req]).find?
        (·.transactionUuid = uuid) = some row
      rw [List.find?_append]
      unfold getByUuid at hrow
      rw [hrow]
      rfl
  | filled req old hold =>
      have hfilled : (filledRow req old).transactionUuid = req.transactionUuid := by
        change old.transactionUuid = req.transactionUuid
        exact transactionUuid_of_getByUuid hold
      have hlookup := getByUuid_write (hfilled ▸ hold) uuid
      by_cases hsame : req.transactionUuid = uuid
      · rw [if_pos (hfilled.trans hsame)] at hlookup
        obtain rfl : old = row := Option.some.inj (hold.symm.trans (hsame ▸ hrow))
        exact ⟨filledRow req old, hlookup, rfl⟩
      · rw [if_neg (hfilled ▸ hsame), hrow] at hlookup
        exact ⟨row, hlookup, rfl⟩
  | closed req old hkey hold hopen =>
      have hclosed : (closedRow env req old).transactionUuid = req.transactionUuid := by
        change old.transactionUuid = req.transactionUuid
        exact transactionUuid_of_getByUuid hold
      have hlookup := getByUuid_write (hclosed ▸ hold) uuid
      rw [if_neg (hclosed ▸ hother req rfl), hrow] at hlookup
      exact ⟨row, hlookup, rfl⟩

/-- An unnamed event completes only a remembered sale. -/
theorem mem_remembered_of_complete (hunnamed : Unnamed event)
    {req : CompleteTransactionRequest}
    (hcall : eventCall bridge env event process = some (.complete req)) :
    req.transactionUuid ∈ remembered process := by
  obtain ⟨type, address, detail, payload⟩ := event
  unfold eventCall at hcall
  split at hcall
  · rename_i payload htype hpayload
    obtain ⟨pumpDb, -, hsale⟩ := Option.bind_eq_some_iff.mp hcall
    have hnone : payload.activeTransactionId = none := by
      refine hunnamed payload ?_
      unfold stateChange
      rw [htype, hpayload]
      rfl
    rcases saleCall_cases bridge env pumpDb address payload process with hplain |
      ⟨-, hbegin⟩ | ⟨-, -, known, hknown, hcomplete⟩
    · rw [hplain] at hsale
      cases hsale
    · rw [hbegin] at hsale
      cases hsale
    · rw [hcomplete] at hsale
      cases hsale
      exact mem_remembered_of_known hnone hknown
  · obtain ⟨other, -, hother⟩ := Option.map_eq_some_iff.mp hcall
    cases hother
  · cases hcall

/-- A sale that the bridge does not remember keeps its status. -/
theorem status_handle (bridge : PersistenceBridge) (env : Env) (hunnamed : Unnamed event)
    (hforgotten : uuid ∉ remembered process)
    {row : TransactionRow} (hrow : getByUuid uuid process.db = some row) :
    ∃ found ∈ getByUuid uuid (bridge.handle env event process).db,
      found.status = row.status := by
  cases handle_outcome bridge env event process with
  | noted hnoted =>
      refine ⟨row, ?_, rfl⟩
      unfold getByUuid at hrow ⊢
      rw [hnoted.transactions]
      exact hrow
  | called hcall hnoted houtcome =>
      refine houtcome.status (fun req hreq hsame => ?_) ?_
      · rw [hreq] at hcall
        exact hforgotten (hsame ▸ mem_remembered_of_complete hunnamed hcall)
      · unfold getByUuid at hrow ⊢
        rw [hnoted.transactions]
        exact hrow

/-- After an unnamed event the bridge remembers at most one more transaction, a
drawn one. -/
theorem mem_remembered_handle (hunnamed : Unnamed event)
    (hmem : uuid ∈ remembered (bridge.handle env event process)) :
    uuid ∈ remembered process ∨ uuid = env.uuid4 .transactionUuid := by
  obtain ⟨type, address, detail, payload⟩ := event
  cases type with
  | STATE_CHANGED =>
      cases payload with
      | stateChanged payload => exact mem_remembered_handleStateChanged (hunnamed payload rfl) hmem
      | _ => exact Or.inl hmem
  | APPLICATION_TRANSACTION_DECODED =>
      cases payload with
      | transactionDecoded payload =>
          change uuid ∈ remembered (handleAppDecoded env address detail payload process) at hmem
          cases hrequest : decodedRequest address detail payload process with
          | none =>
              unfold handleAppDecoded at hmem
              rw [hrequest] at hmem
              exact Or.inl hmem
          | some req =>
              unfold remembered at hmem
              rw [handleAppDecoded_eq hrequest, LedgerUnit.txByAddress] at hmem
              exact Or.inl hmem
      | _ => exact Or.inl hmem
  | PUMP_CONNECTED => exact Or.inl hmem
  | PUMP_DISCONNECTED => exact Or.inl hmem
  | _ => exact Or.inl hmem

end

/-! ## The start of a process -/

/-- The snapshots and the sales are as they were. -/
def SalesKept (before after : Database) : Prop :=
  after.states = before.states ∧ after.transactions = before.transactions

instance : IsPreorder Database SalesKept where
  refl _ := ⟨rfl, rfl⟩
  trans _ _ _ first second :=
    ⟨second.1.trans first.1, second.2.trans first.2⟩

theorem salesKept_upsert (uuid4 stationId logicalPumpId : String) (dartAddress : Byte) :
    Preserves SalesKept
      (PumpRepository.upsert uuid4 stationId logicalPumpId dartAddress) := by
  intro db
  unfold finalState PumpRepository.upsert
  cases db.pumps.find? fun row =>
      row.stationId = stationId ∧ row.logicalPumpId = logicalPumpId with
  | none =>
      dsimp only
      by_cases htaken : uuid4 ∈ db.pumps.map (·.id) ∨
          PumpRepository.AddressTaken stationId uuid4 dartAddress db
      · rw [if_pos htaken]
        exact ⟨rfl, rfl⟩
      · rw [if_neg htaken]
        exact ⟨rfl, rfl⟩
  | some old =>
      dsimp only
      by_cases htaken : PumpRepository.AddressTaken stationId old.id dartAddress db
      · rw [if_pos htaken]
        exact ⟨rfl, rfl⟩
      · rw [if_neg htaken]
        exact ⟨rfl, rfl⟩

theorem salesKept_ensurePumps (env : Env) (stationId : String) (addresses : List Byte) :
    Preserves SalesKept (RecoveryService.ensurePumps env stationId addresses) := by
  refine Preserves.of_foldlM (fun mapping address => ?_) addresses []
  exact Preserves.of_bind (salesKept_upsert _ _ _ _) fun pump => Preserves.of_pure _

/-- A started persistence keeps the sales, and its contexts are those of the latest
snapshots. -/
theorem startPersistence_ok {env : Env} {stationId environment : String}
    {addresses : List Byte} {simulated : Bool} {before after : Database}
    {runtime : PersistenceRuntime}
    (hstarted : startPersistence env stationId environment addresses simulated before =
      .ok runtime after) :
    SalesKept before after ∧ ∀ entry ∈ runtime.recovery.pumpContexts, ∃ pump : PumpRow,
      entry.2 = RecoveryService.recoveredContext pump
        (StateRepository.latest pump.id before.states) := by
  unfold startPersistence at hstarted
  obtain ⟨pumpMap, ensured, hensured, hrest⟩ := bind_eq_ok hstarted
  obtain ⟨report, recovered, hrecovered, hruntime⟩ := bind_eq_ok hrest
  cases hruntime
  have hpumps : SalesKept before ensured := by
    have hkept := salesKept_ensurePumps env stationId addresses before
    unfold finalState at hkept
    rw [eq_ok_of_atomically hensured] at hkept
    exact hkept
  obtain ⟨expected, hran, hcontexts⟩ := RecoveryService.recover_eq env stationId ensured
  rw [eq_ok_of_atomically hrecovered] at hran
  cases hran
  refine ⟨⟨hpumps.1, hpumps.2⟩, fun entry hentry => ?_⟩
  rw [hcontexts] at hentry
  obtain ⟨pump, -, rfl⟩ := List.mem_map.mp hentry
  exact ⟨pump, by rw [hpumps.1]⟩

/-- No snapshot has a transaction. -/
def SnapshotsNameNoSale (db : Database) : Prop :=
  ∀ row ∈ db.states, row.activeTransactionId = none

/-- A context recovered from such snapshots has none either. -/
theorem activeTransactionId_recoveredContext {db : Database} (hnone : SnapshotsNameNoSale db)
    (pump : PumpRow) :
    (RecoveryService.recoveredContext pump
      (StateRepository.latest pump.id db.states)).activeTransactionId = none := by
  cases hlatest : StateRepository.latest pump.id db.states with
  | none => rfl
  | some row => exact hnone row (StateRepository.pumpId_of_latest hlatest).2

/-- A seeded session has published nothing and has no transaction. -/
theorem seedSession_unnamed {contexts : List (String × PumpContext)}
    (hcontexts : ∀ entry ∈ contexts, entry.2.activeTransactionId = none)
    {session : PumpSession} (hbus : session.events = [])
    (hsale : session.context.activeTransactionId = none) :
    (seedSession contexts session).events = [] ∧
      (seedSession contexts session).context.activeTransactionId = none := by
  unfold seedSession
  split
  · exact ⟨hbus, hsale⟩
  · rename_i ctx hfound
    have hmem := List.mem_reverse.mp (List.mem_of_find?_eq_some hfound)
    obtain ⟨entry, hentry, rfl⟩ := List.mem_map.mp hmem
    exact ⟨hbus, hcontexts entry hentry⟩

/-! ## Lives of the process -/

/-- What the process is started with. -/
structure Setup where
  stationId : String
  environment : String
  addresses : List Byte
  simulated : Bool
  policy : SequencePolicy

/-- The new sessions of the controller loop. -/
def Setup.sessions (setup : Setup) : List PumpSession :=
  setup.addresses.map fun address =>
    .create address s!"pump-{address.toNat}" setup.policy

/-- A life of the process: its start, and the events it handled before it stopped. -/
structure Life where
  startEnv : Env
  handled : List EventStep

/-- The process lived: persistence was started on the database, the sessions were
seeded, and what was handled had been published by them. -/
structure Lived (setup : Setup) (life : Life) (before : Database)
    (runtime : PersistenceRuntime) (after : Process) : Prop where
  started : ∃ db, startPersistence life.startEnv setup.stationId setup.environment
      setup.addresses setup.simulated before = .ok runtime db ∧
    after = life.handled.foldl
      (fun process step => runtime.bridge.handle step.env step.event process) { db := db }
  published : ∀ step ∈ life.handled,
    ∃ session ∈ applyRecoveredContexts setup.sessions runtime.recovery.pumpContexts,
      ∃ inputs, step.event ∈ (session.run inputs).events

/-- The databases that the lives of the process leave behind. -/
inductive Reached (setup : Setup) : Database → Prop where
  | new : Reached setup {}
  | stopped {before : Database} {life : Life} {runtime : PersistenceRuntime} {after : Process}
      (hbefore : Reached setup before) (hlived : Lived setup life before runtime after) :
      Reached setup after.db

section

variable {setup : Setup} {life : Life} {before : Database} {runtime : PersistenceRuntime}
  {after : Process}

/-- What is published in a life names no sale, if no snapshot did before. -/
theorem Lived.unnamed (hlived : Lived setup life before runtime after)
    (hnone : SnapshotsNameNoSale before) : ∀ step ∈ life.handled, Unnamed step.event := by
  intro step hstep payload hpayload
  obtain ⟨db, hstarted, -⟩ := hlived.started
  obtain ⟨seeded, hseeded, inputs, hevent⟩ := hlived.published step hstep
  obtain ⟨session, hsession, rfl⟩ := List.mem_map.mp hseeded
  obtain ⟨address, -, rfl⟩ := List.mem_map.mp hsession
  have hcontexts : ∀ entry ∈ runtime.recovery.pumpContexts,
      entry.2.activeTransactionId = none := by
    intro entry hentry
    obtain ⟨pump, hpump⟩ := (startPersistence_ok hstarted).2 entry hentry
    rw [hpump]
    exact activeTransactionId_recoveredContext hnone pump
  obtain ⟨hbus, hsale⟩ := seedSession_unnamed hcontexts
    (rfl : (PumpSession.create address s!"pump-{address.toNat}" setup.policy).events = []) rfl
  exact (namesNoSale_run hsale hbus inputs).2 payload
    (List.mem_filterMap.mpr ⟨step.event, hevent, hpayload⟩)

/-- Handling unnamed events leaves no snapshot with a transaction. -/
theorem snapshotsNameNoSale_foldl {bridge : PersistenceBridge} {steps : List EventStep}
    {process : Process} (hunnamed : ∀ step ∈ steps, Unnamed step.event)
    (hnone : SnapshotsNameNoSale process.db) :
    SnapshotsNameNoSale (steps.foldl
      (fun process step => bridge.handle step.env step.event process) process).db := by
  induction steps generalizing process with
  | nil => exact hnone
  | cons step rest ih =>
      obtain ⟨hfirst, hrest⟩ := List.forall_mem_cons.mp hunnamed
      refine ih hrest fun row hrow => ?_
      rcases mem_states_handle hfirst hrow with hold | hnew
      · exact hnone row hold
      · exact hnew

/-- No life of the process writes a snapshot with a transaction. -/
theorem Reached.snapshotsNameNoSale {db : Database} (hreached : Reached setup db) :
    SnapshotsNameNoSale db := by
  induction hreached with
  | new => exact fun row hrow => absurd hrow List.not_mem_nil
  | stopped hbefore hlived ih =>
      have hunnamed := hlived.unnamed ih
      obtain ⟨db, hstarted, rfl⟩ := hlived.started
      refine snapshotsNameNoSale_foldl hunnamed fun row hrow => ih row ?_
      rw [← (startPersistence_ok hstarted).1.1]
      exact hrow

/-- A sale that the bridge does not remember keeps its status while events name no
sale and its identifier is not drawn again. -/
theorem status_foldl (bridge : PersistenceBridge) {uuid : String} {steps : List EventStep}
    {process : Process} (hunnamed : ∀ step ∈ steps, Unnamed step.event)
    (hfresh : ∀ step ∈ steps, step.env.uuid4 .transactionUuid ≠ uuid)
    (hforgotten : uuid ∉ remembered process) {row : TransactionRow}
    (hrow : getByUuid uuid process.db = some row) :
    ∃ found ∈ getByUuid uuid (steps.foldl
        (fun process step => bridge.handle step.env step.event process) process).db,
      found.status = row.status := by
  induction steps generalizing process row with
  | nil => exact ⟨row, hrow, rfl⟩
  | cons step rest ih =>
      obtain ⟨hfirst, hrest⟩ := List.forall_mem_cons.mp hunnamed
      obtain ⟨hdraw, hdraws⟩ := List.forall_mem_cons.mp hfresh
      obtain ⟨next, hnext, hstatus⟩ := status_handle bridge step.env hfirst hforgotten hrow
      have hstill : uuid ∉ remembered (bridge.handle step.env step.event process) := by
        intro hmem
        rcases mem_remembered_handle hfirst hmem with hold | hdrawn
        · exact hforgotten hold
        · exact hdraw hdrawn.symm
      obtain ⟨found, hfound, hkept⟩ := ih hrest hdraws hstill hnext
      exact ⟨found, hfound, hkept.trans hstatus⟩

/-- In whatever database a life of the process left, a sale that is not completed is
not completed in the next life either, whatever the sessions publish and wherever that
life stops. -/
theorem interrupted_sale_stays_open (hreached : Reached setup before) {uuid : String}
    {row : TransactionRow} (hrow : getByUuid uuid before = some row)
    (hopen : row.status ≠ .COMPLETED) (hlived : Lived setup life before runtime after)
    (hfresh : ∀ step ∈ life.handled, step.env.uuid4 .transactionUuid ≠ uuid) :
    ¬ ∃ found ∈ getByUuid uuid after.db, found.status = .COMPLETED := by
  have hunnamed := hlived.unnamed hreached.snapshotsNameNoSale
  obtain ⟨db, hstarted, rfl⟩ := hlived.started
  have hstart : getByUuid uuid db = some row := by
    unfold getByUuid at hrow ⊢
    rw [(startPersistence_ok hstarted).1.2]
    exact hrow
  have hforgotten : uuid ∉ remembered { db := db } := List.not_mem_nil
  obtain ⟨kept, hkept, hstatus⟩ :=
    status_foldl runtime.bridge hunnamed hfresh hforgotten hstart
  rintro ⟨found, hfound, hcompleted⟩
  obtain rfl : kept = found := Option.some.inj (hkept.symm.trans hfound)
  exact hopen (hstatus.symm.trans hcompleted)

end

/-! ## A delivery that was interrupted -/

/-- A life in which the session of one address is called with the inputs and all that
it publishes is handled. -/
def sessionLife (setup : Setup) (address : Byte) (startEnv : Env) (draws : Nat → Env)
    (runtime : PersistenceRuntime) (inputs : List SessionInput) : Life where
  startEnv := startEnv
  handled := ((seedSession runtime.recovery.pumpContexts
      (.create address s!"pump-{address.toNat}" setup.policy)).run inputs).events.zipIdx.map
    fun (event, number) => ⟨draws number, event⟩

def Setup.start (setup : Setup) (env : Env) : UnitOfWork PersistenceRuntime :=
  startPersistence env setup.stationId setup.environment setup.addresses setup.simulated

/-- The process after a life that began with a start on the database. -/
def Setup.live (setup : Setup) (runtime : PersistenceRuntime) (life : Life)
    (before : Database) : Process :=
  life.handled.foldl (fun process step => runtime.bridge.handle step.env step.event process)
    { db := finalState (setup.start life.startEnv) before }

theorem lived_sessionLife {setup : Setup} {address : Byte} {startEnv : Env}
    {before : Database} {runtime : PersistenceRuntime}
    (haddress : address ∈ setup.addresses)
    (hstarted : returned (setup.start startEnv) before = some runtime) (draws : Nat → Env)
    (inputs : List SessionInput) :
    Lived setup (sessionLife setup address startEnv draws runtime inputs) before runtime
      (setup.live runtime (sessionLife setup address startEnv draws runtime inputs)
        before) where
  started := ⟨_, eq_ok_of_returned hstarted, rfl⟩
  published := by
    intro step hstep
    refine ⟨_, List.mem_map_of_mem (List.mem_map_of_mem haddress), inputs, ?_⟩
    obtain ⟨⟨event, number⟩, hentry, rfl⟩ := List.mem_map.mp hstep
    exact (List.mem_zipIdx' hentry).2 ▸ List.getElem_mem _

def onePumpSetup : Setup := ⟨"S1", "LAB", [0x01], true, .SPEC_F_TO_1⟩

def firstRuntime : PersistenceRuntime :=
  (returned (onePumpSetup.start (numberedEnv 0)) {}).get (by decide +kernel)

/-- The first delivery is running. -/
def firstLife : Life :=
  sessionLife onePumpSetup 0x01 (numberedEnv 0) (fun number => numberedEnv (number + 1))
    firstRuntime (firstDelivery.map .response)

def interrupted : Process := onePumpSetup.live firstRuntime firstLife {}

def secondRuntime : PersistenceRuntime :=
  (returned (onePumpSetup.start (numberedEnv 100)) interrupted.db).get (by decide +kernel)

/-- After a restart the pump reports that the delivery is over. -/
def secondLife : Life :=
  sessionLife onePumpSetup 0x01 (numberedEnv 100) (fun number => numberedEnv (number + 101))
    secondRuntime [.response (statusFrame 0 0x05)]

def resumed : Process := onePumpSetup.live secondRuntime secondLife interrupted.db

/-- The end of a delivery was handled. -/
def Life.SeesEnd (life : Life) : Prop :=
  ∃ step ∈ life.handled, ∃ payload ∈ stateChange step.event,
    EndsDelivery payload.normalizedState

instance (life : Life) : Decidable life.SeesEnd :=
  inferInstanceAs (Decidable (∃ step ∈ life.handled, ∃ payload ∈ stateChange step.event, _))

theorem lived_firstLife : Lived onePumpSetup firstLife {} firstRuntime interrupted :=
  lived_sessionLife List.mem_cons_self (Option.some_get _).symm _ _

theorem lived_secondLife :
    Lived onePumpSetup secondLife interrupted.db secondRuntime resumed :=
  lived_sessionLife List.mem_cons_self (Option.some_get _).symm _ _

/-- The begin of the delivery was committed. -/
theorem interrupted_active :
    ∃ row ∈ getByUuid "25" interrupted.db, row.status = .ACTIVE := by decide +kernel

/-- The second life sees the end of the delivery and draws no known identifier. -/
theorem secondLife_seesEnd :
    secondLife.SeesEnd ∧
      ∀ step ∈ secondLife.handled, step.env.uuid4 .transactionUuid ≠ "25" := by
  decide +kernel

theorem interrupted_sale_stays_open_once :
    secondLife.SeesEnd ∧
      ¬ ∃ found ∈ getByUuid "25" resumed.db, found.status = .COMPLETED := by
  obtain ⟨hends, hfresh⟩ := secondLife_seesEnd
  obtain ⟨row, hrow, hactive⟩ := interrupted_active
  have hopen : row.status ≠ .COMPLETED :=
    fun hcompleted => TransactionStatus.noConfusion (hactive.symm.trans hcompleted)
  exact ⟨hends, interrupted_sale_stays_open (.stopped .new lived_firstLife) hrow hopen
    lived_secondLife hfresh⟩

/-- The delivery has visibly ended, and its row is still open. -/
theorem interrupted_sale_not_completed :
    ¬ ∀ (setup : Setup) (life : Life) (before : Database) (runtime : PersistenceRuntime)
      (after : Process) (uuid : String), Reached setup before →
        (∃ row ∈ getByUuid uuid before, row.status = .ACTIVE) →
          Lived setup life before runtime after →
            (∀ step ∈ life.handled, step.env.uuid4 .transactionUuid ≠ uuid) → life.SeesEnd →
              ∃ found ∈ getByUuid uuid after.db, found.status = .COMPLETED := by
  intro hall
  obtain ⟨hends, hfresh⟩ := secondLife_seesEnd
  have hcompleted := hall onePumpSetup secondLife interrupted.db secondRuntime resumed "25"
    (.stopped .new lived_firstLife) interrupted_active lived_secondLife hfresh hends
  revert hcompleted
  decide +kernel

end Services
end Intelipump
