import Mathlib.Tactic.Common
import Intelipump.Controller.IdleSession
import Intelipump.Link.MeterReadings
import Intelipump.Services.LedgerSteps
import Intelipump.Services.Restart

namespace Intelipump
namespace Link

open Domain
open Dart.Line
open Dart.Application
open Controller
open Simulator
open Services
open Persistence
open StateMachine
open Foundation
open Foundation.StateEffect
open Foundation.Tables
open PersistenceBridge

/-!
# A station with a simulated pump

The simulated pump, the session that polls it, and the process that handles what the session
publishes.  Frames may be lost or corrupted, events may be handled in any order, more than
once or never, commits may fail, and the process may stop at any time and start again from
its database.

The pump authorizes and starts to fill in one command, and never queues the status
AUTHORIZED in between.  The controller takes a filling only from a pump that it knows to be
authorized, so no run of the station leads it to a filling, and no sale is ever recorded
(`no_sale_recorded`).
-/

structure Station where
  link : LinkState
  published : List ControllerEvent
  bridge : Option PersistenceBridge
  process : Process

inductive StationAction where
  | dialogue (action : LinkAction)
  | startProcess (env : Env)
  | handle (env : Env) (number : Nat) (commits : Bool)

namespace Station

/-- A pump and a session that have not met, and an empty database. -/
def start (config : SimulatorConfig) (address : Byte) (pumpId : String) : Station where
  link := LinkState.start config address pumpId
  published := []
  bridge := none
  process := {}

/-- A new session, with the recovered context of its address if there is one. -/
def restartedLink (link : LinkState) (recovery : Option RecoveryReport) : LinkState :=
  let fresh := link.step .restartController
  match recovery with
  | none => fresh
  | some report => { fresh with session := seedSession report.pumpContexts fresh.session }

def step (setup : Setup) (station : Station) : StationAction → Station
  | .dialogue action =>
      { station with
        link := station.link.step action
        published := station.published ++ station.link.newEvents action }
  | .startProcess env =>
      -- what was in memory is gone: the session, its bus and the bridge
      let started := returned (setup.start env) station.process.db
      { link := restartedLink station.link (started.map (·.recovery))
        published := []
        bridge := started.map (·.bridge)
        process := { db := finalState (setup.start env) station.process.db } }
  | .handle env number commits =>
      match station.bridge, station.published[number]? with
      | some bridge, some event =>
          let after := bridge.handle env event station.process
          { station with
            process := if commits then after else { after with db := station.process.db } }
      | _, _ => station

def run (setup : Setup) (station : Station) (actions : List StationAction) : Station :=
  actions.foldl (step setup) station

end Station

/-! ## The dialogue -/

/-- The session of an attributed link hears of no authorization. -/
theorem staysIdle_step {link : LinkState} {readings : List Reading}
    (hattributed : Attributed link readings) (hidle : StaysIdle link.session)
    (action : LinkAction) : StaysIdle (link.step action).session := by
  cases sessionStep_step link action with
  | kept hsession => exact hsession ▸ hidle
  | polled hsession => exact hsession ▸ hidle.buildPoll
  | timedOut maxConsecutive hsession => exact hsession ▸ hidle.onTimeout maxConsecutive
  | heard frame number hheard =>
      rw [hheard]
      refine hidle.handleResponseFrame fun haccepted => ?_
      -- the block that is accepted is among those that were decoded
      have hdecoded := (hattributed.step action).decoded (frame.payload, number)
      rw [hheard] at hdecoded
      refine (hdecoded (List.mem_append_right _ ?_)).status
      rw [if_pos haccepted]
      exact List.mem_cons_self
  | restarted hsession => exact hsession ▸ staysIdle_create _ _ _

/-! ## The database -/

/-- The snapshot names no state of a filling. -/
def IdleSnapshot (row : PumpStateSnapshotRow) : Prop :=
  ∀ state, PumpState.ofValue? row.normalizedState = some state →
    state ∈ StateMachine.idleStates

/-- The event reports no state of a filling. -/
def IdleEvent (event : ControllerEvent) : Prop :=
  ∀ payload ∈ stateChange event, payload.normalizedState ∈ StateMachine.idleStates

/-- Nothing was sold, and the snapshots lead to no filling. -/
structure Unsold (db : Database) : Prop where
  transactions : db.transactions = []
  snapshots : ∀ row ∈ db.states, IdleSnapshot row

section

variable {bridge : PersistenceBridge} {env : Env} {process : Process}

theorem idleSnapshot_persisted {pumpDb : String} {context : PumpContext}
    {sourceFrameRef : Option String} {db : Database}
    (hsnapshots : ∀ row ∈ db.states, IdleSnapshot row)
    (hcontext : context.currentState ∈ StateMachine.idleStates) :
    ∀ row ∈ (persisted env pumpDb context sourceFrameRef db).states, IdleSnapshot row := by
  intro row hrow
  unfold persisted at hrow
  dsimp only at hrow
  split at hrow
  · exact hsnapshots row hrow
  · rcases List.mem_append.mp hrow with hold | hnew
    · exact hsnapshots row hold
    · rw [List.mem_singleton.mp hnew]
      intro state hstate
      change PumpState.ofValue? context.currentState.value = some state at hstate
      rw [PumpState.ofValue?_value] at hstate
      exact Option.some.inj hstate ▸ hcontext

theorem idle_commContext {type : CommType} {address : Byte}
    {latest : Option PumpStateSnapshotRow} {context : PumpContext}
    (hlatest : ∀ row ∈ latest, IdleSnapshot row)
    (hcontext : bridge.commContext type address latest = .ok context) :
    context.currentState ∈ StateMachine.idleStates := by
  cases latest with
  | none =>
      rw [commContext_of_none] at hcontext
      cases hcontext
      have hstart : PumpState.DISCONNECTED ∈ StateMachine.idleStates := by decide
      exact hstart
  | some last =>
      cases hstate : PumpState.ofValue? last.normalizedState with
      | none =>
          rw [commContext_of_unknown _ _ _ hstate] at hcontext
          cases hcontext
      | some state =>
          rw [commContext_of_state _ _ _ hstate] at hcontext
          cases hcontext
          exact hlatest last rfl state hstate

theorem idleSnapshots_handleComm {type : CommType} {address : Byte}
    (hsnapshots : ∀ row ∈ process.db.states, IdleSnapshot row) :
    ∀ row ∈ (bridge.handleComm env type address process).db.states, IdleSnapshot row := by
  intro row hrow
  unfold handleComm commit at hrow
  dsimp only at hrow
  cases hpump : bridge.pumpDb address with
  | none =>
      rw [commUnit_unknown hpump] at hrow
      exact hsnapshots row hrow
  | some pumpDb =>
      rw [commUnit_known hpump] at hrow
      cases hcontext : bridge.commContext type address
          (StateRepository.latest pumpDb process.db.states) with
      | error error =>
          rw [hcontext] at hrow
          exact hsnapshots row hrow
      | ok context =>
          rw [hcontext] at hrow
          have hidle := idle_commContext (fun row hlatest =>
            hsnapshots row (StateRepository.pumpId_of_latest hlatest).2) hcontext
          have haudited : ∀ row ∈ (audited bridge env type address process.db).states,
              IdleSnapshot row := hsnapshots
          exact idleSnapshot_persisted haudited hidle row hrow

/-- An event without a filling leaves no snapshot of one. -/
theorem idleSnapshots_handle {event : ControllerEvent} (hidle : IdleEvent event)
    (hsnapshots : ∀ row ∈ process.db.states, IdleSnapshot row) :
    ∀ row ∈ (bridge.handle env event process).db.states, IdleSnapshot row := by
  obtain ⟨type, address, detail, payload⟩ := event
  cases type with
  | STATE_CHANGED =>
      cases payload with
      | stateChanged payload =>
          change ∀ row ∈ (bridge.handleStateChanged env address payload process).db.states, _
          rcases states_handleStateChanged_cases bridge env address payload process with
            hsame | ⟨pumpDb, hnoted⟩
          · rw [hsame]
            exact hsnapshots
          · rw [hnoted]
            exact idleSnapshot_persisted hsnapshots (hidle payload rfl)
      | _ => exact hsnapshots
  | APPLICATION_TRANSACTION_DECODED =>
      cases payload with
      | transactionDecoded payload =>
          change ∀ row ∈ (handleAppDecoded env address detail payload process).db.states, _
          cases hrequest : decodedRequest address detail payload process with
          | none =>
              unfold handleAppDecoded
              rw [hrequest]
              exact hsnapshots
          | some req =>
              rw [handleAppDecoded_eq hrequest, (LedgerUnit.outcome _ process).states]
              exact hsnapshots
      | _ => exact hsnapshots
  | PUMP_CONNECTED => exact idleSnapshots_handleComm hsnapshots
  | PUMP_DISCONNECTED => exact idleSnapshots_handleComm hsnapshots
  | _ => exact hsnapshots

/-- A call that begins nothing leaves an empty ledger empty. -/
theorem transactions_outcome {call : LedgerCall} {after : Database}
    (hempty : process.db.transactions = []) (hbegins : ∀ req, call ≠ .begin req)
    (houtcome : LedgerOutcome env process call after) : after.transactions = [] := by
  have hnothing : ∀ uuid, TransactionRepository.getByUuid uuid process.db = none := by
    intro uuid
    unfold TransactionRepository.getByUuid
    rw [hempty]
    rfl
  cases houtcome with
  | nothing => exact hempty
  | begun req hnew hid => exact absurd rfl (hbegins req)
  | filled req row hrow =>
      rw [hnothing] at hrow
      cases hrow
  | closed req row hkey hrow hopen =>
      rw [hnothing] at hrow
      cases hrow

/-- An event without a filling begins no sale. -/
theorem eventCall_ne_begin {event : ControllerEvent} {call : LedgerCall}
    (hidle : IdleEvent event) (hcall : eventCall bridge env event process = some call) :
    ∀ req, call ≠ .begin req := by
  obtain ⟨type, address, detail, payload⟩ := event
  unfold eventCall at hcall
  dsimp only at hcall
  split at hcall
  · obtain ⟨pumpDb, -, hsale⟩ := Option.bind_eq_some_iff.mp hcall
    rename_i changed
    have hstate := hidle changed rfl
    rcases saleCall_cases bridge env pumpDb address changed process with hplain |
      ⟨hbegins, -⟩ | ⟨-, -, known, -, hcomplete⟩
    · rw [hplain] at hsale
      cases hsale
    · have hfilling : PumpState.FILLING ∉ StateMachine.idleStates := by decide
      exact absurd (hbegins.1 ▸ hstate) hfilling
    · rw [hcomplete] at hsale
      cases hsale
      exact fun _ => LedgerCall.noConfusion
  · obtain ⟨req, -, rfl⟩ := Option.map_eq_some_iff.mp hcall
    exact fun _ => LedgerCall.noConfusion
  · cases hcall

theorem Unsold.handle (hunsold : Unsold process.db) {event : ControllerEvent}
    (hidle : IdleEvent event) (bridge : PersistenceBridge) (env : Env) :
    Unsold (bridge.handle env event process).db := by
  refine ⟨?_, idleSnapshots_handle hidle hunsold.snapshots⟩
  cases handle_outcome bridge env event process with
  | noted hnoted => exact hnoted.transactions.trans hunsold.transactions
  | called hcall hnoted houtcome =>
      exact transactions_outcome (hnoted.transactions.trans hunsold.transactions)
        (eventCall_ne_begin hidle hcall) houtcome

end

/-! ## The start of a process -/

theorem salesKept_atomically {α : Type} {unit : UnitOfWork α}
    (hunit : Preserves SalesKept unit) : Preserves SalesKept (atomically unit) := by
  intro db
  have hran := hunit db
  unfold finalState atomically at *
  cases hresult : unit db with
  | ok value after =>
      rw [hresult] at hran
      exact hran
  | error error after => exact refl_of SalesKept db

theorem salesKept_start (setup : Setup) (env : Env) : Preserves SalesKept (setup.start env) := by
  have hrecover : Preserves SalesKept (RecoveryService.recover env setup.stationId) := by
    intro db
    obtain ⟨report, hran, -⟩ := RecoveryService.recover_eq env setup.stationId db
    unfold finalState
    rw [hran]
    exact ⟨rfl, rfl⟩
  exact .of_bind (salesKept_atomically (salesKept_ensurePumps _ _ _)) fun _ =>
    .of_bind (salesKept_atomically hrecover) fun _ => .of_pure _

/-- The contexts that are recovered from such a database are idle. -/
theorem idle_recovered {setup : Setup} {env : Env} {db : Database}
    {runtime : PersistenceRuntime} (hunsold : Unsold db)
    (hstarted : returned (setup.start env) db = some runtime) :
    ∀ entry ∈ runtime.recovery.pumpContexts,
      entry.2.currentState ∈ StateMachine.idleStates := by
  intro entry hentry
  obtain ⟨pump, hcontext⟩ := (startPersistence_ok (eq_ok_of_returned hstarted)).2 entry hentry
  rw [hcontext]
  cases hlatest : StateRepository.latest pump.id db.states with
  | none =>
      change PumpState.DISCONNECTED ∈ StateMachine.idleStates
      decide
  | some row =>
      have hrow := hunsold.snapshots row (StateRepository.pumpId_of_latest hlatest).2
      change (PumpState.ofValue? row.normalizedState).getD .DISCOVERING ∈
        StateMachine.idleStates
      cases hstate : PumpState.ofValue? row.normalizedState with
      | none => decide
      | some state => exact hrow state hstate

theorem staysIdle_restartedLink (link : LinkState) {recovery : Option RecoveryReport}
    (hcontexts : ∀ report ∈ recovery, ∀ entry ∈ report.pumpContexts,
      entry.2.currentState ∈ StateMachine.idleStates) :
    StaysIdle (Station.restartedLink link recovery).session := by
  have hfresh : StaysIdle (link.step .restartController).session := staysIdle_create _ _ _
  unfold Station.restartedLink
  cases recovery with
  | none => exact hfresh
  | some report =>
      dsimp only
      unfold seedSession
      split
      · exact hfresh
      · rename_i ctx hfound
        have hmem := List.mem_reverse.mp (List.mem_of_find?_eq_some hfound)
        obtain ⟨entry, hentry, rfl⟩ := List.mem_map.mp hmem
        exact ⟨hcontexts report rfl entry hentry, hfresh.2⟩

/-- The recovered context makes no difference to the line. -/
theorem attributed_restartedLink {link : LinkState} {readings : List Reading}
    (hattributed : Attributed link readings) (recovery : Option RecoveryReport) :
    ∃ later, Attributed (Station.restartedLink link recovery) later := by
  have hfresh := hattributed.step .restartController
  refine ⟨readings ++ (link.step .restartController).meter, ?_⟩
  unfold Station.restartedLink
  cases recovery with
  | none => exact hfresh
  | some report =>
      dsimp only
      unfold seedSession
      split
      · exact hfresh
      · obtain ⟨pump, hpump⟩ := hfresh
        exact ⟨pump, { hpump with
          wellFormed := { hpump.wellFormed with }
          sourced := { hpump.sourced with } }⟩

/-! ## Runs of the station -/

structure NeverSold (station : Station) : Prop where
  attributed : ∃ readings, Attributed station.link readings
  session : StaysIdle station.link.session
  published : ∀ event ∈ station.published, IdleEvent event
  database : Unsold station.process.db

theorem NeverSold.step {station : Station} (hnever : NeverSold station) (setup : Setup)
    (action : StationAction) : NeverSold (station.step setup action) := by
  obtain ⟨⟨readings, hattributed⟩, hsession, hpublished, hdatabase⟩ := hnever
  cases action with
  | dialogue action =>
      have hidle := staysIdle_step hattributed hsession action
      refine ⟨⟨_, hattributed.step action⟩, hidle, fun event hevent => ?_, hdatabase⟩
      rcases List.mem_append.mp hevent with hold | hnew
      · exact hpublished event hold
      · intro payload hpayload
        exact hidle.2 payload
          (List.mem_filterMap.mpr ⟨event, List.mem_of_mem_drop hnew, hpayload⟩)
  | startProcess env =>
      have hkept := salesKept_start setup env station.process.db
      refine ⟨attributed_restartedLink hattributed _, ?_,
        fun event hevent => absurd hevent List.not_mem_nil, ?_⟩
      · refine staysIdle_restartedLink _ fun report hreport => ?_
        obtain ⟨runtime, hstarted, rfl⟩ := Option.mem_map.mp hreport
        exact idle_recovered hdatabase hstarted
      · exact ⟨hkept.2.trans hdatabase.transactions, hkept.1 ▸ hdatabase.snapshots⟩
  | handle env number commits =>
      unfold Station.step
      dsimp only
      split
      · rename_i bridge event hbridge hevent
        refine ⟨⟨readings, hattributed⟩, hsession, hpublished, ?_⟩
        dsimp only
        split
        · exact hdatabase.handle (hpublished event (List.mem_of_getElem? hevent)) bridge env
        -- the unit was rolled back
        · exact hdatabase
      · exact ⟨⟨readings, hattributed⟩, hsession, hpublished, hdatabase⟩

/-- With the simulated pump the controller is never led to a filling, and no sale is ever
recorded, however the pump is operated and whatever is lost, corrupted or restarted. -/
theorem no_sale_recorded (config : SimulatorConfig) (address : Byte) (pumpId : String)
    (setup : Setup) (actions : List StationAction)
    (haddress : address ∈ config.pumps.map (·.dartAddress)) :
    ((Station.start config address pumpId).run setup
        actions).link.session.context.currentState ∈ StateMachine.idleStates ∧
      ((Station.start config address pumpId).run setup
        actions).process.db.transactions = [] := by
  have hstart : NeverSold (Station.start config address pumpId) :=
    ⟨⟨_, attributed_start config pumpId haddress⟩, staysIdle_create _ _ _,
      fun event hevent => absurd hevent List.not_mem_nil,
      ⟨rfl, fun row hrow => absurd hrow List.not_mem_nil⟩⟩
  have hrun : NeverSold ((Station.start config address pumpId).run setup actions) := by
    unfold Station.run
    induction actions using List.reverseRecOn with
    | nil => exact hstart
    | append_singleton actions last ih =>
        rw [List.foldl_append]
        exact ih.step setup last
  exact ⟨hrun.session.1, hrun.database.transactions⟩

/-- A pump delivers, and the process handles all that it hears of it. -/
def deliveringStation : List StationAction :=
  [.startProcess (numberedEnv 0)] ++ fillingRun.map .dialogue ++
    (List.range 70).map fun number => .handle (numberedEnv (number + 1)) number true

theorem no_sale_recorded_delivering :
    (∃ report ∈ reports ((Station.start {} 0x01 "fp-1").run onePumpSetup
        deliveringStation).published, ∃ volume ∈ report.rawVolume, 0 < volume) ∧
      ((Station.start {} 0x01 "fp-1").run onePumpSetup
        deliveringStation).link.session.context.currentState ∈ StateMachine.idleStates ∧
      ((Station.start {} 0x01 "fp-1").run onePumpSetup
        deliveringStation).process.db.transactions = [] :=
  ⟨by decide +kernel,
    no_sale_recorded {} 0x01 "fp-1" onePumpSetup deliveringStation (by decide)⟩

end Link
end Intelipump
