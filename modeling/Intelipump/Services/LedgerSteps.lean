import Mathlib.Tactic.Common
import Intelipump.Services.BridgeSteps
import Intelipump.Services.LedgerCoupling

namespace Intelipump
namespace Services

open Controller
open Dart.Line
open Foundation.StateEffect
open Foundation.Tables
open Persistence
open PersistenceBridge

/-!
# Steps of the process

The ledger is written by calls of the service and by the events of the bridge.
An event leads to at most one call, beside what is only noted
(`handle_outcome`), so the books are kept by every step.
-/

/-- The call that an event leads to. -/
def eventCall (bridge : PersistenceBridge) (env : Env) (event : ControllerEvent)
    (process : Process) : Option LedgerCall :=
  match event.type, event.payload with
  | .STATE_CHANGED, .stateChanged payload =>
      (bridge.pumpDb event.address).bind fun pumpDb =>
        saleCall bridge env pumpDb event.address payload process
  | .APPLICATION_TRANSACTION_DECODED, .transactionDecoded payload =>
      (decodedRequest event.address event.detail payload process).map .updateFilling
  | _, _ => none

/-- A call of the service in a unit of its own, or an event for the bridge. -/
inductive LedgerStep where
  | call (unit : LedgerUnit)
  | handle (env : Env) (event : ControllerEvent)

def LedgerStep.run (bridge : PersistenceBridge) (process : Process) : LedgerStep → Process
  | .call unit => unit.run process
  | .handle env event => bridge.handle env event process

/-- The process after steps one after another. -/
def runSteps (bridge : PersistenceBridge) (process : Process) (steps : List LedgerStep) :
    Process :=
  steps.foldl (LedgerStep.run bridge) process

/-- A call of its own is one that the bridge could make. -/
def LedgerStep.WellFormed : LedgerStep → Prop
  | .call unit => unit.call.WellFormed
  | .handle _ _ => True

instance (step : LedgerStep) : Decidable step.WellFormed := by
  cases step <;> unfold LedgerStep.WellFormed <;> infer_instance

section

variable {bridge : PersistenceBridge} {env : Env} {address : Byte} {process : Process}

/-- A value that is dropped makes no difference to a unit of work. -/
theorem unitOfWork_discard {α : Type} (body : ProcessM α) (process : Process) :
    (unitOfWork (body >>= fun _ => pure ()) process).2 = (unitOfWork body process).2 := by
  unfold unitOfWork
  cases hbody : body process with
  | ok value after => rw [bind_ok hbody]; rfl
  | error error after => rw [bind_error hbody]

/-- A decoded DC2 is an update in a unit of its own. -/
theorem handleAppDecoded_eq {detail : String} {payload : TransactionDecodedPayload}
    {req : FillingUpdateRequest}
    (hrequest : decodedRequest address detail payload process = some req) :
    handleAppDecoded env address detail payload process =
      LedgerUnit.run ⟨env, .updateFilling req, false⟩ process := by
  unfold handleAppDecoded
  rw [hrequest]
  exact (unitOfWork_discard _ process).symm

/-- What an event can do to the database: nothing, a note, or a note and an
outcome of the one call that it leads to. -/
inductive EventOutcome (bridge : PersistenceBridge) (env : Env) (event : ControllerEvent)
    (process : Process) : Database → Prop where
  | noted {db : Database} (hnoted : Noted process.db db) :
      EventOutcome bridge env event process db
  | called {call : LedgerCall} (hcall : eventCall bridge env event process = some call)
      {between : Process} (hnoted : Noted process.db between.db) {db : Database}
      (houtcome : LedgerOutcome env between call db) :
      EventOutcome bridge env event process db

/-- A unit of work that runs one call leaves an outcome of it, or is rolled
back. -/
theorem call_outcome (env : Env) (call : LedgerCall) (between : Process) :
    (∃ error, call.run env between = .error error between) ∨
      ∃ db book, call.run env between =
        .ok () { between with db := db, fillBook := book } ∧
          LedgerOutcome env between call db :=
  (call.outcome env between).symm

theorem stateChanged_outcome (bridge : PersistenceBridge) (env : Env) (address : Byte)
    (detail : String) (payload : StateChangedPayload) (process : Process) :
    EventOutcome bridge env ⟨.STATE_CHANGED, address, detail, .stateChanged payload⟩ process
      (bridge.handleStateChanged env address payload process).db := by
  unfold handleStateChanged
  cases hpump : bridge.pumpDb address with
  | none => exact .noted (.refl _)
  | some pumpDb =>
      have hnoted : Noted process.db
          (notedProcess bridge env pumpDb address payload process).db :=
        noted_persisted env pumpDb _ _ process.db
      have heventCall : eventCall bridge env
          ⟨.STATE_CHANGED, address, detail, .stateChanged payload⟩ process =
            saleCall bridge env pumpDb address payload process := by
        unfold eventCall
        dsimp only
        rw [hpump, Option.bind_some]
      dsimp only
      unfold unitOfWork
      rcases saleCall_cases bridge env pumpDb address payload process with hplain |
        ⟨hbegins, hcall⟩ | ⟨hbegins, hends, known, hknown, hcall⟩
      · rw [stateChangedUnit_plain hplain]
        exact .noted hnoted
      · have hmarked : Noted process.db (remember address
            (saleUuid env address payload process)
            (notedProcess bridge env pumpDb address payload process)).db := hnoted
        rw [stateChangedUnit_begins hbegins]
        rcases call_outcome env (.begin (bridge.beginRequest pumpDb
            (saleUuid env address payload process) payload))
            (remember address (saleUuid env address payload process)
              (notedProcess bridge env pumpDb address payload process)) with
          ⟨error, hraised⟩ | ⟨db, book, hran, houtcome⟩
        · rw [hraised]
          exact .noted (.refl _)
        · rw [hran]
          exact .called (heventCall.trans hcall) hmarked houtcome
      · rw [stateChangedUnit_ends hbegins hends hknown]
        rcases call_outcome env (.complete (completeRequest known payload))
            (notedProcess bridge env pumpDb address payload process) with
          ⟨error, hraised⟩ | ⟨db, book, hran, houtcome⟩
        · rw [bind_error hraised]
          exact .noted (.refl _)
        · rw [bind_ok hran]
          exact .called (heventCall.trans hcall) hnoted houtcome

theorem handle_outcome (bridge : PersistenceBridge) (env : Env) (event : ControllerEvent)
    (process : Process) :
    EventOutcome bridge env event process (bridge.handle env event process).db := by
  obtain ⟨type, address, detail, payload⟩ := event
  cases type with
  | STATE_CHANGED =>
      cases payload with
      | stateChanged payload => exact stateChanged_outcome bridge env address detail payload _
      | _ => exact .noted (.refl _)
  | APPLICATION_TRANSACTION_DECODED =>
      cases payload with
      | transactionDecoded payload =>
          change EventOutcome _ _ _ _ (handleAppDecoded env address detail payload process).db
          cases hrequest : decodedRequest address detail payload process with
          | none =>
              unfold handleAppDecoded
              rw [hrequest]
              exact .noted (.refl _)
          | some req =>
              have hcall : eventCall bridge env ⟨.APPLICATION_TRANSACTION_DECODED, address,
                  detail, .transactionDecoded payload⟩ process = some (.updateFilling req) := by
                unfold eventCall
                dsimp only
                rw [hrequest]
                rfl
              rw [handleAppDecoded_eq hrequest]
              exact .called hcall (.refl process.db)
                (LedgerUnit.outcome ⟨env, .updateFilling req, false⟩ process)
      | _ => exact .noted (.refl _)
  | PUMP_CONNECTED => exact .noted (noted_handleComm _ _ _ _ _)
  | PUMP_DISCONNECTED => exact .noted (noted_handleComm _ _ _ _ _)
  | _ => exact .noted (.refl _)

/-! ## The books -/

/-- The bridge makes well-formed calls only. -/
theorem wellFormed_eventCall {event : ControllerEvent} {call : LedgerCall}
    (hcall : eventCall bridge env event process = some call) : call.WellFormed := by
  unfold eventCall at hcall
  split at hcall
  · obtain ⟨pumpDb, -, hsale⟩ := Option.bind_eq_some_iff.mp hcall
    rename_i payload _ _
    rcases saleCall_cases bridge env pumpDb event.address payload process with hplain |
      ⟨-, hbegin⟩ | ⟨-, -, known, -, hcomplete⟩
    · rw [hplain] at hsale
      cases hsale
    · rw [hbegin] at hsale
      cases hsale
      trivial
    · rw [hcomplete] at hsale
      cases hsale
      exact completeRequest_key_ne_empty known payload
  · obtain ⟨req, hrequest, rfl⟩ := Option.map_eq_some_iff.mp hcall
    unfold decodedRequest at hrequest
    split at hrequest
    · split at hrequest
      · cases hrequest
        intro key hkey
        exact (Option.some.inj hkey).symm
      · cases hrequest
    · cases hrequest
  · cases hcall

/-- What is only noted leaves the books as they are. -/
theorem Books.noted {before after : Database} (hbooks : Books before)
    (hnoted : Noted before after) : Books after := by
  have hqueue : ∀ type, type ≠ .STATE_CHANGED →
      queuedOf type after.syncQueue = queuedOf type before.syncQueue := by
    intro type htype
    rcases hnoted.syncQueue with hsame | ⟨row, hstate, -, hinserted⟩
    · rw [hsame]
    · rw [hinserted]
      exact filter_insertNew (decide_eq_false (hstate ▸ htype.symm))
  constructor
  case ids => exact hnoted.transactions ▸ hbooks.ids
  case uuids => exact hnoted.transactions ▸ hbooks.uuids
  case startedQueue =>
    rw [hqueue .TRANSACTION_STARTED (by decide), hnoted.transactions]
    exact hbooks.startedQueue
  case startedEvents =>
    rw [hnoted.transactionEvents, hnoted.transactions]
    exact hbooks.startedEvents
  case completedQueue =>
    rw [hqueue .TRANSACTION_COMPLETED (by decide), hnoted.transactions]
    exact hbooks.completedQueue
  case completedEvents =>
    rw [hnoted.transactionEvents, hnoted.transactions]
    exact hbooks.completedEvents
  case keys => exact hnoted.transactions ▸ hbooks.keys
  case closed => exact hnoted.transactions ▸ hbooks.closed
  case fillingRows =>
    rcases hnoted.syncQueue with hsame | ⟨row, hstate, -, hinserted⟩
    · rw [hsame]
      exact hbooks.fillingRows
    · rw [hinserted]
      refine forall_mem_insertNew hbooks.fillingRows fun htype => ?_
      rw [hstate] at htype
      cases htype
  case alarmRows =>
    rcases hnoted.syncQueue with hsame | ⟨row, hstate, -, hinserted⟩
    · rw [hsame]
      exact hbooks.alarmRows
    · rw [hinserted]
      refine forall_mem_insertNew hbooks.alarmRows fun htype => ?_
      rw [hstate] at htype
      cases htype
  case stateRows =>
    rcases hnoted.syncQueue with hsame | ⟨row, -, hkey, hinserted⟩
    · rw [hsame]
      exact hbooks.stateRows
    · rw [hinserted]
      exact forall_mem_insertNew hbooks.stateRows fun _ => hkey
  case fillingEvents =>
    rw [hnoted.transactionEvents]
    exact hbooks.fillingEvents

/-- Every step keeps the books. -/
theorem Books.step (hbooks : Books process.db) {step : LedgerStep}
    (hstep : step.WellFormed) : Books (step.run bridge process).db := by
  cases step with
  | call unit => exact (unit.outcome process).books hstep hbooks
  | handle env event =>
      cases handle_outcome bridge env event process with
      | noted hnoted => exact hbooks.noted hnoted
      | called hcall hnoted houtcome =>
          exact houtcome.books (wellFormed_eventCall hcall) (hbooks.noted hnoted)

theorem books_runSteps {steps : List LedgerStep} (hsteps : ∀ step ∈ steps, step.WellFormed)
    (hbooks : Books process.db) : Books (runSteps bridge process steps).db := by
  induction steps generalizing process with
  | nil => exact hbooks
  | cons step rest ih =>
      obtain ⟨hfirst, hrest⟩ := List.forall_mem_cons.mp hsteps
      exact ih hrest (hbooks.step hfirst)

end

end Services
end Intelipump
