import Mathlib.Data.Finset.Insert
import Mathlib.Tactic.Common
import Intelipump.Api.Commands

namespace Intelipump
namespace Cloud

open Api (AppState)
open Controller
open Dart.Application
open Dart.Line
open Domain
open Foundation.StateEffect
open Persistence
open Services
open StateMachine hiding Outcome

/-!
# Inbound cloud commands

A command is checked, evaluated, in LAB possibly enqueued, and persisted.  The parts
between two awaits are functions of their own, so that a call can be run alone
(`handleCommand`) and against others.  The published result is what a call returns.
-/

structure CloudCommandInbound where
  commandId : String
  correlationId : String
  stationId : String
  pumpId : String
  commandType : String
  payload : Json := .object []
  simulatorOnly : Bool := true
  expiresAt : Option Int := none
  requestedBy : Option String := none
  schemaVersion : String := "1.0"
  environment : String := "LAB"
deriving Repr

structure CloudCommandIntake where
  stationId : String
  /-- In upper case. -/
  environment : String
  simulated : Bool
  allowLab : Bool
  seen : Finset String := ∅
deriving DecidableEq

namespace CloudCommandIntake

def create (stationId environment : String) (simulated allowLabSimulatorCommands : Bool) :
    CloudCommandIntake where
  stationId := stationId
  environment := environment.toUpper
  simulated := simulated
  allowLab := allowLabSimulatorCommands

variable (intake : CloudCommandIntake)

/-! ## Checks -/

/-- The reasons found before the first await. -/
def validationReasons (now : Int) (cmd : CloudCommandInbound) : List String :=
  blocks (cmd.stationId ≠ intake.stationId) "wrong_station" ++
    blocks (cmd.environment.toUpper ≠ intake.environment) "wrong_environment" ++
    blocks (cmd.schemaVersion ≠ "1.0") "unsupported_schema_version" ++
    blocks (intake.environment ≠ "LAB" ∧ cmd.simulatorOnly = true)
      "simulator_only_requires_LAB" ++
    blocks (∃ expires ∈ cmd.expiresAt, expires ≤ now) "expired" ++
    blocks (cmd.correlationId ∈ intake.seen) "duplicate_correlation_id"

/-- The command table has the command. -/
def IsPersisted (correlationId : String) (db : Database) : Prop :=
  correlationId ∈ db.commands.map (·.correlationId)

instance (correlationId : String) (db : Database) :
    Decidable (IsPersisted correlationId db) :=
  inferInstanceAs (Decidable (_ ∈ _))

/-- The reasons found by the first unit of work and by parsing the command type. -/
def lookupReasons (cmd : CloudCommandInbound) (db : Database) : List String :=
  blocks (IsPersisted cmd.correlationId db) "duplicate_persisted_command" ++
    blocks (PumpCommand.ofValue? cmd.commandType = none) "unknown_command_type"

/-! ## Evaluation -/

/-- What is known of a command before it is submitted. -/
structure Evaluation where
  reasons : List String
  pumpDbId : Option String := none
  context : Option PumpContext := none
  warnings : List String := []
  currentState : String := "UNKNOWN"
  eligible : Bool := false

/-- The first pump of the station that is meant. -/
def findPump (cmd : CloudCommandInbound) (db : Database) : Option PumpRow :=
  (PumpRepository.listForStation intake.stationId db).find? fun pump =>
    pump.logicalPumpId = cmd.pumpId ∨ pump.id = cmd.pumpId ∨
      toString pump.dartAddress.toNat = cmd.pumpId

/-- The context of a pump that no session is running for. -/
def snapshotContext (pump : PumpRow) (snap : Option PumpStateSnapshotRow) : PumpContext where
  pumpId := pump.logicalPumpId
  dartAddress := pump.dartAddress
  currentState := (snap.bind fun snap => PumpState.ofValue? snap.normalizedState).getD
    .DISCONNECTED
  communicationHealthy := (snap.map (·.communicationHealthy)).getD false
  stateVersion := (snap.map (·.stateVersion)).getD 0

/-- The second unit of work: find the pump and evaluate the command on its context. -/
def evaluatePump (app : AppState) (cmd : CloudCommandInbound) (command : PumpCommand) :
    Evaluation :=
  match findPump intake cmd app.db with
  | none => { reasons := ["pump_not_found"] }
  | some pump =>
      let context := (app.controllerLoop.bind (·.sessionContext pump.dartAddress)).getD
        (snapshotContext pump (StateRepository.latest pump.id app.db.states))
      let result := evaluateCommandEligibility command context none
      { reasons := result.blockingReasons
        pumpDbId := some pump.id
        context := some context
        warnings := eligibilityWarnings command false false
        currentState := result.currentState.value
        eligible := result.eligible }

/-- A command is only evaluated when it is known and nothing spoke against it. -/
def evaluate (app : AppState) (cmd : CloudCommandInbound) (reasons : List String) :
    Evaluation :=
  match reasons, PumpCommand.ofValue? cmd.commandType with
  | [], some command => evaluatePump intake app cmd command
  | reasons, _ => { reasons := reasons }

/-! ## Submission -/

/-- The controller loop, when the command may be enqueued on it. -/
def labLoop (app : AppState) (cmd : CloudCommandInbound) : Option ControllerLoop :=
  if intake.environment = "LAB" ∧ cmd.simulatorOnly = true ∧ intake.allowLab = true then
    app.controllerLoop.filter fun loop => loop.isVirtualOrMemory
  else none

/-- How a submission went: with nothing enqueued, with the loop after an enqueue, or with
an enqueue that was refused. -/
inductive Submission where
  | evaluatedOnly (reasons : List String)
  | queued (reasons : List String) (loop : ControllerLoop)
  | enqueueFailed (reasons : List String)

namespace Submission

def executed : Submission → Bool
  | queued _ _ => true
  | evaluatedOnly _ | enqueueFailed _ => false

def status : Submission → CommandStatus
  | evaluatedOnly _ => .EVALUATED_ONLY
  | queued _ _ => .QUEUED
  | enqueueFailed _ => .ENQUEUE_FAILED

def reasons : Submission → List String
  | evaluatedOnly reasons | queued reasons _ | enqueueFailed reasons => reasons

/-- The loop after an enqueue. -/
def loop : Submission → Option ControllerLoop
  | queued _ loop => some loop
  | evaluatedOnly _ | enqueueFailed _ => none

end Submission

def tryEnqueue (env : Env) (address : Byte) (command : PumpCommand)
    (control : PumpControlCommand) (loop : ControllerLoop) (reasons : List String) :
    Submission :=
  match enqueueLab env address command control loop with
  | .ok after => .queued reasons after
  | .error error => .enqueueFailed (reasons ++ ["enqueue_failed:" ++ error.message])

/-- An active command without a context goes to address 1, a read is not enqueued. -/
def targetAddress (command : PumpCommand) (evaluation : Evaluation) : Option Byte :=
  match evaluation.context with
  | some context => some context.dartAddress
  | none => if command ∈ NON_IDEMPOTENT_COMMANDS then some 0x01 else none

def submit (env : Env) (app : AppState) (cmd : CloudCommandInbound)
    (evaluation : Evaluation) : Submission :=
  match PumpCommand.ofValue? cmd.commandType with
  | none => .evaluatedOnly evaluation.reasons
  | some command =>
      match labLoop intake app cmd, CD1_MAP command, targetAddress command evaluation,
          evaluation.reasons with
      | some loop, some control, some address, [] =>
          tryEnqueue env address command control loop []
      | _, _, _, reasons => .evaluatedOnly reasons

/-- The command may be enqueued on the station, nothing was found against it, and the
outbound queue takes its item. -/
def mayEnqueue (env : Env) (app : AppState) (cmd : CloudCommandInbound)
    (evaluation : Evaluation) : Bool :=
  match PumpCommand.ofValue? cmd.commandType with
  | none => false
  | some command =>
      match labLoop intake app cmd, CD1_MAP command, targetAddress command evaluation with
      | some loop, some control, some address =>
          evaluation.reasons.isEmpty && (enqueueLab env address command control loop).toBool
      | _, _, _ => false

/-! ## Outcome -/

def REJECTING_REASONS : List String :=
  ["wrong_station", "wrong_environment", "unsupported_schema_version", "expired",
    "duplicate_correlation_id", "duplicate_persisted_command", "unknown_command_type",
    "pump_not_found"]

/-- What is persisted and answered. -/
structure Outcome where
  accepted : Bool
  executed : Bool
  status : CommandStatus
  reasons : List String
  pumpDbId : Option String
  warnings : List String
  currentState : String
  resultingState : Option String
deriving DecidableEq, Repr

def outcome (evaluation : Evaluation) (submission : Submission) : Outcome :=
  let reasons := submission.reasons
  let rejected := REJECTING_REASONS.any (· ∈ reasons)
  let accepted := reasons.isEmpty || (evaluation.eligible &&
    decide (submission.status ∈ [CommandStatus.QUEUED, .EVALUATED_ONLY]) &&
    decide ("expired" ∉ reasons) && decide ("wrong_station" ∉ reasons) &&
    decide ("duplicate_correlation_id" ∉ reasons) &&
    decide ("duplicate_persisted_command" ∉ reasons))
  { accepted := accepted && !rejected
    executed := submission.executed
    status := if rejected then .REJECTED else submission.status
    reasons := reasons
    pumpDbId := evaluation.pumpDbId
    warnings := evaluation.warnings
    currentState := evaluation.currentState
    resultingState := if submission.executed then some evaluation.currentState else none }

/-- Commands with an unknown type count as idempotent. -/
def idempotencyOfType (commandType : String) : IdempotencyClass :=
  match PumpCommand.ofValue? commandType with
  | some command => idempotencyOf command
  | none => .IDEMPOTENT

def commandRow (now : Int) (cmd : CloudCommandInbound) (outcome : Outcome) : CommandRow where
  correlationId := cmd.correlationId
  stationId := intake.stationId
  pumpId := outcome.pumpDbId
  commandType := cmd.commandType
  status := outcome.status
  idempotencyClass := idempotencyOfType cmd.commandType
  simulatorOnly := cmd.simulatorOnly
  expiresAt := cmd.expiresAt
  completedAt := some now
  requestPayload := .object [("commandId", .text cmd.commandId),
    ("requestedBy", .ofText? cmd.requestedBy), ("payload", cmd.payload)]
  resultPayload := some (.object [("accepted", .bool outcome.accepted),
    ("executed", .bool outcome.executed), ("execution_status", .text outcome.status.value)])
  blockingReasons := outcome.reasons

def commandAudit (cmd : CloudCommandInbound) (outcome : Outcome) : AuditEntry where
  actor := (usable cmd.requestedBy).getD "cloud"
  source := "mqtt_command"
  action := "CLOUD_COMMAND:" ++ cmd.commandType
  stationId := intake.stationId
  pumpId := outcome.pumpDbId
  previousState := some outcome.currentState
  resultingState := some ((usable outcome.resultingState).getD outcome.currentState)
  result := outcome.status.value
  correlationId := some cmd.correlationId
  details := some (.object [("blocking_reasons", .texts outcome.reasons),
    ("executed", .bool outcome.executed)])

/-- The last unit of work: a command that is not in the table is inserted, and the
outcome is audited. -/
def persistUnit (env : Env) (cmd : CloudCommandInbound) (outcome : Outcome) :
    UnitOfWork Unit := do
  let db ← get
  if ¬ IsPersisted cmd.correlationId db then
    let _ ← CommandRepository.create (intake.commandRow (env.now .commandRow) cmd outcome)
  let _ ← AuditRepository.append env (intake.commandAudit cmd outcome)

end CloudCommandIntake

/-! ## One call -/

/-- The application and the intake of its cloud connection. -/
structure Station where
  app : AppState
  intake : CloudCommandIntake

open CloudCommandIntake

/-- What happens between the evaluation and the last unit of work: the item is
enqueued, and the command is marked as seen. -/
def Station.submitted (station : Station) (cmd : CloudCommandInbound)
    (submission : Submission) : Station where
  app := { station.app with
    controllerLoop := submission.loop.or station.app.controllerLoop }
  intake := { station.intake with
    seen := insert cmd.correlationId station.intake.seen }

/-- The faults of the three units of work of a call. -/
structure IntakeFaults where
  lookup : Option Raised := none
  evaluation : Option Raised := none
  persist : Option Raised := none

/-- Raise the fault of a unit of work, if it has one. -/
def raiseFault (fault : Option Raised) : EStateM Raised Station Unit :=
  match fault with
  | some error => throw error
  | none => pure ()

/-- The last unit of work of a call. -/
def persistOutcome (env : Env) (fault : Option Raised) (cmd : CloudCommandInbound)
    (result : Outcome) : EStateM Raised Station Unit := fun station =>
  match fault with
  | some error => .error error station
  | none =>
      match atomically (station.intake.persistUnit env cmd result) station.app.db with
      | .ok _ db => .ok () { station with app := { station.app with db := db } }
      | .error error _ => .error error station

/-- A call from the submission on. -/
def submitAndPersist (env : Env) (fault : Option Raised) (cmd : CloudCommandInbound)
    (evaluation : Evaluation) : EStateM Raised Station Outcome := do
  let station ← get
  let submission := station.intake.submit env station.app cmd evaluation
  set (station.submitted cmd submission)
  persistOutcome env fault cmd (outcome evaluation submission)
  return outcome evaluation submission

def handleCommand (env : Env) (faults : IntakeFaults) (cmd : CloudCommandInbound) :
    EStateM Raised Station Outcome := do
  let station ← get
  let checked := station.intake.validationReasons (env.now .intake) cmd
  raiseFault faults.lookup
  let reasons := checked ++ lookupReasons cmd station.app.db
  if reasons = [] then raiseFault faults.evaluation
  submitAndPersist env faults.persist cmd (station.intake.evaluate station.app cmd reasons)

/-- A call raises before its submission, or submits what it evaluated. -/
theorem handleCommand_cases (env : Env) (faults : IntakeFaults) (cmd : CloudCommandInbound)
    (station : Station) :
    (∃ error, handleCommand env faults cmd station = .error error station) ∨
    ∃ reasons, handleCommand env faults cmd station =
      submitAndPersist env faults.persist cmd
        (station.intake.evaluate station.app cmd reasons) station := by
  unfold handleCommand
  rw [get_bind]
  cases faults.lookup with
  | some error => exact Or.inl ⟨error, rfl⟩
  | none =>
      let reasons := station.intake.validationReasons (env.now .intake) cmd ++
        lookupReasons cmd station.app.db
      by_cases hreasons : reasons = []
      · cases hevaluation : faults.evaluation with
        | some error =>
            refine Or.inl ⟨error, ?_⟩
            dsimp only
            rw [if_pos hreasons]
            rfl
        | none =>
            refine Or.inr ⟨reasons, ?_⟩
            dsimp only
            rw [if_pos hreasons]
            rfl
      · refine Or.inr ⟨reasons, ?_⟩
        dsimp only
        rw [if_neg hreasons]
        rfl

end Cloud
end Intelipump
