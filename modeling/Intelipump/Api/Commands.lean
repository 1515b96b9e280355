import Mathlib.Tactic.Common
import Intelipump.Persistence.AuditLog
import Intelipump.Persistence.Registry
import Intelipump.Persistence.Snapshots
import Intelipump.Services.LabCommands
import Intelipump.Services.PersistenceBridge

namespace Intelipump
namespace Api

open Controller
open Dart.Application
open Dart.Line
open Domain
open Foundation.StateEffect
open Persistence
open Services
open StateMachine

/-!
# Command evaluation and LAB command submission

The two command routes of the local API.  A database fault of a unit of work comes
in with the call.  Live events that are published after a request are left out.
-/

structure Settings where
  stationId : String
  environment : String
  mode : ControllerMode
  allowLabSimulatorCommands : Bool
  activeCommandsEnabled : Bool
deriving DecidableEq, Repr

structure AppState where
  settings : Settings
  controllerLoop : Option ControllerLoop
  db : Database
  shuttingDown : Bool := false
  acceptingCommands : Bool := true

abbrev AppM := EStateM Raised AppState

/-- `async with unit_of_work(…)` of a route.  When the database fails, whatever the
unit did is rolled back. -/
def withUnit {α : Type} (fault : Option Raised) (unit : UnitOfWork α) : AppM α := fun state =>
  match fault with
  | some error => .error error state
  | none =>
      match atomically unit state.db with
      | .ok value db => .ok value { state with db := db }
      | .error error _ => .error error state

/-- The identifier that the middleware left in the request, or a new one. -/
def getCorrelationId (env : Env) (requestId : Option String) : String :=
  (usable requestId).getD (env.uuid4 .requestId)

/-! ## The context of a pump -/

/-- The pump with an identifier, else the first one of the station with that logical
identifier or address. -/
def findPump (stationId pumpId : String) (db : Database) : Option PumpRow :=
  (PumpRepository.getById pumpId db).or
    ((PumpRepository.listForStation stationId db).find? fun pump =>
      pump.logicalPumpId = pumpId ∨ toString pump.dartAddress.toNat = pumpId)

/-- The context of a pump that no session is running for. -/
def snapshotContext (pump : PumpRow) (snap : Option PumpStateSnapshotRow) : PumpContext where
  pumpId := pump.logicalPumpId
  dartAddress := pump.dartAddress
  currentState := (snap.bind fun snap => PumpState.ofValue? snap.normalizedState).getD
    .DISCONNECTED
  previousState := (usable (snap.bind (·.previousState))).bind PumpState.ofValue?
  selectedNozzle := snap.bind (·.selectedNozzle)
  activeTransactionId := snap.bind (·.activeTransactionId)
  communicationHealthy := (snap.map (·.communicationHealthy)).getD false
  lastRawWayneStatus := snap.bind (·.rawWayneStatus)
  stateVersion := (snap.map (·.stateVersion)).getD 0

/-- A pump that was found, with its context. -/
structure ResolvedPump where
  id : String
  address : Byte
  context : PumpContext

def resolvePumpContext (state : AppState) (pumpId : String) : Except Raised ResolvedPump :=
  match findPump state.settings.stationId pumpId state.db with
  | none => .error (.apiError "PUMP_NOT_FOUND" s!"Pump was not found: {pumpId}" 404 [])
  | some pump =>
      .ok {
        id := pump.id
        address := pump.dartAddress
        context := (state.controllerLoop.bind (·.sessionContext pump.dartAddress)).getD
          (snapshotContext pump (StateRepository.latest pump.id state.db.states)) }

/-- `PumpCommand(text)` of a request. -/
def parseCommand (commandType : String) : Except Raised PumpCommand :=
  match PumpCommand.ofValue? commandType with
  | some command => .ok command
  | none =>
      .error (.apiError "VALIDATION_ERROR" s!"Unknown command_type: {commandType}" 422 [])

/-! ## Evaluation -/

structure CommandEvaluateRequest where
  commandType : String
  nozzleId : Option Nat := none
  rawPresetValue : Option Int := none
  presetDecimals : Option Int := none
  correlationId : Option String := none
  simulatorOnly : Bool := true
  expiresAt : Option Int := none
deriving DecidableEq, Repr

structure CommandEvaluateResponse where
  eligible : Bool
  currentState : String
  blockingReasons : List String
  warnings : List String
  requiresExecutionEnable : Bool
  auditRecordId : String
  correlationId : String
deriving DecidableEq, Repr

/-- The status that an evaluation is persisted with. -/
def evaluationStatus (result : CommandEligibilityResult) : CommandStatus :=
  if result.eligible then .ELIGIBLE else .REJECTED

def evaluationRow (settings : Settings) (now : Int) (correlationId pumpDbId : String)
    (body : CommandEvaluateRequest) (result : CommandEligibilityResult) : CommandRow where
  correlationId := correlationId
  stationId := settings.stationId
  pumpId := some pumpDbId
  commandType := result.command.value
  status := evaluationStatus result
  idempotencyClass := idempotencyOf result.command
  simulatorOnly := body.simulatorOnly
  expiresAt := body.expiresAt
  completedAt := some now
  requestPayload := .object [("nozzle_id", .ofNumber? (body.nozzleId.map Nat.cast)),
    ("raw_preset_value", .ofNumber? body.rawPresetValue),
    ("preset_decimals", .ofNumber? body.presetDecimals)]
  resultPayload := some (.object [("eligible", .bool result.eligible)])
  blockingReasons := result.blockingReasons

def evaluationAudit (settings : Settings) (correlationId pumpDbId : String)
    (result : CommandEligibilityResult) (warnings : List String) : AuditEntry where
  actor := "api"
  source := "command_evaluate"
  action := "COMMAND_EVALUATE:" ++ result.command.value
  stationId := settings.stationId
  pumpId := some pumpDbId
  previousState := some result.currentState.value
  resultingState := some result.currentState.value
  result := (evaluationStatus result).value
  correlationId := some correlationId
  details := some (.object [("blocking_reasons", .texts result.blockingReasons),
    ("warnings", .texts warnings)])

def evaluateCommand (env : Env) (fault : Option Raised) (pumpId : String)
    (requestId : Option String) (body : CommandEvaluateRequest) :
    AppM CommandEvaluateResponse := do
  let state ← get
  if state.shuttingDown ∨ ¬ state.acceptingCommands then
    throw (.apiError "CONTROLLER_UNAVAILABLE" "Controller is shutting down" 503 [])
  let correlationId := (usable body.correlationId).getD (getCorrelationId env requestId)
  let command ← fromExcept (parseCommand body.commandType)
  let pump ← fromExcept (resolvePumpContext state pumpId)
  let context :=
    match body.nozzleId with
    | some nozzleId => { pump.context with selectedNozzle := some nozzleId }
    | none => pump.context
  let result := evaluateCommandEligibility command context (body.rawPresetValue.map Int.cast)
  let warnings := eligibilityWarnings command false state.settings.activeCommandsEnabled
  let auditRow ← withUnit fault do
    let _ ← CommandRepository.create
      (evaluationRow state.settings (env.now .commandRow) correlationId pump.id body result)
    AuditRepository.append env
      (evaluationAudit state.settings correlationId pump.id result warnings)
  return {
    eligible := result.eligible
    currentState := result.currentState.value
    blockingReasons := result.blockingReasons
    warnings := warnings
    requiresExecutionEnable := decide (command ∈ ACTIVE_EXECUTION_COMMANDS)
    auditRecordId := auditRow.id
    correlationId := correlationId }

/-! ## LAB submission -/

structure LabCommandRequest where
  commandType : String
  simulatorOnly : Bool := true
  correlationId : Option String := none
  expiresAt : Option Int := none
deriving DecidableEq, Repr

structure LabCommandResponse where
  correlationId : String
  commandType : String
deriving DecidableEq, Repr

/-- The reasons of the gates, before the command is looked at. -/
def labGateReasons (state : AppState) (body : LabCommandRequest) : List String :=
  blocks (state.settings.environment.toUpper ≠ "LAB") "environment_not_LAB" ++
    blocks (body.simulatorOnly = false) "simulator_only_required" ++
    blocks (state.settings.allowLabSimulatorCommands = false)
      "allow_lab_simulator_commands_disabled" ++
    blocks (state.settings.mode = .LISTEN_ONLY ∧
        body.commandType ∉ [PumpCommand.READ_STATUS.value, PumpCommand.READ_TOTALS.value] ∧
          state.settings.allowLabSimulatorCommands = false)
      "LISTEN_ONLY_blocks_active_commands" ++
    match state.controllerLoop with
    | none => ["controller_loop_not_attached"]
    | some loop => blocks (¬ loop.isVirtualOrMemory) "transport_not_virtual_or_memory"

/-- A request that passed the gates. -/
structure LabAdmission where
  command : PumpCommand
  control : PumpControlCommand
  pump : ResolvedPump
  loop : ControllerLoop

/-- Everything before the enqueue. -/
def admitLab (state : AppState) (pumpId : String) (body : LabCommandRequest) :
    Except Raised LabAdmission := do
  let command ← parseCommand body.commandType
  let reasons := labGateReasons state body ++
    blocks (CD1_MAP command = none)
      s!"command_{command.value}_not_supported_for_lab_enqueue"
  match reasons, state.controllerLoop, CD1_MAP command with
  | [], some loop, some control =>
      let pump ← resolvePumpContext state pumpId
      return ⟨command, control, pump, loop⟩
  | reasons, _, _ =>
      .error (.apiError "SIMULATOR_ONLY_RESTRICTION" "LAB simulator command rejected" 403
        reasons)

/-- The answers to a refused enqueue. -/
def enqueueError : Raised → Raised
  | .outboundRejectedError reasons =>
      .apiError "COMMAND_BLOCKED" "Outbound safety rejected command" 403 reasons
  | .outboundQueueFullError _ =>
      .apiError "CONTROLLER_UNAVAILABLE" "Outbound queue full" 503 []
  | error => error

def labRow (settings : Settings) (correlationId : String) (admission : LabAdmission)
    (body : LabCommandRequest) : CommandRow where
  correlationId := correlationId
  stationId := settings.stationId
  pumpId := some admission.pump.id
  commandType := admission.command.value
  status := .QUEUED
  idempotencyClass := idempotencyOf admission.command
  simulatorOnly := true
  expiresAt := body.expiresAt
  requestPayload := .object [("address", .number admission.pump.address.toNat),
    ("lab", .bool true)]

def labAudit (settings : Settings) (correlationId : String) (admission : LabAdmission) :
    AuditEntry where
  actor := "api"
  source := "lab_command"
  action := "LAB_COMMAND_QUEUED:" ++ admission.command.value
  stationId := settings.stationId
  pumpId := some admission.pump.id
  result := "QUEUED"
  correlationId := some correlationId
  details := some (.object [("transport_kind", .text admission.loop.transportKind)])

/-- The unit of work of a submission. -/
def labUnit (env : Env) (settings : Settings) (correlationId : String)
    (admission : LabAdmission) (body : LabCommandRequest) : UnitOfWork Unit := do
  let _ ← CommandRepository.create (labRow settings correlationId admission body)
  let _ ← AuditRepository.append env (labAudit settings correlationId admission)

/-- The identifier that a submission is recorded under. -/
def labCorrelationId (env : Env) (requestId : Option String) (body : LabCommandRequest) :
    String :=
  (usable body.correlationId).getD (getCorrelationId env requestId)

/-- Enqueue a LAB command, then record it in a unit of work. -/
def labSubmitCommand (env : Env) (fault : Option Raised) (pumpId : String)
    (requestId : Option String) (body : LabCommandRequest) : AppM LabCommandResponse := do
  let state ← get
  let correlationId := labCorrelationId env requestId body
  let admission ← fromExcept (admitLab state pumpId body)
  let loop ← fromExcept ((enqueueLab env admission.pump.address admission.command
    admission.control admission.loop).mapError enqueueError)
  set { state with controllerLoop := some loop }
  withUnit fault (labUnit env state.settings correlationId admission body)
  return ⟨correlationId, admission.command.value⟩

end Api
end Intelipump
