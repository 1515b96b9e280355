import Mathlib.Tactic.Common
import Intelipump.Cloud.CommandGuards
import Intelipump.Services.RecoveryService

namespace Intelipump
namespace Cloud

open Api
open Controller
open Domain
open Foundation.StateEffect
open Foundation.Tables
open Persistence
open Services
open CloudCommandIntake

/-!
# Runs of a station

Everything that writes to the command table: cloud calls that run interleaved, the two
routes of the local API, and the recovery.  A step of a run makes the table grow by rows
that are not pending, or it is a recovery (`step_commands`).
-/

/-! ## The command table -/

/-- The row is not what the recovery looks for. -/
def NotPending (row : CommandRow) : Prop :=
  row.status ∉ [CommandStatus.PENDING, .IN_PROGRESS]

/-- Rows that are not pending were inserted. -/
def CommandsGrow (before after : Database) : Prop :=
  ∃ rows, after.commands = before.commands ++ rows ∧ ∀ row ∈ rows, NotPending row

theorem CommandsGrow.of_eq {before after : Database}
    (hsame : after.commands = before.commands) : CommandsGrow before after :=
  ⟨[], by rw [hsame, List.append_nil], fun _ hrow => absurd hrow List.not_mem_nil⟩

instance : IsPreorder Database CommandsGrow where
  refl _ := .of_eq rfl
  trans before between after := by
    rintro ⟨first, hfirst, hpending⟩ ⟨second, hsecond, hlater⟩
    refine ⟨first ++ second, by rw [hsecond, hfirst, List.append_assoc], fun row hrow => ?_⟩
    rcases List.mem_append.mp hrow with hrow | hrow
    · exact hpending row hrow
    · exact hlater row hrow

theorem commandsGrow_create {row : CommandRow} (hrow : NotPending row) :
    Preserves CommandsGrow (CommandRepository.create row) := by
  intro db
  unfold finalState CommandRepository.create
  by_cases hused : row.correlationId ∈ db.commands.map (·.correlationId)
  · rw [if_pos hused]
    exact .of_eq rfl
  · rw [if_neg hused]
    refine ⟨[row], rfl, fun other hother => ?_⟩
    rw [List.mem_singleton.mp hother]
    exact hrow

theorem commandsGrow_append (env : Env) (entry : AuditEntry) :
    Preserves CommandsGrow (AuditRepository.append env entry) :=
  fun _ => .of_eq rfl

/-! ## The writers -/

/-- An outcome of the handler is final. -/
theorem notPending_commandRow (intake : CloudCommandIntake) (now : Int)
    (cmd : CloudCommandInbound) (evaluation : Evaluation) (submission : Submission) :
    NotPending (intake.commandRow now cmd (outcome evaluation submission)) := by
  unfold NotPending commandRow outcome
  dsimp only
  split
  · decide
  · cases submission <;> simp [Submission.status]

theorem commandsGrow_persistUnit (env : Env) (intake : CloudCommandIntake)
    (cmd : CloudCommandInbound) (evaluation : Evaluation) (submission : Submission) :
    Preserves CommandsGrow
      (intake.persistUnit env cmd (outcome evaluation submission)) := by
  unfold persistUnit
  refine .of_bind .of_get fun db => ?_
  have haudited (entry : AuditEntry) : Preserves CommandsGrow (do
      let _ ← AuditRepository.append env entry) :=
    .of_bind (commandsGrow_append env entry) fun _ => .of_pure _
  refine .of_ite (.of_bind (commandsGrow_create ?_) fun _ => haudited _) (haudited _)
  exact notPending_commandRow intake _ cmd evaluation submission

theorem commandsGrow_persistOutcome (env : Env) (fault : Option Raised)
    (cmd : CloudCommandInbound) (evaluation : Evaluation) (submission : Submission)
    (station : Station) :
    CommandsGrow station.app.db (finalState (persistOutcome env fault cmd
      (outcome evaluation submission)) station).app.db := by
  unfold finalState persistOutcome
  cases fault with
  | some error => exact .of_eq rfl
  | none =>
      have hunit := commandsGrow_persistUnit env station.intake cmd evaluation submission
        station.app.db
      unfold finalState at hunit
      unfold atomically
      dsimp only
      cases hran : station.intake.persistUnit env cmd (outcome evaluation submission)
          station.app.db with
      | ok value db =>
          rw [hran] at hunit
          exact hunit
      | error error db => exact .of_eq rfl

/-- A resumed call makes the table grow by its row at most. -/
theorem commandsGrow_advance (env : Env) (fault : Option Raised) (station : Station)
    (call : Call) :
    CommandsGrow station.app.db (call.advance env fault station).1.app.db := by
  unfold Call.advance
  split
  · split <;> exact .of_eq rfl
  · split <;> exact .of_eq rfl
  · exact .of_eq rfl
  · exact .of_eq rfl
  · exact commandsGrow_persistOutcome _ _ _ _ _ _
  · exact .of_eq rfl

theorem commandsGrow_withUnit {α : Type} (fault : Option Raised) {unit : UnitOfWork α}
    (hunit : Preserves CommandsGrow unit) :
    Preserves (fun before after : AppState => CommandsGrow before.db after.db)
      (withUnit fault unit) := by
  intro state
  have hgrow := hunit state.db
  unfold finalState at hgrow
  unfold finalState withUnit atomically
  cases fault with
  | some error => exact .of_eq rfl
  | none =>
      dsimp only
      cases hran : unit state.db with
      | ok value db =>
          rw [hran] at hgrow
          exact hgrow
      | error error db => exact .of_eq rfl

instance : IsPreorder AppState (fun before after => CommandsGrow before.db after.db) where
  refl state := refl_of CommandsGrow state.db
  trans _ _ _ := trans_of CommandsGrow

theorem notPending_evaluationRow (settings : Settings) (now : Int)
    (correlationId pumpDbId : String) (body : CommandEvaluateRequest)
    (result : StateMachine.CommandEligibilityResult) :
    NotPending (evaluationRow settings now correlationId pumpDbId body result) := by
  unfold NotPending evaluationRow evaluationStatus
  dsimp only
  split <;> decide

theorem commandsGrow_evaluateCommand (env : Env) (fault : Option Raised) (pumpId : String)
    (requestId : Option String) (body : CommandEvaluateRequest) :
    Preserves (fun before after : AppState => CommandsGrow before.db after.db)
      (evaluateCommand env fault pumpId requestId body) := by
  unfold evaluateCommand
  refine .of_bind .of_get fun state => .of_ite (.of_bind (.of_throw _) fun _ => ?_) ?_
  all_goals
    refine .of_bind (.of_fromExcept _) fun command => ?_
    refine .of_bind (.of_fromExcept _) fun pump => ?_
    refine .of_bind (commandsGrow_withUnit fault ?_) fun _ => .of_pure _
    exact .of_bind (commandsGrow_create (notPending_evaluationRow _ _ _ _ _ _)) fun _ =>
      commandsGrow_append env _

theorem commandsGrow_labSubmitCommand (env : Env) (fault : Option Raised) (pumpId : String)
    (requestId : Option String) (body : LabCommandRequest) (state : AppState) :
    CommandsGrow state.db
      (finalState (labSubmitCommand env fault pumpId requestId body) state).db := by
  rcases labEnqueue_cases env pumpId body state with ⟨⟨error, hrefused⟩, -⟩ |
    ⟨⟨admission, loop, henqueued⟩, -⟩
  · unfold finalState
    rw [labSubmitCommand_refused fault requestId hrefused]
    exact .of_eq rfl
  · have hunit : Preserves CommandsGrow (labUnit env state.settings
        (labCorrelationId env requestId body) admission body) :=
      .of_bind (commandsGrow_create (by simp [NotPending, labRow])) fun _ =>
        .of_bind (commandsGrow_append env _) fun _ => .of_pure _
    have hfinal : finalState (labSubmitCommand env fault pumpId requestId body) state =
        finalState (withUnit fault (labUnit env state.settings
          (labCorrelationId env requestId body) admission body) >>= fun _ =>
            pure (LabCommandResponse.mk (labCorrelationId env requestId body)
              admission.command.value))
          { state with controllerLoop := some loop } := by
      unfold finalState
      rw [labSubmitCommand_enqueued fault requestId henqueued]
    rw [hfinal, finalState_bind_pure]
    exact commandsGrow_withUnit fault hunit { state with controllerLoop := some loop }

/-! ## Runs -/

/-- A station with its running calls, and the identifiers of the cloud commands in the
order in which they were enqueued. -/
structure StationRun where
  station : Station
  calls : List Call := []
  enqueued : List String := []

/-- A message is delivered and its call starts; a call is resumed; the process stops and
starts again; a request of the local API; a recovery; or anything else that happens to
the application. -/
inductive StationStep where
  | deliver (env : Env) (cmd : CloudCommandInbound)
  | resume (index : Nat) (env : Env) (fault : Option Raised)
  | restart (intake : CloudCommandIntake)
  | labSubmit (env : Env) (fault : Option Raised) (pumpId : String)
      (requestId : Option String) (body : LabCommandRequest)
  | evaluate (env : Env) (fault : Option Raised) (pumpId : String)
      (requestId : Option String) (body : CommandEvaluateRequest)
  | recover (env : Env) (stationId : String)
  | elsewhere (after : AppState)

namespace StationRun

variable (run : StationRun)

def withApp (app : AppState) : StationRun :=
  { run with station := { run.station with app := app } }

/-- A call goes on to its next await. -/
def resumed (index : Nat) (call : Call) (env : Env) (fault : Option Raised) : StationRun :=
  let next := call.advance env fault run.station
  { station := next.1
    calls := run.calls.set index next.2
    enqueued := run.enqueued ++
      (enqueuedItems run.station.app next.1.app).map fun _ => call.cmd.correlationId }

def step : StationStep → StationRun
  | .deliver env cmd =>
      { run with calls := run.calls ++ [Call.start env run.station.intake cmd] }
  | .resume index env fault =>
      match run.calls[index]? with
      | none => run
      | some call => run.resumed index call env fault
  | .restart intake =>
      { station := {
          app := { run.station.app with controllerLoop := none }
          intake := { intake with seen := ∅ } }
        calls := []
        enqueued := run.enqueued }
  | .labSubmit env fault pumpId requestId body =>
      run.withApp (finalState (labSubmitCommand env fault pumpId requestId body)
        run.station.app)
  | .evaluate env fault pumpId requestId body =>
      run.withApp (finalState (evaluateCommand env fault pumpId requestId body)
        run.station.app)
  | .recover env stationId =>
      run.withApp { run.station.app with
        db := finalState (RecoveryService.recover env stationId) run.station.app.db }
  | .elsewhere after => run.withApp after

variable {index : Nat} (env : Env) (fault : Option Raised)

theorem step_resume_none (hcall : run.calls[index]? = none) :
    run.step (.resume index env fault) = run := by
  unfold step
  dsimp only
  rw [hcall]

theorem step_resume {call : Call} (hcall : run.calls[index]? = some call) :
    run.step (.resume index env fault) = run.resumed index call env fault := by
  unfold step
  dsimp only
  rw [hcall]

end StationRun

/-- What else writes to the command table inserts rows that are not pending: the bridge
records rejected commands. -/
def StationStep.Happens (run : StationRun) : StationStep → Prop
  | .elsewhere after => CommandsGrow run.station.app.db after.db
  | _ => True

theorem finalState_recover (env : Env) (stationId : String) (db : Database) :
    finalState (RecoveryService.recover env stationId) db =
      RecoveryService.recoveredDb env stationId db := by
  obtain ⟨report, hran, -⟩ := RecoveryService.recover_eq env stationId db
  unfold finalState
  rw [hran]

/-- A step makes the command table grow, or it is a recovery. -/
theorem step_commands (run : StationRun) (step : StationStep) (hhappens : step.Happens run) :
    CommandsGrow run.station.app.db (run.step step).station.app.db ∨
      ∃ env stationId, step = .recover env stationId ∧
        (run.step step).station.app.db =
          RecoveryService.recoveredDb env stationId run.station.app.db := by
  cases step with
  | deliver env cmd => exact Or.inl (.of_eq rfl)
  | resume index env fault =>
      cases hcall : run.calls[index]? with
      | none =>
          rw [run.step_resume_none env fault hcall]
          exact Or.inl (.of_eq rfl)
      | some call =>
          rw [run.step_resume env fault hcall]
          exact Or.inl (commandsGrow_advance env fault run.station call)
  | restart intake => exact Or.inl (.of_eq rfl)
  | labSubmit env fault pumpId requestId body =>
      exact Or.inl (commandsGrow_labSubmitCommand env fault pumpId requestId body _)
  | evaluate env fault pumpId requestId body =>
      exact Or.inl (commandsGrow_evaluateCommand env fault pumpId requestId body _)
  | recover env stationId =>
      exact Or.inr ⟨env, stationId, rfl, finalState_recover env stationId _⟩
  | elsewhere after => exact Or.inl hhappens

/-- No command is forgotten. -/
theorem isPersisted_step (run : StationRun) (step : StationStep)
    (hhappens : step.Happens run) (correlationId : String)
    (hpersisted : IsPersisted correlationId run.station.app.db) :
    IsPersisted correlationId (run.step step).station.app.db := by
  unfold IsPersisted at hpersisted ⊢
  rcases step_commands run step hhappens with ⟨rows, hrows, -⟩ | ⟨env, stationId, -, hdb⟩
  · rw [hrows, List.map_append]
    exact List.mem_append_left _ hpersisted
  · rw [hdb]
    rw [← RecoveryService.map_correlationId_recoveredDb env stationId] at hpersisted
    exact hpersisted

end Cloud
end Intelipump
