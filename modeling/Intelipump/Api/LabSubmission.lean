import Mathlib.Tactic.Common
import Intelipump.Api.Commands
import Intelipump.Foundation.Runs

namespace Intelipump
namespace Api

open Controller
open Domain
open Foundation.Runs
open Foundation.StateEffect
open Persistence
open Services

/-!
# Submitting a LAB command

A submission is refused, or it is enqueued and then recorded.  The record is written
after the enqueue, so a unit of work that fails leaves an item in the queue that the
database knows nothing of (`lab_submission_iff`).
-/

/-! ## The outcomes of a submission -/

/-- A submission up to its enqueue: refused, or admitted with the loop after it. -/
def labEnqueue (env : Env) (state : AppState) (pumpId : String) (body : LabCommandRequest) :
    Except Raised (LabAdmission × ControllerLoop) := do
  let admission ← admitLab state pumpId body
  let loop ← (enqueueLab env admission.pump.address admission.command admission.control
    admission.loop).mapError enqueueError
  return (admission, loop)

section

variable {env : Env} {state : AppState} {pumpId : String} {requestId : Option String}
  {body : LabCommandRequest}

/-- An admitted request passed every gate. -/
theorem admitLab_ok {admission : LabAdmission}
    (hadmitted : admitLab state pumpId body = .ok admission) :
    state.controllerLoop = some admission.loop ∧ labGateReasons state body = [] ∧
      PumpCommand.ofValue? body.commandType = some admission.command ∧
      CD1_MAP admission.command = some admission.control ∧
      resolvePumpContext state pumpId = .ok admission.pump := by
  unfold admitLab parseCommand at hadmitted
  cases hcommand : PumpCommand.ofValue? body.commandType with
  | none =>
      rw [hcommand] at hadmitted
      cases hadmitted
  | some command =>
      rw [hcommand] at hadmitted
      dsimp only [bind, Except.bind] at hadmitted
      split at hadmitted
      · rename_i loop control hreasons hloop hcontrol
        cases hresolved : resolvePumpContext state pumpId with
        | error raised =>
            rw [hresolved] at hadmitted
            cases hadmitted
        | ok pump =>
            rw [hresolved] at hadmitted
            cases hadmitted
            exact ⟨hloop, (List.append_eq_nil_iff.mp hreasons).1, rfl, hcontrol, rfl⟩
      · cases hadmitted

theorem labSubmitCommand_refused {error : Raised} (fault : Option Raised)
    (requestId : Option String) (hrefused : labEnqueue env state pumpId body = .error error) :
    labSubmitCommand env fault pumpId requestId body state = .error error state := by
  unfold labEnqueue at hrefused
  unfold labSubmitCommand
  rw [get_bind]
  cases hadmitted : admitLab state pumpId body with
  | error raised =>
      rw [hadmitted] at hrefused
      cases hrefused
      exact bind_error (fromExcept_error rfl state) _
  | ok admission =>
      rw [bind_ok (fromExcept_ok rfl state)]
      rw [hadmitted] at hrefused
      cases henqueued : (enqueueLab env admission.pump.address admission.command
          admission.control admission.loop).mapError enqueueError with
      | error raised =>
          have hraised : raised = error := by
            dsimp only [bind, Except.bind] at hrefused
            rw [henqueued] at hrefused
            cases hrefused
            rfl
          exact bind_error (fromExcept_error (hraised ▸ rfl) state) _
      | ok loop =>
          dsimp only [bind, Except.bind] at hrefused
          rw [henqueued] at hrefused
          cases hrefused

/-- An enqueued submission is recorded in a unit of work. -/
theorem labSubmitCommand_enqueued {admission : LabAdmission} {loop : ControllerLoop}
    (fault : Option Raised) (requestId : Option String)
    (henqueued : labEnqueue env state pumpId body = .ok (admission, loop)) :
    labSubmitCommand env fault pumpId requestId body state =
      (withUnit fault (labUnit env state.settings (labCorrelationId env requestId body)
          admission body) >>= fun _ =>
        pure ⟨labCorrelationId env requestId body, admission.command.value⟩)
        { state with controllerLoop := some loop } := by
  unfold labEnqueue at henqueued
  unfold labSubmitCommand
  rw [get_bind]
  cases hadmitted : admitLab state pumpId body with
  | error raised =>
      rw [hadmitted] at henqueued
      cases henqueued
  | ok admitted =>
      rw [bind_ok (fromExcept_ok rfl state)]
      rw [hadmitted] at henqueued
      dsimp only [bind, Except.bind] at henqueued
      cases hloop : (enqueueLab env admitted.pump.address admitted.command
          admitted.control admitted.loop).mapError enqueueError with
      | error raised =>
          rw [hloop] at henqueued
          cases henqueued
      | ok after =>
          rw [hloop] at henqueued
          cases henqueued
          rw [bind_ok (fromExcept_ok rfl state)]
          rfl

/-- What the unit of a submission writes. -/
def labRecorded (env : Env) (settings : Settings) (correlationId : String)
    (admission : LabAdmission) (body : LabCommandRequest) (db : Database) : Database :=
  { db with
    commands := db.commands ++ [labRow settings correlationId admission body]
    auditLog := db.auditLog ++
      [AuditRepository.newRecord env.computeRecordHash (env.uuid4 .auditRow)
        (env.now .auditRow) (labAudit settings correlationId admission) db.auditLog] }

theorem labUnit_new {settings : Settings} {correlationId : String} {admission : LabAdmission}
    {db : Database} (hnew : correlationId ∉ db.commands.map (·.correlationId)) :
    labUnit env settings correlationId admission body db =
      .ok () (labRecorded env settings correlationId admission body db) := by
  have hcreated : CommandRepository.create (labRow settings correlationId admission body) db =
      .ok (labRow settings correlationId admission body)
        { db with commands := db.commands ++
          [labRow settings correlationId admission body] } := if_neg hnew
  unfold labUnit
  rw [bind_ok hcreated]
  rfl

theorem labUnit_used (env : Env) (settings : Settings) (admission : LabAdmission)
    (body : LabCommandRequest) {correlationId : String} {db : Database}
    (hused : correlationId ∈ db.commands.map (·.correlationId)) :
    ∃ error, labUnit env settings correlationId admission body db = .error error db := by
  have hraised : CommandRepository.create (labRow settings correlationId admission body) db =
      .error (.integrityError "UNIQUE constraint failed: commands.correlation_id") db :=
    if_pos hused
  unfold labUnit
  rw [bind_error hraised]
  exact ⟨_, rfl⟩

/-- An enqueue that was admitted used the loop of the state. -/
theorem labEnqueue_ok {admission : LabAdmission} {loop : ControllerLoop}
    (henqueued : labEnqueue env state pumpId body = .ok (admission, loop)) :
    state.controllerLoop = some admission.loop ∧ admitLab state pumpId body = .ok admission ∧
      enqueueLab env admission.pump.address admission.command admission.control
        admission.loop = .ok loop := by
  unfold labEnqueue at henqueued
  cases hadmitted : admitLab state pumpId body with
  | error raised =>
      rw [hadmitted] at henqueued
      cases henqueued
  | ok admitted =>
      rw [hadmitted] at henqueued
      dsimp only [bind, Except.bind] at henqueued
      cases hloop : enqueueLab env admitted.pump.address admitted.command
          admitted.control admitted.loop with
      | error raised =>
          rw [hloop] at henqueued
          cases henqueued
      | ok after =>
          rw [hloop] at henqueued
          cases henqueued
          refine ⟨?_, rfl, hloop⟩
          exact (admitLab_ok hadmitted).1

/-- The submission when its record is written. -/
theorem labSubmitCommand_recorded {admission : LabAdmission} {loop : ControllerLoop}
    (requestId : Option String)
    (henqueued : labEnqueue env state pumpId body = .ok (admission, loop))
    (hnew : labCorrelationId env requestId body ∉ state.db.commands.map (·.correlationId)) :
    labSubmitCommand env none pumpId requestId body state =
      .ok ⟨labCorrelationId env requestId body, admission.command.value⟩
        { state with
          controllerLoop := some loop
          db := labRecorded env state.settings (labCorrelationId env requestId body) admission
            body state.db } := by
  rw [labSubmitCommand_enqueued none requestId henqueued]
  have hunit : withUnit none (labUnit env state.settings (labCorrelationId env requestId body)
      admission body) { state with controllerLoop := some loop } =
        .ok () { state with
          controllerLoop := some loop
          db := labRecorded env state.settings (labCorrelationId env requestId body) admission
            body state.db } := by
    unfold withUnit atomically
    dsimp only
    rw [labUnit_new hnew]
  rw [bind_ok hunit]
  rfl

/-- The submission when its record is not written: the item stays in the queue. -/
theorem labSubmitCommand_lost {admission : LabAdmission} {loop : ControllerLoop}
    {fault : Option Raised} {requestId : Option String}
    (henqueued : labEnqueue env state pumpId body = .ok (admission, loop))
    (hfails : fault ≠ none ∨
      labCorrelationId env requestId body ∈ state.db.commands.map (·.correlationId)) :
    ∃ error, labSubmitCommand env fault pumpId requestId body state =
      .error error { state with controllerLoop := some loop } := by
  rw [labSubmitCommand_enqueued fault requestId henqueued]
  have hunit : ∃ error, withUnit fault (labUnit env state.settings
      (labCorrelationId env requestId body) admission body)
        { state with controllerLoop := some loop } =
          .error error { state with controllerLoop := some loop } := by
    unfold withUnit
    cases fault with
    | some error => exact ⟨error, rfl⟩
    | none =>
        obtain ⟨error, hraised⟩ := labUnit_used env state.settings admission body
          (hfails.resolve_left fun h => h rfl)
        unfold atomically
        dsimp only
        rw [hraised]
        exact ⟨error, rfl⟩
  obtain ⟨error, hraised⟩ := hunit
  exact ⟨error, bind_error hraised _⟩

end

/-! ## All or nothing -/

def queueItems (state : AppState) : List OutboundDataItem :=
  (state.controllerLoop.map (·.outbound.items)).getD []

/-- A submission that raises leaves the queue, and one that changes the queue has
committed a command row and an audit record of its own. -/
structure AllOrNothing (correlationId : String) (action : AppM LabCommandResponse)
    (state : AppState) : Prop where
  rolledBack : returned action state = none →
    queueItems (finalState action state) = queueItems state
  recorded : queueItems (finalState action state) ≠ queueItems state →
    ∃ row record, (finalState action state).db.commands = state.db.commands ++ [row] ∧
      row.correlationId = correlationId ∧
      (finalState action state).db.auditLog = state.db.auditLog ++ [record] ∧
      record.correlationId = some correlationId

/-- The request is refused before or at the enqueue. -/
def Refused (env : Env) (pumpId : String) (body : LabCommandRequest) (state : AppState) :
    Prop :=
  (labEnqueue env state pumpId body).toOption = none

instance (env : Env) (pumpId : String) (body : LabCommandRequest) (state : AppState) :
    Decidable (Refused env pumpId body state) :=
  decidable_of_iff ((labEnqueue env state pumpId body).toOption.isNone = true)
    Option.isNone_iff_eq_none

/-- The request is refused early, or its record can be written: the database does not
fail and the identifier is new to the command table. -/
def SafeToSubmit (env : Env) (fault : Option Raised) (pumpId : String)
    (requestId : Option String) (body : LabCommandRequest) (state : AppState) : Prop :=
  Refused env pumpId body state ∨
    fault = none ∧
      labCorrelationId env requestId body ∉ state.db.commands.map (·.correlationId)

instance (env : Env) (fault : Option Raised) (pumpId : String) (requestId : Option String)
    (body : LabCommandRequest) (state : AppState) :
    Decidable (SafeToSubmit env fault pumpId requestId body state) :=
  inferInstanceAs (Decidable (_ ∨ _ ∧ _))

section

variable {env : Env} {state : AppState} {pumpId : String} {body : LabCommandRequest}

/-- The item that an enqueue put behind the queue. -/
theorem queueItems_labEnqueue {admission : LabAdmission} {loop : ControllerLoop}
    (henqueued : labEnqueue env state pumpId body = .ok (admission, loop)) (db : Database) :
    queueItems { state with controllerLoop := some loop, db := db } = queueItems state ++
      [labItem env admission.pump.address admission.command
        [0x01, 0x01, admission.control.code]] := by
  obtain ⟨hloop, -, hafter⟩ := labEnqueue_ok henqueued
  unfold queueItems
  rw [hloop, enqueueLab_ok hafter]
  rfl

/-- The three kinds of submissions. -/
theorem labEnqueue_cases (env : Env) (pumpId : String) (body : LabCommandRequest)
    (state : AppState) :
    (∃ error, labEnqueue env state pumpId body = .error error) ∧
      Refused env pumpId body state ∨
    (∃ admission loop, labEnqueue env state pumpId body = .ok (admission, loop)) ∧
      ¬ Refused env pumpId body state := by
  unfold Refused
  cases labEnqueue env state pumpId body with
  | error error => exact Or.inl ⟨⟨error, rfl⟩, rfl⟩
  | ok result => exact Or.inr ⟨⟨result.1, result.2, rfl⟩, Option.some_ne_none result⟩

end

/-! ## Runs -/

/-- The state of the application, and the items that LAB submissions enqueued with the
identifiers of their requests. -/
structure LabRun where
  app : AppState
  submitted : List (OutboundDataItem × String) := []

/-- A submission, or anything else that happens to the application: the controller
sends an item, another route or the bridge writes. -/
inductive LabStep where
  | submit (env : Env) (fault : Option Raised) (pumpId : String) (requestId : Option String)
      (body : LabCommandRequest)
  | elsewhere (after : AppState)

def LabRun.step (run : LabRun) : LabStep → LabRun
  | .submit env fault pumpId requestId body =>
      let after := finalState (labSubmitCommand env fault pumpId requestId body) run.app
      { app := after
        submitted := run.submitted ++ ((queueItems after).drop (queueItems run.app).length).map
          fun item => (item, labCorrelationId env requestId body) }
  | .elsewhere after => { run with app := after }

/-- Commands and audit records are not deleted. -/
def KeepsRecords (before after : Database) : Prop :=
  (∀ correlationId ∈ before.commands.map (·.correlationId),
    correlationId ∈ after.commands.map (·.correlationId)) ∧
  ∀ record ∈ before.auditLog, record ∈ after.auditLog

/-- A submission is safe; whatever else happens keeps the records. -/
def LabStep.Fits (run : LabRun) : LabStep → Prop
  | .submit env fault pumpId requestId body =>
      SafeToSubmit env fault pumpId requestId body run.app
  | .elsewhere after => KeepsRecords run.app.db after.db

/-- The item has a committed command and a committed audit record. -/
def ItemRecorded (db : Database) (entry : OutboundDataItem × String) : Prop :=
  entry.2 ∈ db.commands.map (·.correlationId) ∧
    ∃ record ∈ db.auditLog, record.correlationId = some entry.2 ∧
      record.action = "LAB_COMMAND_QUEUED:" ++ entry.1.commandType.value

/-- Every item that was submitted is recorded, each under an identifier of its own. -/
structure ItemsRecorded (run : LabRun) : Prop where
  recorded : ∀ entry ∈ run.submitted, ItemRecorded run.app.db entry
  distinct : (run.submitted.map (·.2)).Nodup

theorem ItemRecorded.keep {before after : Database} {entry : OutboundDataItem × String}
    (hrecorded : ItemRecorded before entry) (hkeeps : KeepsRecords before after) :
    ItemRecorded after entry := by
  obtain ⟨hcommand, record, hrecord, hdetails⟩ := hrecorded
  exact ⟨hkeeps.1 _ hcommand, record, hkeeps.2 record hrecord, hdetails⟩

/-- A recorded submission keeps the records and adds those of its item. -/
theorem keepsRecords_labRecorded (env : Env) (settings : Settings) (correlationId : String)
    (admission : LabAdmission) (body : LabCommandRequest) (db : Database) :
    KeepsRecords db (labRecorded env settings correlationId admission body db) := by
  refine ⟨fun other hother => ?_, fun record hrecord => List.mem_append_left _ hrecord⟩
  unfold labRecorded
  dsimp only
  rw [List.map_append]
  exact List.mem_append_left _ hother

theorem itemRecorded_labRecorded (env : Env) (settings : Settings) (correlationId : String)
    (admission : LabAdmission) (body : LabCommandRequest) (db : Database)
    (wire : List Dart.Line.Byte) :
    ItemRecorded (labRecorded env settings correlationId admission body db)
      (labItem env admission.pump.address admission.command wire, correlationId) := by
  refine ⟨?_, _, List.mem_append_right _ (List.mem_singleton_self _), rfl, rfl⟩
  unfold labRecorded
  dsimp only
  rw [List.map_append]
  exact List.mem_append_right _ (List.mem_singleton_self _)

theorem ItemsRecorded.step {run : LabRun} {step : LabStep} (hrecorded : ItemsRecorded run)
    (hfits : step.Fits run) : ItemsRecorded (run.step step) := by
  cases step with
  | elsewhere after =>
      exact ⟨fun entry hentry => (hrecorded.recorded entry hentry).keep hfits,
        hrecorded.distinct⟩
  | submit env fault pumpId requestId body =>
      rcases labEnqueue_cases env pumpId body run.app with ⟨⟨error, hrefused⟩, -⟩ |
        ⟨⟨admission, loop, henqueued⟩, hlate⟩
      · have hstate : finalState (labSubmitCommand env fault pumpId requestId body) run.app =
            run.app := by
          unfold finalState
          rw [labSubmitCommand_refused fault requestId hrefused]
        unfold LabRun.step
        dsimp only
        rw [hstate, List.drop_length, List.map_nil, List.append_nil]
        exact hrecorded
      · obtain ⟨rfl, hnew⟩ := hfits.resolve_left hlate
        have hstate : finalState (labSubmitCommand env none pumpId requestId body) run.app =
            { run.app with
              controllerLoop := some loop
              db := labRecorded env run.app.settings (labCorrelationId env requestId body)
                admission body run.app.db } := by
          unfold finalState
          rw [labSubmitCommand_recorded requestId henqueued hnew]
        unfold LabRun.step
        dsimp only
        rw [hstate, queueItems_labEnqueue henqueued, List.drop_left, List.map_singleton]
        constructor
        · intro entry hentry
          rcases List.mem_append.mp hentry with hold | hlast
          · exact (hrecorded.recorded entry hold).keep (keepsRecords_labRecorded _ _ _ _ _ _)
          · rw [List.mem_singleton.mp hlast]
            exact itemRecorded_labRecorded _ _ _ _ _ _ _
        · dsimp only
          rw [List.map_append, List.map_singleton]
          refine List.Nodup.append hrecorded.distinct (List.nodup_singleton _)
            (List.disjoint_singleton.mpr fun hmem => hnew ?_)
          obtain ⟨entry, hentry, hid⟩ := List.mem_map.mp hmem
          dsimp only at hid
          rw [← hid]
          exact (hrecorded.recorded entry hentry).1

/-- A LAB station with one pump that nothing is known of, on a memory transport. -/
def labStation : AppState where
  settings := ⟨"S1", "LAB", .BENCH_CONTROL, true, false⟩
  controllerLoop := some {
    sessions := []
    transportKind := "memory"
    safety := {
      environment := "LAB"
      mode := .BENCH_CONTROL
      activeCommandsEnabled := false
      requirePhysicalControlEnable := true }
    outbound := ⟨32, []⟩ }
  db := { pumps := [⟨"db-1", "S1", "pump-1", 0x01⟩] }

/-- `RESET` under an identifier of the caller. -/
def resetRequest : LabCommandRequest where
  commandType := "RESET"
  correlationId := some "c-1"

end Api
end Intelipump
