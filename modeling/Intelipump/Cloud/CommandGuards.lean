import Mathlib.Tactic.Common
import Intelipump.Api.LabSubmission
import Intelipump.Cloud.CommandCalls

namespace Intelipump
namespace Cloud

open Api
open Controller
open Dart.Line
open Domain
open Foundation.StateEffect
open Persistence
open Services
open StateMachine hiding Outcome
open CloudCommandIntake

/-!
# Guards of the two ways into the outbound queue

The cloud handler evaluates a command before it is enqueued.  The LAB route resolves
the context of the pump and does not look at it (`guards_kept_iff`).
-/

/-- The pump that a command is meant for. -/
structure Target where
  address : Byte
  context : PumpContext

/-- The command may be sent to the pump. -/
structure Target.Allows (target : Target) (command : PumpCommand) : Prop where
  eligible : (evaluateCommandEligibility command target.context none).eligible = true
  ready : command = .AUTHORIZE → ReadyToAuthorize target.context

/-- What was put behind the queue of the application. -/
def enqueuedItems (before after : AppState) : List OutboundDataItem :=
  (queueItems after).drop (queueItems before).length

/-- Every non-idempotent command that was enqueued may be sent to the pump it was meant
for, and goes to the address of that pump. -/
def KeepsGuards (target : Option Target) (before after : AppState) : Prop :=
  ∀ item ∈ enqueuedItems before after, item.commandType ∈ NON_IDEMPOTENT_COMMANDS →
    ∃ pump ∈ target, item.address = pump.address ∧ pump.Allows item.commandType

/-! ## The cloud handler -/

/-- The pump of a cloud command, with the context it has in the session or the snapshot. -/
def cloudTarget (intake : CloudCommandIntake) (app : AppState) (cmd : CloudCommandInbound) :
    Option Target :=
  (CloudCommandIntake.findPump intake cmd app.db).map fun pump =>
    let context := (app.controllerLoop.bind (·.sessionContext pump.dartAddress)).getD
      (CloudCommandIntake.snapshotContext pump (StateRepository.latest pump.id app.db.states))
    ⟨context.dartAddress, context⟩

section

variable {env : Env} {intake : CloudCommandIntake} {app : AppState}
  {cmd : CloudCommandInbound}

/-- A submission that enqueues was not spoken against. -/
theorem submit_queued {evaluation : Evaluation} {reasons : List String} {after : ControllerLoop}
    (hqueued : intake.submit env app cmd evaluation = .queued reasons after) :
    ∃ loop command control address, app.controllerLoop = some loop ∧
      PumpCommand.ofValue? cmd.commandType = some command ∧ evaluation.reasons = [] ∧
      targetAddress command evaluation = some address ∧
      enqueueLab env address command control loop = .ok after := by
  unfold submit at hqueued
  split at hqueued
  · cases hqueued
  · rename_i command hcommand
    split at hqueued
    · rename_i loop control address hloop hcontrol haddress hreasons
      unfold tryEnqueue at hqueued
      split at hqueued
      · rename_i next henqueued
        cases hqueued
        refine ⟨loop, command, control, address, ?_, hcommand, hreasons, haddress, henqueued⟩
        unfold labLoop at hloop
        split at hloop
        · exact (Option.filter_eq_some_iff.mp hloop).1
        · cases hloop
      · cases hqueued
    · cases hqueued

/-- Only what may be enqueued is. -/
theorem mayEnqueue_of_queued {evaluation : Evaluation} {reasons : List String}
    {after : ControllerLoop}
    (hqueued : intake.submit env app cmd evaluation = .queued reasons after) :
    intake.mayEnqueue env app cmd evaluation = true := by
  unfold submit at hqueued
  unfold mayEnqueue
  split at hqueued
  · cases hqueued
  · split at hqueued
    · rename_i loop control address hloop hcontrol haddress hreasons
      rw [hloop, hcontrol, haddress, hreasons]
      unfold tryEnqueue at hqueued
      split at hqueued
      · rename_i next henqueued
        dsimp only
        rw [henqueued]
        rfl
      · cases hqueued
    · cases hqueued

/-- An evaluation that nothing speaks against is of a pump that allows the command. -/
theorem evaluate_clear {reasons : List String} {command : PumpCommand}
    (hcommand : PumpCommand.ofValue? cmd.commandType = some command)
    (hclear : (intake.evaluate app cmd reasons).reasons = []) :
    ∃ pump ∈ cloudTarget intake app cmd,
      (intake.evaluate app cmd reasons).context = some pump.context ∧
      pump.address = pump.context.dartAddress ∧
      (evaluateCommandEligibility command pump.context none).eligible = true := by
  cases reasons with
  | cons reason rest =>
      unfold evaluate at hclear
      cases hclear
  | nil =>
      have hevaluated : intake.evaluate app cmd [] =
          intake.evaluatePump app cmd command := by
        unfold evaluate
        rw [hcommand]
      rw [hevaluated] at hclear ⊢
      unfold evaluatePump at hclear ⊢
      unfold cloudTarget
      cases hpump : CloudCommandIntake.findPump intake cmd app.db with
      | none =>
          rw [hpump] at hclear
          cases hclear
      | some pump =>
          rw [hpump] at hclear
          refine ⟨_, rfl, rfl, rfl, ?_⟩
          exact List.isEmpty_iff.mpr hclear

/-- Nothing was enqueued when the loop is what it was. -/
theorem enqueuedItems_of_loop {before after : AppState}
    (hloop : after.controllerLoop = before.controllerLoop) :
    enqueuedItems before after = [] := by
  have hsame : queueItems after = queueItems before := by
    unfold queueItems
    rw [hloop]
  unfold enqueuedItems
  rw [hsame, List.drop_length]

theorem keepsGuards_of_loop (target : Option Target) {before after : AppState}
    (hloop : after.controllerLoop = before.controllerLoop) : KeepsGuards target before after := by
  intro item hitem
  rw [enqueuedItems_of_loop hloop] at hitem
  exact absurd hitem List.not_mem_nil

theorem KeepsGuards.congr {target : Option Target} {before after other : AppState}
    (hkeeps : KeepsGuards target before after)
    (hloop : other.controllerLoop = after.controllerLoop) : KeepsGuards target before other := by
  intro item hitem
  refine hkeeps item ?_
  unfold enqueuedItems queueItems at hitem ⊢
  rw [hloop] at hitem
  exact hitem

/-- The item that an enqueue on the loop of the application puts behind the queue. -/
theorem enqueuedItems_enqueueLab {after : AppState} {loop next : ControllerLoop}
    {address : Byte} {command : PumpCommand} {control : Dart.Application.PumpControlCommand}
    (hloop : app.controllerLoop = some loop)
    (henqueued : enqueueLab env address command control loop = .ok next)
    (hnext : after.controllerLoop = some next) :
    enqueuedItems app after = [labItem env address command [0x01, 0x01, control.code]] := by
  unfold enqueuedItems queueItems
  rw [hloop, hnext, enqueueLab_ok henqueued]
  exact List.drop_left

/-- A submission keeps to the evaluation that was made before it, whatever happened to
the application in between. -/
theorem submitted_keepsGuards (env : Env) (station : Station) (evaluated : AppState)
    (cmd : CloudCommandInbound) (reasons : List String) :
    KeepsGuards (cloudTarget station.intake evaluated cmd) station.app
      (station.submitted cmd (station.intake.submit env station.app cmd
        (station.intake.evaluate evaluated cmd reasons))).app := by
  cases hsubmission : station.intake.submit env station.app cmd
      (station.intake.evaluate evaluated cmd reasons) with
  | evaluatedOnly others => exact keepsGuards_of_loop _ rfl
  | enqueueFailed others => exact keepsGuards_of_loop _ rfl
  | queued others after =>
      obtain ⟨loop, command, control, address, hloop, hcommand, hclear, haddress, henqueued⟩ :=
        submit_queued hsubmission
      obtain ⟨pump, hpump, hcontext, hown, heligible⟩ := evaluate_clear hcommand hclear
      unfold targetAddress at haddress
      rw [hcontext] at haddress
      cases haddress
      intro item hitem _
      rw [enqueuedItems_enqueueLab hloop henqueued rfl] at hitem
      cases List.mem_singleton.mp hitem
      refine ⟨pump, hpump, hown.symm, heligible, ?_⟩
      intro hauthorize
      change command = .AUTHORIZE at hauthorize
      cases hauthorize
      exact (authorize_eligible_iff _ _).mp heligible

/-- The last unit of work leaves the loop. -/
theorem persistOutcome_loop (fault : Option Raised) (result : CloudCommandIntake.Outcome)
    (station : Station) :
    (finalState (persistOutcome env fault cmd result) station).app.controllerLoop =
      station.app.controllerLoop := by
  unfold finalState persistOutcome
  cases fault with
  | some error => rfl
  | none =>
      dsimp only
      cases atomically (station.intake.persistUnit env cmd result) station.app.db <;> rfl

theorem persistOutcome_intake (fault : Option Raised) (result : CloudCommandIntake.Outcome)
    (station : Station) :
    (finalState (persistOutcome env fault cmd result) station).intake = station.intake := by
  unfold finalState persistOutcome
  cases fault with
  | some error => rfl
  | none =>
      dsimp only
      cases atomically (station.intake.persistUnit env cmd result) station.app.db <;> rfl

theorem submitAndPersist_loop (fault : Option Raised) (evaluation : Evaluation)
    (station : Station) :
    (finalState (submitAndPersist env fault cmd evaluation) station).app.controllerLoop =
      (station.submitted cmd
        (station.intake.submit env station.app cmd evaluation)).app.controllerLoop := by
  change (finalState (persistOutcome env fault cmd _ >>= fun _ => pure _)
    (station.submitted cmd _)).app.controllerLoop = _
  rw [finalState_bind_pure]
  exact persistOutcome_loop _ _ _

theorem handleCommand_keepsGuards (env : Env) (faults : IntakeFaults)
    (cmd : CloudCommandInbound) (station : Station) :
    KeepsGuards (cloudTarget station.intake station.app cmd) station.app
      (finalState (handleCommand env faults cmd) station).app := by
  rcases handleCommand_cases env faults cmd station with ⟨error, hran⟩ | ⟨reasons, hran⟩
  · unfold finalState
    rw [hran]
    exact keepsGuards_of_loop _ rfl
  · have hfinal : finalState (handleCommand env faults cmd) station =
        finalState (submitAndPersist env faults.persist cmd
          (station.intake.evaluate station.app cmd reasons)) station := by
      unfold finalState
      rw [hran]
    rw [hfinal]
    exact (submitted_keepsGuards env station station.app cmd reasons).congr
      (submitAndPersist_loop _ _ _)

end

/-! ## The LAB route -/

/-- The pump of a LAB request. -/
def labTarget (state : AppState) (pumpId : String) : Option Target :=
  (resolvePumpContext state pumpId).toOption.map fun pump => ⟨pump.address, pump.context⟩

/-- What the guards of the commands that LAB can enqueue ask of a context. -/
def Permits (context : PumpContext) : PumpCommand → Prop
  | .AUTHORIZE => ReadyToAuthorize context
  | .STOP => context.currentState ∈ stopStates ∧ context.communicationHealthy = true
  | .RESET => context.currentState ∈ resetEligibleStates ∧ context.communicationHealthy = true
  | _ => True

/-- The request is refused before or at its enqueue, or its pump is in a state and
context that permits the command. -/
def LabPermitted (env : Env) (pumpId : String) (body : LabCommandRequest) (state : AppState) :
    Prop :=
  Refused env pumpId body state ∨
    ∀ command ∈ PumpCommand.ofValue? body.commandType, ∀ pump ∈ labTarget state pumpId,
      Permits pump.context command

/-- The commands of the LAB route that are not idempotent are permitted exactly when
they are eligible. -/
theorem permits_iff {command : PumpCommand} {control : Dart.Application.PumpControlCommand}
    (hcontrol : CD1_MAP command = some control) (pump : Target) :
    (command ∈ NON_IDEMPOTENT_COMMANDS → pump.Allows command) ↔
      Permits pump.context command := by
  have hother (hidempotent : command ∉ NON_IDEMPOTENT_COMMANDS)
      (hpermits : Permits pump.context command) :
      (command ∈ NON_IDEMPOTENT_COMMANDS → pump.Allows command) ↔
        Permits pump.context command :=
    iff_of_true (fun hmem => absurd hmem hidempotent) hpermits
  cases command with
  | READ_STATUS => exact hother (by decide) trivial
  | READ_TOTALS => cases hcontrol
  | SET_PRICE => cases hcontrol
  | SUSPEND => cases hcontrol
  | RESUME => cases hcontrol
  | PRESET_AMOUNT => cases hcontrol
  | PRESET_VOLUME => cases hcontrol
  | RESET =>
      constructor
      · intro hallows
        exact (reset_eligible_iff _ _).mp (hallows (by decide)).eligible
      · intro hpermits _
        exact ⟨(reset_eligible_iff _ _).mpr hpermits, fun hauthorize => by cases hauthorize⟩
  | STOP =>
      constructor
      · intro hallows
        exact (stop_eligible_iff _ _).mp (hallows (by decide)).eligible
      · intro hpermits _
        exact ⟨(stop_eligible_iff _ _).mpr hpermits, fun hauthorize => by cases hauthorize⟩
  | AUTHORIZE =>
      constructor
      · intro hallows
        exact (hallows (by decide)).ready rfl
      · intro hpermits _
        exact ⟨(authorize_eligible_iff _ _).mpr hpermits, fun _ => hpermits⟩

section

variable {env : Env} {state : AppState} {pumpId : String} {body : LabCommandRequest}

/-- A request that is enqueued leaves the loop after the enqueue, recorded or not. -/
theorem labSubmitCommand_loop {admission : LabAdmission} {loop : ControllerLoop}
    (fault : Option Raised) (requestId : Option String)
    (henqueued : labEnqueue env state pumpId body = .ok (admission, loop)) :
    (finalState (labSubmitCommand env fault pumpId requestId body) state).controllerLoop =
      some loop := by
  unfold finalState
  by_cases hsafe : fault = none ∧
      labCorrelationId env requestId body ∉ state.db.commands.map (·.correlationId)
  · obtain ⟨rfl, hnew⟩ := hsafe
    rw [labSubmitCommand_recorded requestId henqueued hnew]
  · have hfails : fault ≠ none ∨
        labCorrelationId env requestId body ∈ state.db.commands.map (·.correlationId) := by
      rcases not_and_or.mp hsafe with hfault | hused
      · exact Or.inl hfault
      · exact Or.inr (not_not.mp hused)
    obtain ⟨error, hran⟩ := labSubmitCommand_lost henqueued hfails
    rw [hran]

/-- A LAB request keeps the guards exactly when it is permitted. -/
theorem labSubmitCommand_keepsGuards_iff (env : Env) (fault : Option Raised) (pumpId : String)
    (requestId : Option String) (body : LabCommandRequest) (state : AppState) :
    KeepsGuards (labTarget state pumpId) state
        (finalState (labSubmitCommand env fault pumpId requestId body) state) ↔
      LabPermitted env pumpId body state := by
  rcases labEnqueue_cases env pumpId body state with ⟨⟨error, hrefused⟩, hearly⟩ |
    ⟨⟨admission, loop, henqueued⟩, hlate⟩
  · refine iff_of_true ?_ (Or.inl hearly)
    unfold finalState
    rw [labSubmitCommand_refused fault requestId hrefused]
    exact keepsGuards_of_loop _ rfl
  · obtain ⟨hloop, hadmitted, hafter⟩ := labEnqueue_ok henqueued
    obtain ⟨-, -, hcommand, hcontrol, hresolved⟩ := admitLab_ok hadmitted
    have htarget : labTarget state pumpId =
        some ⟨admission.pump.address, admission.pump.context⟩ := by
      unfold labTarget
      rw [hresolved]
      rfl
    have hitems := enqueuedItems_enqueueLab hloop hafter
      (labSubmitCommand_loop fault requestId henqueued)
    have hpermits := permits_iff hcontrol ⟨admission.pump.address, admission.pump.context⟩
    unfold KeepsGuards LabPermitted
    rw [hitems, htarget, hcommand]
    constructor
    · intro hkeeps
      refine Or.inr fun command hmem pump hpump => ?_
      cases hmem
      cases hpump
      refine hpermits.mp fun hactive => ?_
      obtain ⟨pump, hpump, -, hallows⟩ := hkeeps _ (List.mem_singleton_self _) hactive
      cases hpump
      exact hallows
    · intro hpermitted item hitem hactive
      cases List.mem_singleton.mp hitem
      have hcontext := (hpermitted.resolve_left hlate) _ rfl _ rfl
      exact ⟨_, rfl, rfl, hpermits.mpr hcontext hactive⟩

end

/-- The cloud handler keeps the guards, also when the application goes on between its
evaluation and its submission; the LAB route keeps them exactly when the request is
refused or permitted. -/
theorem guards_kept_iff (env : Env) :
    (∀ (faults : IntakeFaults) (cmd : CloudCommandInbound) (station : Station),
      KeepsGuards (cloudTarget station.intake station.app cmd) station.app
        (finalState (handleCommand env faults cmd) station).app) ∧
    (∀ (station : Station) (evaluated : AppState) (cmd : CloudCommandInbound)
        (reasons : List String),
      KeepsGuards (cloudTarget station.intake evaluated cmd) station.app
        (station.submitted cmd (station.intake.submit env station.app cmd
          (station.intake.evaluate evaluated cmd reasons))).app) ∧
    ∀ (fault : Option Raised) (pumpId : String) (requestId : Option String)
        (body : LabCommandRequest) (state : AppState),
      KeepsGuards (labTarget state pumpId) state
          (finalState (labSubmitCommand env fault pumpId requestId body) state) ↔
        LabPermitted env pumpId body state :=
  ⟨handleCommand_keepsGuards env, submitted_keepsGuards env,
    labSubmitCommand_keepsGuards_iff env⟩

/-- `AUTHORIZE` for a pump that nothing was ever heard of is enqueued. -/
theorem guards_bypassed :
    ¬ ∀ (env : Env) (fault : Option Raised) (pumpId : String) (requestId : Option String)
        (body : LabCommandRequest) (state : AppState),
      KeepsGuards (labTarget state pumpId) state
        (finalState (labSubmitCommand env fault pumpId requestId body) state) := by
  intro hall
  have hkeeps := hall (numberedEnv 1) none "pump-1" none
    { commandType := "AUTHORIZE", correlationId := some "c-1" } labStation
  have hitem : labItem (numberedEnv 1) 0x01 .AUTHORIZE [0x01, 0x01, 0x06] ∈
      enqueuedItems labStation (finalState (labSubmitCommand (numberedEnv 1) none "pump-1"
        none { commandType := "AUTHORIZE", correlationId := some "c-1" }) labStation) := by
    decide +kernel
  obtain ⟨pump, hpump, -, hallows⟩ := hkeeps _ hitem (by decide)
  have hstate : (labTarget labStation "pump-1").map (·.context.currentState) =
      some .DISCONNECTED := by
    decide +kernel
  rw [Option.mem_def.mp hpump, Option.map_some, (hallows.ready rfl).nozzleUp] at hstate
  cases hstate

end Cloud
end Intelipump
