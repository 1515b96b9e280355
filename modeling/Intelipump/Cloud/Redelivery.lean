import Mathlib.Tactic.Common
import Intelipump.Cloud.StationRuns
import Intelipump.Foundation.Runs

namespace Intelipump
namespace Cloud

open Api
open Controller
open Domain
open Foundation.Runs
open Persistence
open Services
open CloudCommandIntake

/-!
# Redelivered cloud commands

A call looks for duplicates before its awaits and marks its command behind them.  A
command is enqueued at most once when no call that passed its checks is overtaken by
another call of the same command, and the process does not stop between an enqueue and
the commit of the row (`enqueued_at_most_once`).
-/

/-- The call passed the checks for duplicates and was not submitted yet. -/
def Phase.Cleared : Phase → Prop
  | .lookedUp reasons => reasons = []
  | .evaluated _ => True
  | .checked _ | .submitted _ _ | .finished => False

/-- When it is resumed, the call comes to its enqueue, and the station enqueues. -/
def Call.ComesToEnqueue (env : Env) (station : Station) (call : Call) : Prop :=
  match call.phase with
  | .evaluated evaluation =>
      station.intake.mayEnqueue env station.app call.cmd evaluation = true
  | .checked _ | .lookedUp _ | .submitted _ _ | .finished => False

instance (env : Env) (station : Station) (call : Call) :
    Decidable (call.ComesToEnqueue env station) := by
  unfold Call.ComesToEnqueue
  cases call.phase <;> infer_instance

/-- A call that comes to its enqueue was not overtaken: its command is not marked as seen
yet.  When the process stops, every command that was enqueued has its row. -/
def StationStep.InOrder (run : StationRun) : StationStep → Prop
  | .resume index env _ => ∀ call ∈ run.calls[index]?, call.ComesToEnqueue env run.station →
      call.cmd.correlationId ∉ run.station.intake.seen
  | .restart _ => ∀ correlationId ∈ run.enqueued, IsPersisted correlationId run.station.app.db
  | _ => True

/-- What a run knows of the commands it enqueued. -/
structure AtMostOnce (run : StationRun) : Prop where
  distinct : run.enqueued.Nodup
  marked : ∀ correlationId ∈ run.enqueued, correlationId ∈ run.station.intake.seen ∨
    IsPersisted correlationId run.station.app.db
  cleared : ∀ call ∈ run.calls, call.phase.Cleared → call.cmd.correlationId ∈ run.enqueued →
    call.cmd.correlationId ∈ run.station.intake.seen

/-! ## One stretch of a call -/

section

variable {env : Env} {fault : Option Raised} {station : Station} {call : Call}

/-- A stretch without a submission leaves the loop and the marks; a call passes its checks
only when the table does not have the command. -/
structure Quiet (station : Station) (call : Call) (next : Station × Call) : Prop where
  loop : next.1.app.controllerLoop = station.app.controllerLoop
  intake : next.1.intake = station.intake
  cmd : next.2.cmd = call.cmd
  cleared : next.2.phase.Cleared →
    call.phase.Cleared ∨ ¬ IsPersisted call.cmd.correlationId station.app.db

/-- A stretch is quiet or ends in a submission. -/
theorem advance_cases (env : Env) (fault : Option Raised) (station : Station) (call : Call) :
    Quiet station call (call.advance env fault station) ∨
    ∃ evaluation, call.advance env fault station = call.submitWith env station evaluation ∧
      (evaluation.reasons = [] → call.phase = .evaluated evaluation) := by
  obtain ⟨cmd, phase⟩ := call
  cases phase with
  | checked reasons =>
      refine Or.inl ?_
      unfold Call.advance
      dsimp only
      split
      -- the lookup of the row speaks against a command that is in the table
      · refine ⟨rfl, rfl, rfl, fun hclear => Or.inr fun hpersisted => ?_⟩
        have hlookup := (List.append_eq_nil_iff.mp hclear).2
        unfold lookupReasons at hlookup
        have hblocked := (List.append_eq_nil_iff.mp hlookup).1
        exact StateMachine.blocks_eq_nil.mp hblocked hpersisted
      · exact ⟨rfl, rfl, rfl, fun hclear => hclear.elim⟩
  | lookedUp reasons =>
      cases reasons with
      | nil =>
          refine Or.inl ?_
          unfold Call.advance
          dsimp only
          split
          · exact ⟨rfl, rfl, rfl, fun _ => Or.inl rfl⟩
          · exact ⟨rfl, rfl, rfl, fun hclear => hclear.elim⟩
      | cons reason rest =>
          exact Or.inr ⟨{ reasons := reason :: rest }, rfl,
            fun hreasons => absurd hreasons (List.cons_ne_nil reason rest)⟩
  | evaluated evaluation => exact Or.inr ⟨evaluation, rfl, fun _ => rfl⟩
  | submitted evaluation submission =>
      refine Or.inl ⟨persistOutcome_loop _ _ _, ?_, rfl, fun hclear => hclear.elim⟩
      exact persistOutcome_intake _ _ _
  | finished => exact Or.inl ⟨rfl, rfl, rfl, fun hclear => hclear.elim⟩

/-- A submission enqueues one item at most, and none when something was spoken against or the
station does not enqueue. -/
theorem enqueuedItems_submitted (env : Env) (station : Station) (cmd : CloudCommandInbound)
    (evaluation : Evaluation) :
    enqueuedItems station.app (station.submitted cmd
        (station.intake.submit env station.app cmd evaluation)).app = [] ∨
    (evaluation.reasons = [] ∧
        station.intake.mayEnqueue env station.app cmd evaluation = true) ∧
      ∃ item, enqueuedItems station.app (station.submitted cmd
        (station.intake.submit env station.app cmd evaluation)).app = [item] := by
  cases hsubmission : station.intake.submit env station.app cmd evaluation with
  | evaluatedOnly others => exact Or.inl (enqueuedItems_of_loop rfl)
  | enqueueFailed others => exact Or.inl (enqueuedItems_of_loop rfl)
  | queued others after =>
      obtain ⟨loop, command, control, address, hloop, -, hclear, -, henqueued⟩ :=
        submit_queued hsubmission
      exact Or.inr ⟨⟨hclear, mayEnqueue_of_queued hsubmission⟩, _,
        enqueuedItems_enqueueLab hloop henqueued rfl⟩

end

/-! ## The invariant -/

section

variable {run : StationRun}

/-- A step that enqueues nothing keeps the invariant, when no mark and no row is lost and
a call passes its checks only for a command that the table does not have. -/
theorem AtMostOnce.frame {after : StationRun} (hrun : AtMostOnce run)
    (henqueued : after.enqueued = run.enqueued)
    (hseen : ∀ correlationId ∈ run.station.intake.seen,
      correlationId ∈ after.station.intake.seen)
    (hpersisted : ∀ correlationId, IsPersisted correlationId run.station.app.db →
      IsPersisted correlationId after.station.app.db)
    (hcleared : ∀ call ∈ after.calls, call.phase.Cleared →
      (∃ old ∈ run.calls, old.phase.Cleared ∧
        old.cmd.correlationId = call.cmd.correlationId) ∨
      ¬ IsPersisted call.cmd.correlationId run.station.app.db) : AtMostOnce after where
  distinct := henqueued ▸ hrun.distinct
  marked := by
    intro correlationId hmem
    rw [henqueued] at hmem
    exact (hrun.marked correlationId hmem).imp (hseen correlationId) (hpersisted correlationId)
  cleared := by
    intro call hcall hclear hmem
    rw [henqueued] at hmem
    rcases hcleared call hcall hclear with ⟨old, hold, holdClear, hid⟩ | hnew
    · rw [← hid] at hmem ⊢
      exact hseen _ (hrun.cleared old hold holdClear hmem)
    · exact hseen _ ((hrun.marked _ hmem).resolve_right hnew)

/-- What happens to the application alone. -/
theorem AtMostOnce.withApp {app : AppState} (hrun : AtMostOnce run)
    (hpersisted : ∀ correlationId, IsPersisted correlationId run.station.app.db →
      IsPersisted correlationId app.db) : AtMostOnce (run.withApp app) :=
  hrun.frame rfl (fun _ hmem => hmem) hpersisted
    fun call hcall hclear => Or.inl ⟨call, hcall, hclear, rfl⟩

theorem AtMostOnce.deliver (hrun : AtMostOnce run) (env : Env) (cmd : CloudCommandInbound) :
    AtMostOnce (run.step (.deliver env cmd)) := by
  refine hrun.frame rfl (fun _ hmem => hmem) (fun _ hmem => hmem) fun call hcall hclear => ?_
  rcases List.mem_append.mp hcall with hold | hnew
  · exact Or.inl ⟨call, hold, hclear, rfl⟩
  · rw [List.mem_singleton.mp hnew] at hclear
    exact hclear.elim

/-- After a restart every command that was enqueued is found in the table. -/
theorem AtMostOnce.restart (hrun : AtMostOnce run) (intake : CloudCommandIntake)
    (hrows : ∀ correlationId ∈ run.enqueued, IsPersisted correlationId run.station.app.db) :
    AtMostOnce (run.step (.restart intake)) where
  distinct := hrun.distinct
  marked := fun correlationId hmem => Or.inr (hrows correlationId hmem)
  cleared := fun _ hcall => absurd hcall List.not_mem_nil

/-- A submission marks its command, and enqueues it only when it was not overtaken. -/
theorem AtMostOnce.submit (hrun : AtMostOnce run) {index : Nat} {call : Call}
    (hcall : run.calls[index]? = some call) {env : Env} {fault : Option Raised}
    {evaluation : Evaluation}
    (hnext : call.advance env fault run.station = call.submitWith env run.station evaluation)
    (hclear : evaluation.reasons = [] → call.phase = .evaluated evaluation)
    (horder : call.ComesToEnqueue env run.station →
      call.cmd.correlationId ∉ run.station.intake.seen) :
    AtMostOnce (run.resumed index call env fault) := by
  have hmem : call ∈ run.calls := List.mem_of_getElem? hcall
  let submission := run.station.intake.submit env run.station.app call.cmd evaluation
  let next : Call := { call with phase := .submitted evaluation submission }
  have hresumed : run.resumed index call env fault = {
      station := run.station.submitted call.cmd submission
      calls := run.calls.set index next
      enqueued := run.enqueued ++ (enqueuedItems run.station.app
        (run.station.submitted call.cmd submission).app).map fun _ =>
          call.cmd.correlationId } := by
    unfold StationRun.resumed
    rw [hnext]
    rfl
  have hothers (other : Call) (hother : other ∈ run.calls.set index next)
      (hotherClear : other.phase.Cleared) : other ∈ run.calls := by
    rcases List.mem_or_eq_of_mem_set hother with hold | rfl
    · exact hold
    · exact hotherClear.elim
  have hseen (correlationId : String) (hold : correlationId ∈ run.station.intake.seen) :
      correlationId ∈ (run.station.submitted call.cmd submission).intake.seen :=
    Finset.mem_insert_of_mem hold
  rw [hresumed]
  -- nothing is enqueued, or the one item of a command that is new to the marks
  rcases enqueuedItems_submitted env run.station call.cmd evaluation with
    hnone | ⟨⟨hreasons, hmay⟩, item, hitem⟩
  · refine hrun.frame ?_ hseen (fun _ hold => hold) fun other hother hotherClear => ?_
    · dsimp only
      rw [hnone, List.map_nil, List.append_nil]
    · exact Or.inl ⟨other, hothers other hother hotherClear, hotherClear, rfl⟩
  · have hphase := hclear hreasons
    have hcomes : call.ComesToEnqueue env run.station := by
      unfold Call.ComesToEnqueue
      rw [hphase]
      exact hmay
    have hcallClear : call.phase.Cleared := by
      rw [hphase]
      trivial
    have hfresh : call.cmd.correlationId ∉ run.enqueued := fun hold =>
      horder hcomes (hrun.cleared call hmem hcallClear hold)
    rw [hitem, List.map_singleton]
    constructor
    · exact List.Nodup.append hrun.distinct (List.nodup_singleton _)
        (List.disjoint_singleton.mpr hfresh)
    · intro correlationId hin
      rcases List.mem_append.mp hin with hold | hlast
      · exact (hrun.marked correlationId hold).imp_left (hseen correlationId)
      · rw [List.mem_singleton.mp hlast]
        exact Or.inl (Finset.mem_insert_self _ _)
    · intro other hother hotherClear hin
      rcases List.mem_append.mp hin with hold | hlast
      · exact hseen _ (hrun.cleared other (hothers other hother hotherClear) hotherClear hold)
      · rw [List.mem_singleton.mp hlast]
        exact Finset.mem_insert_self _ _

theorem AtMostOnce.resume (hrun : AtMostOnce run) (index : Nat) (env : Env)
    (fault : Option Raised) (horder : (StationStep.resume index env fault).InOrder run) :
    AtMostOnce (run.step (.resume index env fault)) := by
  cases hcall : run.calls[index]? with
  | none =>
      rw [run.step_resume_none env fault hcall]
      exact hrun
  | some call =>
      have hpersisted := isPersisted_step run (.resume index env fault) trivial
      rw [run.step_resume env fault hcall] at hpersisted ⊢
      -- the stretches up to the submission change neither the queue nor the marks
      rcases advance_cases env fault run.station call with hquiet | ⟨evaluation, hnext, hclear⟩
      · have hmem : call ∈ run.calls := List.mem_of_getElem? hcall
        refine hrun.frame ?_ ?_ hpersisted fun other hother hotherClear => ?_
        · unfold StationRun.resumed
          dsimp only
          rw [enqueuedItems_of_loop hquiet.loop, List.map_nil, List.append_nil]
        · intro correlationId hold
          unfold StationRun.resumed
          rw [hquiet.intake]
          exact hold
        · rcases List.mem_or_eq_of_mem_set hother with hold | rfl
          · exact Or.inl ⟨other, hold, hotherClear, rfl⟩
          · rw [hquiet.cmd]
            exact (hquiet.cleared hotherClear).imp_left fun hcleared =>
              ⟨call, hmem, hcleared, rfl⟩
      · exact hrun.submit hcall hnext hclear (horder call hcall)

theorem AtMostOnce.step (hrun : AtMostOnce run) (step : StationStep)
    (hhappens : step.Happens run) (horder : step.InOrder run) : AtMostOnce (run.step step) := by
  have hpersisted := isPersisted_step run step hhappens
  cases step with
  | deliver env cmd => exact hrun.deliver env cmd
  | resume index env fault => exact hrun.resume index env fault horder
  | restart intake => exact hrun.restart intake horder
  | labSubmit env fault pumpId requestId body => exact hrun.withApp hpersisted
  | evaluate env fault pumpId requestId body => exact hrun.withApp hpersisted
  | recover env stationId => exact hrun.withApp hpersisted
  | elsewhere after => exact hrun.withApp hpersisted

end

instance (run : StationRun) : ∀ step : StationStep, Decidable (step.InOrder run)
  | .resume index env _ => inferInstanceAs (Decidable (∀ call ∈ run.calls[index]?,
      call.ComesToEnqueue env run.station → call.cmd.correlationId ∉ run.station.intake.seen))
  | .restart _ => inferInstanceAs (Decidable (∀ correlationId ∈ run.enqueued,
      IsPersisted correlationId run.station.app.db))
  | .deliver _ _ | .labSubmit _ _ _ _ _ | .evaluate _ _ _ _ _ | .recover _ _
  | .elsewhere _ => isTrue trivial

/-- In every run in which no call is overtaken before its enqueue and the process does not
stop before a row of an enqueued command is committed, every command is enqueued at most
once, however many calls it has. -/
theorem enqueued_at_most_once (station : Station) (steps : List StationStep)
    (hhappens : Along StationRun.step (fun run step => step.Happens run)
      { station := station } steps)
    (horder : Along StationRun.step (fun run step => step.InOrder run)
      { station := station } steps) (correlationId : String) :
    (steps.foldl StationRun.step { station := station }).enqueued.count correlationId ≤ 1 := by
  have halong : Along StationRun.step (fun run step => step.Happens run ∧ step.InOrder run)
      { station := station } steps := along_and.mpr ⟨hhappens, horder⟩
  have hinitial : AtMostOnce { station := station } :=
    ⟨List.nodup_nil, fun _ hmem => absurd hmem List.not_mem_nil,
      fun _ hcall => absurd hcall List.not_mem_nil⟩
  have hlast := invariant_of_along (fun run step hrun hcondition =>
    hrun.step step hcondition.1 hcondition.2) hinitial halong
  exact List.nodup_iff_count_le_one.mp hlast.distinct correlationId

/-- A LAB station whose pump was ready when it was last heard of, with a cloud
connection. -/
def connectedStation : Station where
  app := { labStation with db := { labStation.db with
    states := [⟨"db-1", "READY", none, none, none, true, none, none, 1, 0⟩] } }
  intake := .create "S1" "LAB" true true

/-- `RESET` for the pump. -/
def resetMessage : CloudCommandInbound where
  commandId := "k-1"
  correlationId := "m-1"
  stationId := "S1"
  pumpId := "pump-1"
  commandType := "RESET"

/-- The call at an index goes on. -/
def goesOn (index : Nat) : StationStep :=
  .resume index (numberedEnv index) none

/-- The message is delivered, handled and delivered again. -/
def redelivered : List StationStep :=
  [.deliver (numberedEnv 0) resetMessage, goesOn 0, goesOn 0, goesOn 0, goesOn 0,
    .deliver (numberedEnv 1) resetMessage, goesOn 1, goesOn 1, goesOn 1]

theorem redelivered_enqueued_once :
    (redelivered.foldl StationRun.step { station := connectedStation }).enqueued = ["m-1"] ∧
    (redelivered.foldl StationRun.step { station := connectedStation }).enqueued.count "m-1" ≤
      1 := by
  have hhappens : Along StationRun.step (fun run step => step.Happens run)
      { station := connectedStation } redelivered :=
    ⟨trivial, trivial, trivial, trivial, trivial, trivial, trivial, trivial, trivial, trivial⟩
  exact ⟨by decide +kernel, enqueued_at_most_once connectedStation redelivered hhappens
    (by decide +kernel) "m-1"⟩

/-- The message is delivered twice, and both calls go on in turn: both pass the checks
before one of them marks the command. -/
theorem enqueued_twice :
    ¬ ∀ (station : Station) (steps : List StationStep),
      Along StationRun.step (fun run step => step.Happens run) { station := station } steps →
        ∀ correlationId,
          (steps.foldl StationRun.step { station := station }).enqueued.count correlationId ≤
            1 := by
  intro hall
  have honce := hall connectedStation [.deliver (numberedEnv 0) resetMessage,
    .deliver (numberedEnv 1) resetMessage, goesOn 0, goesOn 1, goesOn 0, goesOn 1, goesOn 0,
    goesOn 1]
    ⟨trivial, trivial, trivial, trivial, trivial, trivial, trivial, trivial, trivial⟩ "m-1"
  revert honce
  decide +kernel

end Cloud
end Intelipump
