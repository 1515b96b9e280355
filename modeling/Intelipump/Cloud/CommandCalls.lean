import Mathlib.Tactic.Common
import Intelipump.Cloud.CommandIntake

namespace Intelipump
namespace Cloud

open Api (AppState)
open Controller
open Domain
open Foundation.StateEffect
open Persistence
open Services
open CloudCommandIntake

/-!
# Calls of the command handler

A call runs to its next await and is resumed there, whatever the other calls did in
between.  A call that nothing interrupts does what `handleCommand` says
(`runAlone_eq`).
-/

/-- Where a call is suspended. -/
inductive Phase where
  /-- The command was checked and is looked up in the table. -/
  | checked (reasons : List String)
  /-- The look-up is over; a command that nothing speaks against is evaluated. -/
  | lookedUp (reasons : List String)
  /-- The evaluation is over. -/
  | evaluated (evaluation : Evaluation)
  /-- The command was submitted and marked as seen; the outcome is persisted. -/
  | submitted (evaluation : Evaluation) (submission : Submission)
  | finished

structure Call where
  cmd : CloudCommandInbound
  phase : Phase

namespace Call

/-- A call up to its first await. -/
def start (env : Env) (intake : CloudCommandIntake) (cmd : CloudCommandInbound) : Call :=
  ⟨cmd, .checked (intake.validationReasons (env.now .intake) cmd)⟩

/-- The command is submitted, enqueued or not, and marked as seen; there is no await in
between. -/
def submitWith (env : Env) (station : Station) (call : Call) (evaluation : Evaluation) :
    Station × Call :=
  let submission := station.intake.submit env station.app call.cmd evaluation
  (station.submitted call.cmd submission,
    { call with phase := .submitted evaluation submission })

/-- A call is resumed and runs to its next await.  A fault ends it. -/
def advance (env : Env) (fault : Option Raised) (station : Station) (call : Call) :
    Station × Call :=
  match call.phase with
  | .checked reasons =>
      if fault = none then
        (station, { call with
          phase := .lookedUp (reasons ++ lookupReasons call.cmd station.app.db) })
      else (station, { call with phase := .finished })
  | .lookedUp [] =>
      if fault = none then
        (station, { call with
          phase := .evaluated (station.intake.evaluate station.app call.cmd []) })
      else (station, { call with phase := .finished })
  | .lookedUp reasons => submitWith env station call { reasons := reasons }
  | .evaluated evaluation => submitWith env station call evaluation
  | .submitted evaluation submission =>
      (finalState (persistOutcome env fault call.cmd (outcome evaluation submission)) station,
        { call with phase := .finished })
  | .finished => (station, call)

/-! ## A call that runs alone -/

/-- The fault of the unit of work that a call is in. -/
def faultOf (faults : IntakeFaults) : Phase → Option Raised
  | .checked _ => faults.lookup
  | .lookedUp _ => faults.evaluation
  | .submitted _ _ => faults.persist
  | .evaluated _ | .finished => none

def advanceAlone (env : Env) (faults : IntakeFaults) (running : Station × Call) :
    Station × Call :=
  advance env (faultOf faults running.2.phase) running.1 running.2

/-- A call is over when it was resumed four times. -/
def runAlone (env : Env) (faults : IntakeFaults) (station : Station)
    (cmd : CloudCommandInbound) : Station × Call :=
  (advanceAlone env faults)^[4] (station, start env station.intake cmd)

section

variable {env : Env} {faults : IntakeFaults} {station : Station} {cmd : CloudCommandInbound}

/-- From the submission on, a call that runs alone is resumed once more. -/
theorem finalState_submitAndPersist (evaluation : Evaluation) :
    finalState (submitAndPersist env faults.persist cmd evaluation) station =
      (advanceAlone env faults (submitWith env station ⟨cmd, .checked []⟩ evaluation)).1 := by
  change finalState (persistOutcome env faults.persist cmd _ >>= fun _ => pure _)
    (station.submitted cmd _) = _
  rw [finalState_bind_pure]
  rfl

/-- A call that runs alone is the handler as it is written. -/
theorem runAlone_eq :
    (runAlone env faults station cmd).1 = finalState (handleCommand env faults cmd) station := by
  unfold handleCommand runAlone start
  rw [finalState_get_bind]
  cases hlookup : faults.lookup with
  | some error =>
      simp only [Function.iterate_succ, Function.iterate_zero, Function.comp_apply, id_eq,
        advanceAlone, advance, faultOf, hlookup]
      rfl
  | none =>
      generalize station.intake.validationReasons (env.now .intake) cmd = checked
      change _ = finalState (do
        if checked ++ lookupReasons cmd station.app.db = [] then raiseFault faults.evaluation
        submitAndPersist env faults.persist cmd _) station
      have hfirst : advanceAlone env faults (station, ⟨cmd, .checked checked⟩) =
          (station, ⟨cmd, .lookedUp (checked ++ lookupReasons cmd station.app.db)⟩) :=
        if_pos hlookup
      change ((advanceAlone env faults)^[3] (advanceAlone env faults _)).1 = _
      rw [hfirst]
      cases hreasons : checked ++ lookupReasons cmd station.app.db with
      | nil =>
          rw [if_pos rfl]
          cases hevaluation : faults.evaluation with
          | some error =>
              simp only [Function.iterate_succ, Function.iterate_zero, Function.comp_apply, id_eq,
                advanceAlone, advance, faultOf, hevaluation]
              rfl
          | none =>
              have hsecond : advanceAlone env faults (station, ⟨cmd, .lookedUp []⟩) =
                  (station, ⟨cmd, .evaluated
                    (station.intake.evaluate station.app cmd [])⟩) := if_pos hevaluation
              change ((advanceAlone env faults)^[2] (advanceAlone env faults _)).1 = _
              rw [hsecond]
              exact (finalState_submitAndPersist _).symm
      | cons reason rest =>
          rw [if_neg (List.cons_ne_nil reason rest)]
          change ((advanceAlone env faults)^[1] (advanceAlone env faults
            (submitWith env station ⟨cmd, .lookedUp (reason :: rest)⟩
              { reasons := reason :: rest }))).1 = finalState (submitAndPersist env
                faults.persist cmd _) station
          rw [finalState_submitAndPersist]
          rfl

end

end Call
end Cloud
end Intelipump
