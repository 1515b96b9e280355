import Mathlib.Tactic.Common
import Intelipump.Cloud.Redelivery
import Intelipump.Foundation.Runs

namespace Intelipump
namespace Cloud

open Api
open Domain
open Foundation.Runs
open Foundation.StateEffect
open Persistence
open Services
open RecoveryService

/-!
# Interrupted commands

A LAB submission is recorded as queued and never finished.  The recovery closes pending
commands and commands in progress, which nothing writes, so the queued ones stay as they
are (`recovery_complete_iff`).
-/

/-- The command of the station was queued and not finished. -/
def Interrupted (stationId : String) (row : CommandRow) : Prop :=
  row.stationId = stationId ∧ row.status = .QUEUED ∧ row.completedAt = none

instance (stationId : String) (row : CommandRow) : Decidable (Interrupted stationId row) :=
  inferInstanceAs (Decidable (_ ∧ _ ∧ _))

/-- The commands after a recovery. -/
def recoveredCommands (env : Env) (stationId : String) (db : Database) : List CommandRow :=
  (finalState (recover env stationId) db).commands

/-- An interrupted command is closed: it is expired or to be reconciled, and a command that
is no read and had not expired is to be reconciled. -/
structure Closed (now : Int) (row closed : CommandRow) : Prop where
  same : closed.correlationId = row.correlationId
  status : closed.status ∈ [CommandStatus.EXPIRED, .NEEDS_RECONCILIATION]
  active : row.commandType ∉ [PumpCommand.READ_STATUS.value, PumpCommand.READ_TOTALS.value] →
    ¬ HasExpired now row → closed.status = .NEEDS_RECONCILIATION

/-- A recovery closes the interrupted commands and no others, and another recovery, now or
later, changes nothing. -/
structure LeavesNoneBehind (env : Env) (stationId : String) (db : Database) : Prop where
  closes : ∃ close : CommandRow → CommandRow,
    recoveredCommands env stationId db = db.commands.map close ∧
    ∀ row ∈ db.commands,
      (Interrupted stationId row → Closed (env.now .recovery) row (close row)) ∧
      (¬ Interrupted stationId row → close row = row)
  settles : ∀ again : Env, recoveredCommands again stationId
      (finalState (recover env stationId) db) = recoveredCommands env stationId db

/-- No command is pending. -/
def NonePending (db : Database) : Prop := ∀ row ∈ db.commands, NotPending row

theorem NonePending.grow {before after : Database} (hnone : NonePending before)
    (hgrow : CommandsGrow before after) : NonePending after := by
  obtain ⟨rows, hrows, hnew⟩ := hgrow
  intro row hrow
  rw [hrows] at hrow
  exact (List.mem_append.mp hrow).elim (hnone row) (hnew row)

/-- With no pending command a recovery leaves the command table. -/
theorem NonePending.recoveredDb {db : Database} (hnone : NonePending db) (env : Env)
    (stationId : String) :
    (RecoveryService.recoveredDb env stationId db).commands = db.commands := by
  refine commands_recoveredDb_of_none env (List.filter_eq_nil_iff.mpr fun row hrow hlisted => ?_)
  exact hnone row hrow (of_decide_eq_true hlisted).2

theorem NonePending.recoveredCommands {db : Database} (hnone : NonePending db) (env : Env)
    (stationId : String) : recoveredCommands env stationId db = db.commands := by
  unfold Cloud.recoveredCommands
  rw [finalState_recover]
  exact hnone.recoveredDb env stationId

def StationRun.NonePending (run : StationRun) : Prop := Cloud.NonePending run.station.app.db

theorem StationRun.NonePending.step {run : StationRun} (hnone : run.NonePending)
    {step : StationStep} (hhappens : step.Happens run) : (run.step step).NonePending := by
  rcases step_commands run step hhappens with hgrow | ⟨env, stationId, -, hdb⟩
  · exact Cloud.NonePending.grow hnone hgrow
  · unfold StationRun.NonePending Cloud.NonePending
    rw [hdb, Cloud.NonePending.recoveredDb hnone env stationId]
    exact hnone

/-- On a table that the handlers wrote a recovery leaves no interrupted command behind
exactly when there is none. -/
theorem NonePending.leavesNoneBehind_iff {db : Database} (hnone : NonePending db) (env : Env)
    (stationId : String) :
    LeavesNoneBehind env stationId db ↔ ∀ row ∈ db.commands, ¬ Interrupted stationId row := by
  constructor
  · intro hleaves row hrow hinterrupted
    obtain ⟨close, hmap, hrows⟩ := hleaves.closes
    rw [hnone.recoveredCommands] at hmap
    have hsame : db.commands.map id = db.commands.map close := (List.map_id _).trans hmap
    have hclosed := ((hrows row hrow).1 hinterrupted).status
    rw [← List.map_inj_left.mp hsame row hrow, id_eq, hinterrupted.2.1] at hclosed
    revert hclosed
    decide
  · intro hfinished
    constructor
    · refine ⟨id, by rw [hnone.recoveredCommands, List.map_id], fun row hrow => ⟨?_, ?_⟩⟩
      · intro hinterrupted
        exact absurd hinterrupted (hfinished row hrow)
      · intro _
        rfl
    · intro again
      have hafter : NonePending (finalState (recover env stationId) db) := by
        unfold NonePending
        rw [finalState_recover, hnone.recoveredDb]
        exact hnone
      rw [hafter.recoveredCommands]
      rfl

/-- For every command table that the handlers, the routes and earlier recoveries produce, a
recovery leaves no interrupted command behind exactly when no command of the station is
queued and unfinished: it closes none of them. -/
theorem recovery_complete_iff (station : Station) (hempty : station.app.db.commands = [])
    (steps : List StationStep)
    (hhappens : Along StationRun.step (fun run step => step.Happens run)
      { station := station } steps) (env : Env) (stationId : String) :
    LeavesNoneBehind env stationId
        (steps.foldl StationRun.step { station := station }).station.app.db ↔
      ∀ row ∈ (steps.foldl StationRun.step { station := station }).station.app.db.commands,
        ¬ Interrupted stationId row := by
  have hinitial : StationRun.NonePending { station := station } := by
    intro row hrow
    rw [hempty] at hrow
    exact absurd hrow List.not_mem_nil
  have hnone : (steps.foldl StationRun.step { station := station }).NonePending :=
    invariant_of_along (fun _ _ hnone hhappens => hnone.step hhappens) hinitial hhappens
  exact NonePending.leavesNoneBehind_iff hnone env stationId

/-- The message is delivered and handled. -/
def handled : List StationStep :=
  [.deliver (numberedEnv 0) resetMessage, goesOn 0, goesOn 0, goesOn 0, goesOn 0]

theorem recovery_complete_handled :
    (handled.foldl StationRun.step { station := connectedStation }).station.app.db.commands.map
        (·.status) = [.QUEUED] ∧
      LeavesNoneBehind (numberedEnv 9) "S1"
        (handled.foldl StationRun.step { station := connectedStation }).station.app.db := by
  refine ⟨by decide +kernel, ?_⟩
  have hhappens : Along StationRun.step (fun run step => step.Happens run)
      { station := connectedStation } handled :=
    ⟨trivial, trivial, trivial, trivial, trivial, trivial⟩
  exact (recovery_complete_iff connectedStation rfl handled hhappens (numberedEnv 9) "S1").mpr
    (by decide +kernel)

/-- A LAB command that was submitted before the restart stays queued. -/
theorem recovery_not_complete :
    ¬ ∀ (station : Station), station.app.db.commands = [] → ∀ (steps : List StationStep),
      Along StationRun.step (fun run step => step.Happens run) { station := station } steps →
        ∀ (env : Env) (stationId : String), LeavesNoneBehind env stationId
          (steps.foldl StationRun.step { station := station }).station.app.db := by
  intro hall
  have hleaves := hall connectedStation rfl
    [.labSubmit (numberedEnv 1) none "pump-1" none resetRequest] ⟨trivial, trivial⟩
    (numberedEnv 2) "S1"
  generalize hdb : (List.foldl StationRun.step { station := connectedStation }
    [.labSubmit (numberedEnv 1) none "pump-1" none resetRequest]).station.app.db = db at hleaves
  obtain ⟨close, hmap, hrows⟩ := hleaves.closes
  have hinterrupted : ∃ row ∈ db.commands, Interrupted "S1" row := by
    rw [← hdb]
    decide +kernel
  have hstatus : ∀ row ∈ recoveredCommands (numberedEnv 2) "S1" db, row.status = .QUEUED := by
    rw [← hdb]
    decide +kernel
  obtain ⟨row, hrow, hopen⟩ := hinterrupted
  have hclosed := ((hrows row hrow).1 hopen).status
  rw [hstatus (close row) (hmap ▸ List.mem_map_of_mem hrow)] at hclosed
  revert hclosed
  decide

end Cloud
end Intelipump
