import Mathlib.Tactic.Common
import Intelipump.Services.BridgeSteps
import Intelipump.Services.RecoveryService

namespace Intelipump
namespace Services

open Dart.Line
open Domain
open Foundation.StateEffect
open Persistence
open PersistenceBridge
open PumpStateService

/-!
# Communication events and the latest snapshot

A communication event rebuilds the latest snapshot of its pump from the state
alone.  What it makes of the other columns is said once on their frame
(`heard`), and followed through runs of events and through recovery.  Outside of the frame
are the health, the version and the times only.
-/

/-- All columns of a snapshot but its health, its version and its time. -/
structure SnapshotFrame where
  normalizedState : String
  previousState : Option String := none
  activeTransactionId : Option String := none
  selectedNozzle : Option Nat := none
  rawWayneStatus : Option Byte := none
  sourceFrameRef : Option String := none
deriving DecidableEq, Repr

def frameOf (row : PumpStateSnapshotRow) : SnapshotFrame where
  normalizedState := row.normalizedState
  previousState := row.previousState
  activeTransactionId := row.activeTransactionId
  selectedNozzle := row.selectedNozzle
  rawWayneStatus := row.rawWayneStatus
  sourceFrameRef := row.sourceFrameRef

/-- The frame of the latest snapshot of a pump. -/
def latestFrame (pumpDb : String) (db : Database) : Option SnapshotFrame :=
  (StateRepository.latest pumpDb db.states).map frameOf

/-- Only the state is left. -/
def SnapshotFrame.bare (frame : SnapshotFrame) : SnapshotFrame where
  normalizedState := frame.normalizedState

/-- What a communication event makes of the frame of its pump: a text that names no
state raises, and the event is rolled back. -/
def heard : Option SnapshotFrame → Option SnapshotFrame
  | none => some { normalizedState := PumpState.DISCONNECTED.value }
  | some frame =>
      if PumpState.ofValue? frame.normalizedState = none then some frame else some frame.bare

theorem heard_unnamed {frame : SnapshotFrame}
    (hunnamed : PumpState.ofValue? frame.normalizedState = none) :
    heard (some frame) = some frame := if_pos hunnamed

theorem heard_named {frame : SnapshotFrame}
    (hnamed : PumpState.ofValue? frame.normalizedState ≠ none) :
    heard (some frame) = some frame.bare := if_neg hnamed

/-- A second event makes nothing more of it. -/
theorem heard_heard (frame : Option SnapshotFrame) : heard (heard frame) = heard frame := by
  cases frame with
  | none => decide
  | some frame =>
      by_cases hunnamed : PumpState.ofValue? frame.normalizedState = none
      · rw [heard_unnamed hunnamed, heard_unnamed hunnamed]
      · rw [heard_named hunnamed]
        exact heard_named hunnamed

/-- The snapshot says nothing beside its state, or names no state at all. -/
def SaysStateOnly (row : PumpStateSnapshotRow) : Prop :=
  (row.previousState = none ∧ row.activeTransactionId = none ∧ row.selectedNozzle = none ∧
      row.rawWayneStatus = none ∧ row.sourceFrameRef = none) ∨
    PumpState.ofValue? row.normalizedState = none

instance (row : PumpStateSnapshotRow) : Decidable (SaysStateOnly row) :=
  inferInstanceAs (Decidable ((_ ∧ _ ∧ _ ∧ _ ∧ _) ∨ _))

theorem heard_eq_self_iff (row : PumpStateSnapshotRow) :
    heard (some (frameOf row)) = some (frameOf row) ↔ SaysStateOnly row := by
  by_cases hunnamed : PumpState.ofValue? row.normalizedState = none
  · exact iff_of_true (heard_unnamed hunnamed) (Or.inr hunnamed)
  · rw [heard_named hunnamed, Option.some_inj]
    unfold SaysStateOnly SnapshotFrame.bare frameOf
    rw [SnapshotFrame.mk.injEq, or_iff_left hunnamed]
    constructor
    · rintro ⟨-, hprevious, htransaction, hnozzle, hraw, hframe⟩
      exact ⟨hprevious.symm, htransaction.symm, hnozzle.symm, hraw.symm, hframe.symm⟩
    · rintro ⟨hprevious, htransaction, hnozzle, hraw, hframe⟩
      exact ⟨rfl, hprevious.symm, htransaction.symm, hnozzle.symm, hraw.symm, hframe.symm⟩

/-! ## Runs of events -/

/-- A communication event with what its unit of work draws. -/
structure CommStep where
  env : Env
  type : CommType
  address : Byte

def CommStep.run (bridge : PersistenceBridge) (process : Process) (step : CommStep) : Process :=
  bridge.handleComm step.env step.type step.address process

/-- The process after communication events one after another. -/
def runComm (bridge : PersistenceBridge) (process : Process) (steps : List CommStep) : Process :=
  steps.foldl (CommStep.run bridge) process

section

variable {bridge : PersistenceBridge} {pumpDb : String} {process : Process}

/-- The event of another pump leaves the latest snapshot. -/
theorem latest_persisted_other {env : Env} {otherDb : String} {db : Database}
    (context : StateMachine.PumpContext) (hother : otherDb ≠ pumpDb) :
    StateRepository.latest pumpDb (persisted env otherDb context none db).states =
      StateRepository.latest pumpDb db.states := by
  unfold persisted
  dsimp only
  split
  · rfl
  · dsimp only
    rw [StateRepository.latest_concat]
    exact if_neg hother

theorem latestFrame_handleComm (step : CommStep) :
    latestFrame pumpDb (step.run bridge process).db =
      if bridge.pumpDb step.address = some pumpDb then heard (latestFrame pumpDb process.db)
      else latestFrame pumpDb process.db := by
  unfold CommStep.run handleComm commit latestFrame
  dsimp only
  cases hpump : bridge.pumpDb step.address with
  | none =>
      rw [commUnit_unknown hpump, if_neg (Option.some_ne_none pumpDb).symm]
      rfl
  | some otherDb =>
      rw [commUnit_known hpump]
      by_cases hsame : otherDb = pumpDb
      · subst hsame
        rw [if_pos rfl]
        cases hlatest : StateRepository.latest otherDb process.db.states with
        | none =>
            rw [commContext_of_none]
            dsimp only
            rw [latest_persisted_next (by rw [← hlatest]; rfl)]
            rfl
        | some last =>
            cases hstate : PumpState.ofValue? last.normalizedState with
            | none =>
                rw [commContext_of_unknown _ _ _ hstate]
                dsimp only
                rw [hlatest]
                exact (heard_unnamed hstate).symm
            | some state =>
                have hnamed : PumpState.ofValue? (frameOf last).normalizedState ≠ none := by
                  change PumpState.ofValue? last.normalizedState ≠ none
                  rw [hstate]
                  exact Option.some_ne_none state
                rw [commContext_of_state _ _ _ hstate, Option.map_some, heard_named hnamed]
                dsimp only
                rw [latest_persisted_next (by rw [← hlatest]; rfl)]
                have hvalue := PumpState.value_of_ofValue? hstate
                unfold SnapshotFrame.bare frameOf
                rw [← hvalue]
                rfl
      · rw [if_neg fun h => hsame (Option.some.inj h)]
        cases bridge.commContext step.type step.address
            (StateRepository.latest otherDb process.db.states) with
        | error error => rfl
        | ok context =>
            dsimp only
            rw [latest_persisted_other context hsame]
            rfl

/-- Every event after the first one of a pump leaves its frame. -/
theorem latestFrame_runComm (steps : List CommStep) :
    latestFrame pumpDb (runComm bridge process steps).db =
      if ∃ step ∈ steps, bridge.pumpDb step.address = some pumpDb then
        heard (latestFrame pumpDb process.db)
      else latestFrame pumpDb process.db := by
  induction steps generalizing process with
  | nil => rfl
  | cons step rest ih =>
      unfold runComm at ih ⊢
      rw [List.foldl_cons, ih, latestFrame_handleComm]
      simp only [List.exists_mem_cons_iff]
      by_cases hfirst : bridge.pumpDb step.address = some pumpDb
      · rw [if_pos hfirst, if_pos (Or.inl hfirst), heard_heard, ite_self]
      · rw [if_neg hfirst]
        simp only [hfirst, false_or]

theorem pumps_runComm (steps : List CommStep) :
    (runComm bridge process steps).db.pumps = process.db.pumps := by
  induction steps generalizing process with
  | nil => rfl
  | cons step rest ih =>
      unfold runComm at ih ⊢
      rw [List.foldl_cons, ih]
      exact (noted_handleComm bridge step.env step.type step.address process).pumps

end

/-! ## Recovery -/

/-- The active transaction and the nozzle that a recovery finds for each pump. -/
def recoveredSales (env : Env) (stationId : String) (db : Database) :
    Option (List (String × Option String × Option Nat)) :=
  (returned (RecoveryService.recover env stationId) db).map fun report =>
    report.pumpContexts.map fun (name, context) =>
      (name, context.activeTransactionId, context.selectedNozzle)

/-- A recovery reads them off the frames. -/
theorem recoveredSales_eq (env : Env) (stationId : String) (db : Database) :
    recoveredSales env stationId db =
      some ((PumpRepository.listForStation stationId db).map fun pump =>
        (pump.logicalPumpId, (latestFrame pump.id db).bind (·.activeTransactionId),
          (latestFrame pump.id db).bind (·.selectedNozzle))) := by
  obtain ⟨report, hran, hcontexts⟩ := RecoveryService.recover_eq env stationId db
  unfold recoveredSales returned latestFrame
  rw [hran]
  dsimp only
  rw [Option.map_some, hcontexts, List.map_map]
  refine congrArg some (List.map_congr_left fun pump _ => ?_)
  dsimp only [Function.comp]
  cases StateRepository.latest pump.id db.states with
  | none => rfl
  | some last => rfl

/-- Between two databases only the health of the pumps changed: the latest snapshots
have the same frames, and a recovery finds the same sales. -/
structure HealthOnly (before after : Database) : Prop where
  frames : ∀ pumpDb, ∀ last ∈ StateRepository.latest pumpDb before.states,
    latestFrame pumpDb after = some (frameOf last)
  recovered : ∀ env stationId,
    recoveredSales env stationId after = recoveredSales env stationId before

/-- Communication events change only the health exactly when the latest snapshots of
their pumps say nothing beside the state. -/
theorem health_only_iff (bridge : PersistenceBridge) (process : Process)
    (steps : List CommStep) :
    HealthOnly process.db (runComm bridge process steps).db ↔
      ∀ step ∈ steps, ∀ pumpDb ∈ bridge.pumpDb step.address,
        ∀ last ∈ StateRepository.latest pumpDb process.db.states, SaysStateOnly last := by
  constructor
  · intro hkept step hstep pumpDb hpump last hlast
    have hframe := hkept.frames pumpDb last hlast
    have hbefore : latestFrame pumpDb process.db = some (frameOf last) := by
      unfold latestFrame
      rw [hlast]
      rfl
    rw [latestFrame_runComm, if_pos ⟨step, hstep, hpump⟩, hbefore] at hframe
    exact (heard_eq_self_iff last).mp hframe
  · intro hbare
    have hframes : ∀ pumpDb, ∀ last ∈ StateRepository.latest pumpDb process.db.states,
        latestFrame pumpDb (runComm bridge process steps).db = some (frameOf last) := by
      intro pumpDb last hlast
      have hbefore : latestFrame pumpDb process.db = some (frameOf last) := by
        unfold latestFrame
        rw [hlast]
        rfl
      rw [latestFrame_runComm, hbefore]
      split
      · rename_i hheard
        obtain ⟨step, hstep, hpump⟩ := hheard
        exact (heard_eq_self_iff last).mpr (hbare step hstep pumpDb hpump last hlast)
      · rfl
    refine ⟨hframes, fun env stationId => ?_⟩
    rw [recoveredSales_eq, recoveredSales_eq]
    have hpumps : PumpRepository.listForStation stationId (runComm bridge process steps).db =
        PumpRepository.listForStation stationId process.db := by
      unfold PumpRepository.listForStation
      rw [pumps_runComm]
    rw [hpumps]
    refine congrArg some (List.map_congr_left fun pump _ => ?_)
    cases hlatest : StateRepository.latest pump.id process.db.states with
    | some last =>
        have hbefore : latestFrame pump.id process.db = some (frameOf last) := by
          unfold latestFrame
          rw [hlatest]
          rfl
        rw [hframes pump.id last hlatest, hbefore]
    | none =>
        -- a first snapshot has no sale either
        have hbefore : latestFrame pump.id process.db = none := by
          unfold latestFrame
          rw [hlatest]
          rfl
        rw [latestFrame_runComm, hbefore]
        split <;> rfl

/-- A pump that is delivering at nozzle 1. -/
def deliveringPump : Process where
  db := { states := [⟨"db-1", "FILLING", some "AUTHORIZED", some 1, none, true, some 0x04, none,
    6, 0⟩] }

/-- The pump is lost while it is delivering. -/
theorem health_not_only :
    ¬ ∀ (bridge : PersistenceBridge) (process : Process) (steps : List CommStep),
      HealthOnly process.db (runComm bridge process steps).db := by
  intro hall
  have hkept := hall onePump deliveringPump [⟨numberedEnv 1, .PUMP_DISCONNECTED, 0x01⟩]
  have hframe := hkept.frames "db-1" _ rfl
  revert hframe
  decide +kernel

end Services
end Intelipump
