import Mathlib.Tactic.Common
import Intelipump.Simulator.PumpTurns

namespace Intelipump
namespace Simulator

open Domain
open Dart.Line
open Foundation.Runs
open Foundation.StateEffect
open SimulatedPump

/-!
# Fuel and the nozzle

The filling engine does not read `nozzle_out`.  Only an authorization switches it on, and
only two operations put the nozzle back: as long as the first meets a lifted nozzle and the
others meet an engine that is off, the engine never runs with a holstered nozzle.
-/

/-- The engine is on with a lifted nozzle only. -/
def EngineLifted (pump : SimulatedPump) : Prop :=
  pump.fillingActive = true → pump.nozzleOut = true

/-- The nozzle is put back while the engine is off, and an executed authorization finds it
lifted. -/
def HolstersStopped (pump : SimulatedPump) (turn : PumpTurn) : Prop :=
  match turn.deed pump with
  | .returns | .coldStarts => pump.fillingActive = false
  | .authorizes => pump.nozzleOut = true
  | _ => True

instance (pump : SimulatedPump) (turn : PumpTurn) : Decidable (HolstersStopped pump turn) := by
  unfold HolstersStopped
  split <;> infer_instance

/-- A time advance adds no volume while the nozzle is holstered. -/
def NoFlowHolstered (pump : SimulatedPump) (turn : PumpTurn) : Prop :=
  turn.input = .onTimeAdvance → pump.nozzleOut = false →
    (pump.turn turn).volumeRaw ≤ pump.volumeRaw

instance (pump : SimulatedPump) (turn : PumpTurn) : Decidable (NoFlowHolstered pump turn) :=
  inferInstanceAs (Decidable (_ → _ → _))

section

variable {before after : SimulatedPump}

/-- The nozzle stays where it is and the engine is not switched on. -/
theorem EngineLifted.of_kept (hlifted : EngineLifted before)
    (hout : after.nozzleOut = before.nozzleOut)
    (hstopped : after.fillingActive = true → before.fillingActive = true) :
    EngineLifted after :=
  fun hfilling => hout.trans (hlifted (hstopped hfilling))

theorem engineLifted_of_stopped (hstopped : after.fillingActive = false) :
    EngineLifted after :=
  fun hfilling => absurd (hstopped.symm.trans hfilling) Bool.false_ne_true

theorem Holstered.engineLifted_iff (hholstered : Holstered before after) :
    EngineLifted after ↔ before.fillingActive = false := by
  have hout : after.nozzleOut = false := congrArg PumpFields.nozzleOut hholstered.fields
  unfold EngineLifted
  rw [hholstered.filling, hout]
  exact ⟨fun h => Bool.eq_false_iff.mpr fun hfilling => Bool.false_ne_true (h hfilling),
    fun hstopped hfilling => hstopped.symm.trans hfilling⟩

end

/-- One turn. -/
theorem engineLifted_turn_iff {pump : SimulatedPump} (hlifted : EngineLifted pump)
    (turn : PumpTurn) : EngineLifted (pump.turn turn) ↔ HolstersStopped pump turn := by
  have hdone := deedDone_turn turn pump
  unfold HolstersStopped
  generalize hdeed : turn.deed pump = deed at hdone ⊢
  cases hdone with
  | keeps hkept =>
      exact iff_of_true (hlifted.of_kept (congrArg PumpFields.nozzleOut hkept.fields)
        hkept.engine.stopped) trivial
  | authorizes hopened =>
      have hout : (pump.turn turn).nozzleOut = pump.nozzleOut :=
        congrArg PumpFields.nozzleOut hopened.fields
      exact ⟨fun h => hout.symm.trans (h hopened.filling), fun h _ => hout.trans h⟩
  | presetsVolume volumeRaw hpreset =>
      exact iff_of_true (hlifted.of_kept (congrArg PumpFields.nozzleOut hpreset.fields)
        hpreset.engine.stopped) trivial
  | presetsAmount amountRaw hpreset =>
      exact iff_of_true (hlifted.of_kept (congrArg PumpFields.nozzleOut hpreset.fields)
        hpreset.engine.stopped) trivial
  | setsPrices hprices =>
      exact iff_of_true (hlifted.of_kept (congrArg PumpFields.nozzleOut hprices.fields)
        hprices.engine.stopped) trivial
  | stops hstopped =>
      exact iff_of_true (engineLifted_of_stopped hstopped.stopped) trivial
  | resets hreset =>
      exact iff_of_true (engineLifted_of_stopped hreset.stopped) trivial
  | restarts preserveTotals hrestarted =>
      exact iff_of_true (engineLifted_of_stopped hrestarted.stopped) trivial
  | lifts nozzle hup =>
      exact iff_of_true (fun _ => congrArg PumpFields.nozzleOut hup.fields) trivial
  | returns hholstered =>
      exact hholstered.engineLifted_iff
  | coldStarts hholstered =>
      exact hholstered.engineLifted_iff
  | advances hfills =>
      obtain ⟨hfields, hengine⟩ := hfills.kept
      exact iff_of_true (hlifted.of_kept (congrArg PumpFields.nozzleOut hfields)
        hengine.stopped) trivial

/-- The engine runs with a lifted nozzle all along a run exactly when every turn of it
meets the condition. -/
theorem engineLifted_iff (config : PumpConfig) (turns : List PumpTurn) :
    (∀ earlier, earlier <+: turns → EngineLifted ((create config).turns earlier)) ↔
      Along turn HolstersStopped (create config) turns := by
  have hstep : ∀ (pump : SimulatedPump) (turn : PumpTurn), EngineLifted pump →
      (EngineLifted (pump.turn turn) ↔ HolstersStopped pump turn) :=
    fun _ turn hlifted => engineLifted_turn_iff hlifted turn
  exact forall_prefix_iff_along hstep (engineLifted_of_stopped rfl)

/-- A pump whose engine is off adds no volume. -/
theorem noFlow_of_engineLifted {pump : SimulatedPump} (hlifted : EngineLifted pump)
    (turn : PumpTurn) : NoFlowHolstered pump turn := by
  intro hinput hholstered
  obtain ⟨env, input⟩ := turn
  cases hinput
  have hfills : Fills pump (pump.dueIntervals env) (pump.turn ⟨env, .onTimeAdvance⟩) :=
    fills_onTimeAdvance env pump
  have hnone : pump.dueIntervals env = 0 := by
    by_contra hdue
    have hfilling := (due_running env pump (Nat.pos_of_ne_zero hdue)).1
    exact Bool.false_ne_true (hholstered.symm.trans (hlifted hfilling))
  cases hfills with
  | waits _ hkept _ => exact (congrArg PumpFields.volumeRaw hkept.fields).le
  | fills taken hpositive hle => omega
  | completes taken hpositive hle => omega

/-- No fuel flows with the nozzle in its holster, in every run that puts the nozzle back
while the engine is off and authorizes while it is lifted. -/
theorem noFlow_holstered (config : PumpConfig) (turns : List PumpTurn)
    (hholsters : Along turn HolstersStopped (create config) turns) :
    Along turn NoFlowHolstered (create config) turns := by
  have hstep : ∀ (pump : SimulatedPump) (turn : PumpTurn), EngineLifted pump →
      HolstersStopped pump turn → NoFlowHolstered pump turn ∧ EngineLifted (pump.turn turn) :=
    fun _ turn hlifted hcondition => ⟨noFlow_of_engineLifted hlifted turn,
      (engineLifted_turn_iff hlifted turn).mpr hcondition⟩
  exact along_of_invariant hstep (engineLifted_of_stopped rfl) hholsters

/-- A delivery that is stopped before its nozzle is returned. -/
theorem noFlow_holstered_stopped :
    Along turn NoFlowHolstered (create { pumpId := "fp-1", dartAddress := 1 }) [
      ⟨⟨0, ""⟩, .coldStartToReady⟩, ⟨⟨0, ""⟩, .liftNozzle 1⟩,
      ⟨⟨0, "tx-1"⟩, .unit 0x01 [0x06]⟩, ⟨⟨400, ""⟩, .onTimeAdvance⟩,
      ⟨⟨400, ""⟩, .unit 0x01 [0x08]⟩, ⟨⟨400, ""⟩, .returnNozzle⟩,
      ⟨⟨900, ""⟩, .onTimeAdvance⟩] :=
  noFlow_holstered { pumpId := "fp-1", dartAddress := 1 } _ (by decide +kernel)

/-- A nozzle returned in FILLING does not stop the engine, and the next time advance adds
volume. -/
theorem flow_after_returnNozzle :
    ((create { pumpId := "fp-1", dartAddress := 1 }).turns [
        ⟨⟨0, ""⟩, .coldStartToReady⟩, ⟨⟨0, ""⟩, .liftNozzle 1⟩,
        ⟨⟨0, "tx-1"⟩, .unit 0x01 [0x06]⟩, ⟨⟨0, ""⟩, .returnNozzle⟩]).nozzleOut = false ∧
      ¬ Along turn NoFlowHolstered (create { pumpId := "fp-1", dartAddress := 1 }) [
        ⟨⟨0, ""⟩, .coldStartToReady⟩, ⟨⟨0, ""⟩, .liftNozzle 1⟩,
        ⟨⟨0, "tx-1"⟩, .unit 0x01 [0x06]⟩, ⟨⟨0, ""⟩, .returnNozzle⟩,
        ⟨⟨200, ""⟩, .onTimeAdvance⟩] :=
  ⟨by decide +kernel, by decide +kernel⟩

end Simulator
end Intelipump
