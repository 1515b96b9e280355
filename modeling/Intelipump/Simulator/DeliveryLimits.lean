import Mathlib.Tactic.Common
import Intelipump.Simulator.PumpTurns

namespace Intelipump
namespace Simulator

open Domain
open Dart.Line
open Foundation
open Foundation.Runs
open Foundation.StateEffect
open StateMachine
open SimulatedPump

/-!
# The limits of a delivery

While a delivery runs its numbers grow and stay within the volume limit and the amount
preset, and the interval that reaches one of them ends it.  A time advance can break this in
three ways: the price of the nozzle now selected is below the one the amount was made of, the
amount preset is the configured one, which the intervals do not read, or a report does not
fit and the interval raises.
-/

/-- The amount at which a delivery ends: the preset of the controller, or the configured
one. -/
def SimulatedPump.amountLimit (pump : SimulatedPump) : Option Nat :=
  pump.presetAmountRaw.or pump.config.filling.presetAmountRaw

/-- The pump after some of the due intervals of a time advance. -/
def afterIntervals (env : PumpEnv) (pump : SimulatedPump) (taken : Nat) : SimulatedPump :=
  finalState (fillIntervals taken) (pump.ticked (pump.nextTick env))

/-- What a turn on a running delivery keeps. -/
structure KeepsLimits (pump : SimulatedPump) (turn : PumpTurn) : Prop where
  /-- Only a restart, which abandons the delivery, takes anything back. -/
  monotone : (∃ preserveTotals, turn.input = .restartPump preserveTotals) ∨
    pump.volumeRaw ≤ (pump.turn turn).volumeRaw ∧ pump.amountRaw ≤ (pump.turn turn).amountRaw
  volume_le : (pump.turn turn).volumeRaw ≤ pump.limitVolume
  amount_le : ∀ limit ∈ pump.amountLimit, (pump.turn turn).amountRaw ≤ limit
  /-- An interval after which the delivery runs on has reached neither limit. -/
  ends : turn.input = .onTimeAdvance → ∀ taken ≤ pump.dueIntervals turn.env, 0 < taken →
    (afterIntervals turn.env pump taken).fillingActive = true →
    (afterIntervals turn.env pump taken).volumeRaw < pump.limitVolume ∧
      ∀ limit ∈ pump.amountLimit, (afterIntervals turn.env pump taken).amountRaw < limit

/-- A turn that finds a running delivery keeps its limits. -/
def RespectsLimits (pump : SimulatedPump) (turn : PumpTurn) : Prop :=
  pump.fillingActive = true → KeepsLimits pump turn

/-- The configured amount preset is not reached, where no preset of the controller replaces
it. -/
def BelowConfigured (pump : SimulatedPump) (steps : Nat) : Prop :=
  pump.presetAmountRaw = none → ∀ limit ∈ pump.config.filling.presetAmountRaw,
    pump.amountFromVolume (pump.plan.volumeAfter pump.volumeRaw steps) < limit

instance (pump : SimulatedPump) (steps : Nat) : Decidable (BelowConfigured pump steps) :=
  inferInstanceAs (Decidable (_ → ∀ limit ∈ pump.config.filling.presetAmountRaw, _))

/-- A time advance with due intervals finds an amount that is not above what the selected
price makes of the volume, stays below a configured amount preset that no preset of the
controller replaces, and reports what fits. -/
def FillsWithin (pump : SimulatedPump) (turn : PumpTurn) : Prop :=
  turn.input = .onTimeAdvance → 0 < pump.dueIntervals turn.env →
    pump.amountRaw ≤ pump.amountFromVolume pump.volumeRaw ∧
      BelowConfigured pump (pump.dueIntervals turn.env) ∧
      ReportsFit pump (pump.dueIntervals turn.env)

instance (pump : SimulatedPump) (turn : PumpTurn) : Decidable (FillsWithin pump turn) :=
  inferInstanceAs (Decidable (_ → _ → _))

/-! ## Turns on a running delivery -/

/-- The delivery and its limits are as before. -/
structure SameDelivery (before after : SimulatedPump) : Prop where
  volumeRaw : after.volumeRaw = before.volumeRaw
  amountRaw : after.amountRaw = before.amountRaw
  limitVolume : after.limitVolume = before.limitVolume
  amountLimit : after.amountLimit = before.amountLimit

section

variable {before after : SimulatedPump}

theorem limits_of_fields {fields : PumpFields} (hfields : after.fields = fields)
    (hconfig : fields.config = before.config)
    (hvolume : fields.presetVolumeRaw = before.presetVolumeRaw)
    (hamount : fields.presetAmountRaw = before.presetAmountRaw) :
    after.limitVolume = before.limitVolume ∧ after.amountLimit = before.amountLimit := by
  have hconfig' : after.config = before.config :=
    (congrArg PumpFields.config hfields).trans hconfig
  have hvolume' : after.presetVolumeRaw = before.presetVolumeRaw :=
    (congrArg PumpFields.presetVolumeRaw hfields).trans hvolume
  have hamount' : after.presetAmountRaw = before.presetAmountRaw :=
    (congrArg PumpFields.presetAmountRaw hfields).trans hamount
  unfold SimulatedPump.limitVolume amountLimit
  rw [hconfig', hvolume', hamount']
  exact ⟨rfl, rfl⟩

/-- Fields that are as before, but for the nozzle, the prices and the totals. -/
theorem sameDelivery_of_fields {fields : PumpFields} (hfields : after.fields = fields)
    (hconfig : fields.config = before.config)
    (hvolume : fields.presetVolumeRaw = before.presetVolumeRaw)
    (hamount : fields.presetAmountRaw = before.presetAmountRaw)
    (hvolumeRaw : fields.volumeRaw = before.volumeRaw)
    (hamountRaw : fields.amountRaw = before.amountRaw) : SameDelivery before after := by
  obtain ⟨hlimit, hlimit'⟩ := limits_of_fields hfields hconfig hvolume hamount
  exact ⟨(congrArg PumpFields.volumeRaw hfields).trans hvolumeRaw,
    (congrArg PumpFields.amountRaw hfields).trans hamountRaw, hlimit, hlimit'⟩

end

/-- What a turn does, as seen from a delivery. -/
inductive DeliveryTurn (pump : SimulatedPump) (turn : PumpTurn) : Prop where
  | keeps (hsame : SameDelivery pump (pump.turn turn))
      (hstopped : (pump.turn turn).fillingActive = true → pump.fillingActive = true)
  | opens (hidle : pump.fillingActive = false)
      (hnothing : (pump.turn turn).fillingActive = true →
        (pump.turn turn).volumeRaw = 0 ∧ (pump.turn turn).amountRaw = 0)
  | restarts (hinput : ∃ preserveTotals, turn.input = .restartPump preserveTotals)
      (hnothing : (pump.turn turn).volumeRaw = 0 ∧ (pump.turn turn).amountRaw = 0)
      (hstopped : (pump.turn turn).fillingActive = false)
  | advances (hinput : turn.input = .onTimeAdvance)
      (hfills : Fills pump (pump.dueIntervals turn.env) (pump.turn turn))

theorem delivery_turn {pump : SimulatedPump} (hruns : EngineRuns pump) (turn : PumpTurn) :
    DeliveryTurn pump turn := by
  have hdone := deedDone_turn turn pump
  -- what is written outside a running delivery leaves the engine off
  have hidle : ∀ {P : Prop}, pump.fillingActive = false →
      ((pump.turn turn).fillingActive = true → pump.fillingActive = true) →
      (pump.turn turn).fillingActive = true → P :=
    fun hoff hstopped hfilling => absurd (hoff.symm.trans (hstopped hfilling))
      Bool.false_ne_true
  generalize hdeed : turn.deed pump = deed at hdone
  cases hdone with
  | keeps hkept =>
      exact .keeps (sameDelivery_of_fields hkept.fields rfl rfl rfl rfl rfl)
        hkept.engine.stopped
  | authorizes hopened =>
      refine .opens (hruns.idle ?_) fun _ => ⟨congrArg PumpFields.volumeRaw hopened.fields,
        congrArg PumpFields.amountRaw hopened.fields⟩
      rw [hopened.nozzleUp]
      exact DeliveryPhase.noConfusion
  | presetsVolume volumeRaw hpreset =>
      exact .opens (idle_of_preset hruns hpreset.state)
        (hidle (idle_of_preset hruns hpreset.state) hpreset.engine.stopped)
  | presetsAmount amountRaw hpreset =>
      exact .opens (idle_of_preset hruns hpreset.state)
        (hidle (idle_of_preset hruns hpreset.state) hpreset.engine.stopped)
  | setsPrices hprices =>
      exact .keeps (sameDelivery_of_fields hprices.fields rfl rfl rfl rfl rfl)
        hprices.engine.stopped
  | stops hstopped =>
      exact .keeps (sameDelivery_of_fields hstopped.fields rfl rfl rfl rfl rfl)
        fun hfilling => absurd (hstopped.stopped.symm.trans hfilling) Bool.false_ne_true
  | resets hreset =>
      refine .opens (hruns.idle ?_) fun hfilling =>
        absurd (hreset.stopped.symm.trans hfilling) Bool.false_ne_true
      have hstate := hreset.state
      revert hstate
      cases pump.normalizedState <;> decide
  | restarts preserveTotals hrestarted =>
      exact .restarts ⟨preserveTotals, input_of_restarts hdeed⟩
        ⟨congrArg PumpFields.volumeRaw hrestarted.fields,
          congrArg PumpFields.amountRaw hrestarted.fields⟩ hrestarted.stopped
  | lifts nozzle hlifted =>
      exact .keeps (sameDelivery_of_fields hlifted.fields rfl rfl rfl rfl rfl)
        fun hfilling => hlifted.filling ▸ hfilling
  | returns hholstered =>
      exact .keeps (sameDelivery_of_fields hholstered.fields rfl rfl rfl rfl rfl)
        hholstered.engine.stopped
  | coldStarts hholstered =>
      exact .keeps (sameDelivery_of_fields hholstered.fields rfl rfl rfl rfl rfl)
        hholstered.engine.stopped
  | advances hfills =>
      exact .advances (input_of_advances hdeed) hfills

/-! ## Time advances -/

section

variable {pump after : SimulatedPump} {steps : Nat}

/-- What the plan charges is within the amount limit, and below it while the plan is not
reached. -/
theorem charged_within {taken : Nat} (hbelow : BelowConfigured pump steps)
    (hle : taken ≤ steps) {limit : Nat} (hlimit : limit ∈ pump.amountLimit) :
    pump.plan.charged (pump.plan.volumeAfter pump.volumeRaw taken) ≤ limit ∧
      (¬ pump.plan.Reached (pump.plan.volumeAfter pump.volumeRaw taken) →
        pump.plan.charged (pump.plan.volumeAfter pump.volumeRaw taken) < limit) := by
  unfold amountLimit at hlimit
  cases hpreset : pump.presetAmountRaw with
  | some cap =>
      rw [hpreset] at hlimit
      cases hlimit
      refine ⟨FillPlan.charged_le_cap hpreset, fun hopen => ?_⟩
      obtain ⟨hcharged, hcap⟩ := FillPlan.charged_of_not_reached hopen
      rw [hcharged]
      exact hcap _ hpreset
  | none =>
      rw [hpreset, Option.none_or] at hlimit
      have hless : pump.plan.charged (pump.plan.volumeAfter pump.volumeRaw taken) < limit :=
        calc pump.plan.charged (pump.plan.volumeAfter pump.volumeRaw taken)
            ≤ pump.plan.amountOf (pump.plan.volumeAfter pump.volumeRaw taken) :=
              FillPlan.charged_le_amountOf
          _ ≤ pump.plan.amountOf (pump.plan.volumeAfter pump.volumeRaw steps) :=
              pump.plan.monotone (FillPlan.volumeAfter_mono hle)
          _ < limit := hbelow hpreset limit hlimit
      exact ⟨hless.le, fun _ => hless⟩

/-- An interval after which the delivery runs on has reached neither limit. -/
theorem afterIntervals_open {env : PumpEnv} {taken : Nat}
    (hfilling : pump.fillingActive = true) (hsuspended : pump.suspended = false)
    (hbelow : BelowConfigured pump steps) (hfits : ReportsFit pump steps)
    (hle : taken ≤ steps) (hpositive : 0 < taken)
    (hactive : (afterIntervals env pump taken).fillingActive = true) :
    (afterIntervals env pump taken).volumeRaw < pump.limitVolume ∧
      ∀ limit ∈ pump.amountLimit, (afterIntervals env pump taken).amountRaw < limit := by
  have hticked : (pump.ticked (pump.nextTick env)).fillingActive = true := hfilling
  have hfills : Fills pump taken (afterIntervals env pump taken) :=
    .of_ticked (engineKept_ticked env pump) (fills_fillIntervals hticked hsuspended taken)
  cases hfills with
  | waits hsteps _ _ => exact absurd hsteps (Nat.ne_of_gt hpositive)
  | completes _ _ _ _ _ _ hstopped _ =>
      exact absurd (hstopped.symm.trans hactive) Bool.false_ne_true
  | fills last hfirst hlast hopen hreports hfields _ _ =>
      -- every report fits, so all the intervals were taken and the plan is open
      have hreport := hfits last (hlast.trans hle) hfirst hopen
      obtain ⟨rfl, hnot⟩ := hreports.resolve_right fun h => h hreport
      have hvolume := congrArg PumpFields.volumeRaw hfields
      have hamount := congrArg PumpFields.amountRaw hfields
      change (afterIntervals env pump last).volumeRaw = _ at hvolume
      change (afterIntervals env pump last).amountRaw = _ at hamount
      rw [hvolume, hamount]
      exact ⟨FillPlan.lt_limit_of_not_reached hnot, fun limit hlimit =>
        (charged_within hbelow hle hlimit).2 hnot⟩

end

/-! ## Runs -/

/-- A running delivery is within its limits. -/
structure Within (pump : SimulatedPump) : Prop where
  runs : EngineRuns pump
  volume_le : pump.fillingActive = true → pump.volumeRaw ≤ pump.limitVolume
  amount_le : pump.fillingActive = true → ∀ limit ∈ pump.amountLimit, pump.amountRaw ≤ limit

/-- A turn that does not advance the time keeps the delivery, or there is none. -/
theorem respectsLimits_other {pump : SimulatedPump} (hwithin : Within pump) {turn : PumpTurn}
    (hother : turn.input ≠ .onTimeAdvance) :
    RespectsLimits pump turn ∧ Within (pump.turn turn) := by
  have hruns := engineRuns_turn hwithin.runs turn
  cases delivery_turn hwithin.runs turn with
  | keeps hsame hstopped =>
      refine ⟨fun hfilling => ⟨Or.inr ⟨hsame.volumeRaw.ge, hsame.amountRaw.ge⟩, ?_, ?_,
        fun hinput => absurd hinput hother⟩, hruns, fun hfilling => ?_, fun hfilling => ?_⟩
      · rw [hsame.volumeRaw]
        exact hwithin.volume_le hfilling
      · rw [hsame.amountRaw]
        exact hwithin.amount_le hfilling
      · rw [hsame.volumeRaw, hsame.limitVolume]
        exact hwithin.volume_le (hstopped hfilling)
      · rw [hsame.amountRaw, hsame.amountLimit]
        exact hwithin.amount_le (hstopped hfilling)
  | opens hidle hnothing =>
      refine ⟨fun hfilling => absurd (hidle.symm.trans hfilling) Bool.false_ne_true, hruns,
        fun hfilling => ?_, fun hfilling limit _ => ?_⟩
      · rw [(hnothing hfilling).1]
        exact Nat.zero_le _
      · rw [(hnothing hfilling).2]
        exact Nat.zero_le _
  | restarts hinput hnothing hstopped =>
      have hoff : (pump.turn turn).fillingActive ≠ true :=
        fun h => Bool.false_ne_true (hstopped.symm.trans h)
      refine ⟨fun _ => ⟨Or.inl hinput, ?_, fun limit _ => ?_, fun h => absurd h hother⟩, hruns,
        fun h => absurd h hoff, fun h => absurd h hoff⟩
      · rw [hnothing.1]
        exact Nat.zero_le _
      · rw [hnothing.2]
        exact Nat.zero_le _
  | advances hinput _ => exact absurd hinput hother

/-- A time advance that fills within the limits keeps them. -/
theorem respectsLimits_advance {pump : SimulatedPump} (hwithin : Within pump) {turn : PumpTurn}
    (hinput : turn.input = .onTimeAdvance) (hfills : FillsWithin pump turn) :
    RespectsLimits pump turn ∧ Within (pump.turn turn) := by
  have hruns := engineRuns_turn hwithin.runs turn
  have heffect : Fills pump (pump.dueIntervals turn.env) (pump.turn turn) := by
    obtain ⟨env, input⟩ := turn
    cases hinput
    exact fills_onTimeAdvance env pump
  obtain ⟨hfields, hengine⟩ := heffect.kept
  obtain ⟨hlimit, hlimit'⟩ := limits_of_fields hfields rfl rfl rfl
  rcases heffect.numbers with ⟨hnone, hkept⟩ | ⟨taken, hpositive, hle, hvolume, hamount⟩
  · -- nothing is due
    have hsame := sameDelivery_of_fields hkept.fields rfl rfl rfl rfl rfl
    refine ⟨fun hfilling => ⟨Or.inr ⟨hsame.volumeRaw.ge, hsame.amountRaw.ge⟩, ?_, ?_,
      fun _ taken hle hpositive => absurd (hnone ▸ hle) (Nat.not_le.mpr hpositive)⟩, hruns,
      fun hfilling => ?_, fun hfilling => ?_⟩
    · rw [hsame.volumeRaw]
      exact hwithin.volume_le hfilling
    · rw [hsame.amountRaw]
      exact hwithin.amount_le hfilling
    · rw [hsame.volumeRaw, hsame.limitVolume]
      exact hwithin.volume_le (hengine.stopped hfilling)
    · rw [hsame.amountRaw, hsame.amountLimit]
      exact hwithin.amount_le (hengine.stopped hfilling)
  · have hdue := hpositive.trans_le hle
    obtain ⟨hfilling, hsuspended⟩ := due_running turn.env pump hdue
    obtain ⟨hpriced, hbelow, hfits⟩ := hfills hinput hdue
    have hcap : ∀ cap ∈ pump.plan.cap, pump.amountRaw ≤ cap := by
      intro cap hcap
      refine hwithin.amount_le hfilling cap ?_
      unfold amountLimit
      rw [show pump.presetAmountRaw = some cap from hcap]
      rfl
    have hmore : pump.volumeRaw ≤ pump.plan.volumeAfter pump.volumeRaw taken :=
      FillPlan.le_volumeAfter (hwithin.volume_le hfilling) taken
    have hgrows : pump.amountRaw ≤
        pump.plan.charged (pump.plan.volumeAfter pump.volumeRaw taken) :=
      FillPlan.le_charged hcap (hpriced.trans (pump.plan.monotone hmore))
    have hvolume_le : (pump.turn turn).volumeRaw ≤ pump.limitVolume := by
      rw [hvolume]
      exact FillPlan.volumeAfter_le_limit
    have hamount_le : ∀ limit ∈ pump.amountLimit, (pump.turn turn).amountRaw ≤ limit := by
      intro limit hmem
      rw [hamount]
      exact (charged_within hbelow hle hmem).1
    refine ⟨fun _ => ⟨Or.inr ⟨hvolume ▸ hmore, hamount ▸ hgrows⟩, hvolume_le, hamount_le,
      fun _ some hsome hpositive hactive => ?_⟩, hruns, fun _ => hlimit ▸ hvolume_le,
      fun _ => hlimit' ▸ hamount_le⟩
    exact afterIntervals_open hfilling hsuspended hbelow hfits hsome hpositive hactive

/-- Filling is monotone and ends at its limits, in every run whose time advances fill within
them. -/
theorem filling_respects_limits (config : PumpConfig) (turns : List PumpTurn)
    (hfills : Along turn FillsWithin (create config) turns) :
    Along turn RespectsLimits (create config) turns := by
  have hstep : ∀ (pump : SimulatedPump) (turn : PumpTurn), Within pump →
      FillsWithin pump turn → RespectsLimits pump turn ∧ Within (pump.turn turn) := by
    intro pump turn hwithin hcondition
    by_cases hinput : turn.input = .onTimeAdvance
    · exact respectsLimits_advance hwithin hinput hcondition
    · exact respectsLimits_other hwithin hinput
  have hoff : (create config).fillingActive ≠ true := Bool.false_ne_true
  have hstart : Within (create config) :=
    ⟨fun h => absurd h hoff, fun h => absurd h hoff, fun h => absurd h hoff⟩
  exact along_of_invariant hstep hstart hfills

/-- A delivery up to a preset volume, with the nozzle lifted again on the way. -/
theorem filling_respects_limits_preset :
    Along turn RespectsLimits (create { pumpId := "fp-1", dartAddress := 1 }) [
      ⟨⟨0, ""⟩, .coldStartToReady⟩, ⟨⟨0, ""⟩, .liftNozzle 1⟩,
      ⟨⟨0, ""⟩, .unit 0x03 [0x00, 0x00, 0x02, 0x50]⟩, ⟨⟨0, "tx-1"⟩, .unit 0x01 [0x06]⟩,
      ⟨⟨200, ""⟩, .onTimeAdvance⟩, ⟨⟨300, ""⟩, .liftNozzle 2⟩,
      ⟨⟨900, ""⟩, .onTimeAdvance⟩] :=
  filling_respects_limits { pumpId := "fp-1", dartAddress := 1 } _ (by decide +kernel)

/-- A configured amount preset stops nothing: with a preset of 50 the first interval shows
an amount of 117, and the delivery runs on. -/
theorem configured_amount_exceeded :
    ¬ Along turn RespectsLimits (create { pumpId := "fp-1", dartAddress := 1
                                          filling := { presetAmountRaw := some 50 } }) [
      ⟨⟨0, ""⟩, .coldStartToReady⟩, ⟨⟨0, ""⟩, .liftNozzle 1⟩,
      ⟨⟨0, "tx-1"⟩, .unit 0x01 [0x06]⟩, ⟨⟨200, ""⟩, .onTimeAdvance⟩] := by
  intro hrespects
  have hkept := hrespects.2.2.2.1 (by decide +kernel)
  exact absurd (hkept.amount_le 50 (by decide +kernel)) (by decide +kernel)

end Simulator
end Intelipump
