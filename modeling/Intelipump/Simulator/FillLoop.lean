import Mathlib.Tactic.Common
import Intelipump.Foundation.FillPlan
import Intelipump.Simulator.PumpFields

namespace Intelipump
namespace Simulator

open Domain
open Foundation
open Foundation.StateEffect
open StateMachine
open SimulatedPump

/-!
# The filling loop in closed form

The intervals of a time advance follow the plan that the presets, the configuration and the
price of the selected nozzle make (`fills_fillIntervals`): the pump shows the volume and the
charge of the plan, until the plan is reached or a report of it does not fit.
-/

theorem amountFromVolume_mono (pump : SimulatedPump) : Monotone pump.amountFromVolume := by
  intro less more hle
  exact Nat.div_le_div_right (Nat.mul_le_mul_right _ (Nat.mul_le_mul_right _ hle))

/-- What the next intervals of a pump follow. -/
def SimulatedPump.plan (pump : SimulatedPump) : FillPlan where
  step := fillDelta pump.config.filling
  limit := pump.limitVolume
  amountOf := pump.amountFromVolume
  cap := pump.presetAmountRaw
  monotone := amountFromVolume_mono pump

/-- The report of a volume fits the two fields of a DC2. -/
def ReportFits (plan : FillPlan) (volume : Nat) : Prop :=
  volume < 100 ^ 4 ∧ plan.charged volume < 100 ^ 4

instance (plan : FillPlan) (volume : Nat) : Decidable (ReportFits plan volume) :=
  inferInstanceAs (Decidable (_ ∧ _))

namespace PumpFields

/-- The fields with other numbers of the delivery. -/
def filled (fields : PumpFields) (volumeRaw amountRaw : Nat) : PumpFields :=
  { fields with volumeRaw := volumeRaw, amountRaw := amountRaw }

/-- The fields after the delivery was added to the totals. -/
def completed (fields : PumpFields) : PumpFields :=
  { fields with
    totalVolumeRaw := fields.totalVolumeRaw + fields.volumeRaw
    totalAmountRaw := fields.totalAmountRaw + fields.amountRaw }

end PumpFields

section

variable {before after : SimulatedPump}

theorem effectivePrice_congr (hconfig : after.config = before.config)
    (hprices : after.pricesRaw = before.pricesRaw)
    (hnozzle : after.selectedNozzle = before.selectedNozzle) :
    after.effectivePrice = before.effectivePrice := by
  unfold effectivePrice effectiveNozzle priceOf?
  rw [hconfig, hprices, hnozzle]

/-- The plan is made from these fields. -/
theorem plan_congr (hconfig : after.config = before.config)
    (hprices : after.pricesRaw = before.pricesRaw)
    (hnozzle : after.selectedNozzle = before.selectedNozzle)
    (hvolume : after.presetVolumeRaw = before.presetVolumeRaw)
    (hamount : after.presetAmountRaw = before.presetAmountRaw) : after.plan = before.plan := by
  have hprice := effectivePrice_congr hconfig hprices hnozzle
  have hlimit : after.limitVolume = before.limitVolume := by
    unfold limitVolume
    rw [hconfig, hvolume]
  have hamounts : after.amountFromVolume = before.amountFromVolume := by
    funext volume
    unfold amountFromVolume
    rw [hconfig, hprice]
  unfold plan
  rw [FillPlan.mk.injEq]
  exact ⟨congrArg (fun config : PumpConfig => fillDelta config.filling) hconfig, hlimit,
    hamounts, hamount⟩

theorem plan_of_filled {volumeRaw amountRaw : Nat}
    (hfields : after.fields = before.fields.filled volumeRaw amountRaw) :
    after.plan = before.plan :=
  plan_congr (congrArg PumpFields.config hfields) (congrArg PumpFields.pricesRaw hfields)
    (congrArg PumpFields.selectedNozzle hfields) (congrArg PumpFields.presetVolumeRaw hfields)
    (congrArg PumpFields.presetAmountRaw hfields)

theorem effectivePrice_of_filled {volumeRaw amountRaw : Nat}
    (hfields : after.fields = before.fields.filled volumeRaw amountRaw) :
    after.effectivePrice = before.effectivePrice :=
  effectivePrice_congr (congrArg PumpFields.config hfields)
    (congrArg PumpFields.pricesRaw hfields) (congrArg PumpFields.selectedNozzle hfields)

end

/-! ## One interval -/

/-- A completion, whether its reports raise or not. -/
theorem completeFilling_effect {pump : SimulatedPump}
    (hrunning : ¬ (pump.fillingActive = false ∧ pump.normalizedState ∉
      [PumpState.FILLING, .SUSPENDED, .AUTHORIZED, .LIMIT_REACHED])) :
    (finalState completeFilling pump).fields = pump.fields.completed ∧
      (finalState completeFilling pump).fillingActive = false := by
  have hreported : Preserves OnlyQueued (do
      queueStatusAndNozzle
      queueFillData : PumpM Unit) :=
    .of_bind onlyQueued_queueStatusAndNozzle fun _ => onlyQueued_queueFillData
  have hqueued := hreported (counted pump)
  have hkept := kept_of_onlyQueued hqueued
  have hstopped : (counted pump).fillingActive = false := rfl
  unfold completeFilling
  rw [finalState_get_bind, if_neg hrunning, finalState_modify_bind]
  refine ⟨hkept.fields, ?_⟩
  exact Bool.eq_false_iff.mpr fun h =>
    Bool.false_ne_true (hstopped.symm.trans (hkept.engine.stopped h))

/-- The end of an interval, after its numbers were written. -/
def reportInterval (hitLimit : Bool) (cfg : FillingConfig) : PumpM Unit := do
  queueFillData
  if hitLimit then do
    modify fun pump => limitReached pump cfg
    completeFilling
  else return ()

/-- The amount preset is hit. -/
def amountHit (plan : FillPlan) (volume : Nat) : Bool :=
  match plan.cap with
  | some cap => decide (plan.amountOf volume ≥ cap)
  | none => false

theorem amountHit_iff (plan : FillPlan) (volume : Nat) :
    amountHit plan volume = true ↔ ∃ cap ∈ plan.cap, cap ≤ plan.amountOf volume := by
  unfold amountHit
  cases plan.cap with
  | none => exact iff_of_false Bool.noConfusion fun ⟨_, hcap, _⟩ => nomatch hcap
  | some cap => simp

theorem charged_eq (plan : FillPlan) (volume : Nat) :
    (if amountHit plan volume then plan.cap.getD (plan.amountOf volume)
      else plan.amountOf volume) = plan.charged volume := by
  have hhit := amountHit_iff plan volume
  unfold FillPlan.charged
  cases hcap : plan.cap with
  | none => exact ite_self _
  | some cap =>
      rw [hcap] at hhit
      by_cases hle : cap ≤ plan.amountOf volume
      · rw [if_pos (hhit.mpr ⟨cap, rfl, hle⟩)]
        exact (Nat.min_eq_left hle).symm
      · rw [if_neg fun h => ?_]
        · exact (Nat.min_eq_right (Nat.le_of_not_le hle)).symm
        · obtain ⟨found, hfound, hreached⟩ := hhit.mp h
          cases hfound
          exact hle hreached

theorem reached_eq (plan : FillPlan) (volume : Nat) :
    (decide (plan.limit ≤ volume) || amountHit plan volume) =
      decide (plan.Reached volume) := by
  rw [Bool.eq_iff_iff, Bool.or_eq_true, decide_eq_true_iff, decide_eq_true_iff,
    amountHit_iff]
  exact Iff.rfl

/-- The pump of the first interval, before it reports. -/
def firstAdvance (pump : SimulatedPump) : SimulatedPump :=
  advancedTo pump (pump.plan.volumeAfter pump.volumeRaw 1)
    (pump.plan.charged (pump.plan.volumeAfter pump.volumeRaw 1))

theorem engineKept_firstAdvance (pump : SimulatedPump) :
    EngineKept pump (firstAdvance pump) :=
  .applyEvent (.of_eq rfl rfl id) (by decide) rfl rfl rfl

/-- An interval writes the next numbers of the plan, and reports them. -/
theorem fillOneInterval_eq (pump : SimulatedPump) :
    fillOneInterval pump =
      reportInterval (decide (pump.plan.Reached (pump.plan.volumeAfter pump.volumeRaw 1)))
        pump.config.filling
        (firstAdvance pump) := by
  unfold firstAdvance
  generalize hadvanced : pump.volumeRaw + pump.plan.step = advanced
  have hvolume : pump.plan.volumeAfter pump.volumeRaw 1 =
      if advanced ≥ pump.plan.limit then pump.plan.limit else advanced := by
    unfold FillPlan.volumeAfter
    rw [Nat.one_mul, hadvanced]
    split <;> omega
  have hlimit : decide (advanced ≥ pump.plan.limit) =
      decide (pump.plan.limit ≤ pump.plan.volumeAfter pump.volumeRaw 1) := by
    rw [hvolume, decide_eq_decide]
    split <;> omega
  rw [← reached_eq, ← charged_eq, ← hlimit, hvolume, ← hadvanced]
  rfl

/-- What one interval of a running delivery does: the plan goes on, or the delivery is
completed. -/
inductive IntervalDoes (pump after : SimulatedPump) : Prop where
  | fills
      (hopen : ¬ pump.plan.Reached (pump.plan.volumeAfter pump.volumeRaw 1) ∨
        ¬ ReportFits pump.plan (pump.plan.volumeAfter pump.volumeRaw 1))
      (hqueued : OnlyQueued (firstAdvance pump) after)
  | completes (hreached : pump.plan.Reached (pump.plan.volumeAfter pump.volumeRaw 1))
      (hfields : after.fields = (pump.fields.filled
        (pump.plan.volumeAfter pump.volumeRaw 1)
        (pump.plan.charged (pump.plan.volumeAfter pump.volumeRaw 1))).completed)
      (hstopped : after.fillingActive = false) (hengine : EngineKept pump after)

/-- The pump after an interval that only reports. -/
theorem filled_of_onlyQueued {pump after : SimulatedPump} (hfilling : pump.fillingActive = true)
    (hqueued : OnlyQueued (firstAdvance pump) after) :
    after.fields = pump.fields.filled (pump.plan.volumeAfter pump.volumeRaw 1)
        (pump.plan.charged (pump.plan.volumeAfter pump.volumeRaw 1)) ∧
      after.fillingActive = true ∧ after.suspended = pump.suspended ∧ EngineKept pump after := by
  have hkept := kept_of_onlyQueued hqueued
  unfold OnlyQueued at hqueued
  refine ⟨hkept.fields, ?_, ?_, trans_of EngineKept (engineKept_firstAdvance pump) hkept.engine⟩
  · rw [hqueued]
    exact hfilling
  · rw [hqueued]
    rfl

theorem intervalDoes_fillOneInterval {pump : SimulatedPump}
    (hfilling : pump.fillingActive = true) :
    IntervalDoes pump (finalState fillOneInterval pump) := by
  have hqueued := onlyQueued_queueFillData (firstAdvance pump)
  have hreturns : Returns queueFillData (firstAdvance pump) ↔
      ReportFits pump.plan (pump.plan.volumeAfter pump.volumeRaw 1) :=
    returns_queueFillData_iff (firstAdvance pump)
  rw [finalState_congr (fillOneInterval_eq pump)]
  unfold reportInterval
  rw [finalState_bind]
  by_cases hfits : Returns queueFillData (firstAdvance pump)
  · obtain ⟨value, hvalue⟩ := hfits.exists
    rw [hvalue]
    dsimp only
    by_cases hreached : pump.plan.Reached (pump.plan.volumeAfter pump.volumeRaw 1)
    · generalize finalState queueFillData (firstAdvance pump) = reported at hqueued
      have hkept := kept_of_onlyQueued hqueued
      have hreported : reported.fillingActive = true := by
        unfold OnlyQueued at hqueued
        rw [hqueued]
        exact hfilling
      -- between the limit and the completion the engine is on in LIMIT_REACHED
      have hlimit : (limitReached reported pump.config.filling).fields = reported.fields ∧
          (limitReached reported pump.config.filling).fillingActive = true := by
        unfold limitReached
        split <;> exact ⟨rfl, hreported⟩
      obtain ⟨hfields, hactive⟩ := hlimit
      obtain ⟨hcompleted, hstopped⟩ := completeFilling_effect fun h =>
        Bool.noConfusion (hactive.symm.trans h.1)
      rw [if_pos (decide_eq_true hreached), finalState_modify_bind]
      refine .completes hreached ?_ hstopped (.of_stopped hstopped)
      rw [hcompleted, hfields, hkept.fields]
      rfl
    · rw [if_neg (by simpa using hreached)]
      exact .fills (Or.inl hreached) hqueued
  · rw [returned_eq_none_of_not hfits]
    exact .fills (Or.inr fun h => hfits (hreturns.mpr h)) hqueued

theorem returns_fillOneInterval_iff {pump : SimulatedPump}
    (hfilling : pump.fillingActive = true) :
    Returns fillOneInterval pump ↔
      ReportFits pump.plan (pump.plan.volumeAfter pump.volumeRaw 1) ∧
        (pump.plan.Reached (pump.plan.volumeAfter pump.volumeRaw 1) → pump.PriceFits) := by
  have hqueued := onlyQueued_queueFillData (firstAdvance pump)
  have hreturns : Returns queueFillData (firstAdvance pump) ↔
      ReportFits pump.plan (pump.plan.volumeAfter pump.volumeRaw 1) :=
    returns_queueFillData_iff (firstAdvance pump)
  rw [returns_congr (fillOneInterval_eq pump)]
  unfold reportInterval
  rw [returns_bind_iff (P := Returns queueFillData (firstAdvance pump) →
    pump.plan.Reached (pump.plan.volumeAfter pump.volumeRaw 1) → pump.PriceFits), ← hreturns]
  · exact and_congr_right fun hfits => ⟨fun h => h hfits, fun h _ => h⟩
  · intro value hvalue
    have hfits : Returns queueFillData (firstAdvance pump) :=
      Option.isSome_iff_exists.mpr ⟨value, hvalue⟩
    by_cases hreached : pump.plan.Reached (pump.plan.volumeAfter pump.volumeRaw 1)
    · generalize finalState queueFillData (firstAdvance pump) = reported at hqueued
      have hlimit : (limitReached reported pump.config.filling).fillingActive = true ∧
          ((limitReached reported pump.config.filling).PriceFits ↔ pump.PriceFits) ∧
          ((limitReached reported pump.config.filling).FillFits ↔
            (firstAdvance pump).FillFits) := by
        unfold OnlyQueued at hqueued
        unfold limitReached
        rw [hqueued]
        split
        · exact ⟨hfilling, Iff.rfl, Iff.rfl⟩
        · exact ⟨hfilling, Iff.rfl, Iff.rfl⟩
      rw [if_pos (decide_eq_true hreached), returns_modify_bind,
        returns_completeFilling_of_running fun h =>
          Bool.noConfusion (hlimit.1.symm.trans h.1), hlimit.2.1, hlimit.2.2]
      exact ⟨fun h _ _ => h.1, fun h => ⟨h hfits hreached,
        (returns_queueFillData_iff _).mp hfits⟩⟩
    · rw [if_neg (by simpa using hreached)]
      exact iff_of_true rfl fun _ h => absurd h hreached

/-! ## Intervals -/

/-- What the due intervals of a running delivery do: they take the plan as far as it is not
reached and its reports fit. -/
inductive Fills (pump : SimulatedPump) (steps : Nat) (after : SimulatedPump) : Prop where
  | waits (hsteps : steps = 0) (hkept : Kept pump after)
      (hactive : after.fillingActive = pump.fillingActive)
  | fills (taken : Nat) (hpositive : 0 < taken) (hle : taken ≤ steps)
      (hopen : pump.plan.OpenUntil pump.volumeRaw taken)
      (hreports : taken = steps ∧
          ¬ pump.plan.Reached (pump.plan.volumeAfter pump.volumeRaw taken) ∨
        ¬ ReportFits pump.plan (pump.plan.volumeAfter pump.volumeRaw taken))
      (hfields : after.fields = pump.fields.filled
        (pump.plan.volumeAfter pump.volumeRaw taken)
        (pump.plan.charged (pump.plan.volumeAfter pump.volumeRaw taken)))
      (hfilling : after.fillingActive = true) (hengine : EngineKept pump after)
  | completes (taken : Nat) (hpositive : 0 < taken) (hle : taken ≤ steps)
      (hopen : pump.plan.OpenUntil pump.volumeRaw taken)
      (hreached : pump.plan.Reached (pump.plan.volumeAfter pump.volumeRaw taken))
      (hfields : after.fields = (pump.fields.filled
        (pump.plan.volumeAfter pump.volumeRaw taken)
        (pump.plan.charged (pump.plan.volumeAfter pump.volumeRaw taken))).completed)
      (hstopped : after.fillingActive = false) (hengine : EngineKept pump after)

/-- The first interval left the plan open, the later ones follow the same plan. -/
theorem Fills.cons {pump filled after : SimulatedPump} {steps : Nat}
    (hfields : filled.fields = pump.fields.filled (pump.plan.volumeAfter pump.volumeRaw 1)
      (pump.plan.charged (pump.plan.volumeAfter pump.volumeRaw 1)))
    (hfilling : filled.fillingActive = true) (hengine : EngineKept pump filled)
    (hopen : ¬ pump.plan.Reached (pump.plan.volumeAfter pump.volumeRaw 1))
    (hlater : Fills filled steps after) : Fills pump (steps + 1) after := by
  have hplan := plan_of_filled hfields
  have hvolume : filled.volumeRaw = pump.plan.volumeAfter pump.volumeRaw 1 :=
    congrArg PumpFields.volumeRaw hfields
  have hgrouped : ∀ taken, filled.plan.volumeAfter filled.volumeRaw taken =
      pump.plan.volumeAfter pump.volumeRaw (taken + 1) := by
    intro taken
    rw [hplan, hvolume, FillPlan.volumeAfter_volumeAfter, Nat.add_comm]
  have hfirst : ∀ {taken}, filled.plan.OpenUntil filled.volumeRaw taken →
      pump.plan.OpenUntil pump.volumeRaw (taken + 1) := by
    intro taken htail
    rw [hplan, hvolume] at htail
    exact FillPlan.openUntil_succ (fun _ => hopen) htail
  have hrefilled : ∀ volume amount, filled.fields.filled volume amount =
      pump.fields.filled volume amount := by
    intro volume amount
    rw [hfields]
    rfl
  cases hlater with
  | waits hsteps hkept hactive =>
      subst hsteps
      refine .fills 1 Nat.one_pos le_rfl ?_ (Or.inl ⟨rfl, hopen⟩)
        (hkept.fields.trans hfields) (hactive.trans hfilling)
        (trans_of EngineKept hengine hkept.engine)
      exact fun taken hless hpositive => absurd hpositive (by omega)
  | fills taken hpositive hle htail hreports hlast hactive hkept =>
      rw [hgrouped, hplan] at hreports
      rw [hgrouped, hplan, hrefilled] at hlast
      refine .fills (taken + 1) (Nat.succ_pos taken) (Nat.succ_le_succ hle) (hfirst htail) ?_
        hlast hactive (trans_of EngineKept hengine hkept)
      exact hreports.imp_left fun h => ⟨congrArg (· + 1) h.1, h.2⟩
  | completes taken hpositive hle htail hreached hlast hstopped hkept =>
      rw [hgrouped, hplan] at hreached
      rw [hgrouped, hplan, hrefilled] at hlast
      exact .completes (taken + 1) (Nat.succ_pos taken) (Nat.succ_le_succ hle) (hfirst htail)
        hreached hlast hstopped (trans_of EngineKept hengine hkept)

theorem fills_fillIntervals {pump : SimulatedPump} (hfilling : pump.fillingActive = true)
    (hsuspended : pump.suspended = false) (steps : Nat) :
    Fills pump steps (finalState (fillIntervals steps) pump) := by
  induction steps generalizing pump with
  | zero => exact .waits rfl (refl_of Kept pump) rfl
  | succ steps ih =>
      have hrunning : ¬ (pump.fillingActive = false ∨ pump.suspended = true) := by
        rintro (h | h)
        · exact Bool.noConfusion (hfilling.symm.trans h)
        · exact Bool.noConfusion (hsuspended.symm.trans h)
      have hinterval := intervalDoes_fillOneInterval hfilling
      have hreturns := returns_fillOneInterval_iff hfilling
      have hnone : pump.plan.OpenUntil pump.volumeRaw 1 := fun taken hless hpositive =>
        absurd hpositive (by omega)
      unfold fillIntervals
      rw [finalState_get_bind, if_neg hrunning, finalState_bind]
      cases hvalue : returned fillOneInterval pump with
      | none =>
          -- the interval that raised is the last one
          dsimp only
          cases hinterval with
          | fills hopen hqueued =>
              obtain ⟨hfields, hactive, -, hengine⟩ := filled_of_onlyQueued hfilling hqueued
              have hraised : ¬ Returns fillOneInterval pump := fun h =>
                Option.not_isSome_iff_eq_none.mpr hvalue h
              have hmisfit : ¬ ReportFits pump.plan
                  (pump.plan.volumeAfter pump.volumeRaw 1) := by
                rcases hopen with hnot | hmisfit
                · exact fun hfits => hraised (hreturns.mpr ⟨hfits, fun h => absurd h hnot⟩)
                · exact hmisfit
              exact .fills 1 Nat.one_pos (Nat.succ_pos steps) hnone (Or.inr hmisfit) hfields
                hactive hengine
          | completes hreached hfields hstopped hengine =>
              exact .completes 1 Nat.one_pos (Nat.succ_pos steps) hnone hreached hfields
                hstopped hengine
      | some value =>
          dsimp only
          have hfits := (hreturns.mp (Option.isSome_iff_exists.mpr ⟨value, hvalue⟩)).1
          cases hinterval with
          | fills hopen hqueued =>
              obtain ⟨hfields, hactive, hsuspends, hengine⟩ :=
                filled_of_onlyQueued hfilling hqueued
              have hnot := hopen.resolve_right fun h => h hfits
              exact .cons hfields hactive hengine hnot
                (ih hactive (hsuspends.trans hsuspended))
          | completes hreached hfields hstopped hengine =>
              rw [(fillIntervals_stopped (Or.inl hstopped) steps).1]
              exact .completes 1 Nat.one_pos (Nat.succ_pos steps) hnone hreached hfields
                hstopped hengine

/-- Every due interval, up to the one that reaches the plan, reports what fits. -/
def ReportsFit (pump : SimulatedPump) (steps : Nat) : Prop :=
  ∀ taken ≤ steps, 0 < taken → pump.plan.OpenUntil pump.volumeRaw taken →
    ReportFits pump.plan (pump.plan.volumeAfter pump.volumeRaw taken)

instance (pump : SimulatedPump) (steps : Nat) : Decidable (ReportsFit pump steps) :=
  inferInstanceAs (Decidable (∀ taken ≤ steps, _))

/-- The loop raises where a report does not fit. -/
theorem returns_fillIntervals_iff {pump : SimulatedPump} (hfilling : pump.fillingActive = true)
    (hsuspended : pump.suspended = false) (hprice : pump.PriceFits) (steps : Nat) :
    Returns (fillIntervals steps) pump ↔ ReportsFit pump steps := by
  induction steps generalizing pump with
  | zero => exact iff_of_true (returns_pure _ _) fun taken hle hpositive => by omega
  | succ steps ih =>
      have hrunning : ¬ (pump.fillingActive = false ∨ pump.suspended = true) := by
        rintro (h | h)
        · exact Bool.noConfusion (hfilling.symm.trans h)
        · exact Bool.noConfusion (hsuspended.symm.trans h)
      have hnone : pump.plan.OpenUntil pump.volumeRaw 1 := fun taken hless hpositive =>
        absurd hpositive (by omega)
      have hreturns := returns_fillOneInterval_iff hfilling
      unfold fillIntervals
      rw [returns_get_bind, if_neg hrunning, returns_bind_iff (P := ∀ taken ≤ steps,
        0 < taken → pump.plan.OpenUntil pump.volumeRaw (taken + 1) →
          ReportFits pump.plan (pump.plan.volumeAfter pump.volumeRaw (taken + 1))), hreturns]
      · constructor
        · rintro ⟨⟨hfirst, -⟩, hlater⟩ taken hle hpositive hopen
          obtain ⟨later, rfl⟩ := Nat.exists_eq_add_of_le' hpositive
          rcases Nat.eq_zero_or_pos later with rfl | hmore
          · exact hfirst
          · exact hlater later (Nat.le_of_succ_le_succ hle) hmore hopen
        · intro hall
          refine ⟨⟨hall 1 (Nat.succ_pos steps) Nat.one_pos hnone, fun _ => hprice⟩, ?_⟩
          exact fun taken hle _ hopen => hall (taken + 1) (Nat.succ_le_succ hle)
            (Nat.succ_pos taken) hopen
      · intro value hvalue
        cases intervalDoes_fillOneInterval hfilling with
        | completes hreached hfields hstopped hengine =>
            -- the engine is off, and the plan is open no longer
            refine iff_of_true ?_ fun taken _ hpositive hopen =>
              absurd hreached (hopen 1 (Nat.succ_lt_succ hpositive) Nat.one_pos)
            cases steps with
            | zero => exact returns_pure _ _
            | succ steps =>
                unfold fillIntervals
                rw [returns_get_bind, if_pos (Or.inl hstopped)]
                exact returns_pure _ _
        | fills hopen hqueued =>
            obtain ⟨hfields, hactive, hsuspends, hengine⟩ :=
              filled_of_onlyQueued hfilling hqueued
            have hfits := (hreturns.mp (Option.isSome_iff_exists.mpr ⟨value, hvalue⟩)).1
            have hnot := hopen.resolve_right fun h => h hfits
            generalize finalState fillOneInterval pump = filled at *
            have hplan := plan_of_filled hfields
            have hvolume : filled.volumeRaw = pump.plan.volumeAfter pump.volumeRaw 1 :=
              congrArg PumpFields.volumeRaw hfields
            have hprice' : filled.PriceFits := by
              unfold PriceFits
              rw [effectivePrice_of_filled hfields]
              exact hprice
            rw [ih hactive (hsuspends.trans hsuspended) hprice']
            unfold ReportsFit
            rw [hplan, hvolume]
            refine forall₃_congr fun taken hle hpositive => imp_congr ⟨fun h => ?_, fun h => ?_⟩ ?_
            · exact FillPlan.openUntil_succ (fun _ => hnot) h
            · exact h.tail
            · rw [FillPlan.volumeAfter_volumeAfter, Nat.add_comm]

/-! ## Time advances -/

namespace SimulatedPump

/-- The intervals that a time advance takes. -/
def dueIntervals (env : PumpEnv) (pump : SimulatedPump) : Nat :=
  if pump.fillingActive = false ∨ pump.suspended = true then 0
  else if pump.normalizedState ∉ [PumpState.FILLING, .AUTHORIZED] then 0
  else
    match pump.lastFillTickMs with
    | none => 0
    | some last => (env.now - last) / pump.config.filling.updateIntervalMs

/-- The tick of a pump after a time advance. -/
def nextTick (env : PumpEnv) (pump : SimulatedPump) : Option Nat :=
  if pump.fillingActive = false ∨ pump.suspended = true then pump.lastFillTickMs
  else if pump.normalizedState ∉ [PumpState.FILLING, .AUTHORIZED] then pump.lastFillTickMs
  else
    match pump.lastFillTickMs with
    | none => some env.now
    | some last => some (last + pump.dueIntervals env * pump.config.filling.updateIntervalMs)

def ticked (pump : SimulatedPump) (tick : Option Nat) : SimulatedPump :=
  { pump with lastFillTickMs := tick }

end SimulatedPump

section

variable (env : PumpEnv) (pump : SimulatedPump)

theorem due_running (hdue : 0 < pump.dueIntervals env) :
    pump.fillingActive = true ∧ pump.suspended = false := by
  unfold dueIntervals at hdue
  by_cases hstopped : pump.fillingActive = false ∨ pump.suspended = true
  · rw [if_pos hstopped] at hdue
    exact absurd hdue (Nat.lt_irrefl 0)
  · rw [not_or, Bool.not_eq_false, Bool.not_eq_true] at hstopped
    exact hstopped

/-- A time advance moves the tick and takes the due intervals; an interval of zero raises
where one would be due. -/
theorem onTimeAdvance_cases :
    onTimeAdvance env pump =
        fillIntervals (pump.dueIntervals env) (pump.ticked (pump.nextTick env)) ∨
      pump.config.filling.updateIntervalMs = 0 ∧ pump.dueIntervals env = 0 ∧
        ∃ error, onTimeAdvance env pump = .error error (pump.ticked (pump.nextTick env)) := by
  unfold onTimeAdvance
  rw [get_bind]
  by_cases hstopped : pump.fillingActive = false ∨ pump.suspended = true
  · unfold nextTick dueIntervals
    rw [if_pos hstopped, if_pos hstopped, if_pos hstopped]
    exact Or.inl rfl
  by_cases hstate : pump.normalizedState ∉ [PumpState.FILLING, .AUTHORIZED]
  · unfold nextTick dueIntervals
    rw [if_neg hstopped, if_pos hstate, if_neg hstopped, if_pos hstate, if_neg hstopped,
      if_pos hstate]
    exact Or.inl rfl
  have hdue : pump.dueIntervals env = match pump.lastFillTickMs with
      | none => 0
      | some last => (env.now - last) / pump.config.filling.updateIntervalMs := by
    unfold dueIntervals
    rw [if_neg hstopped, if_neg hstate]
  unfold nextTick
  rw [if_neg hstopped, if_neg hstate, if_neg hstopped, if_neg hstate, hdue]
  cases htick : pump.lastFillTickMs with
  | none => exact Or.inl rfl
  | some last =>
      have hsame : pump.ticked (some (last + 0)) = pump := by
        rw [Nat.add_zero, ← htick]
        rfl
      dsimp only
      by_cases hearly : env.now - last < pump.config.filling.updateIntervalMs
      · -- nothing is due, and the tick stays
        rw [if_pos hearly, Nat.div_eq_of_lt hearly, Nat.zero_mul, hsame]
        exact Or.inl rfl
      by_cases hinterval : pump.config.filling.updateIntervalMs = 0
      · rw [if_neg hearly, if_pos hinterval, hinterval, Nat.div_zero, Nat.mul_zero, hsame]
        exact Or.inr ⟨rfl, rfl, _, rfl⟩
      · rw [if_neg hearly, if_neg hinterval]
        exact Or.inl rfl

theorem onTimeAdvance_eq (hinterval : pump.config.filling.updateIntervalMs ≠ 0) :
    onTimeAdvance env pump =
      fillIntervals (pump.dueIntervals env) (pump.ticked (pump.nextTick env)) :=
  (onTimeAdvance_cases env pump).resolve_right fun h => hinterval h.1

theorem finalState_onTimeAdvance :
    finalState (onTimeAdvance env) pump =
      finalState (fillIntervals (pump.dueIntervals env)) (pump.ticked (pump.nextTick env)) := by
  rcases onTimeAdvance_cases env pump with heq | ⟨-, hnone, error, herror⟩
  · exact finalState_congr heq
  · unfold finalState
    rw [herror, hnone]
    rfl

/-- A time advance takes no tick away. -/
theorem engineKept_ticked : EngineKept pump (pump.ticked (pump.nextTick env)) := by
  refine .of_eq rfl rfl fun hticks => ?_
  change pump.nextTick env ≠ none
  unfold nextTick
  split
  · exact hticks
  · split
    · exact hticks
    · split
      · exact Option.some_ne_none env.now
      · exact Option.some_ne_none _

variable {env pump} in
/-- The tick before the intervals is not read by them. -/
theorem Fills.of_ticked {tick : Option Nat} {steps : Nat} {after : SimulatedPump}
    (hengine : EngineKept pump (pump.ticked tick))
    (hfills : Fills (pump.ticked tick) steps after) : Fills pump steps after := by
  cases hfills with
  | waits hsteps hkept hactive =>
      exact .waits hsteps ⟨hkept.fields, trans_of EngineKept hengine hkept.engine⟩ hactive
  | fills taken hpositive hle hopen hreports hfields hfilling hkept =>
      exact .fills taken hpositive hle hopen hreports hfields hfilling
        (trans_of EngineKept hengine hkept)
  | completes taken hpositive hle hopen hreached hfields hstopped hkept =>
      exact .completes taken hpositive hle hopen hreached hfields hstopped
        (trans_of EngineKept hengine hkept)

/-- A time advance fills, whatever it raises. -/
theorem fills_onTimeAdvance :
    Fills pump (pump.dueIntervals env) (finalState (onTimeAdvance env) pump) := by
  rw [finalState_onTimeAdvance]
  rcases Nat.eq_zero_or_pos (pump.dueIntervals env) with hnone | hdue
  · rw [hnone]
    exact .waits rfl ⟨rfl, engineKept_ticked env pump⟩ rfl
  · obtain ⟨hfilling, hsuspended⟩ := due_running env pump hdue
    have hticked : (pump.ticked (pump.nextTick env)).fillingActive = true := hfilling
    exact .of_ticked (engineKept_ticked env pump) (fills_fillIntervals hticked hsuspended _)

variable {env pump} in
/-- The numbers that some intervals leave. -/
theorem Fills.numbers {steps : Nat} {after : SimulatedPump}
    (hfills : Fills pump steps after) :
    steps = 0 ∧ Kept pump after ∨
      ∃ taken, 0 < taken ∧ taken ≤ steps ∧
        after.volumeRaw = pump.plan.volumeAfter pump.volumeRaw taken ∧
        after.amountRaw = pump.plan.charged (pump.plan.volumeAfter pump.volumeRaw taken) := by
  cases hfills with
  | waits hsteps hkept _ => exact Or.inl ⟨hsteps, hkept⟩
  | fills taken hpositive hle _ _ hfields =>
      exact Or.inr ⟨taken, hpositive, hle, congrArg PumpFields.volumeRaw hfields,
        congrArg PumpFields.amountRaw hfields⟩
  | completes taken hpositive hle _ _ hfields =>
      exact Or.inr ⟨taken, hpositive, hle, congrArg PumpFields.volumeRaw hfields,
        congrArg PumpFields.amountRaw hfields⟩

variable {env pump} in
/-- The intervals write the delivery and the totals only. -/
theorem Fills.kept {steps : Nat} {after : SimulatedPump} (hfills : Fills pump steps after) :
    after.fields =
        { pump.fields with
          volumeRaw := after.volumeRaw
          amountRaw := after.amountRaw
          totalVolumeRaw := after.totalVolumeRaw
          totalAmountRaw := after.totalAmountRaw } ∧
      EngineKept pump after := by
  cases hfills with
  | waits _ hkept _ =>
      refine ⟨?_, hkept.engine⟩
      have hfields := hkept.fields
      unfold SimulatedPump.fields at hfields ⊢
      injection hfields
      simp_all
  | fills _ _ _ _ _ hfields _ hengine =>
      refine ⟨?_, hengine⟩
      unfold SimulatedPump.fields PumpFields.filled at hfields
      unfold SimulatedPump.fields
      injection hfields
      simp_all
  | completes _ _ _ _ _ hfields _ hengine =>
      refine ⟨?_, hengine⟩
      unfold SimulatedPump.fields PumpFields.filled PumpFields.completed at hfields
      unfold SimulatedPump.fields
      injection hfields
      simp_all

/-- A time advance raises where a report does not fit. -/
theorem returns_onTimeAdvance_iff (hinterval : pump.config.filling.updateIntervalMs ≠ 0)
    (hprice : pump.PriceFits) :
    Returns (onTimeAdvance env) pump ↔ ReportsFit pump (pump.dueIntervals env) := by
  rw [returns_congr (onTimeAdvance_eq env pump hinterval)]
  rcases Nat.eq_zero_or_pos (pump.dueIntervals env) with hnone | hdue
  · rw [hnone]
    exact iff_of_true (returns_pure _ _) fun taken hle hpositive => by omega
  · obtain ⟨hfilling, hsuspended⟩ := due_running env pump hdue
    have hticked : (pump.ticked (pump.nextTick env)).fillingActive = true := hfilling
    exact returns_fillIntervals_iff hticked hsuspended hprice _

end

end Simulator
end Intelipump
