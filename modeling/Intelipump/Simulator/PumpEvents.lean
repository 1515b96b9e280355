import Mathlib.Tactic.Common
import Intelipump.Simulator.Session

namespace Intelipump
namespace Simulator

open Domain
open Dart.Line
open Dart.Application
open Foundation.StateEffect
open StateMachine
open SimulatedPump

/-!
# What a pump keeps through its small steps

A machine event writes the context and two mirrored flags; a report is
appended to the queue or raises, and touches nothing else.
-/

/-! ## Machine events of a pump -/

/-- An event without evidence takes the branch of the table. -/
theorem outcome_applyEvent (pump : SimulatedPump) (event : PumpEvent) {args : ApplyArgs}
    (hobservation : args.observation = none) (hobservedAt : args.observedAt = none)
    (himplicit : args.allowImplicitAuthorizeToFilling = false)
    (hfresh : ¬ IsDuplicateCompletion pump.syncContextFields.context event args) :
    outcome pump.syncContextFields.context event args =
      tableOutcome pump.normalizedState event false := by
  have hframe : ¬ IsDuplicateFrame pump.syncContextFields.context args := by
    rintro ⟨hsource, -⟩
    unfold ApplyArgs.sourceFrame at hsource
    rw [hobservation] at hsource
    exact hsource rfl
  rw [outcome_eq_tableOutcome (not_isStale hobservedAt) hframe hfresh, himplicit]
  rfl

theorem context_applyEvent (pump : SimulatedPump) (event : PumpEvent) (args : ApplyArgs) :
    (pump.applyEvent event args).context =
      contextAfter pump.syncContextFields.context event args
        (outcome pump.syncContextFields.context event args) :=
  apply_context _ _ _

/-- An event without evidence moves the pump by the table. -/
theorem normalizedState_applyEvent (pump : SimulatedPump) (event : PumpEvent)
    {args : ApplyArgs} (hobservation : args.observation = none)
    (hobservedAt : args.observedAt = none)
    (himplicit : args.allowImplicitAuthorizeToFilling = false)
    (hevent : event ≠ .FILLING_COMPLETED) :
    (pump.applyEvent event args).normalizedState = moved pump.normalizedState event := by
  unfold normalizedState
  rw [context_applyEvent, contextAfter_currentState, outcome_applyEvent pump event
    hobservation hobservedAt himplicit fun h => hevent h.1]
  rfl

/-- Only a completion is recorded. -/
theorem completedEvidenceKeys_applyEvent (pump : SimulatedPump) (args : ApplyArgs)
    {event : PumpEvent} (hevent : event ≠ .FILLING_COMPLETED) :
    (pump.applyEvent event args).context.completedEvidenceKeys =
      pump.context.completedEvidenceKeys := by
  rw [context_applyEvent, contextAfter_completedEvidenceKeys]
  split
  · rw [if_neg hevent]
    rfl
  · rfl

section

variable (pump : SimulatedPump) (event : PumpEvent) (args : ApplyArgs)

@[simp] theorem effectivePrice_applyEvent :
    (pump.applyEvent event args).effectivePrice = pump.effectivePrice := rfl

@[simp] theorem pendingOutbound_applyEvent :
    (pump.applyEvent event args).pendingOutbound = pump.pendingOutbound := rfl

@[simp] theorem fillingActive_applyEvent :
    (pump.applyEvent event args).fillingActive = pump.fillingActive := rfl

@[simp] theorem nozzleOut_applyEvent :
    (pump.applyEvent event args).nozzleOut = pump.nozzleOut := rfl

@[simp] theorem wayneStatus_applyEvent :
    (pump.applyEvent event args).wayneStatus = pump.wayneStatus := rfl

end

/-- Only the two communication events touch the pump's ear. -/
theorem communicationEnabled_applyEvent (pump : SimulatedPump) (args : ApplyArgs)
    {event : PumpEvent} (hlost : event ≠ .COMMUNICATION_LOST)
    (hstarted : event ≠ .COMMUNICATION_STARTED) :
    (pump.applyEvent event args).communicationEnabled = pump.communicationEnabled := by
  change (if event = .COMMUNICATION_LOST then false
    else if event = .COMMUNICATION_STARTED then true else pump.communicationEnabled) = _
  rw [if_neg hlost, if_neg hstarted]

/-- The price shown after a price was set. -/
theorem effectivePrice_setPrice (pump : SimulatedPump) (nozzle price : Nat) :
    (pump.setPrice nozzle price).effectivePrice =
      if pump.effectiveNozzle = nozzle then price else pump.effectivePrice := by
  change (((nozzle, price) :: pump.pricesRaw.filter (·.1 ≠ nozzle)).lookup
    pump.effectiveNozzle).getD pump.config.defaultPriceRaw = _
  rw [List.lookup_cons]
  by_cases hsame : pump.effectiveNozzle = nozzle
  · rw [if_pos hsame, hsame, beq_self_eq_true]
    rfl
  · have hother : (pump.pricesRaw.filter (·.1 ≠ nozzle)).lookup pump.effectiveNozzle =
        pump.pricesRaw.lookup pump.effectiveNozzle := by
      generalize pump.pricesRaw = prices
      induction prices with
      | nil => rfl
      | cons entry rest ih =>
          obtain ⟨key, value⟩ := entry
          by_cases hkey : key = nozzle
          · have hne : (pump.effectiveNozzle == key) = false :=
              beq_false_of_ne (hkey ▸ hsame)
            rw [List.filter_cons_of_neg (by simpa using hkey), ih, List.lookup_cons, hne]
          · rw [List.filter_cons_of_pos (by simpa using hkey), List.lookup_cons,
              List.lookup_cons, ih]
    rw [if_neg hsame, beq_false_of_ne hsame, hother]
    rfl

/-! ## Commands under guard -/

/-- A pump whose fields were written to its context. -/
def noted (pump : SimulatedPump) (command : PumpCommand) : SimulatedPump :=
  { pump.syncContextFields with lastCommand := some command }

/-- A guarded command runs on the noted pump, when nothing blocks it. -/
theorem executeGuarded_eq (env : PumpEnv) (command : PumpCommand) (args : GuardedArgs)
    (pump : SimulatedPump) :
    finalState (executeGuarded env command args) pump =
      if collectBlocking command pump.syncContextFields.context
          (args.presetValue.map (Nat.cast : Nat → ℚ)) = [] then
        finalState (executeEligible env command args) (noted pump command)
      else noted pump command := by
  have heligible := eligible_iff command pump.syncContextFields.context
    (args.presetValue.map (Nat.cast : Nat → ℚ))
  unfold executeGuarded
  rw [finalState_modify_bind, finalState_get_bind, finalState_modify_bind]
  by_cases hblocked : collectBlocking command pump.syncContextFields.context
      (args.presetValue.map (Nat.cast : Nat → ℚ)) = []
  · rw [if_pos hblocked, if_neg (by rw [heligible.mpr hblocked]; exact Bool.noConfusion)]
    rfl
  · rw [if_neg hblocked, if_pos (Bool.eq_false_iff.mpr fun h => hblocked (heligible.mp h))]
    rfl

/-! ## Reports -/

/-- Nothing but the queue is different. -/
def OnlyQueued (before after : SimulatedPump) : Prop :=
  after = { before with pendingOutbound := after.pendingOutbound }

instance : IsPreorder SimulatedPump OnlyQueued where
  refl _ := rfl
  trans first second third hfirst hsecond := by
    unfold OnlyQueued at *
    rw [hsecond, hfirst]

theorem onlyQueued_queueEncoded (encoded : Except Raised (List Byte)) (label : String) :
    Preserves OnlyQueued (queueEncoded encoded label) :=
  .of_bind (.of_fromExcept _) fun _ => .of_modify fun _ => rfl

theorem onlyQueued_queueStatusAndNozzle : Preserves OnlyQueued queueStatusAndNozzle := by
  refine .of_bind .of_get fun pump => ?_
  refine .of_bind (onlyQueued_queueEncoded _ _) fun _ => ?_
  exact .of_bind .of_get fun pump => onlyQueued_queueEncoded _ _

theorem onlyQueued_queueFillData : Preserves OnlyQueued queueFillData :=
  .of_bind .of_get fun _ => onlyQueued_queueEncoded _ _

end Simulator
end Intelipump
