import Mathlib.Tactic.Common
import Intelipump.Simulator.DeliveryCommands

namespace Intelipump
namespace Simulator

open Domain
open Dart.Line
open Dart.Application
open Foundation.StateEffect
open StateMachine
open SimulatedPump

/-!
# What an operation keeps of a pump

The fields of a pump that the filling engine and its reports read, and what holds of the
engine: it is on in a running delivery only, and counts its intervals from a tick.  No
operation needs fresh transaction ids for this.
-/

/-- The fields of a pump that a delivery depends on or writes. -/
structure PumpFields where
  config : PumpConfig
  pricesRaw : List (Nat × Nat)
  selectedNozzle : Option Nat
  nozzleOut : Bool
  presetVolumeRaw : Option Nat
  presetAmountRaw : Option Nat
  volumeRaw : Nat
  amountRaw : Nat
  totalVolumeRaw : Nat
  totalAmountRaw : Nat
  activeTransactionId : Option String
deriving DecidableEq

def SimulatedPump.fields (pump : SimulatedPump) : PumpFields where
  config := pump.config
  pricesRaw := pump.pricesRaw
  selectedNozzle := pump.selectedNozzle
  nozzleOut := pump.nozzleOut
  presetVolumeRaw := pump.presetVolumeRaw
  presetAmountRaw := pump.presetAmountRaw
  volumeRaw := pump.volumeRaw
  amountRaw := pump.amountRaw
  totalVolumeRaw := pump.totalVolumeRaw
  totalAmountRaw := pump.totalAmountRaw
  activeTransactionId := pump.activeTransactionId

/-- The engine is on in a running delivery only, and has a tick. -/
def EngineRuns (pump : SimulatedPump) : Prop :=
  pump.fillingActive = true →
    deliveryPhase pump.normalizedState = .running ∧ pump.lastFillTickMs ≠ none

/-- The engine is not switched on. -/
structure EngineKept (before after : SimulatedPump) : Prop where
  stopped : after.fillingActive = true → before.fillingActive = true
  runs : EngineRuns before → EngineRuns after

instance : IsPreorder SimulatedPump EngineKept where
  refl _ := ⟨id, id⟩
  trans _ _ _ hfirst hsecond :=
    ⟨fun h => hfirst.stopped (hsecond.stopped h), fun h => hsecond.runs (hfirst.runs h)⟩

/-- The fields are as they were, and the engine was not switched on. -/
structure Kept (before after : SimulatedPump) : Prop where
  fields : after.fields = before.fields
  engine : EngineKept before after

instance : IsPreorder SimulatedPump Kept where
  refl pump := ⟨rfl, refl_of EngineKept pump⟩
  trans _ _ _ hfirst hsecond :=
    ⟨hsecond.fields.trans hfirst.fields, trans_of EngineKept hfirst.engine hsecond.engine⟩

/-! ## Machine events -/

@[simp] theorem fields_applyEvent (pump : SimulatedPump) (event : PumpEvent)
    (args : ApplyArgs) : (pump.applyEvent event args).fields = pump.fields := rfl

/-- A change of other fields that leaves the engine and the machine; a tick may be set. -/
theorem EngineKept.of_eq {before after : SimulatedPump}
    (hfilling : after.fillingActive = before.fillingActive)
    (hstate : after.normalizedState = before.normalizedState)
    (htick : before.lastFillTickMs ≠ none → after.lastFillTickMs ≠ none) :
    EngineKept before after := by
  refine ⟨fun h => hfilling ▸ h, fun hruns h => ?_⟩
  obtain ⟨hrunning, hticks⟩ := hruns (hfilling ▸ h)
  rw [hstate]
  exact ⟨hrunning, htick hticks⟩

/-- A pump whose engine is off. -/
theorem EngineKept.of_stopped {before after : SimulatedPump}
    (hstopped : after.fillingActive = false) : EngineKept before after :=
  ⟨fun h => absurd (hstopped.symm.trans h) Bool.false_ne_true,
    fun _ h => absurd (hstopped.symm.trans h) Bool.false_ne_true⟩

section

variable {before changed : SimulatedPump} {event : PumpEvent} {args : ApplyArgs}

/-- A steady event leaves a running delivery running. -/
theorem engineRuns_applyEvent (hruns : EngineRuns changed) (hevent : event ∈ steadyEvents)
    (hobservation : args.observation = none) (hobservedAt : args.observedAt = none)
    (himplicit : args.allowImplicitAuthorizeToFilling = false) :
    EngineRuns (changed.applyEvent event args) := by
  have hcompletion : event ≠ .FILLING_COMPLETED := by
    rintro rfl
    exact absurd hevent (by decide)
  intro hfilling
  obtain ⟨hrunning, hticks⟩ := hruns hfilling
  have hpassing : deliveryPhase changed.normalizedState ≠ .passing := by
    rw [hrunning]
    exact DeliveryPhase.noConfusion
  rw [normalizedState_applyEvent changed event hobservation hobservedAt himplicit hcompletion,
    deliveryPhase_moved hevent hpassing]
  exact ⟨hrunning, hticks⟩

theorem EngineKept.applyEvent (hchanged : EngineKept before changed)
    (hevent : event ∈ steadyEvents) (hobservation : args.observation = none)
    (hobservedAt : args.observedAt = none)
    (himplicit : args.allowImplicitAuthorizeToFilling = false) :
    EngineKept before (changed.applyEvent event args) :=
  ⟨hchanged.stopped, fun h =>
    engineRuns_applyEvent (hchanged.runs h) hevent hobservation hobservedAt himplicit⟩

end

/-! ## Operations that keep the fields -/

theorem kept_of_onlyQueued {before after : SimulatedPump} (hqueued : OnlyQueued before after) :
    Kept before after := by
  unfold OnlyQueued at hqueued
  rw [hqueued]
  exact ⟨rfl, .of_eq rfl rfl id⟩

theorem kept_queueEncoded (encoded : Except Raised (List Byte)) (label : String) :
    Preserves Kept (queueEncoded encoded label) :=
  fun pump => kept_of_onlyQueued (onlyQueued_queueEncoded encoded label pump)

theorem kept_queueStatusAndNozzle : Preserves Kept queueStatusAndNozzle :=
  fun pump => kept_of_onlyQueued (onlyQueued_queueStatusAndNozzle pump)

theorem kept_queueFillData : Preserves Kept queueFillData :=
  fun pump => kept_of_onlyQueued (onlyQueued_queueFillData pump)

theorem kept_enableCommunication (pump : SimulatedPump) :
    Kept pump pump.enableCommunication :=
  ⟨rfl, .applyEvent (.of_eq rfl rfl id) (by decide) rfl rfl rfl⟩

theorem kept_disableCommunication (pump : SimulatedPump) :
    Kept pump pump.disableCommunication := by
  have hlost : Kept pump ({ pump with
      communicationEnabled := false
      fillingActive := false }.applyEvent .COMMUNICATION_LOST {}) :=
    ⟨rfl, .of_stopped rfl⟩
  have hcleared : ∀ lost : SimulatedPump, Kept lost { lost with
      pendingOutbound := []
      awaitingAckSequence := none
      dataPendingSinceMs := none } := fun _ => ⟨rfl, .of_eq rfl rfl id⟩
  exact trans_of Kept hlost (hcleared _)

theorem kept_injectFault (code : Nat) : Preserves Kept (injectFault code) := by
  refine .of_bind (.of_modify fun pump => ⟨rfl, ?_⟩) fun _ => kept_queueEncoded _ _
  exact .of_stopped rfl

theorem kept_clearFault (pump : SimulatedPump) : Kept pump pump.clearFault := by
  have hcleared : Kept pump
      ({ pump with faultCode := none }.applyEvent .FAULT_CLEARED {}) :=
    ⟨rfl, .applyEvent (.of_eq rfl rfl id) (by decide) rfl rfl rfl⟩
  have hreset : ∀ cleared : SimulatedPump, Kept cleared
      ({ cleared with wayneStatus := .RESET }.applyEvent .RESET_OBSERVED {}) := fun _ =>
    ⟨rfl, .applyEvent (.of_eq rfl rfl id) (by decide) rfl rfl rfl⟩
  have hready : ∀ reset : SimulatedPump,
      Kept reset (reset.applyEvent .READY_OBSERVED {}) := fun _ =>
    ⟨rfl, .applyEvent (refl_of EngineKept _) (by decide) rfl rfl rfl⟩
  unfold clearFault
  exact trans_of Kept (trans_of Kept hcleared (hreset _)) (hready _)

theorem kept_noted (pump : SimulatedPump) (command : PumpCommand) :
    Kept pump (noted pump command) :=
  ⟨rfl, .of_eq rfl rfl id⟩

/-! ## Operations that move the nozzle -/

/-- The fields with the nozzle in its holster. -/
def PumpFields.holstered (fields : PumpFields) : PumpFields := { fields with nozzleOut := false }

/-- Of the fields, the nozzle alone may have moved. -/
structure NozzleMoved (before after : SimulatedPump) : Prop where
  fields : after.fields.holstered = before.fields.holstered
  filling : after.fillingActive = before.fillingActive
  engine : EngineKept before after

instance : IsPreorder SimulatedPump NozzleMoved where
  refl pump := ⟨rfl, rfl, refl_of EngineKept pump⟩
  trans _ _ _ hfirst hsecond :=
    ⟨hsecond.fields.trans hfirst.fields, hsecond.filling.trans hfirst.filling,
      trans_of EngineKept hfirst.engine hsecond.engine⟩

section

variable {before changed : SimulatedPump} {event : PumpEvent} {args : ApplyArgs}

/-- A steady event after a change that moved the nozzle alone. -/
theorem NozzleMoved.applyEvent (hfields : changed.fields.holstered = before.fields.holstered)
    (hfilling : changed.fillingActive = before.fillingActive)
    (hstate : changed.normalizedState = before.normalizedState)
    (htick : before.lastFillTickMs ≠ none → changed.lastFillTickMs ≠ none)
    (hevent : event ∈ steadyEvents)
    (hobservation : args.observation = none) (hobservedAt : args.observedAt = none)
    (himplicit : args.allowImplicitAuthorizeToFilling = false) :
    NozzleMoved before (changed.applyEvent event args) :=
  ⟨hfields, hfilling, .applyEvent (.of_eq hfilling hstate htick) hevent hobservation
    hobservedAt himplicit⟩

end

theorem nozzleMoved_queueStatusAndNozzle : Preserves NozzleMoved queueStatusAndNozzle := by
  intro pump
  have hqueued := onlyQueued_queueStatusAndNozzle pump
  have hkept := kept_of_onlyQueued hqueued
  unfold OnlyQueued at hqueued
  refine ⟨congrArg PumpFields.holstered hkept.fields, ?_, hkept.engine⟩
  rw [hqueued]

theorem nozzleMoved_coldStartToReady : Preserves NozzleMoved coldStartToReady := by
  refine .of_bind (.of_modify fun pump => ?_) fun _ => ?_
  · split
    · exact refl_of NozzleMoved pump
    · exact .applyEvent rfl rfl rfl id (by decide) rfl rfl rfl
  refine .of_bind (.of_modify fun pump => ?_) fun _ => ?_
  · exact .applyEvent rfl rfl rfl id (by decide) rfl rfl rfl
  refine .of_bind (.of_modify fun pump => ?_) fun _ => ?_
  · exact .applyEvent rfl rfl rfl id (by decide) rfl rfl rfl
  refine .of_bind (.of_modify fun pump => ?_) fun _ => ?_
  · exact .applyEvent rfl rfl rfl id (by decide) rfl rfl rfl
  exact .of_bind (.of_modify fun pump => ⟨rfl, rfl, .of_eq rfl rfl id⟩) fun _ =>
    nozzleMoved_queueStatusAndNozzle

theorem nozzleMoved_returnNozzle : Preserves NozzleMoved returnNozzle := by
  refine .of_bind (.of_modify fun pump => ?_) fun _ => nozzleMoved_queueStatusAndNozzle
  dsimp only
  split
  · exact .applyEvent rfl rfl rfl id (by decide) rfl rfl rfl
  · exact ⟨rfl, rfl, .of_eq rfl rfl id⟩

/-- The nozzle hangs in its holster, and nothing else of the fields changed. -/
structure Holstered (before after : SimulatedPump) : Prop where
  fields : after.fields = before.fields.holstered
  filling : after.fillingActive = before.fillingActive
  engine : EngineKept before after

theorem NozzleMoved.holstered {before after : SimulatedPump} (hmoved : NozzleMoved before after)
    (hout : after.fields.nozzleOut = false) : Holstered before after := by
  refine ⟨?_, hmoved.filling, hmoved.engine⟩
  rw [← hmoved.fields]
  unfold PumpFields.holstered
  rw [← hout]

/-- A cold start reports a holstered nozzle. -/
theorem holstered_coldStartToReady (pump : SimulatedPump) :
    Holstered pump (finalState coldStartToReady pump) := by
  refine (nozzleMoved_coldStartToReady pump).holstered ?_
  unfold coldStartToReady
  rw [finalState_modify_bind, finalState_modify_bind, finalState_modify_bind,
    finalState_modify_bind, finalState_modify_bind, (kept_queueStatusAndNozzle _).fields]
  rfl

theorem holstered_returnNozzle (pump : SimulatedPump) :
    Holstered pump (finalState returnNozzle pump) := by
  refine (nozzleMoved_returnNozzle pump).holstered ?_
  unfold returnNozzle
  rw [finalState_modify_bind, (kept_queueStatusAndNozzle _).fields]
  dsimp only
  split <;> rfl

/-- A lifted nozzle of the pump is the selected one. -/
theorem liftNozzle_effect (env : PumpEnv) (nozzle : Nat) (pump : SimulatedPump)
    (hknown : pump.priceOf? nozzle ≠ none) :
    (finalState (liftNozzle env nozzle) pump).fields =
        { pump.fields with selectedNozzle := some nozzle, nozzleOut := true } ∧
      (finalState (liftNozzle env nozzle) pump).fillingActive = pump.fillingActive ∧
      (EngineRuns pump → EngineRuns (finalState (liftNozzle env nozzle) pump)) := by
  unfold liftNozzle
  rw [finalState_get_bind, if_neg hknown, finalState_modify_bind, finalState_modify_bind,
    finalState_bind_pure]
  generalize hselected : ({ pump with
    selectedNozzle := some nozzle
    nozzleOut := true
    priceVerified := true }.syncContextFields) = selected
  have hlifted : EngineRuns pump → EngineRuns (selected.applyEvent .NOZZLE_LIFTED
      { selectedNozzle := some nozzle, priceVerified := some true }) := by
    intro hruns
    refine engineRuns_applyEvent ?_ (by decide) rfl rfl rfl
    rw [← hselected]
    exact hruns
  have hqueued := onlyQueued_queueStatusAndNozzle (selected.applyEvent .NOZZLE_LIFTED
    { selectedNozzle := some nozzle, priceVerified := some true })
  have hreported := kept_of_onlyQueued hqueued
  have hfilling : (finalState queueStatusAndNozzle (selected.applyEvent .NOZZLE_LIFTED
      { selectedNozzle := some nozzle, priceVerified := some true })).fillingActive =
        selected.fillingActive := by
    unfold OnlyQueued at hqueued
    rw [hqueued]
    rfl
  refine ⟨?_, ?_, fun hruns => hreported.engine.runs (hlifted hruns)⟩
  · rw [hreported.fields, fields_applyEvent, ← hselected]
    rfl
  · rw [hfilling, ← hselected]
    rfl

end Simulator
end Intelipump
