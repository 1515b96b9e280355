import Mathlib.Tactic.Common
import Intelipump.StateMachine.MachineRuns

namespace Intelipump
namespace StateMachine

open Domain
open Foundation

/-!
# What the state version counts

`state_version` moves on the exits of `apply` that change the context in a way that
counts.  The exit for an event that repeats the state sets `communication_healthy` after
the version was settled, so that the flag can flip without being counted.
-/

/-- One of the fields differs that a change of the context is counted for. -/
def MeaningfullyDiffers (before after : PumpContext) : Prop :=
  after.currentState ≠ before.currentState ∨
    after.selectedNozzle ≠ before.selectedNozzle ∨
    after.activeTransactionId ≠ before.activeTransactionId ∨
    after.communicationHealthy ≠ before.communicationHealthy ∨
    after.lastRawWayneStatus ≠ before.lastRawWayneStatus ∨
    after.priceVerified ≠ before.priceVerified ∨
    after.faultCode ≠ before.faultCode

instance (before after : PumpContext) : Decidable (MeaningfullyDiffers before after) :=
  inferInstanceAs (Decidable (_ ∨ _ ∨ _ ∨ _ ∨ _ ∨ _ ∨ _))

/-- The version moves by one when a counted field changed, and else stays. -/
def CountsChanges (before after : PumpContext) : Prop :=
  after.stateVersion =
    if MeaningfullyDiffers before after then before.stateVersion + 1 else before.stateVersion

instance (before after : PumpContext) : Decidable (CountsChanges before after) :=
  inferInstanceAs (Decidable (_ = _))

/-- An optional argument that is absent or says what is held already. -/
def Repeats {α : Type} (given held : Option α) : Prop :=
  given = none ∨ given = held

/-- The arguments say nothing of a counted field that is not held already. -/
structure SaysNothingNew (ctx : PumpContext) (args : ApplyArgs) : Prop where
  nozzle : Repeats args.selectedNozzle ctx.selectedNozzle
  transaction : Repeats args.activeTransactionId ctx.activeTransactionId
  status : Repeats args.rawWayneStatus ctx.lastRawWayneStatus
  price : Repeats args.priceVerified (some ctx.priceVerified)
  fault : Repeats args.faultCode ctx.faultCode

/-- An event that repeats the state and flips the health flag, past the filters for stale
and duplicate observations, with arguments that change nothing else. -/
structure FlipsHealthOnly (ctx : PumpContext) (call : ApplyCall) : Prop where
  fresh : ¬ IsStale ctx call.args
  newFrame : ¬ IsDuplicateFrame ctx call.args
  flips :
    ctx.currentState = .DISCOVERING ∧ call.event = .COMMUNICATION_STARTED ∧
        ctx.communicationHealthy = false ∨
      ctx.currentState = .DISCONNECTED ∧ call.event = .COMMUNICATION_LOST ∧
        ctx.communicationHealthy = true
  nothingNew : SaysNothingNew ctx call.args

/-! ## Arguments that overwrite a field -/

theorem or_eq_iff_repeats {α : Type} (given held : Option α) :
    given.or held = held ↔ Repeats given held := by
  cases given with
  | none => simp [Repeats]
  | some value => simp [Repeats]

theorem getD_eq_iff_repeats {α : Type} (given : Option α) (held : α) :
    given.getD held = held ↔ Repeats given (some held) := by
  cases given with
  | none => simp [Repeats]
  | some value => simp [Repeats]

theorem not_repeats_iff {α : Type} (given held : Option α) :
    ¬ Repeats given held ↔ given ≠ none ∧ given ≠ held :=
  not_or

theorem saysNothingNew_iff (ctx : PumpContext) (args : ApplyArgs) :
    SaysNothingNew ctx args ↔
      ¬ (¬ Repeats args.selectedNozzle ctx.selectedNozzle ∨
        ¬ Repeats args.activeTransactionId ctx.activeTransactionId ∨
        ¬ Repeats args.rawWayneStatus ctx.lastRawWayneStatus ∨
        ¬ Repeats args.priceVerified (some ctx.priceVerified) ∨
        ¬ Repeats args.faultCode ctx.faultCode) := by
  simp only [not_or, not_not]
  constructor
  · intro hnothing
    exact ⟨hnothing.nozzle, hnothing.transaction, hnothing.status, hnothing.price,
      hnothing.fault⟩
  · rintro ⟨hnozzle, htransaction, hstatus, hprice, hfault⟩
    exact ⟨hnozzle, htransaction, hstatus, hprice, hfault⟩

/-! ## One call -/

/-- The event is let through to the exit for repeated states. -/
theorem outcome_of_flipsHealthOnly {ctx : PumpContext} {call : ApplyCall}
    (hflips : FlipsHealthOnly ctx call) :
    outcome ctx call.event call.args = .sameState := by
  have hcompletion : ¬ IsDuplicateCompletion ctx call.event call.args := by
    rintro ⟨hevent, -⟩
    rcases hflips.flips with ⟨-, hstarted, -⟩ | ⟨-, hlost, -⟩
    · rw [hstarted] at hevent
      cases hevent
    · rw [hlost] at hevent
      cases hevent
  rw [outcome_eq_tableOutcome hflips.fresh hflips.newFrame hcompletion]
  rcases hflips.flips with ⟨hstate, hstarted, -⟩ | ⟨hstate, hlost, -⟩
  · rw [hstate, hstarted]
    rfl
  · rw [hstate, hlost]
    rfl

/-- A context that agrees on the counted fields and on the version counts nothing. -/
theorem countsChanges_of_same {before after : PumpContext}
    (hsame : ¬ MeaningfullyDiffers before after)
    (hversion : after.stateVersion = before.stateVersion) : CountsChanges before after := by
  unfold CountsChanges
  rw [if_neg hsame, hversion]

theorem countsChanges_of_differs {before after : PumpContext}
    (hdiffers : MeaningfullyDiffers before after)
    (hversion : after.stateVersion = before.stateVersion + 1) :
    CountsChanges before after := by
  unfold CountsChanges
  rw [if_pos hdiffers, hversion]

/-- An unknown observation is counted by the raw status it brings. -/
theorem countsChanges_unknownContext (ctx : PumpContext) (args : ApplyArgs) (warn : String) :
    CountsChanges ctx (unknownContext ctx args warn) := by
  have hdiffers : MeaningfullyDiffers ctx (unknownContext ctx args warn) ↔
      args.rawWayneStatus ≠ none ∧ args.rawWayneStatus ≠ ctx.lastRawWayneStatus := by
    rw [← not_repeats_iff, ← or_eq_iff_repeats]
    simp [MeaningfullyDiffers, unknownContext]
  unfold CountsChanges
  simp only [hdiffers]
  rfl

/-- What changes when an event repeats the state: what the arguments say that is new, and
the health. -/
theorem meaningfullyDiffers_sameState_iff (ctx : PumpContext) (event : PumpEvent)
    (args : ApplyArgs) :
    MeaningfullyDiffers ctx (contextAfter ctx event args .sameState) ↔
      healthAfter ctx event ≠ ctx.communicationHealthy ∨ ¬ SaysNothingNew ctx args := by
  rw [saysNothingNew_iff, not_not]
  simp only [← getD_eq_iff_repeats]
  simp only [← or_eq_iff_repeats]
  simp only [MeaningfullyDiffers, contextAfter, applyContextFields]
  tauto

/-- The version after an event that repeats the state: the health is not looked at. -/
theorem stateVersion_sameState (ctx : PumpContext) (event : PumpEvent) (args : ApplyArgs) :
    (SaysNothingNew ctx args →
      (contextAfter ctx event args .sameState).stateVersion = ctx.stateVersion) ∧
    (¬ SaysNothingNew ctx args →
      (contextAfter ctx event args .sameState).stateVersion = ctx.stateVersion + 1) := by
  rw [saysNothingNew_iff, not_not]
  simp only [not_repeats_iff]
  exact ⟨fun hnothing => if_neg hnothing, fun hnew => if_pos hnew⟩

/-- In a repeated state the health flips at the start of communication while discovering,
or at its loss while disconnected. -/
theorem healthAfter_ne_iff {ctx : PumpContext} {event : PumpEvent}
    (hsame : isSameStateNoop ctx.currentState event = true) :
    healthAfter ctx event ≠ ctx.communicationHealthy ↔
      ctx.currentState = .DISCOVERING ∧ event = .COMMUNICATION_STARTED ∧
          ctx.communicationHealthy = false ∨
        ctx.currentState = .DISCONNECTED ∧ event = .COMMUNICATION_LOST ∧
          ctx.communicationHealthy = true := by
  revert hsame
  unfold healthAfter
  cases ctx.currentState <;> cases event <;> cases ctx.communicationHealthy <;> decide

/-- An event that repeats the state is counted unless it flips the health only. -/
theorem countsChanges_sameState_iff {ctx : PumpContext} {call : ApplyCall}
    (houtcome : outcome ctx call.event call.args = .sameState) :
    CountsChanges ctx (contextAfter ctx call.event call.args .sameState) ↔
      ¬ FlipsHealthOnly ctx call := by
  have hhealth := healthAfter_ne_iff (sameState_of_outcome houtcome)
  have hdiffers := meaningfullyDiffers_sameState_iff ctx call.event call.args
  have hversion := stateVersion_sameState ctx call.event call.args
  obtain ⟨hfresh, hnewFrame, -⟩ := unfiltered_of_outcome
    (by rw [houtcome]; exact Outcome.noConfusion)
    (by rw [houtcome]; exact Outcome.noConfusion)
    (by rw [houtcome]; exact Outcome.noConfusion)
  by_cases hnothing : SaysNothingNew ctx call.args
  · have hsameVersion := hversion.1 hnothing
    by_cases hflip : healthAfter ctx call.event ≠ ctx.communicationHealthy
    · -- only the health changes, and the version stays
      refine iff_of_false ?_ (not_not.mpr ⟨hfresh, hnewFrame, hhealth.mp hflip, hnothing⟩)
      unfold CountsChanges
      rw [if_pos (hdiffers.mpr (Or.inl hflip)), hsameVersion]
      exact Nat.ne_of_lt (Nat.lt_succ_self _)
    · have hsame : ¬ MeaningfullyDiffers ctx
          (contextAfter ctx call.event call.args .sameState) := by
        rw [hdiffers]
        exact not_or.mpr ⟨hflip, not_not.mpr hnothing⟩
      refine iff_of_true (countsChanges_of_same hsame hsameVersion) ?_
      exact fun hflips => hflip (hhealth.mpr hflips.flips)
  · -- an argument says something new: the version moves, and so does a counted field
    refine iff_of_true ?_ fun hflips => hnothing hflips.nothingNew
    exact countsChanges_of_differs (hdiffers.mpr (Or.inr hnothing)) (hversion.2 hnothing)

/-- A call counts what it changes exactly when it does not flip the health only. -/
theorem countsChanges_afterCall_iff (ctx : PumpContext) (call : ApplyCall) :
    CountsChanges ctx (afterCall ctx call) ↔ ¬ FlipsHealthOnly ctx call := by
  rw [afterCall_eq]
  have hexit : ∀ branch, outcome ctx call.event call.args = branch → branch ≠ .sameState →
      ¬ FlipsHealthOnly ctx call := by
    intro branch houtcome hbranch hflips
    exact hbranch (houtcome.symm.trans (outcome_of_flipsHealthOnly hflips))
  cases houtcome : outcome ctx call.event call.args with
  | sameState => exact countsChanges_sameState_iff houtcome
  | transition target =>
      refine iff_of_true (countsChanges_of_differs (Or.inl ?_) rfl)
        (hexit _ houtcome Outcome.noConfusion)
      exact ne_of_tableOutcome (tableOutcome_of_transition houtcome)
  | unknown =>
      exact iff_of_true (countsChanges_unknownContext ctx call.args unknownWarning)
        (hexit _ houtcome Outcome.noConfusion)
  | _ =>
      -- the remaining exits leave the counted fields and the version
      refine iff_of_true (countsChanges_of_same ?_ rfl) (hexit _ houtcome Outcome.noConfusion)
      simp [MeaningfullyDiffers, contextAfter, duplicateContext]

/-! ## Runs -/

/-- In every run, from any context, each call counts what it changes exactly when no call
flips the health only. -/
theorem calls_count_changes_iff (ctx : PumpContext) (calls : List ApplyCall) :
    Runs.Along afterCall (fun current call => CountsChanges current (afterCall current call))
        ctx calls ↔
      Runs.Along afterCall (fun current call => ¬ FlipsHealthOnly current call) ctx calls :=
  Runs.along_congr countsChanges_afterCall_iff ctx calls

/-- A maintenance entered while disconnected and left again: communication then starts in
a pump that is discovering already. -/
def maintenanceWhileDisconnected : List ApplyCall :=
  [⟨.MAINTENANCE_ENTERED, {}⟩, ⟨.MAINTENANCE_EXITED, {}⟩]

theorem communication_start_not_counted :
    ¬ ∀ (calls : List ApplyCall) (call : ApplyCall),
      CountsChanges (afterCalls { pumpId := "pump-1", dartAddress := 0x50 } calls)
        (afterCall (afterCalls { pumpId := "pump-1", dartAddress := 0x50 } calls) call) := by
  intro hall
  have hcounted := hall maintenanceWhileDisconnected ⟨.COMMUNICATION_STARTED, {}⟩
  revert hcounted
  decide

end StateMachine
end Intelipump
