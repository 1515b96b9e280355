import Mathlib.Tactic.Common
import Intelipump.StateMachine.Guards
import Intelipump.StateMachine.MachineRuns

namespace Intelipump
namespace StateMachine

open Domain
open Foundation

/-!
# Clearing a recorded fault

FAULT_CLEARED is accepted in FAULTED only, but the fault code is carried through every
transition that leaves FAULTED another way, and any call may write one.  A fault that is
recorded outside FAULTED cannot be cleared, and blocks the authorization for as long as
no new fault is observed.
-/

/-- AUTHORIZE is eligible in the context. -/
def AuthorizeEligible (ctx : PumpContext) : Prop :=
  (evaluateCommandEligibility .AUTHORIZE ctx none).eligible = true

/-- A recorded fault can be cleared: FAULT_CLEARED is accepted and leaves no fault, and
calls that observe no new fault then make AUTHORIZE eligible. -/
def FaultClearable (ctx : PumpContext) : Prop :=
  ctx.faultCode ≠ none →
    (apply ctx .FAULT_CLEARED {}).accepted = true ∧
      (apply ctx .FAULT_CLEARED {}).context.faultCode = none ∧
      ∃ calls : List ApplyCall, (∀ call ∈ calls, call.event ≠ .FAULT_OBSERVED) ∧
        AuthorizeEligible (afterCalls (apply ctx .FAULT_CLEARED {}).context calls)

/-- A fault is recorded in FAULTED only. -/
def FaultHeld (ctx : PumpContext) : Prop :=
  ctx.faultCode ≠ none → ctx.currentState = .FAULTED

/-- The call records no fault outside FAULTED and carries none out of it: a transition
observes a fault, clears it, or meets none and brings none; a repeated state outside
FAULTED brings none. -/
def KeepsFaultHeld (ctx : PumpContext) (call : ApplyCall) : Prop :=
  match outcome ctx call.event call.args with
  | .transition _ =>
      call.event = .FAULT_OBSERVED ∨ call.event = .FAULT_CLEARED ∨
        ctx.faultCode = none ∧ call.args.faultCode = none
  | .sameState => ctx.currentState = .FAULTED ∨ call.args.faultCode = none
  | _ => True

/-! ## One context -/

/-- The outcome of a plain FAULT_CLEARED. -/
theorem outcome_fault_cleared (ctx : PumpContext) :
    outcome ctx .FAULT_CLEARED {} =
      if ctx.currentState = .FAULTED then .transition .DISCOVERING else .invalid := by
  have hframe : ¬ IsDuplicateFrame ctx {} := fun hduplicate => hduplicate.1 rfl
  have hcompletion : ¬ IsDuplicateCompletion ctx .FAULT_CLEARED {} := by
    rintro ⟨hevent, -⟩
    cases hevent
  rw [outcome_eq_tableOutcome (not_isStale rfl) hframe hcompletion]
  cases ctx.currentState <;> rfl

/-- The calls that bring a pump back to an authorization once its fault is cleared. -/
def recoveryCalls : List ApplyCall :=
  [⟨.COMMUNICATION_STARTED, {}⟩,
    ⟨.READY_OBSERVED, { selectedNozzle := some 1, priceVerified := some true }⟩,
    ⟨.NOZZLE_LIFTED, {}⟩]

theorem authorizeEligible_recoveryCalls (ctx : PumpContext) :
    AuthorizeEligible
      (afterCalls (transitionContext ctx .FAULT_CLEARED {} .DISCOVERING) recoveryCalls) := by
  unfold recoveryCalls
  -- communication repeats DISCOVERING, then READY, then NOZZLE_UP
  rw [afterCalls_cons, afterCall_of_table rfl rfl rfl]
  rw [afterCalls_cons, afterCall_transition rfl rfl rfl rfl]
  rw [afterCalls_cons, afterCall_transition rfl rfl rfl rfl]
  rw [AuthorizeEligible, authorize_eligible_iff]
  exact ⟨rfl, nofun, rfl, rfl, rfl, rfl⟩

/-- A fault can be cleared exactly in FAULTED. -/
theorem faultClearable_iff (ctx : PumpContext) : FaultClearable ctx ↔ FaultHeld ctx := by
  have houtcome := outcome_fault_cleared ctx
  constructor
  · intro hclearable hfault
    by_contra hstate
    have haccepted := (hclearable hfault).1
    rw [apply_accepted, houtcome, if_neg hstate] at haccepted
    cases haccepted
  · intro hheld hfault
    rw [if_pos (hheld hfault)] at houtcome
    have hcontext : (apply ctx .FAULT_CLEARED {}).context =
        transitionContext ctx .FAULT_CLEARED {} .DISCOVERING := by
      rw [apply_context, houtcome]
      rfl
    refine ⟨?_, ?_, recoveryCalls, by decide, ?_⟩
    · rw [apply_accepted, houtcome]
      rfl
    · rw [hcontext]
      rfl
    · rw [hcontext]
      exact authorizeEligible_recoveryCalls ctx

/-! ## One call -/

/-- FAULTED is entered by FAULT_OBSERVED, which leads nowhere else. -/
theorem lookup_faulted_iff {state target : PumpState} {event : PumpEvent}
    (hlookup : lookupTransition state event = some target) :
    target = .FAULTED ↔ event = .FAULT_OBSERVED := by
  have htable : ∀ entry ∈ lookupTransition state event,
      (entry = .FAULTED ↔ event = .FAULT_OBSERVED) := by
    cases state <;> cases event <;> decide
  exact htable target hlookup

/-- From a context whose fault is held in FAULTED, a call keeps it so exactly when it
neither records a fault outside FAULTED nor carries one out. -/
theorem faultHeld_afterCall_iff (ctx : PumpContext) (call : ApplyCall)
    (hheld : FaultHeld ctx) : FaultHeld (afterCall ctx call) ↔ KeepsFaultHeld ctx call := by
  unfold KeepsFaultHeld
  rw [afterCall_eq]
  cases houtcome : outcome ctx call.event call.args with
  | sameState =>
      change (call.args.faultCode.or ctx.faultCode ≠ none → ctx.currentState = .FAULTED) ↔ _
      rw [Ne, Option.or_eq_none_iff]
      unfold FaultHeld at hheld
      tauto
  | transition target =>
      have hfaulted := lookup_faulted_iff (lookup_of_outcome houtcome)
      change ((if call.event = .FAULT_CLEARED then none
        else call.args.faultCode.or ctx.faultCode) ≠ none → target = .FAULTED) ↔ _
      rw [hfaulted]
      split
      · rename_i hcleared
        exact iff_of_true (fun hnone => absurd rfl hnone) (Or.inr (Or.inl hcleared))
      · rename_i hcleared
        rw [Ne, Option.or_eq_none_iff]
        tauto
  | _ => exact iff_of_true hheld trivial

/-! ## Runs -/

/-- In a run from a context without a fault, every context passed can clear its fault
exactly when every call keeps the fault held. -/
theorem fault_clearable_iff {ctx : PumpContext} (calls : List ApplyCall)
    (hinitial : ctx.faultCode = none) :
    (∀ earlier, earlier <+: calls → FaultClearable (afterCalls ctx earlier)) ↔
      Runs.Along afterCall KeepsFaultHeld ctx calls := by
  have hheld : FaultHeld ctx := fun hfault => absurd hinitial hfault
  rw [← Runs.forall_prefix_iff_along faultHeld_afterCall_iff hheld]
  exact forall_congr' fun earlier =>
    imp_congr_right fun _ => faultClearable_iff (afterCalls ctx earlier)

/-- A fault that is observed while communication is up, and cleared. -/
def repairedFault : List ApplyCall :=
  [⟨.COMMUNICATION_STARTED, {}⟩, ⟨.FAULT_OBSERVED, { faultCode := some 4 }⟩,
    ⟨.FAULT_CLEARED, {}⟩]

theorem fault_clearable_after_repair :
    (afterCalls { pumpId := "pump-1", dartAddress := 0x50 } (repairedFault.take 2)).faultCode =
        some 4 ∧
      ∀ earlier, earlier <+: repairedFault →
        FaultClearable (afterCalls { pumpId := "pump-1", dartAddress := 0x50 } earlier) :=
  ⟨by decide, (fault_clearable_iff repairedFault rfl).mpr
    ⟨Or.inr (Or.inr ⟨rfl, rfl⟩), Or.inl rfl, Or.inr (Or.inl rfl), trivial⟩⟩

/-- A pump that is faulted when the communication is lost. -/
def lostWhileFaulted : List ApplyCall :=
  [⟨.COMMUNICATION_STARTED, {}⟩, ⟨.FAULT_OBSERVED, { faultCode := some 4 }⟩,
    ⟨.COMMUNICATION_LOST, {}⟩]

theorem fault_kept_after_loss :
    ¬ ∀ calls : List ApplyCall,
      FaultClearable (afterCalls { pumpId := "pump-1", dartAddress := 0x50 } calls) := by
  intro hall
  have hheld := (faultClearable_iff _).mp (hall lostWhileFaulted)
  have hstate := hheld (by decide)
  revert hstate
  decide

end StateMachine
end Intelipump
