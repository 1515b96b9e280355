import Mathlib.Tactic.Common
import Intelipump.Foundation.Runs
import Intelipump.StateMachine.Machine

namespace Intelipump
namespace StateMachine

open Domain
open Foundation

/-!
# Runs of the pump state machine

A run is a list of calls of `apply`.  The states in which fuel may flow are entered by
one step only, an authorization that is confirmed while the nozzle is up; a run that
ends in such a state has stayed in them since that step.
-/

/-- One call of `apply`. -/
structure ApplyCall where
  event : PumpEvent
  args : ApplyArgs := {}
deriving DecidableEq

/-- The context after one call. -/
def afterCall (ctx : PumpContext) (call : ApplyCall) : PumpContext :=
  (apply ctx call.event call.args).context

/-- The context after a run of calls. -/
def afterCalls (ctx : PumpContext) (calls : List ApplyCall) : PumpContext :=
  calls.foldl afterCall ctx

theorem afterCall_eq (ctx : PumpContext) (call : ApplyCall) :
    afterCall ctx call =
      contextAfter ctx call.event call.args (outcome ctx call.event call.args) :=
  apply_context ctx call.event call.args

theorem afterCalls_cons (ctx : PumpContext) (call : ApplyCall) (rest : List ApplyCall) :
    afterCalls ctx (call :: rest) = afterCalls (afterCall ctx call) rest := rfl

theorem afterCalls_append (ctx : PumpContext) (first second : List ApplyCall) :
    afterCalls ctx (first ++ second) = afterCalls (afterCalls ctx first) second :=
  List.foldl_append

/-- A call that names no time, no frame and no completion is decided by the table. -/
theorem afterCall_of_table {ctx : PumpContext} {event : PumpEvent} {args : ApplyArgs}
    (htime : args.observedAt = none) (hframe : args.sourceFrame = none)
    (hkey : args.completionEvidenceKey = none) :
    afterCall ctx ⟨event, args⟩ =
      contextAfter ctx event args
        (tableOutcome ctx.currentState event args.allowImplicitAuthorizeToFilling) := by
  have hfresh : ¬ IsDuplicateFrame ctx args := fun hduplicate => hduplicate.1 hframe
  have hnew : ¬ IsDuplicateCompletion ctx event args := by
    rintro ⟨-, key, hmem, -⟩
    rw [hkey] at hmem
    cases hmem
  rw [afterCall_eq, outcome_eq_tableOutcome (not_isStale htime) hfresh hnew]

theorem afterCall_transition {ctx : PumpContext} {event : PumpEvent} {args : ApplyArgs}
    {target : PumpState} (htime : args.observedAt = none) (hframe : args.sourceFrame = none)
    (hkey : args.completionEvidenceKey = none)
    (htable : tableOutcome ctx.currentState event args.allowImplicitAuthorizeToFilling =
      .transition target) :
    afterCall ctx ⟨event, args⟩ = transitionContext ctx event args target := by
  rw [afterCall_of_table htime hframe hkey, htable]
  rfl

/-! ## Fuel flows only after an authorization -/

/-- The states of an authorized filling. -/
def fillingStates : List PumpState :=
  [.AUTHORIZED, .FILLING, .SUSPENDED, .LIMIT_REACHED, .FILLING_COMPLETE]

/-- The states in which no filling is authorized. -/
def idleStates : List PumpState :=
  [.DISCONNECTED, .DISCOVERING, .NOT_PROGRAMMED, .RESET, .READY, .NOZZLE_UP, .FAULTED,
    .MAINTENANCE]

theorem not_mem_idleStates_iff (state : PumpState) :
    state ∉ idleStates ↔ state ∈ fillingStates := by
  cases state <;> decide

/-- The call is an AUTHORIZATION_CONFIRMED that is accepted in NOZZLE_UP. -/
def ConfirmsAuthorization (ctx : PumpContext) (call : ApplyCall) : Prop :=
  call.event = .AUTHORIZATION_CONFIRMED ∧ ctx.currentState = .NOZZLE_UP ∧
    (apply ctx call.event call.args).accepted = true

/-- The run contains a confirmed authorization, and the machine has not been idle
since. -/
def AuthorizedSince (ctx : PumpContext) (calls : List ApplyCall) : Prop :=
  Runs.Since afterCall ConfirmsAuthorization
    (fun context => context.currentState ∉ idleStates) ctx calls

/-- The table leads out of the idle states from NOZZLE_UP only. -/
theorem lookupTransition_filling {state target : PumpState} {event : PumpEvent}
    (hlookup : lookupTransition state event = some target)
    (htarget : target ∉ idleStates) :
    state ∉ idleStates ∨
      state = .NOZZLE_UP ∧ (event = .AUTHORIZATION_CONFIRMED ∨ event = .FILLING_STARTED) := by
  by_cases hstate : state ∈ idleStates
  · right
    have hentered : lookupTransition state event ∈ fillingStates.map some := by
      rw [hlookup]
      exact List.mem_map_of_mem ((not_mem_idleStates_iff target).mp htarget)
    revert hentered
    cases state <;> cases event <;> revert hstate <;> decide
  · exact Or.inl hstate

/-- A call without the implicit allowance leaves the idle states by a confirmed
authorization only. -/
theorem filling_afterCall {ctx : PumpContext} {call : ApplyCall}
    (hexplicit : call.args.allowImplicitAuthorizeToFilling = false)
    (hfilling : (afterCall ctx call).currentState ∉ idleStates) :
    ctx.currentState ∉ idleStates ∨ ConfirmsAuthorization ctx call := by
  have hstate := contextAfter_currentState ctx call.event call.args
    (outcome ctx call.event call.args)
  rw [afterCall_eq] at hfilling
  cases houtcome : outcome ctx call.event call.args with
  | transition target =>
      rw [houtcome] at hstate hfilling
      rw [hstate] at hfilling
      obtain ⟨hauthorized, hlookup⟩ := transition_of_outcome houtcome
      rcases lookupTransition_filling hlookup hfilling with hstayed | ⟨hnozzle, hevent⟩
      · exact Or.inl hstayed
      · right
        -- FILLING_STARTED in NOZZLE_UP is refused without the allowance
        have hconfirmed : call.event = .AUTHORIZATION_CONFIRMED :=
          hevent.resolve_right fun hstarted => hauthorized ⟨hnozzle, hstarted, hexplicit⟩
        have hmoves := accepted_and_not_noop_iff ctx call.event call.args
        rw [houtcome] at hmoves
        exact ⟨hconfirmed, hnozzle, (hmoves.mpr rfl).1⟩
  | _ =>
      rw [houtcome] at hstate hfilling
      rw [hstate] at hfilling
      exact Or.inl hfilling

theorem authorizedSince_of_filling {ctx : PumpContext} {calls : List ApplyCall}
    (hinitial : ctx.currentState = .DISCONNECTED)
    (hexplicit : ∀ call ∈ calls, call.args.allowImplicitAuthorizeToFilling = false)
    (hfilling : (afterCalls ctx calls).currentState ∈ fillingStates) :
    AuthorizedSince ctx calls := by
  have hidle : ¬ ctx.currentState ∉ idleStates := by
    rw [hinitial]
    decide
  exact Runs.since_of_along (fun _ _ => filling_afterCall) hidle
    (Runs.along_of_forall fun call hcall _ => hexplicit call hcall)
    ((not_mem_idleStates_iff _).mpr hfilling)

end StateMachine
end Intelipump
