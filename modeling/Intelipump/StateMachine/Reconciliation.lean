import Mathlib.Tactic.Common
import Intelipump.Controller.Outbound
import Intelipump.Dart.Application.Constants
import Intelipump.StateMachine.Guards
import Intelipump.StateMachine.MachineRuns

namespace Intelipump
namespace StateMachine

open Controller (NON_IDEMPOTENT_COMMANDS)
open Dart.Application
open Dart.Line
open Domain
open Foundation

/-!
# Reconciliation after a restart

The persisted context of a pump meets the first live evidence.  A Wayne status is a byte;
the source hexadecimal of the evidence is read by nothing and is left out.
-/

/-- First live evidence after a restart. -/
structure LiveObservationSummary where
  communicationHealthy : Bool
  wayneStatus : Option Byte := none
  normalizedHint : Option PumpState := none
  observedAt : Option Int := none
  selectedNozzle : Option Nat := none
deriving DecidableEq, Repr

structure ReconciliationResult where
  context : PumpContext
  warnings : List String
  recoveredState : PumpState
  preservedUnresolvedTransactionId : Option String
  discardedPendingCommands : List String
  autoAuthorizeAttempted : Bool := false
  pendingCommandsReplayed : Bool := false
deriving DecidableEq

/-- The state a Wayne status stands for; a pump that is switched off has none. -/
def liveStateOf : WaynePumpStatus → Option PumpState
  | .PUMP_NOT_PROGRAMMED => some .NOT_PROGRAMMED
  | .RESET => some .RESET
  | .AUTHORIZED => some .AUTHORIZED
  | .FILLING => some .FILLING
  | .FILLING_COMPLETED => some .FILLING_COMPLETE
  | .MAX_AMOUNT_VOLUME_REACHED => some .LIMIT_REACHED
  | .SUSPENDED => some .SUSPENDED
  | .SWITCHED_OFF => none

def inferLiveState (live : LiveObservationSummary) : Option PumpState :=
  match live.normalizedHint with
  | some hint => some hint
  | none => (live.wayneStatus.bind WaynePumpStatus.ofCode?).bind liveStateOf

/-! ## Warnings -/

def openingWarnings : List String :=
  ["Restart reconciliation: live dispenser state preferred over persisted.",
    "Never automatically authorize after restart."]

def discardWarning (cmd : PumpCommand) : String :=
  if cmd ∈ NON_IDEMPOTENT_COMMANDS then
    s!"Discarded pending non-idempotent command {cmd.value}; will not replay."
  else s!"Discarded pending command {cmd.value}; not replayed."

/-- The warnings before the live evidence is looked at. -/
def pendingWarnings (persisted : PumpContext) (hadActiveTransactionPersisted : Option Bool)
    (pendingCommands : List PumpCommand) : List String :=
  openingWarnings ++ pendingCommands.map discardWarning ++
    (if PumpCommand.AUTHORIZE ∈ pendingCommands then
      ["Persisted pending AUTHORIZE was discarded; no auto-authorization."]
    else []) ++
    if hadActiveTransactionPersisted = some true ∨ persisted.activeTransactionId ≠ none then
      ["Preserving unresolved transaction id for investigation; " ++
        "not clearing on restart alone."]
    else []

/-- The warnings about a live state. -/
def liveWarnings (persisted : PumpContext) (liveState : PumpState) : List String :=
  (if liveState = .FILLING then
    ["Live state indicates FILLING; recovered into FILLING with warning " ++
      "(prefer live over persisted)."]
  else []) ++
  (if liveState = .FILLING_COMPLETE then
    ["Live state indicates FILLING_COMPLETE; recovered into FILLING_COMPLETE."]
  else []) ++
  (if persisted.currentState = .FILLING ∧ liveState ≠ .FILLING then
    [s!"Persisted state was FILLING but live indicates {liveState.value}; " ++ "live wins."]
  else []) ++
  if liveState = .AUTHORIZED then
    ["Live Wayne AUTHORIZED observed; recovering to AUTHORIZED from live " ++
      "evidence only (not from persisted pending AUTHORIZE)."]
  else []

/-! ## The three exits -/

/-- Without communication the pump is disconnected. -/
def disconnectedContext (persisted : PumpContext) (live : LiveObservationSummary)
    (warnings : List String) : PumpContext :=
  { persisted with
    previousState := some persisted.currentState
    currentState := .DISCONNECTED
    communicationHealthy := false
    stateVersion := persisted.stateVersion + 1
    lastObservationAt := live.observedAt
    lastTransitionAt := live.observedAt
    warnings := persisted.warnings ++ warnings }

/-- With communication the pump is in the given state; the prices count as unverified.  A
live nozzle 0 counts as none. -/
def liveContext (persisted : PumpContext) (live : LiveObservationSummary)
    (state : PumpState) (warnings : List String) : PumpContext :=
  { persisted with
    previousState := some persisted.currentState
    currentState := state
    communicationHealthy := true
    stateVersion := persisted.stateVersion + 1
    lastObservationAt := live.observedAt
    lastTransitionAt := live.observedAt
    lastRawWayneStatus := live.wayneStatus
    selectedNozzle := (live.selectedNozzle.filter (· ≠ 0)).or persisted.selectedNozzle
    warnings := persisted.warnings ++ warnings
    priceVerified := false }

def reconcileAfterRestart (persisted : PumpContext) (live : LiveObservationSummary)
    (hadActiveTransactionPersisted : Option Bool) (pendingCommands : List PumpCommand) :
    ReconciliationResult :=
  let warnings := pendingWarnings persisted hadActiveTransactionPersisted pendingCommands
  let unresolved := persisted.activeTransactionId
  let discarded := pendingCommands.map (·.value)
  if live.communicationHealthy = false then {
    context := disconnectedContext persisted live warnings
    warnings := warnings ++ ["No communication after restart; remain DISCONNECTED."]
    recoveredState := .DISCONNECTED
    preservedUnresolvedTransactionId := unresolved
    discardedPendingCommands := discarded }
  else
    match inferLiveState live with
    | none => {
        context := liveContext persisted live .DISCOVERING warnings
        warnings := warnings ++
          ["Live state unknown after restart; remain DISCOVERING (not AUTHORIZED/FILLING)."]
        recoveredState := .DISCOVERING
        preservedUnresolvedTransactionId := unresolved
        discardedPendingCommands := discarded }
    | some liveState =>
        let warnings := warnings ++ liveWarnings persisted liveState
        { context :=
            { liveContext persisted live liveState warnings with
              faultCode := if liveState = .FAULTED then persisted.faultCode else none }
          warnings := warnings
          recoveredState := liveState
          preservedUnresolvedTransactionId := unresolved
          discardedPendingCommands := discarded }

/-! ## What a reconciliation does -/

/-- The three exits of a reconciliation. -/
theorem reconcileAfterRestart_cases (persisted : PumpContext) (live : LiveObservationSummary)
    (had : Option Bool) (pending : List PumpCommand) :
    let result := reconcileAfterRestart persisted live had pending
    let warnings := pendingWarnings persisted had pending
    (live.communicationHealthy = false ∧
        result.context = disconnectedContext persisted live warnings ∧
        result.recoveredState = .DISCONNECTED) ∨
      (live.communicationHealthy = true ∧ inferLiveState live = none ∧
        result.context = liveContext persisted live .DISCOVERING warnings ∧
        result.recoveredState = .DISCOVERING) ∨
      ∃ liveState, live.communicationHealthy = true ∧ inferLiveState live = some liveState ∧
        result.context =
          { liveContext persisted live liveState (warnings ++ liveWarnings persisted liveState)
            with
            faultCode := if liveState = .FAULTED then persisted.faultCode else none } ∧
        result.recoveredState = liveState := by
  unfold reconcileAfterRestart
  dsimp only
  cases hhealthy : live.communicationHealthy with
  | false => exact Or.inl ⟨rfl, rfl, rfl⟩
  | true =>
      right
      rw [if_neg Bool.true_eq_false.mp]
      cases hlive : inferLiveState live with
      | none => exact Or.inl ⟨rfl, rfl, rfl, rfl⟩
      | some liveState => exact Or.inr ⟨liveState, rfl, rfl, rfl, rfl⟩

/-- A live state is what the pump recovers to. -/
theorem recoveredState_of_live {live : LiveObservationSummary} {liveState : PumpState}
    (persisted : PumpContext) (had : Option Bool) (pending : List PumpCommand)
    (hhealthy : live.communicationHealthy = true) (hlive : inferLiveState live = some liveState) :
    (reconcileAfterRestart persisted live had pending).recoveredState = liveState := by
  unfold reconcileAfterRestart
  dsimp only
  rw [hhealthy, if_neg Bool.true_eq_false.mp, hlive]

/-- Every exit says what it recovered to, keeps the unresolved transaction, and neither
authorizes nor replays. -/
theorem reconcileAfterRestart_keeps (persisted : PumpContext) (live : LiveObservationSummary)
    (had : Option Bool) (pending : List PumpCommand) :
    let result := reconcileAfterRestart persisted live had pending
    result.context.currentState = result.recoveredState ∧
      result.context.communicationHealthy = live.communicationHealthy ∧
      result.context.activeTransactionId = persisted.activeTransactionId ∧
      result.preservedUnresolvedTransactionId = persisted.activeTransactionId ∧
      result.discardedPendingCommands = pending.map (·.value) ∧
      result.autoAuthorizeAttempted = false ∧ result.pendingCommandsReplayed = false := by
  unfold reconcileAfterRestart
  dsimp only
  cases hhealthy : live.communicationHealthy with
  | false => exact ⟨rfl, rfl, rfl, rfl, rfl, rfl, rfl⟩
  | true =>
      rw [if_neg Bool.true_eq_false.mp]
      cases inferLiveState live with
      | none => exact ⟨rfl, rfl, rfl, rfl, rfl, rfl, rfl⟩
      | some liveState => exact ⟨rfl, rfl, rfl, rfl, rfl, rfl, rfl⟩

/-! ## No authorization without verified prices -/

/-- The prices count as verified after a restart only when there was no communication to
reconcile with. -/
theorem priceVerified_reconcileAfterRestart (persisted : PumpContext)
    (live : LiveObservationSummary) (had : Option Bool) (pending : List PumpCommand) :
    (reconcileAfterRestart persisted live had pending).context.priceVerified =
      (!live.communicationHealthy && persisted.priceVerified) := by
  rcases reconcileAfterRestart_cases persisted live had pending with
    ⟨hhealthy, hcontext, -⟩ | ⟨hhealthy, -, hcontext, -⟩ |
    ⟨liveState, hhealthy, -, hcontext, -⟩
  · rw [hcontext, hhealthy]
    rfl
  · rw [hcontext, hhealthy]
    rfl
  · rw [hcontext, hhealthy]
    rfl

/-- A call that does not say so never makes the prices verified. -/
theorem priceVerified_afterCall {ctx : PumpContext} {call : ApplyCall}
    (hcall : call.args.priceVerified ≠ some true) (hctx : ctx.priceVerified = false) :
    (afterCall ctx call).priceVerified = false := by
  have hnot : call.args.priceVerified.getD ctx.priceVerified = false := by
    rw [hctx]
    cases hprice : call.args.priceVerified with
    | none => rfl
    | some verified =>
        cases verified with
        | false => rfl
        | true => exact absurd hprice hcall
  rw [afterCall_eq, contextAfter_priceVerified]
  split
  · exact hnot
  · exact hnot
  · exact hctx

theorem priceVerified_afterCalls {ctx : PumpContext} {calls : List ApplyCall}
    (hcalls : ∀ call ∈ calls, call.args.priceVerified ≠ some true)
    (hctx : ctx.priceVerified = false) : (afterCalls ctx calls).priceVerified = false := by
  have halong : Runs.Along afterCall (fun _ call => call.args.priceVerified ≠ some true)
      ctx calls :=
    Runs.along_of_forall fun call hcall _ => hcalls call hcall
  have hstep : ∀ (context : PumpContext) (call : ApplyCall),
      context.priceVerified = false → call.args.priceVerified ≠ some true →
        (afterCall context call).priceVerified = false :=
    fun _ _ hprice hcall => priceVerified_afterCall hcall hprice
  exact Runs.invariant_of_along hstep hctx halong

/-- Calls that bring a disconnected pump to a lifted nozzle; the fault clears what was
open before. -/
def reconnectCalls : List ApplyCall :=
  [{ event := .COMMUNICATION_STARTED }, { event := .FAULT_OBSERVED },
    { event := .FAULT_CLEARED }, { event := .READY_OBSERVED },
    { event := .NOZZLE_LIFTED, args := { selectedNozzle := some 1 } }]

/-- A disconnected pump with verified prices can come to be authorized. -/
theorem readyToAuthorize_reconnectCalls {ctx : PumpContext}
    (hstate : ctx.currentState = .DISCONNECTED) (hprice : ctx.priceVerified = true) :
    ReadyToAuthorize (afterCalls ctx reconnectCalls) := by
  let discovering := transitionContext ctx .COMMUNICATION_STARTED {} .DISCOVERING
  let faulted := transitionContext discovering .FAULT_OBSERVED {} .FAULTED
  let cleared := transitionContext faulted .FAULT_CLEARED {} .DISCOVERING
  let ready := transitionContext cleared .READY_OBSERVED {} .READY
  let lifted := transitionContext ready .NOZZLE_LIFTED { selectedNozzle := some 1 } .NOZZLE_UP
  have hstarted : afterCall ctx { event := .COMMUNICATION_STARTED } = discovering :=
    afterCall_transition rfl rfl rfl (by rw [hstate]; rfl)
  have hfaulted : afterCall discovering { event := .FAULT_OBSERVED } = faulted :=
    afterCall_transition rfl rfl rfl rfl
  have hcleared : afterCall faulted { event := .FAULT_CLEARED } = cleared :=
    afterCall_transition rfl rfl rfl rfl
  have hready : afterCall cleared { event := .READY_OBSERVED } = ready :=
    afterCall_transition rfl rfl rfl rfl
  have hlifted : afterCall ready
      { event := .NOZZLE_LIFTED, args := { selectedNozzle := some 1 } } = lifted :=
    afterCall_transition rfl rfl rfl rfl
  have hrun : afterCalls ctx reconnectCalls = lifted := by
    unfold reconnectCalls
    rw [afterCalls_cons, hstarted, afterCalls_cons, hfaulted, afterCalls_cons, hcleared,
      afterCalls_cons, hready, afterCalls_cons, hlifted]
    rfl
  rw [hrun]
  exact {
    nozzleUp := rfl
    nozzleKnown := Option.some_ne_none 1
    priceVerified := hprice
    healthy := rfl
    noTransaction := rfl
    noFault := rfl }

/-- No run of calls that never says the prices are verified makes AUTHORIZE eligible. -/
def NeverAuthorizes (ctx : PumpContext) : Prop :=
  ∀ calls : List ApplyCall, (∀ call ∈ calls, call.args.priceVerified ≠ some true) →
    ∀ earlier, earlier <+: calls → ∀ presetValue,
      (evaluateCommandEligibility .AUTHORIZE (afterCalls ctx earlier) presetValue).eligible =
        false

/-- After a restart AUTHORIZE waits for verified prices exactly when there was live
communication or the persisted prices were unverified. -/
theorem restart_never_authorizes_iff (persisted : PumpContext)
    (live : LiveObservationSummary) (hadActiveTransactionPersisted : Option Bool)
    (pendingCommands : List PumpCommand) :
    NeverAuthorizes (reconcileAfterRestart persisted live hadActiveTransactionPersisted
        pendingCommands).context ↔
      live.communicationHealthy = true ∨ persisted.priceVerified = false := by
  have hprice := priceVerified_reconcileAfterRestart persisted live
    hadActiveTransactionPersisted pendingCommands
  constructor
  · intro hnever
    by_contra hfails
    obtain ⟨hunhealthy, hverified⟩ := not_or.mp hfails
    rw [Bool.not_eq_true] at hunhealthy
    rw [Bool.not_eq_false] at hverified
    rw [hunhealthy, hverified] at hprice
    have hstate : (reconcileAfterRestart persisted live hadActiveTransactionPersisted
        pendingCommands).context.currentState = .DISCONNECTED := by
      rcases reconcileAfterRestart_cases persisted live hadActiveTransactionPersisted
        pendingCommands with ⟨-, hcontext, -⟩ | ⟨hhealthy, -⟩ | ⟨-, hhealthy, -⟩
      · rw [hcontext]
        rfl
      · rw [hunhealthy] at hhealthy
        cases hhealthy
      · rw [hunhealthy] at hhealthy
        cases hhealthy
    have hready := readyToAuthorize_reconnectCalls hstate hprice
    have hineligible := hnever reconnectCalls (by decide) reconnectCalls List.prefix_rfl none
    rw [(authorize_eligible_iff _ _).mpr hready] at hineligible
    cases hineligible
  · intro hkept calls hcalls earlier hearlier presetValue
    have hunverified : (reconcileAfterRestart persisted live hadActiveTransactionPersisted
        pendingCommands).context.priceVerified = false := by
      rw [hprice]
      rcases hkept with hhealthy | hpersisted
      · rw [hhealthy]
        rfl
      · rw [hpersisted, Bool.and_false]
    have hnow := priceVerified_afterCalls
      (fun call hcall => hcalls call (hearlier.subset hcall)) hunverified
    rw [← Bool.not_eq_true, authorize_eligible_iff]
    intro hready
    rw [hready.priceVerified] at hnow
    cases hnow

/-- A context that was persisted with verified prices, and no communication after the
restart. -/
theorem restart_authorizes_without_communication :
    ¬ NeverAuthorizes (reconcileAfterRestart
      { pumpId := "pump-1", dartAddress := 1, priceVerified := true }
      { communicationHealthy := false } none []).context := by
  intro hnever
  have hineligible := hnever reconnectCalls (by decide) reconnectCalls List.prefix_rfl none
  exact absurd hineligible (by decide)

end StateMachine
end Intelipump
