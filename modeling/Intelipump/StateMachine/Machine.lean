import Mathlib.Tactic.Common
import Intelipump.StateMachine.Models
import Intelipump.StateMachine.Transitions

namespace Intelipump
namespace StateMachine

open Domain
open Dart.Line

/-!
# The pump state machine

`apply` runs one normalized event through the filters of the machine in the
order of the source: stale, duplicate frame, duplicate completion, unknown,
implicit authorization, same state, table.
-/

/-- The keyword arguments of `apply`. -/
structure ApplyArgs where
  observation : Option ObservationRef := none
  observedAt : Option Int := none
  selectedNozzle : Option Nat := none
  activeTransactionId : Option String := none
  rawWayneStatus : Option Byte := none
  priceVerified : Option Bool := none
  faultCode : Option Nat := none
  completionEvidenceKey : Option String := none
  allowImplicitAuthorizeToFilling : Bool := false
deriving DecidableEq

/-- The source frame of an observation, when it names one. -/
def ApplyArgs.sourceFrame (args : ApplyArgs) : Option String :=
  args.observation.bind (·.sourceFrameRawHex)

/-- `last_source_frame_hex` after an observation was taken in; an empty
reference counts as none. -/
def recordedSourceFrame (ctx : PumpContext) (args : ApplyArgs) : Option String :=
  match args.sourceFrame with
  | some hex => if hex ≠ "" then some hex else ctx.lastSourceFrameHex
  | none => ctx.lastSourceFrameHex

/-- A result that leaves everything but the warnings as it was. -/
def rejectedResult (ctx : PumpContext) (event : PumpEvent) (args : ApplyArgs)
    (warn reason : String) (severity : TransitionSeverity) : TransitionResult where
  accepted := false
  context := { ctx with warnings := ctx.warnings ++ [warn] }
  currentState := ctx.currentState
  previousState := ctx.previousState
  attemptedEvent := event
  reason := reason
  severity := severity
  observation := args.observation
  warnings := [warn]

/-- An accepted result that does not move the state. -/
def noopResult (ctx newCtx : PumpContext) (event : PumpEvent) (args : ApplyArgs)
    (warnings : List String) (reason : String) (severity : TransitionSeverity) :
    TransitionResult where
  accepted := true
  context := newCtx
  currentState := ctx.currentState
  previousState := ctx.previousState
  attemptedEvent := event
  reason := reason
  severity := severity
  noop := true
  observation := args.observation
  warnings := warnings

/-- The context after a duplicate: only the observation time and a warning. -/
def duplicateContext (ctx : PumpContext) (args : ApplyArgs) (warn : String) :
    PumpContext :=
  { ctx with
    lastObservationAt := args.observedAt.or ctx.lastObservationAt
    warnings := ctx.warnings ++ [warn] }

/-- The context after an unknown observation. -/
def unknownContext (ctx : PumpContext) (args : ApplyArgs) (warn : String) :
    PumpContext :=
  { ctx with
    lastObservationAt := args.observedAt.or ctx.lastObservationAt
    lastRawWayneStatus := args.rawWayneStatus.or ctx.lastRawWayneStatus
    lastSourceFrameHex := recordedSourceFrame ctx args
    warnings := ctx.warnings ++ [warn]
    stateVersion :=
      if args.rawWayneStatus ≠ none ∧ args.rawWayneStatus ≠ ctx.lastRawWayneStatus then
        ctx.stateVersion + 1
      else ctx.stateVersion }

/-- `_apply_context_fields`, as the same-state branch calls it: no completion
key, and the version moves when a field does. -/
def applyContextFields (ctx : PumpContext) (args : ApplyArgs) : PumpContext :=
  let nozzleChanged :=
    args.selectedNozzle ≠ none ∧ args.selectedNozzle ≠ ctx.selectedNozzle
  let transactionChanged :=
    args.activeTransactionId ≠ none ∧
      args.activeTransactionId ≠ ctx.activeTransactionId
  let statusChanged :=
    args.rawWayneStatus ≠ none ∧ args.rawWayneStatus ≠ ctx.lastRawWayneStatus
  let priceChanged :=
    args.priceVerified ≠ none ∧ args.priceVerified ≠ some ctx.priceVerified
  let faultChanged := args.faultCode ≠ none ∧ args.faultCode ≠ ctx.faultCode
  { ctx with
    lastObservationAt := args.observedAt.or ctx.lastObservationAt
    selectedNozzle := args.selectedNozzle.or ctx.selectedNozzle
    activeTransactionId := args.activeTransactionId.or ctx.activeTransactionId
    lastRawWayneStatus := args.rawWayneStatus.or ctx.lastRawWayneStatus
    priceVerified := args.priceVerified.getD ctx.priceVerified
    faultCode := args.faultCode.or ctx.faultCode
    lastSourceFrameHex := recordedSourceFrame ctx args
    stateVersion :=
      if nozzleChanged ∨ transactionChanged ∨ statusChanged ∨ priceChanged ∨ faultChanged
      then ctx.stateVersion + 1
      else ctx.stateVersion }

/-- `communication_healthy` after an event that was taken in. -/
def healthAfter (ctx : PumpContext) (event : PumpEvent) : Bool :=
  if event = .COMMUNICATION_STARTED then true
  else if event = .COMMUNICATION_LOST then false
  else ctx.communicationHealthy

/-- The context after a table transition to `target`. -/
def transitionContext (ctx : PumpContext) (event : PumpEvent) (args : ApplyArgs)
    (target : PumpState) : PumpContext :=
  let completedKeys :=
    match args.completionEvidenceKey with
    | some key =>
        if event = .FILLING_COMPLETED then insert key ctx.completedEvidenceKeys
        else ctx.completedEvidenceKeys
    | none => ctx.completedEvidenceKeys
  -- an explicit reset or disconnect ends the active transaction
  let clearsTransaction :=
    target ∈ [.RESET, .READY, .DISCONNECTED, .DISCOVERING] ∧
      event ∈ [.RESET_OBSERVED, .COMMUNICATION_LOST, .FAULT_CLEARED, .MAINTENANCE_EXITED]
  { ctx with
    previousState := some ctx.currentState
    currentState := target
    stateVersion := ctx.stateVersion + 1
    lastTransitionAt := args.observedAt.or ctx.lastTransitionAt
    lastObservationAt := args.observedAt.or ctx.lastObservationAt
    communicationHealthy := healthAfter ctx event
    selectedNozzle := args.selectedNozzle.or ctx.selectedNozzle
    activeTransactionId :=
      if clearsTransaction then none
      else args.activeTransactionId.or ctx.activeTransactionId
    lastRawWayneStatus := args.rawWayneStatus.or ctx.lastRawWayneStatus
    priceVerified := args.priceVerified.getD ctx.priceVerified
    faultCode := if event = .FAULT_CLEARED then none else args.faultCode.or ctx.faultCode
    completedEvidenceKeys := completedKeys
    lastSourceFrameHex := recordedSourceFrame ctx args }

/-- The observation is older than the last one taken in. -/
def IsStale (ctx : PumpContext) (args : ApplyArgs) : Prop :=
  match args.observedAt, ctx.lastObservationAt with
  | some observedAt, some last => observedAt < last
  | _, _ => False

/-- The observation names the frame that was taken in last. -/
def IsDuplicateFrame (ctx : PumpContext) (args : ApplyArgs) : Prop :=
  args.sourceFrame ≠ none ∧ args.sourceFrame = ctx.lastSourceFrameHex

/-- A completion whose evidence was recorded before. -/
def IsDuplicateCompletion (ctx : PumpContext) (event : PumpEvent)
    (args : ApplyArgs) : Prop :=
  event = .FILLING_COMPLETED ∧
    ∃ key ∈ args.completionEvidenceKey, key ∈ ctx.completedEvidenceKeys

/-- FILLING_STARTED in NOZZLE_UP without evidence of an authorization. -/
def LacksAuthorization (ctx : PumpContext) (event : PumpEvent)
    (args : ApplyArgs) : Prop :=
  ctx.currentState = .NOZZLE_UP ∧ event = .FILLING_STARTED ∧
    args.allowImplicitAuthorizeToFilling = false

instance (ctx : PumpContext) (args : ApplyArgs) : Decidable (IsStale ctx args) :=
  match hobserved : args.observedAt, hlast : ctx.lastObservationAt with
  | some observedAt, some last =>
      decidable_of_iff (observedAt < last) (by rw [IsStale, hobserved, hlast])
  | none, _ => isFalse (by rw [IsStale, hobserved]; exact id)
  | some _, none => isFalse (by rw [IsStale, hobserved, hlast]; exact id)

instance (ctx : PumpContext) (args : ApplyArgs) :
    Decidable (IsDuplicateFrame ctx args) :=
  inferInstanceAs (Decidable (_ ∧ _))

instance (ctx : PumpContext) (event : PumpEvent) (args : ApplyArgs) :
    Decidable (IsDuplicateCompletion ctx event args) :=
  inferInstanceAs (Decidable (_ ∧ _))

instance (ctx : PumpContext) (event : PumpEvent) (args : ApplyArgs) :
    Decidable (LacksAuthorization ctx event args) :=
  inferInstanceAs (Decidable (_ ∧ _ ∧ _))

def staleWarning (ctx : PumpContext) (event : PumpEvent) (args : ApplyArgs) : String :=
  s!"Stale observation ignored for event {event.value}: " ++
    s!"observed_at={args.observedAt.getD 0} < " ++
    s!"last_observation_at={ctx.lastObservationAt.getD 0}"

def duplicateFrameWarning : String :=
  "Identical source-frame reference; treated as duplicate observation"

def duplicateCompletionWarning (args : ApplyArgs) : String :=
  let key := args.completionEvidenceKey.getD ""
  s!"Duplicate completion evidence ignored: {key}"

def unknownWarning : String := "Unknown observation preserved; state unchanged"

def authorizationWarning : String :=
  "NOZZLE_UP + FILLING_STARTED rejected without evidence of " ++
    "implicit authorization (set allow_implicit_authorize_to_filling)"

def invalidWarning (ctx : PumpContext) (event : PumpEvent) : String :=
  s!"Invalid transition: {ctx.currentState.value} + {event.value}"

/-- Apply one normalized event to a context. -/
def apply (ctx : PumpContext) (event : PumpEvent) (args : ApplyArgs) :
    TransitionResult :=
  if IsStale ctx args then
    rejectedResult ctx event args (staleWarning ctx event args)
      "stale_observation" .WARNING
  else if IsDuplicateFrame ctx args then
    noopResult ctx (duplicateContext ctx args duplicateFrameWarning) event args
      [duplicateFrameWarning] "duplicate_source_frame" .INFO
  else if IsDuplicateCompletion ctx event args then
    noopResult ctx (duplicateContext ctx args (duplicateCompletionWarning args)) event
      args [duplicateCompletionWarning args] "duplicate_completion_evidence" .WARNING
  else if event = .UNKNOWN_OBSERVATION then
    noopResult ctx (unknownContext ctx args unknownWarning) event args
      [unknownWarning] "unknown_observation_preserved" .WARNING
  else if LacksAuthorization ctx event args then
    rejectedResult ctx event args authorizationWarning
      "implicit_authorize_not_supported" .WARNING
  else if isSameStateNoop ctx.currentState event then
    noopResult ctx
      { applyContextFields ctx args with
        communicationHealthy := healthAfter ctx event } event args
      [] "same_state_noop" .INFO
  else
    match lookupTransition ctx.currentState event with
    | none =>
        rejectedResult ctx event args (invalidWarning ctx event)
          "invalid_transition" .ERROR
    | some target => {
        accepted := true
        context := transitionContext ctx event args target
        currentState := target
        previousState := some ctx.currentState
        attemptedEvent := event
        reason := "transition_applied"
        severity := .INFO
        observation := args.observation }

/-! ## Outcomes -/

/-- Which branch of `apply` an event takes. -/
inductive Outcome where
  | stale | duplicateFrame | duplicateCompletion | unknown | unauthorized
  | sameState | invalid
  | transition (target : PumpState)
deriving DecidableEq, Repr

def outcome (ctx : PumpContext) (event : PumpEvent) (args : ApplyArgs) : Outcome :=
  if IsStale ctx args then .stale
  else if IsDuplicateFrame ctx args then .duplicateFrame
  else if IsDuplicateCompletion ctx event args then .duplicateCompletion
  else if event = .UNKNOWN_OBSERVATION then .unknown
  else if LacksAuthorization ctx event args then .unauthorized
  else if isSameStateNoop ctx.currentState event then .sameState
  else
    match lookupTransition ctx.currentState event with
    | none => .invalid
    | some target => .transition target

/-- The branch when no duplicate filter stops the event. -/
def tableOutcome (state : PumpState) (event : PumpEvent) (allowImplicit : Bool) :
    Outcome :=
  if event = .UNKNOWN_OBSERVATION then .unknown
  else if state = .NOZZLE_UP ∧ event = .FILLING_STARTED ∧ allowImplicit = false then
    .unauthorized
  else if isSameStateNoop state event then .sameState
  else
    match lookupTransition state event with
    | none => .invalid
    | some target => .transition target

/-- The state the table gives for an event. -/
def moved (state : PumpState) (event : PumpEvent) : PumpState :=
  match tableOutcome state event false with
  | .transition target => target
  | _ => state

theorem outcome_eq_tableOutcome {ctx : PumpContext} {event : PumpEvent} {args : ApplyArgs}
    (hstale : ¬ IsStale ctx args) (hframe : ¬ IsDuplicateFrame ctx args)
    (hcompletion : ¬ IsDuplicateCompletion ctx event args) :
    outcome ctx event args =
      tableOutcome ctx.currentState event args.allowImplicitAuthorizeToFilling := by
  unfold outcome
  rw [if_neg hstale, if_neg hframe, if_neg hcompletion]
  rfl

/-- A duplicate is stopped by one of the two filters. -/
theorem outcome_of_duplicate {ctx : PumpContext} {event : PumpEvent} {args : ApplyArgs}
    (hstale : ¬ IsStale ctx args)
    (hduplicate : IsDuplicateFrame ctx args ∨ IsDuplicateCompletion ctx event args) :
    outcome ctx event args = .duplicateFrame ∨
      outcome ctx event args = .duplicateCompletion := by
  unfold outcome
  rw [if_neg hstale]
  by_cases hframe : IsDuplicateFrame ctx args
  · rw [if_pos hframe]
    exact Or.inl rfl
  · rw [if_neg hframe, if_pos (hduplicate.resolve_left hframe)]
    exact Or.inr rfl

/-- The context each outcome leaves. -/
def contextAfter (ctx : PumpContext) (event : PumpEvent) (args : ApplyArgs) :
    Outcome → PumpContext
  | .stale => { ctx with warnings := ctx.warnings ++ [staleWarning ctx event args] }
  | .duplicateFrame => duplicateContext ctx args duplicateFrameWarning
  | .duplicateCompletion => duplicateContext ctx args (duplicateCompletionWarning args)
  | .unknown => unknownContext ctx args unknownWarning
  | .unauthorized => { ctx with warnings := ctx.warnings ++ [authorizationWarning] }
  | .sameState => { applyContextFields ctx args with
      communicationHealthy := healthAfter ctx event }
  | .invalid => { ctx with warnings := ctx.warnings ++ [invalidWarning ctx event] }
  | .transition target => transitionContext ctx event args target

/-- Only a table transition is accepted without being a no-op. -/
def Outcome.moves : Outcome → Bool
  | .transition _ => true
  | _ => false

theorem apply_context (ctx : PumpContext) (event : PumpEvent) (args : ApplyArgs) :
    (apply ctx event args).context =
      contextAfter ctx event args (outcome ctx event args) := by
  unfold apply outcome
  by_cases hstale : IsStale ctx args
  · simp only [if_pos hstale]
    rfl
  · by_cases hframe : IsDuplicateFrame ctx args
    · simp only [if_neg hstale, if_pos hframe]
      rfl
    · by_cases hcompletion : IsDuplicateCompletion ctx event args
      · simp only [if_neg hstale, if_neg hframe, if_pos hcompletion]
        rfl
      · by_cases hunknown : event = .UNKNOWN_OBSERVATION
        · simp only [if_neg hstale, if_neg hframe, if_neg hcompletion, if_pos hunknown]
          rfl
        · simp only [if_neg hstale, if_neg hframe, if_neg hcompletion, if_neg hunknown]
          split
          · rfl
          · split
            · rfl
            · cases lookupTransition ctx.currentState event <;> rfl

/-- The three exits that refuse an event. -/
def Outcome.accepts : Outcome → Bool
  | .stale | .unauthorized | .invalid => false
  | _ => true

theorem apply_accepted (ctx : PumpContext) (event : PumpEvent) (args : ApplyArgs) :
    (apply ctx event args).accepted = (outcome ctx event args).accepts := by
  unfold apply outcome
  by_cases hstale : IsStale ctx args
  · simp only [if_pos hstale]
    rfl
  · by_cases hframe : IsDuplicateFrame ctx args
    · simp only [if_neg hstale, if_pos hframe]
      rfl
    · by_cases hcompletion : IsDuplicateCompletion ctx event args
      · simp only [if_neg hstale, if_neg hframe, if_pos hcompletion]
        rfl
      · by_cases hunknown : event = .UNKNOWN_OBSERVATION
        · simp only [if_neg hstale, if_neg hframe, if_neg hcompletion, if_pos hunknown]
          rfl
        · simp only [if_neg hstale, if_neg hframe, if_neg hcompletion, if_neg hunknown]
          split
          · rfl
          · split
            · rfl
            · cases lookupTransition ctx.currentState event <;> rfl

theorem accepted_and_not_noop_iff (ctx : PumpContext) (event : PumpEvent)
    (args : ApplyArgs) :
    ((apply ctx event args).accepted = true ∧ ¬ (apply ctx event args).noop = true) ↔
      (outcome ctx event args).moves = true := by
  unfold apply outcome
  by_cases hstale : IsStale ctx args
  · simp [if_pos hstale, rejectedResult, Outcome.moves]
  · by_cases hframe : IsDuplicateFrame ctx args
    · simp [if_neg hstale, if_pos hframe, noopResult, Outcome.moves]
    · by_cases hcompletion : IsDuplicateCompletion ctx event args
      · simp [if_neg hstale, if_neg hframe, if_pos hcompletion, noopResult,
          Outcome.moves]
      · by_cases hunknown : event = .UNKNOWN_OBSERVATION
        · simp only [if_neg hstale, if_neg hframe, if_neg hcompletion, if_pos hunknown]
          simp [noopResult, Outcome.moves]
        · simp only [if_neg hstale, if_neg hframe, if_neg hcompletion, if_neg hunknown]
          split
          · simp [rejectedResult, Outcome.moves]
          · split
            · simp [noopResult, Outcome.moves]
            · cases lookupTransition ctx.currentState event <;>
                simp [rejectedResult, Outcome.moves]

/-- A transition was not refused for want of an authorization, and was looked up in the
table. -/
theorem transition_of_outcome {ctx : PumpContext} {event : PumpEvent} {args : ApplyArgs}
    {target : PumpState} (houtcome : outcome ctx event args = .transition target) :
    ¬ LacksAuthorization ctx event args ∧
      lookupTransition ctx.currentState event = some target := by
  unfold outcome at houtcome
  by_cases hstale : IsStale ctx args
  · simp [if_pos hstale] at houtcome
  · by_cases hframe : IsDuplicateFrame ctx args
    · simp [if_neg hstale, if_pos hframe] at houtcome
    · by_cases hcompletion : IsDuplicateCompletion ctx event args
      · simp [if_neg hstale, if_neg hframe, if_pos hcompletion] at houtcome
      · by_cases hunknown : event = .UNKNOWN_OBSERVATION
        · rw [if_neg hstale, if_neg hframe, if_neg hcompletion, if_pos hunknown]
            at houtcome
          cases houtcome
        · rw [if_neg hstale, if_neg hframe, if_neg hcompletion, if_neg hunknown]
            at houtcome
          split at houtcome
          · cases houtcome
          · rename_i hauthorized
            refine ⟨hauthorized, ?_⟩
            split at houtcome
            · cases houtcome
            · split at houtcome
              · cases houtcome
              · rename_i found hfound
                rw [hfound, Outcome.transition.inj houtcome]

/-- A transition was looked up in the table. -/
theorem lookup_of_outcome {ctx : PumpContext} {event : PumpEvent} {args : ApplyArgs}
    {target : PumpState} (houtcome : outcome ctx event args = .transition target) :
    lookupTransition ctx.currentState event = some target :=
  (transition_of_outcome houtcome).2

/-- A same-state no-op was listed as one. -/
theorem sameState_of_outcome {ctx : PumpContext} {event : PumpEvent} {args : ApplyArgs}
    (houtcome : outcome ctx event args = .sameState) :
    isSameStateNoop ctx.currentState event = true := by
  unfold outcome at houtcome
  by_contra hnot
  rw [if_neg hnot] at houtcome
  split at houtcome
  · cases houtcome
  · split at houtcome
    · cases houtcome
    · split at houtcome
      · cases houtcome
      · split at houtcome
        · cases houtcome
        · split at houtcome
          · cases houtcome
          · split at houtcome <;> cases houtcome

theorem unknown_of_outcome {ctx : PumpContext} {event : PumpEvent} {args : ApplyArgs}
    (houtcome : outcome ctx event args = .unknown) : event = .UNKNOWN_OBSERVATION := by
  unfold outcome at houtcome
  by_contra hnot
  rw [if_neg hnot] at houtcome
  split at houtcome
  · cases houtcome
  · split at houtcome
    · cases houtcome
    · split at houtcome
      · cases houtcome
      · split at houtcome
        · cases houtcome
        · split at houtcome
          · cases houtcome
          · split at houtcome <;> cases houtcome

theorem contextAfter_currentState (ctx : PumpContext) (event : PumpEvent)
    (args : ApplyArgs) (branch : Outcome) :
    (contextAfter ctx event args branch).currentState =
      match branch with
      | .transition target => target
      | _ => ctx.currentState := by
  cases branch <;> rfl

theorem contextAfter_lastSourceFrameHex (ctx : PumpContext) (event : PumpEvent)
    (args : ApplyArgs) (branch : Outcome) :
    (contextAfter ctx event args branch).lastSourceFrameHex =
      match branch with
      | .unknown | .sameState | .transition _ => recordedSourceFrame ctx args
      | _ => ctx.lastSourceFrameHex := by
  cases branch <;> rfl

theorem contextAfter_completedEvidenceKeys (ctx : PumpContext) (event : PumpEvent)
    (args : ApplyArgs) (branch : Outcome) :
    (contextAfter ctx event args branch).completedEvidenceKeys =
      match branch.moves, args.completionEvidenceKey with
      | true, some key =>
          if event = .FILLING_COMPLETED then insert key ctx.completedEvidenceKeys
          else ctx.completedEvidenceKeys
      | _, _ => ctx.completedEvidenceKeys := by
  cases branch with
  | transition target =>
      cases hkey : args.completionEvidenceKey <;>
        simp [contextAfter, transitionContext, Outcome.moves, hkey]
  | _ => rfl

theorem contextAfter_communicationHealthy (ctx : PumpContext) (event : PumpEvent)
    (args : ApplyArgs) (branch : Outcome) :
    (contextAfter ctx event args branch).communicationHealthy =
      match branch with
      | .sameState | .transition _ => healthAfter ctx event
      | _ => ctx.communicationHealthy := by
  cases branch <;> rfl

theorem contextAfter_priceVerified (ctx : PumpContext) (event : PumpEvent)
    (args : ApplyArgs) (branch : Outcome) :
    (contextAfter ctx event args branch).priceVerified =
      match branch with
      | .sameState | .transition _ => args.priceVerified.getD ctx.priceVerified
      | _ => ctx.priceVerified := by
  cases branch <;> rfl

/-- Only a stale observation is older than the last one. -/
theorem not_isStale_of_outcome {ctx : PumpContext} {event : PumpEvent} {args : ApplyArgs}
    (hstale : outcome ctx event args ≠ .stale) : ¬ IsStale ctx args := by
  intro hold
  apply hstale
  unfold outcome
  rw [if_pos hold]

/-- Past the first three filters the event is neither stale nor a duplicate. -/
theorem unfiltered_of_outcome {ctx : PumpContext} {event : PumpEvent} {args : ApplyArgs}
    (hstale : outcome ctx event args ≠ .stale)
    (hframe : outcome ctx event args ≠ .duplicateFrame)
    (hcompletion : outcome ctx event args ≠ .duplicateCompletion) :
    ¬ IsStale ctx args ∧ ¬ IsDuplicateFrame ctx args ∧
      ¬ IsDuplicateCompletion ctx event args := by
  have hnotStale := not_isStale_of_outcome hstale
  have hnotFrame : ¬ IsDuplicateFrame ctx args := by
    intro hseen
    apply hframe
    unfold outcome
    rw [if_neg hnotStale, if_pos hseen]
  refine ⟨hnotStale, hnotFrame, fun hrecorded => hcompletion ?_⟩
  unfold outcome
  rw [if_neg hnotStale, if_neg hnotFrame, if_pos hrecorded]

/-- A transition passed the filters, and the table gives it. -/
theorem tableOutcome_of_transition {ctx : PumpContext} {event : PumpEvent} {args : ApplyArgs}
    {target : PumpState} (houtcome : outcome ctx event args = .transition target) :
    tableOutcome ctx.currentState event args.allowImplicitAuthorizeToFilling =
      .transition target := by
  obtain ⟨hstale, hframe, hcompletion⟩ := unfiltered_of_outcome
    (by rw [houtcome]; exact Outcome.noConfusion)
    (by rw [houtcome]; exact Outcome.noConfusion)
    (by rw [houtcome]; exact Outcome.noConfusion)
  rw [← outcome_eq_tableOutcome hstale hframe hcompletion, houtcome]

/-- A transition of the table leaves the state it starts from. -/
theorem ne_of_tableOutcome {state target : PumpState} {event : PumpEvent} {allowed : Bool}
    (htable : tableOutcome state event allowed = .transition target) : target ≠ state := by
  rintro rfl
  revert htable
  cases target <;> cases event <;> cases allowed <;> decide

/-- Without a time there is no stale observation. -/
theorem not_isStale {ctx : PumpContext} {args : ApplyArgs}
    (htime : args.observedAt = none) : ¬ IsStale ctx args := by
  rw [IsStale, htime]
  exact id

end StateMachine
end Intelipump
