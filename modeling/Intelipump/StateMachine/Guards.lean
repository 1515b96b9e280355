import Mathlib.Data.Rat.Defs
import Mathlib.Algebra.Order.Ring.Unbundled.Rat
import Mathlib.Tactic.Common
import Intelipump.StateMachine.Models

namespace Intelipump
namespace StateMachine

open Domain

/-!
# Command eligibility

The blocking reasons of a command in a context, in the order the source
collects them.  The advisory warnings and the flag for a future execution path
depend on the command alone; they have definitions of their own.
-/

def setPriceStates : List PumpState := [.READY, .RESET, .NOT_PROGRAMMED]

def resetEligibleStates : List PumpState :=
  [.FILLING_COMPLETE, .LIMIT_REACHED, .READY, .RESET, .NOT_PROGRAMMED, .NOZZLE_UP,
    .AUTHORIZED, .FAULTED, .DISCOVERING]

def presetStates : List PumpState := [.READY, .RESET, .NOZZLE_UP, .AUTHORIZED]

def stopStates : List PumpState := [.AUTHORIZED, .FILLING, .SUSPENDED]

structure CommandEligibilityResult where
  eligible : Bool
  command : PumpCommand
  currentState : PumpState
  blockingReasons : List String
deriving DecidableEq, Repr

/-- A reason that blocks when its condition holds. -/
def blocks (condition : Prop) [Decidable condition] (reason : String) :
    List String :=
  if condition then [reason] else []

/-- The reasons as they are collected, before the source drops repetitions. -/
def collectBlocking (command : PumpCommand) (context : PumpContext)
    (presetValue : Option ℚ) : List String :=
  let unhealthy := blocks (context.communicationHealthy = false) "communication_unhealthy"
  match command with
  | .READ_STATUS => []
  | .READ_TOTALS => unhealthy
  | .SET_PRICE =>
      unhealthy ++
        blocks (context.currentState ∉ setPriceStates)
          s!"state_{context.currentState.value}_not_eligible_for_set_price" ++
        blocks (context.currentState ∈
            [PumpState.FILLING, .AUTHORIZED, .SUSPENDED, .FILLING_COMPLETE])
          "active_or_completed_transaction_window" ++
        blocks (context.activeTransactionId ≠ none) "active_unresolved_transaction"
  | .AUTHORIZE =>
      blocks (context.currentState ≠ .NOZZLE_UP) "state_not_nozzle_up" ++
        blocks (context.selectedNozzle = none) "selected_nozzle_unknown" ++
        blocks (context.priceVerified = false) "price_not_verified" ++
        unhealthy ++
        blocks (context.activeTransactionId ≠ none) "active_unresolved_transaction" ++
        blocks (context.faultCode ≠ none ∨ context.currentState = .FAULTED)
          "fault_present"
  | .STOP =>
      blocks (context.currentState ∉ stopStates) "state_not_eligible_for_stop" ++
        unhealthy
  | .SUSPEND =>
      blocks (context.currentState ≠ .FILLING) "state_not_filling" ++ unhealthy
  | .RESUME =>
      blocks (context.currentState ≠ .SUSPENDED) "state_not_suspended" ++ unhealthy
  | .RESET =>
      (if context.currentState = .FILLING then ["reset_not_allowed_during_filling"]
        else blocks (context.currentState ∉ resetEligibleStates)
          s!"state_{context.currentState.value}_not_explicitly_reset_eligible") ++
        unhealthy
  | .PRESET_AMOUNT | .PRESET_VOLUME =>
      blocks (context.currentState ∉ presetStates) "preset_only_before_filling" ++
        blocks (context.currentState = .FILLING) "preset_not_during_filling" ++
        (match presetValue with
          | none => ["preset_value_missing"]
          | some value => blocks (value ≤ 0) "preset_value_not_positive") ++
        blocks (context.selectedNozzle = none) "selected_nozzle_unknown" ++
        blocks (context.priceVerified = false) "price_not_verified" ++
        unhealthy

/-- Keep the first of equal reasons, in order. -/
def uniqueReasons : List String → List String
  | [] => []
  | reason :: rest => reason :: (uniqueReasons rest).filter (· ≠ reason)

def evaluateCommandEligibility (command : PumpCommand) (context : PumpContext)
    (presetValue : Option ℚ) : CommandEligibilityResult :=
  let unique := uniqueReasons (collectBlocking command context presetValue)
  { eligible := unique.isEmpty
    command := command
    currentState := context.currentState
    blockingReasons := unique }

/-- The commands that any future execution path must enable. -/
def ACTIVE_EXECUTION_COMMANDS : List PumpCommand :=
  [.SET_PRICE, .RESET, .AUTHORIZE, .STOP, .SUSPEND, .RESUME, .PRESET_AMOUNT,
    .PRESET_VOLUME]

/-- The warnings of the evaluation. -/
def eligibilityWarnings (command : PumpCommand)
    (physicalEnablePresent activeCommandsEnabled : Bool) : List String :=
  match command with
  | .READ_STATUS => ["Evaluation only; no status poll is transmitted."]
  | .READ_TOTALS => ["Evaluation only; no totals request is transmitted."]
  | command =>
      blocks (activeCommandsEnabled = false)
          "active_commands_enabled is false; execution remains disabled" ++
        blocks (physicalEnablePresent = false)
          "physical_enable_present is false; execution remains disabled" ++
        blocks (command = .AUTHORIZE)
          "AUTHORIZE eligibility only; active command execution remains disabled." ++
        ["requires_active_commands_enabled=True for any future execution path",
          "requires_physical_enable=True for any future execution path"]

/-- A command is eligible exactly when nothing blocks it. -/
theorem eligible_iff (command : PumpCommand) (context : PumpContext)
    (presetValue : Option ℚ) :
    (evaluateCommandEligibility command context presetValue).eligible = true ↔
      collectBlocking command context presetValue = [] := by
  unfold evaluateCommandEligibility
  dsimp only
  cases collectBlocking command context presetValue with
  | nil => simp [uniqueReasons]
  | cons reason rest => simp [uniqueReasons]

@[simp] theorem blocks_eq_nil {condition : Prop} [Decidable condition] {reason : String} :
    blocks condition reason = [] ↔ ¬ condition := by
  unfold blocks
  split <;> simp [*]

/-- What `AUTHORIZE` asks of a context. -/
structure ReadyToAuthorize (context : PumpContext) : Prop where
  nozzleUp : context.currentState = .NOZZLE_UP
  nozzleKnown : context.selectedNozzle ≠ none
  priceVerified : context.priceVerified = true
  healthy : context.communicationHealthy = true
  noTransaction : context.activeTransactionId = none
  noFault : context.faultCode = none

theorem authorize_eligible_iff (context : PumpContext) (presetValue : Option ℚ) :
    (evaluateCommandEligibility .AUTHORIZE context presetValue).eligible = true ↔
      ReadyToAuthorize context := by
  rw [eligible_iff]
  constructor
  · intro hclear
    simp only [collectBlocking, List.append_eq_nil_iff, blocks_eq_nil, not_or,
      Decidable.not_not, Bool.not_eq_false] at hclear
    obtain ⟨⟨⟨⟨⟨hstate, hnozzle⟩, hprice⟩, hhealthy⟩, htransaction⟩, hfault⟩ := hclear
    exact ⟨hstate, hnozzle, hprice, hhealthy, htransaction, hfault.1⟩
  · intro hready
    simp [collectBlocking, hready.nozzleUp, hready.nozzleKnown, hready.priceVerified,
      hready.healthy, hready.noTransaction, hready.noFault]

theorem stop_eligible_iff (context : PumpContext) (presetValue : Option ℚ) :
    (evaluateCommandEligibility .STOP context presetValue).eligible = true ↔
      context.currentState ∈ stopStates ∧ context.communicationHealthy = true := by
  rw [eligible_iff]
  simp [collectBlocking]

theorem reset_eligible_iff (context : PumpContext) (presetValue : Option ℚ) :
    (evaluateCommandEligibility .RESET context presetValue).eligible = true ↔
      context.currentState ∈ resetEligibleStates ∧ context.communicationHealthy = true := by
  rw [eligible_iff]
  unfold collectBlocking
  by_cases hfilling : context.currentState = .FILLING
  · simp [hfilling, resetEligibleStates]
  · simp [hfilling]

end StateMachine
end Intelipump
