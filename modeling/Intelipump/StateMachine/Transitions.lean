import Mathlib.Tactic.Common
import Intelipump.Domain

namespace Intelipump
namespace StateMachine

open Domain

/-!
# The transition table

Undocumented transitions have no entry.  Three events have an entry for whole
families of states: communication lost, fault observed, maintenance entered.
-/

def lookupTransition : PumpState → PumpEvent → Option PumpState
  | .DISCONNECTED, .COMMUNICATION_STARTED => some .DISCOVERING
  | .DISCOVERING, .CONFIGURATION_MISSING => some .NOT_PROGRAMMED
  | .DISCOVERING, .RESET_OBSERVED => some .RESET
  | .DISCOVERING, .READY_OBSERVED => some .READY
  | .NOT_PROGRAMMED, .RESET_OBSERVED => some .RESET
  | .NOT_PROGRAMMED, .READY_OBSERVED => some .READY
  | .RESET, .READY_OBSERVED => some .READY
  | .RESET, .CONFIGURATION_MISSING => some .NOT_PROGRAMMED
  | .READY, .NOZZLE_LIFTED => some .NOZZLE_UP
  | .READY, .RESET_OBSERVED => some .RESET
  | .NOZZLE_UP, .AUTHORIZATION_CONFIRMED => some .AUTHORIZED
  | .NOZZLE_UP, .NOZZLE_RETURNED => some .READY
  | .NOZZLE_UP, .FILLING_STARTED => some .FILLING
  | .AUTHORIZED, .FILLING_STARTED => some .FILLING
  | .AUTHORIZED, .NOZZLE_RETURNED => some .READY
  | .FILLING, .FILLING_UPDATED => some .FILLING
  | .FILLING, .FILLING_COMPLETED => some .FILLING_COMPLETE
  | .FILLING, .SUSPENDED_OBSERVED => some .SUSPENDED
  | .FILLING, .LIMIT_REACHED => some .LIMIT_REACHED
  | .SUSPENDED, .RESUMED_OBSERVED => some .FILLING
  | .SUSPENDED, .FILLING_COMPLETED => some .FILLING_COMPLETE
  | .SUSPENDED, .LIMIT_REACHED => some .LIMIT_REACHED
  | .LIMIT_REACHED, .FILLING_COMPLETED => some .FILLING_COMPLETE
  | .LIMIT_REACHED, .RESET_OBSERVED => some .RESET
  | .FILLING_COMPLETE, .RESET_OBSERVED => some .RESET
  | .FAULTED, .FAULT_CLEARED => some .DISCOVERING
  | .MAINTENANCE, .MAINTENANCE_EXITED => some .DISCOVERING
  | .DISCOVERING, .PUMP_DISCOVERED => some .RESET
  | _, .COMMUNICATION_LOST => some .DISCONNECTED
  | state, .FAULT_OBSERVED => if state.isOperational then some .FAULTED else none
  | state, .MAINTENANCE_ENTERED =>
      if state ≠ .MAINTENANCE then some .MAINTENANCE else none
  | _, _ => none

/-- Events that change nothing when the pump is already in their target. -/
def isSameStateNoop : PumpState → PumpEvent → Bool
  | .READY, .READY_OBSERVED => true
  | .RESET, .RESET_OBSERVED => true
  | .FILLING, .FILLING_UPDATED => true
  | .FILLING, .FILLING_STARTED => true
  | .AUTHORIZED, .AUTHORIZATION_CONFIRMED => true
  | .NOZZLE_UP, .NOZZLE_LIFTED => true
  | .FILLING_COMPLETE, .FILLING_COMPLETED => true
  | .SUSPENDED, .SUSPENDED_OBSERVED => true
  | .LIMIT_REACHED, .LIMIT_REACHED => true
  | .FAULTED, .FAULT_OBSERVED => true
  | .DISCONNECTED, .COMMUNICATION_LOST => true
  | .DISCOVERING, .COMMUNICATION_STARTED => true
  | .MAINTENANCE, .MAINTENANCE_ENTERED => true
  | .NOT_PROGRAMMED, .CONFIGURATION_MISSING => true
  | _, _ => false

end StateMachine
end Intelipump
