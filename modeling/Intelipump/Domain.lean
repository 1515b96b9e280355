import Mathlib.Tactic.Common

namespace Intelipump
namespace Domain

/-!
# Normalized pump states, events and commands

The three enumerations of the domain layer with the texts their members carry.
-/

inductive PumpState where
  | DISCONNECTED | DISCOVERING | NOT_PROGRAMMED | RESET | READY | NOZZLE_UP
  | AUTHORIZED | FILLING | FILLING_COMPLETE | SUSPENDED | LIMIT_REACHED
  | FAULTED | MAINTENANCE
deriving DecidableEq, Repr

def PumpState.value : PumpState → String
  | .DISCONNECTED => "DISCONNECTED"
  | .DISCOVERING => "DISCOVERING"
  | .NOT_PROGRAMMED => "NOT_PROGRAMMED"
  | .RESET => "RESET"
  | .READY => "READY"
  | .NOZZLE_UP => "NOZZLE_UP"
  | .AUTHORIZED => "AUTHORIZED"
  | .FILLING => "FILLING"
  | .FILLING_COMPLETE => "FILLING_COMPLETE"
  | .SUSPENDED => "SUSPENDED"
  | .LIMIT_REACHED => "LIMIT_REACHED"
  | .FAULTED => "FAULTED"
  | .MAINTENANCE => "MAINTENANCE"

/-- `PumpState(text)`, where the text names no state it raises. -/
def PumpState.ofValue? (text : String) : Option PumpState :=
  [DISCONNECTED, DISCOVERING, NOT_PROGRAMMED, RESET, READY, NOZZLE_UP, AUTHORIZED, FILLING,
    FILLING_COMPLETE, SUSPENDED, LIMIT_REACHED, FAULTED, MAINTENANCE].find? (·.value = text)

theorem PumpState.ofValue?_value (state : PumpState) :
    PumpState.ofValue? state.value = some state := by
  cases state <;> decide

theorem PumpState.value_of_ofValue? {text : String} {state : PumpState}
    (hstate : PumpState.ofValue? text = some state) : state.value = text := by
  simpa using List.find?_some hstate

/-- Every state but `DISCONNECTED`. -/
def PumpState.isOperational (state : PumpState) : Bool :=
  state ≠ .DISCONNECTED

inductive PumpEvent where
  | COMMUNICATION_STARTED | COMMUNICATION_LOST | PUMP_DISCOVERED
  | CONFIGURATION_MISSING | RESET_OBSERVED | READY_OBSERVED | NOZZLE_LIFTED
  | NOZZLE_RETURNED | AUTHORIZATION_CONFIRMED | FILLING_STARTED
  | FILLING_UPDATED | FILLING_COMPLETED | LIMIT_REACHED | SUSPENDED_OBSERVED
  | RESUMED_OBSERVED | FAULT_OBSERVED | FAULT_CLEARED | MAINTENANCE_ENTERED
  | MAINTENANCE_EXITED | UNKNOWN_OBSERVATION
deriving DecidableEq, Repr

def PumpEvent.value : PumpEvent → String
  | .COMMUNICATION_STARTED => "COMMUNICATION_STARTED"
  | .COMMUNICATION_LOST => "COMMUNICATION_LOST"
  | .PUMP_DISCOVERED => "PUMP_DISCOVERED"
  | .CONFIGURATION_MISSING => "CONFIGURATION_MISSING"
  | .RESET_OBSERVED => "RESET_OBSERVED"
  | .READY_OBSERVED => "READY_OBSERVED"
  | .NOZZLE_LIFTED => "NOZZLE_LIFTED"
  | .NOZZLE_RETURNED => "NOZZLE_RETURNED"
  | .AUTHORIZATION_CONFIRMED => "AUTHORIZATION_CONFIRMED"
  | .FILLING_STARTED => "FILLING_STARTED"
  | .FILLING_UPDATED => "FILLING_UPDATED"
  | .FILLING_COMPLETED => "FILLING_COMPLETED"
  | .LIMIT_REACHED => "LIMIT_REACHED"
  | .SUSPENDED_OBSERVED => "SUSPENDED_OBSERVED"
  | .RESUMED_OBSERVED => "RESUMED_OBSERVED"
  | .FAULT_OBSERVED => "FAULT_OBSERVED"
  | .FAULT_CLEARED => "FAULT_CLEARED"
  | .MAINTENANCE_ENTERED => "MAINTENANCE_ENTERED"
  | .MAINTENANCE_EXITED => "MAINTENANCE_EXITED"
  | .UNKNOWN_OBSERVATION => "UNKNOWN_OBSERVATION"

inductive PumpCommand where
  | READ_STATUS | READ_TOTALS | SET_PRICE | RESET | AUTHORIZE | STOP | SUSPEND
  | RESUME | PRESET_AMOUNT | PRESET_VOLUME
deriving DecidableEq, Repr

def PumpCommand.value : PumpCommand → String
  | .READ_STATUS => "READ_STATUS"
  | .READ_TOTALS => "READ_TOTALS"
  | .SET_PRICE => "SET_PRICE"
  | .RESET => "RESET"
  | .AUTHORIZE => "AUTHORIZE"
  | .STOP => "STOP"
  | .SUSPEND => "SUSPEND"
  | .RESUME => "RESUME"
  | .PRESET_AMOUNT => "PRESET_AMOUNT"
  | .PRESET_VOLUME => "PRESET_VOLUME"

/-- `PumpCommand(text)`, where the text names no command it raises. -/
def PumpCommand.ofValue? (text : String) : Option PumpCommand :=
  [READ_STATUS, READ_TOTALS, SET_PRICE, RESET, AUTHORIZE, STOP, SUSPEND, RESUME,
    PRESET_AMOUNT, PRESET_VOLUME].find? (·.value = text)

theorem PumpCommand.ofValue?_value (command : PumpCommand) :
    PumpCommand.ofValue? command.value = some command := by
  cases command <;> decide

theorem PumpCommand.value_of_ofValue? {text : String} {command : PumpCommand}
    (hcommand : PumpCommand.ofValue? text = some command) : command.value = text := by
  simpa using List.find?_some hcommand

end Domain
end Intelipump
