import Mathlib.Tactic.Common
import Intelipump.Dart.Line.Control

namespace Intelipump
namespace Dart
namespace Application

open Line

/-!
# Constants of the application layer

Directions, decode states, transaction types, CD1 commands and the documented
DC1 status codes.
-/

inductive MessageDirection where
  | MASTER_TO_SLAVE | SLAVE_TO_MASTER | UNKNOWN
deriving DecidableEq, Repr

inductive DecodeStatus where
  | DECODED | PARTIAL | UNKNOWN | MALFORMED
deriving DecidableEq, Repr

inductive TransactionType where
  | CD1_COMMAND | CD2_ALLOWED_NOZZLES | CD3_PRESET_VOLUME | CD4_PRESET_AMOUNT
  | CD5_PRICE_UPDATE | CD14_SUSPEND | CD15_RESUME | CD101_REQUEST_TOTALS
  | DC1_PUMP_STATUS | DC2_FILLED_VOLUME_AMOUNT | DC3_NOZZLE_STATUS_PRICE
  | DC5_ALARM | DC7_PUMP_PARAMETERS | DC9_PUMP_IDENTITY | DC101_TOTAL_COUNTERS
  | DC102_IFSF_STANDALONE | DC103_PUMP_UNIT_PRICES | UNKNOWN
  | AMBIGUOUS_CD1_OR_DC1
deriving DecidableEq, Repr

def TransactionType.value : TransactionType → String
  | .CD1_COMMAND => "CD1_COMMAND"
  | .CD2_ALLOWED_NOZZLES => "CD2_ALLOWED_NOZZLES"
  | .CD3_PRESET_VOLUME => "CD3_PRESET_VOLUME"
  | .CD4_PRESET_AMOUNT => "CD4_PRESET_AMOUNT"
  | .CD5_PRICE_UPDATE => "CD5_PRICE_UPDATE"
  | .CD14_SUSPEND => "CD14_SUSPEND"
  | .CD15_RESUME => "CD15_RESUME"
  | .CD101_REQUEST_TOTALS => "CD101_REQUEST_TOTALS"
  | .DC1_PUMP_STATUS => "DC1_PUMP_STATUS"
  | .DC2_FILLED_VOLUME_AMOUNT => "DC2_FILLED_VOLUME_AMOUNT"
  | .DC3_NOZZLE_STATUS_PRICE => "DC3_NOZZLE_STATUS_PRICE"
  | .DC5_ALARM => "DC5_ALARM"
  | .DC7_PUMP_PARAMETERS => "DC7_PUMP_PARAMETERS"
  | .DC9_PUMP_IDENTITY => "DC9_PUMP_IDENTITY"
  | .DC101_TOTAL_COUNTERS => "DC101_TOTAL_COUNTERS"
  | .DC102_IFSF_STANDALONE => "DC102_IFSF_STANDALONE"
  | .DC103_PUMP_UNIT_PRICES => "DC103_PUMP_UNIT_PRICES"
  | .UNKNOWN => "UNKNOWN"
  | .AMBIGUOUS_CD1_OR_DC1 => "AMBIGUOUS_CD1_OR_DC1"

/-- CD1 DCC values. -/
inductive PumpControlCommand where
  | RETURN_STATUS | RETURN_PUMP_PARAMETERS | RETURN_PUMP_IDENTITY
  | RETURN_FILLING_INFORMATION | RESET | AUTHORIZE | STOP | SWITCH_OFF
  | SUSPEND_FUELLING_POINT | RESUME_FUELLING_POINT
  | RETURN_PRICES_OF_ALL_CURRENT_GRADES
deriving DecidableEq, Repr

def PumpControlCommand.name : PumpControlCommand → String
  | .RETURN_STATUS => "RETURN_STATUS"
  | .RETURN_PUMP_PARAMETERS => "RETURN_PUMP_PARAMETERS"
  | .RETURN_PUMP_IDENTITY => "RETURN_PUMP_IDENTITY"
  | .RETURN_FILLING_INFORMATION => "RETURN_FILLING_INFORMATION"
  | .RESET => "RESET"
  | .AUTHORIZE => "AUTHORIZE"
  | .STOP => "STOP"
  | .SWITCH_OFF => "SWITCH_OFF"
  | .SUSPEND_FUELLING_POINT => "SUSPEND_FUELLING_POINT"
  | .RESUME_FUELLING_POINT => "RESUME_FUELLING_POINT"
  | .RETURN_PRICES_OF_ALL_CURRENT_GRADES => "RETURN_PRICES_OF_ALL_CURRENT_GRADES"

def PumpControlCommand.code : PumpControlCommand → Byte
  | .RETURN_STATUS => 0x00
  | .RETURN_PUMP_PARAMETERS => 0x02
  | .RETURN_PUMP_IDENTITY => 0x03
  | .RETURN_FILLING_INFORMATION => 0x04
  | .RESET => 0x05
  | .AUTHORIZE => 0x06
  | .STOP => 0x08
  | .SWITCH_OFF => 0x0A
  | .SUSPEND_FUELLING_POINT => 0x0D
  | .RESUME_FUELLING_POINT => 0x0E
  | .RETURN_PRICES_OF_ALL_CURRENT_GRADES => 0x0F

/-- `PumpControlCommand(dcc)`; no member for the other codes. -/
def PumpControlCommand.ofCode? (dcc : Byte) : Option PumpControlCommand :=
  if dcc = 0x00 then some .RETURN_STATUS
  else if dcc = 0x02 then some .RETURN_PUMP_PARAMETERS
  else if dcc = 0x03 then some .RETURN_PUMP_IDENTITY
  else if dcc = 0x04 then some .RETURN_FILLING_INFORMATION
  else if dcc = 0x05 then some .RESET
  else if dcc = 0x06 then some .AUTHORIZE
  else if dcc = 0x08 then some .STOP
  else if dcc = 0x0A then some .SWITCH_OFF
  else if dcc = 0x0D then some .SUSPEND_FUELLING_POINT
  else if dcc = 0x0E then some .RESUME_FUELLING_POINT
  else if dcc = 0x0F then some .RETURN_PRICES_OF_ALL_CURRENT_GRADES
  else none

/-- DC1 STATUS byte values. -/
inductive WaynePumpStatus where
  | PUMP_NOT_PROGRAMMED | RESET | AUTHORIZED | FILLING | FILLING_COMPLETED
  | MAX_AMOUNT_VOLUME_REACHED | SWITCHED_OFF | SUSPENDED
deriving DecidableEq, Repr

def WaynePumpStatus.code : WaynePumpStatus → Byte
  | .PUMP_NOT_PROGRAMMED => 0
  | .RESET => 1
  | .AUTHORIZED => 2
  | .FILLING => 4
  | .FILLING_COMPLETED => 5
  | .MAX_AMOUNT_VOLUME_REACHED => 6
  | .SWITCHED_OFF => 7
  | .SUSPENDED => 8

/-- `WaynePumpStatus(status_code)`; no member for the other codes. -/
def WaynePumpStatus.ofCode? (statusCode : Byte) : Option WaynePumpStatus :=
  if statusCode = 0 then some .PUMP_NOT_PROGRAMMED
  else if statusCode = 1 then some .RESET
  else if statusCode = 2 then some .AUTHORIZED
  else if statusCode = 4 then some .FILLING
  else if statusCode = 5 then some .FILLING_COMPLETED
  else if statusCode = 6 then some .MAX_AMOUNT_VOLUME_REACHED
  else if statusCode = 7 then some .SWITCHED_OFF
  else if statusCode = 8 then some .SUSPENDED
  else none

/-- TRANS + LNG. -/
def HEADER_SIZE : Nat := 2

@[simp] theorem WaynePumpStatus.ofCode?_code (status : WaynePumpStatus) :
    WaynePumpStatus.ofCode? status.code = some status := by
  cases status <;> rfl

@[simp] theorem PumpControlCommand.ofCode?_code (command : PumpControlCommand) :
    PumpControlCommand.ofCode? command.code = some command := by
  cases command <;> rfl

theorem WaynePumpStatus.code_of_ofCode? {statusCode : Byte} {status : WaynePumpStatus}
    (hfound : WaynePumpStatus.ofCode? statusCode = some status) :
    statusCode = status.code := by
  unfold WaynePumpStatus.ofCode? at hfound
  split_ifs at hfound with h0 h1 h2 h4 h5 h6 h7 h8
  all_goals
    obtain rfl := Option.some.inj hfound
    assumption

theorem WaynePumpStatus.code_injective : Function.Injective WaynePumpStatus.code := by
  intro left right heq
  have hcode := congrArg WaynePumpStatus.ofCode? heq
  simpa using hcode

end Application
end Dart
end Intelipump
