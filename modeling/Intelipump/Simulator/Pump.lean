import Mathlib.Tactic.Common
import Intelipump.Foundation.StateEffect
import Intelipump.Simulator.Config
import Intelipump.Simulator.Encoding
import Intelipump.StateMachine.Guards
import Intelipump.StateMachine.Machine
import Intelipump.Text

namespace Intelipump
namespace Simulator

open Domain
open Dart.Line
open Dart.Application
open Foundation.StateEffect (fromExcept)
open StateMachine

/-!
# The simulated fueling position

A virtual Wayne pump.  Operations that only write fields are functions of the
pump; operations that encode or decode BCD may raise half way and are actions
over the pump.  The clock reading and a fresh `uuid4()` come in with each
operation: no operation authorizes twice, since an authorization leaves
`NOZZLE_UP` and only a lifted nozzle enters it.
-/

inductive ProtocolFaultKind where
  | INVALID_CRC | UNEXPECTED_SEQUENCE | MALFORMED_FRAME | RESPONSE_TIMEOUT
  | UNKNOWN_ADDRESS | APPLICATION_REJECTED | INELIGIBLE_COMMAND | DUPLICATE_DATA
deriving DecidableEq, Repr

structure ProtocolFault where
  kind : ProtocolFaultKind
  message : String
  address : Option Byte := none
  sequence : Option (Fin 16) := none
  rawFrameHex : Option String := none
  atMs : Nat
deriving DecidableEq, Repr

/-- Queued pump→controller payload. -/
structure OutboundApplicationTransaction where
  payload : List Byte
  label : String
deriving DecidableEq, Repr

structure SimulatedPump where
  config : PumpConfig
  pendingOutbound : List OutboundApplicationTransaction := []
  pricesRaw : List (Nat × Nat) := []
  volumeRaw : Nat := 0
  amountRaw : Nat := 0
  totalVolumeRaw : Nat := 0
  totalAmountRaw : Nat := 0
  selectedNozzle : Option Nat := none
  nozzleOut : Bool := false
  priceVerified : Bool := false
  wayneStatus : WaynePumpStatus := .RESET
  communicationEnabled : Bool := false
  faultCode : Option Nat := none
  lastCommand : Option PumpCommand := none
  activeTransactionId : Option String := none
  txSequence : Fin 16 := 0
  expectedControllerSequence : Fin 16 := 0
  lastAcceptedControllerSequence : Option (Fin 16) := none
  awaitingAckSequence : Option (Fin 16) := none
  dataPendingSinceMs : Option Nat := none
  fillingActive : Bool := false
  suspended : Bool := false
  lastFillTickMs : Option Nat := none
  presetVolumeRaw : Option Nat := none
  presetAmountRaw : Option Nat := none
  lastOutboundWire : Option (List Byte) := none
  context : PumpContext
deriving DecidableEq

/-- What an operation reads from outside the pump. -/
structure PumpEnv where
  now : Nat
  uuid4 : String
deriving DecidableEq, Repr

abbrev PumpM := EStateM Raised SimulatedPump

namespace SimulatedPump

/-- A new pump: default price for every nozzle, machine disconnected. -/
def create (config : PumpConfig) : SimulatedPump where
  config := config
  pricesRaw := (List.range config.nozzleCount).map fun n => (n + 1, config.defaultPriceRaw)
  context := { pumpId := config.pumpId, dartAddress := config.dartAddress }

def normalizedState (pump : SimulatedPump) : PumpState := pump.context.currentState

/-- `prices_raw.get(nozzle)`. -/
def priceOf? (pump : SimulatedPump) (nozzle : Nat) : Option Nat :=
  pump.pricesRaw.lookup nozzle

/-- `prices_raw[nozzle] = price`. -/
def setPrice (pump : SimulatedPump) (nozzle price : Nat) : SimulatedPump :=
  { pump with
    pricesRaw := (nozzle, price) :: pump.pricesRaw.filter (·.1 ≠ nozzle) }

/-- `selected_nozzle or 1`. -/
def effectiveNozzle (pump : SimulatedPump) : Nat :=
  match pump.selectedNozzle with
  | some nozzle => if nozzle = 0 then 1 else nozzle
  | none => 1

def effectivePrice (pump : SimulatedPump) : Nat :=
  (pump.priceOf? pump.effectiveNozzle).getD pump.config.defaultPriceRaw

def syncContextFields (pump : SimulatedPump) : SimulatedPump :=
  { pump with
    context := { pump.context with
      selectedNozzle := pump.selectedNozzle
      priceVerified := pump.priceVerified
      communicationHealthy := pump.communicationEnabled
      activeTransactionId := pump.activeTransactionId
      faultCode := pump.faultCode
      lastRawWayneStatus := some pump.wayneStatus.code } }

/-- Apply an event to the synchronised context, then mirror the price and the
communication flags. -/
def applyEvent (pump : SimulatedPump) (event : PumpEvent) (args : ApplyArgs) :
    SimulatedPump :=
  let synced := pump.syncContextFields
  let context := (apply synced.context event args).context
  { synced with
    context := context
    priceVerified := context.priceVerified
    communicationEnabled :=
      if event = .COMMUNICATION_LOST then false
      else if event = .COMMUNICATION_STARTED then true
      else pump.communicationEnabled }

def resetProtocolSequences (pump : SimulatedPump) : SimulatedPump :=
  { pump with
    txSequence := 0
    expectedControllerSequence := 0
    lastAcceptedControllerSequence := none
    awaitingAckSequence := none
    dataPendingSinceMs := none }

def enableCommunication (pump : SimulatedPump) : SimulatedPump :=
  { pump with communicationEnabled := true }.applyEvent .COMMUNICATION_STARTED {}

def disableCommunication (pump : SimulatedPump) : SimulatedPump :=
  let lost := { pump with communicationEnabled := false, fillingActive := false }.applyEvent
    .COMMUNICATION_LOST {}
  { lost with
    pendingOutbound := []
    awaitingAckSequence := none
    dataPendingSinceMs := none }

/-- The machine context of a pump after an electronic restart. -/
def restartContext (pump : SimulatedPump) (wasFilling : Bool) : PumpContext :=
  if pump.communicationEnabled then
    { pumpId := pump.config.pumpId
      dartAddress := pump.config.dartAddress
      currentState := .DISCOVERING
      communicationHealthy := true
      warnings :=
        if wasFilling then ["restart during filling; recovered to DISCOVERING"]
        else ["pump restart during idle"] }
  else
    { pumpId := pump.config.pumpId
      dartAddress := pump.config.dartAddress }

/-- Electronic restart. -/
def restartPump (pump : SimulatedPump) (preserveTotals : Bool) : SimulatedPump :=
  let wasFilling := pump.fillingActive ||
    decide (pump.normalizedState ∈ [PumpState.FILLING, .SUSPENDED, .AUTHORIZED])
  let cleared := { pump with
    fillingActive := false
    suspended := false
    nozzleOut := false
    volumeRaw := 0
    amountRaw := 0
    presetAmountRaw := none
    presetVolumeRaw := none
    faultCode := none
    activeTransactionId := none
    pendingOutbound := [] }.resetProtocolSequences
  let counted := if preserveTotals then cleared
    else { cleared with totalVolumeRaw := 0, totalAmountRaw := 0 }
  let restarted := { counted with context := counted.restartContext wasFilling }
  if pump.communicationEnabled then
    -- prefer a live idle state after the restart
    ({ restarted with wayneStatus := .RESET }.applyEvent .RESET_OBSERVED {}).applyEvent
      .READY_OBSERVED {}
  else restarted

/-- Append a payload to the outbound queue. -/
def queue (payload : List Byte) (label : String) : PumpM Unit :=
  modify fun pump =>
    { pump with pendingOutbound := pump.pendingOutbound ++ [⟨payload, label⟩] }

/-- Encode a unit and queue it. -/
def queueEncoded (encoded : Except Raised (List Byte)) (label : String) :
    PumpM Unit := do
  let payload ← fromExcept encoded
  queue payload label

def encodeDc3 (pump : SimulatedPump) : Except Raised (List Byte) :=
  encodeDc3NozzlePrice pump.effectivePrice pump.effectiveNozzle pump.nozzleOut

def queueStatusAndNozzle : PumpM Unit := do
  queueEncoded (encodeDc1Status (← get).wayneStatus.code) "DC1_STATUS"
  queueEncoded (← get).encodeDc3 "DC3_NOZZLE_PRICE"

def queueFillData : PumpM Unit := do
  let pump ← get
  queueEncoded (encodeDc2VolumeAmount pump.volumeRaw pump.amountRaw) "DC2_FILL"

/-- A fault about this pump. -/
def fault (pump : SimulatedPump) (env : PumpEnv) (kind : ProtocolFaultKind)
    (message : String) : ProtocolFault where
  kind := kind
  message := message
  address := some pump.config.dartAddress
  atMs := env.now

/-- Cold start: DISCONNECTED → … → READY. -/
def coldStartToReady : PumpM Unit := do
  modify fun pump => if pump.communicationEnabled then pump else pump.enableCommunication
  modify (·.applyEvent .PUMP_DISCOVERED {})
  modify fun pump => { pump with wayneStatus := .RESET }.applyEvent .RESET_OBSERVED
    { rawWayneStatus := some WaynePumpStatus.RESET.code }
  modify fun pump => { pump with nozzleOut := false }.applyEvent .READY_OBSERVED {}
  modify fun pump => { pump with wayneStatus := .RESET }
  queueStatusAndNozzle

/-! ## Local actions -/

def liftNozzle (env : PumpEnv) (nozzle : Nat) : PumpM (List ProtocolFault) := do
  let pump ← get
  if pump.priceOf? nozzle = none then
    return [pump.fault env .APPLICATION_REJECTED s!"unknown nozzle {nozzle}"]
  else
    modify fun pump => { pump with
      selectedNozzle := some nozzle
      nozzleOut := true
      priceVerified := true }.syncContextFields
    modify (·.applyEvent .NOZZLE_LIFTED
      { selectedNozzle := some nozzle, priceVerified := some true })
    queueStatusAndNozzle
    return []

def returnNozzle : PumpM Unit := do
  modify fun pump =>
    let holstered := { pump with nozzleOut := false }
    if pump.normalizedState ∈ [PumpState.NOZZLE_UP, .AUTHORIZED] then
      holstered.applyEvent .NOZZLE_RETURNED {}
    else holstered
  queueStatusAndNozzle

def injectFault (code : Nat) : PumpM Unit := do
  modify fun pump => { pump with
    faultCode := some code
    fillingActive := false
    suspended := false
    wayneStatus := .RESET }.applyEvent .FAULT_OBSERVED { faultCode := some code }
  queueEncoded (encodeDc5Alarm code) "DC5_ALARM"

def clearFault (pump : SimulatedPump) : SimulatedPump :=
  let cleared := { pump with faultCode := none }.applyEvent .FAULT_CLEARED {}
  ({ cleared with wayneStatus := .RESET }.applyEvent .RESET_OBSERVED {}).applyEvent
    .READY_OBSERVED {}

/-! ## Filling engine -/

/-- `str(active_transaction_id)`. -/
def transactionText (pump : SimulatedPump) : String :=
  pump.activeTransactionId.getD "None"

def completeFilling : PumpM Unit := do
  let pump ← get
  if pump.fillingActive = false ∧ pump.normalizedState ∉
      [PumpState.FILLING, .SUSPENDED, .AUTHORIZED, .LIMIT_REACHED] then
    return ()
  else
    let evidence :=
      s!"complete:{pump.transactionText}:{pump.volumeRaw}:{pump.amountRaw}"
    modify fun pump => { pump with
      fillingActive := false
      suspended := false
      totalVolumeRaw := pump.totalVolumeRaw + pump.volumeRaw
      totalAmountRaw := pump.totalAmountRaw + pump.amountRaw
      wayneStatus := .FILLING_COMPLETED }.applyEvent .FILLING_COMPLETED
        { rawWayneStatus := some WaynePumpStatus.FILLING_COMPLETED.code
          completionEvidenceKey := some evidence }
    queueStatusAndNozzle
    queueFillData

/-- `volume * price / 10^volume_decimals`, rounded down, in scaled integers. -/
def amountFromVolume (pump : SimulatedPump) (volumeRaw : Nat) : Nat :=
  let cfg := pump.config.filling
  volumeRaw * pump.effectivePrice * 10 ^ cfg.amountDecimals /
    10 ^ (cfg.volumeDecimals + cfg.priceDecimals)

/-- The volume step of one interval, at least one. -/
def fillDelta (cfg : FillingConfig) : Nat :=
  let liters := cfg.flowRateLitersPerSecond * ((cfg.updateIntervalMs : ℚ) / 1000)
  let delta := (liters * (10 : ℚ) ^ cfg.volumeDecimals).floor
  if delta ≤ 0 then 1 else delta.toNat

/-- The volume at which the delivery ends. -/
def limitVolume (pump : SimulatedPump) : Nat :=
  let cfg := pump.config.filling
  (pump.presetVolumeRaw.or cfg.presetVolumeRaw).getD cfg.naturalCompleteVolumeRaw

def fillOneInterval : PumpM Unit := do
  let pump ← get
  let cfg := pump.config.filling
  let limit := pump.limitVolume
  let advanced := pump.volumeRaw + fillDelta cfg
  let newVolume := if advanced ≥ limit then limit else advanced
  let amount := pump.amountFromVolume newVolume
  let amountHit :=
    match pump.presetAmountRaw with
    | some preset => decide (amount ≥ preset)
    | none => false
  let hitLimit := decide (advanced ≥ limit) || amountHit
  modify fun pump => { pump with
    volumeRaw := newVolume
    amountRaw := if amountHit then pump.presetAmountRaw.getD amount else amount }.applyEvent
      .FILLING_UPDATED { rawWayneStatus := some WaynePumpStatus.FILLING.code }
  queueFillData
  if hitLimit then
    modify fun pump =>
      if pump.presetAmountRaw ≠ none ∨ pump.presetVolumeRaw ≠ none ∨
          cfg.presetAmountRaw ≠ none ∨ cfg.presetVolumeRaw ≠ none then
        { pump with wayneStatus := .MAX_AMOUNT_VOLUME_REACHED }.applyEvent .LIMIT_REACHED
          { rawWayneStatus := some WaynePumpStatus.MAX_AMOUNT_VOLUME_REACHED.code }
      else pump
    completeFilling
  else return ()

/-- The loop over whole intervals; it stops when the filling does. -/
def fillIntervals : Nat → PumpM Unit
  | 0 => return ()
  | steps + 1 => do
      let pump ← get
      if pump.fillingActive = false ∨ pump.suspended = true then return ()
      else
        fillOneInterval
        fillIntervals steps

/-- Advance the filling to the clock reading. -/
def onTimeAdvance (env : PumpEnv) : PumpM Unit := do
  let pump ← get
  if pump.fillingActive = false ∨ pump.suspended = true then return ()
  else if pump.normalizedState ∉ [PumpState.FILLING, .AUTHORIZED] then return ()
  else
    match pump.lastFillTickMs with
    | none => modify fun pump => { pump with lastFillTickMs := some env.now }
    | some last =>
        let elapsed := env.now - last
        let interval := pump.config.filling.updateIntervalMs
        if elapsed < interval then return ()
        else if interval = 0 then
          throw (.zeroDivisionError "integer division or modulo by zero")
        else
          let steps := elapsed / interval
          modify fun pump => { pump with lastFillTickMs := some (last + steps * interval) }
          fillIntervals steps

/-! ## Controller commands -/

/-- The optional arguments of a guarded command. -/
structure GuardedArgs where
  presetValue : Option Nat := none
  volumeRaw : Option Nat := none
  amountRaw : Option Nat := none
  priceRaw : Option Nat := none
  nozzle : Option Nat := none
deriving DecidableEq, Repr

/-- What an eligible command does. -/
def executeEligible (env : PumpEnv) (command : PumpCommand) (args : GuardedArgs) :
    PumpM (List ProtocolFault) :=
  match command with
  | .SET_PRICE =>
      match args.priceRaw, args.nozzle with
      | some priceRaw, some nozzle => do
          modify fun pump =>
            { pump.setPrice nozzle priceRaw with priceVerified := true }.syncContextFields
          queueStatusAndNozzle
          return []
      | _, _ => throw (.assertionError "")
  | .PRESET_VOLUME =>
      match args.volumeRaw with
      | some volumeRaw => do
          modify fun pump => { pump with presetVolumeRaw := some volumeRaw }
          return []
      | none => throw (.assertionError "")
  | .PRESET_AMOUNT =>
      match args.amountRaw with
      | some amountRaw => do
          modify fun pump => { pump with presetAmountRaw := some amountRaw }
          return []
      | none => throw (.assertionError "")
  | .AUTHORIZE => do
      modify fun pump => { pump with
        activeTransactionId := some env.uuid4
        volumeRaw := 0
        amountRaw := 0
        wayneStatus := .AUTHORIZED }.applyEvent .AUTHORIZATION_CONFIRMED
          { activeTransactionId := some env.uuid4
            rawWayneStatus := some WaynePumpStatus.AUTHORIZED.code }
      modify fun pump => { pump with
        fillingActive := true
        suspended := false
        lastFillTickMs := some env.now
        wayneStatus := .FILLING }.applyEvent .FILLING_STARTED
          { rawWayneStatus := some WaynePumpStatus.FILLING.code }
      queueStatusAndNozzle
      queueFillData
      return []
  | .STOP => do
      completeFilling
      return []
  | .SUSPEND => do
      modify fun pump => { pump with
        suspended := true
        wayneStatus := .SUSPENDED }.applyEvent .SUSPENDED_OBSERVED
          { rawWayneStatus := some WaynePumpStatus.SUSPENDED.code }
      queueStatusAndNozzle
      return []
  | .RESUME => do
      modify fun pump => { pump with
        suspended := false
        wayneStatus := .FILLING
        lastFillTickMs := some env.now }.applyEvent .RESUMED_OBSERVED
          { rawWayneStatus := some WaynePumpStatus.FILLING.code }
      queueStatusAndNozzle
      return []
  | .RESET => do
      modify fun pump => { pump with
        fillingActive := false
        suspended := false
        volumeRaw := 0
        amountRaw := 0
        presetAmountRaw := none
        presetVolumeRaw := none
        activeTransactionId := none
        wayneStatus := .RESET }.applyEvent .RESET_OBSERVED
          { rawWayneStatus := some WaynePumpStatus.RESET.code }
      modify fun pump =>
        if pump.nozzleOut = false then pump.applyEvent .READY_OBSERVED {} else pump
      queueStatusAndNozzle
      return []
  | _ => return []

def executeGuarded (env : PumpEnv) (command : PumpCommand) (args : GuardedArgs) :
    PumpM (List ProtocolFault) := do
  modify (·.syncContextFields)
  let pump ← get
  let eligibility := evaluateCommandEligibility command pump.context
    (args.presetValue.map (Nat.cast : Nat → ℚ))
  modify fun pump => { pump with lastCommand := some command }
  if eligibility.eligible = false then
    let blockingReasons := ",".intercalate eligibility.blockingReasons
    return [pump.fault env .INELIGIBLE_COMMAND
      s!"{command.value} blocked: {blockingReasons}"]
  else executeEligible env command args

/-- The commands of CD1 that are executed under guard. -/
def guardedCd1 : PumpControlCommand → Option PumpCommand
  | .RESET => some .RESET
  | .AUTHORIZE => some .AUTHORIZE
  | .STOP => some .STOP
  | .SUSPEND_FUELLING_POINT => some .SUSPEND
  | .RESUME_FUELLING_POINT => some .RESUME
  | _ => none

def handleCd1 (env : PumpEnv) (dcc : Byte) : PumpM (List ProtocolFault) := do
  let pump ← get
  match PumpControlCommand.ofCode? dcc with
  | none =>
      return [pump.fault env .APPLICATION_REJECTED
        s!"unknown CD1 DCC=0x{byteHexUpper dcc}"]
  | some .RETURN_STATUS =>
      queueStatusAndNozzle
      return []
  | some .RETURN_FILLING_INFORMATION =>
      queueFillData
      return []
  | some .RETURN_PUMP_IDENTITY =>
      queueEncoded encodeDc9Identity "DC9_IDENTITY"
      return []
  | some .RETURN_PUMP_PARAMETERS =>
      -- not fully modelled by the simulator; acknowledged by status only
      queueEncoded (encodeDc1Status pump.wayneStatus.code) "DC1_STATUS"
      return []
  | some command =>
      match guardedCd1 command with
      | none =>
          return [pump.fault env .APPLICATION_REJECTED
            s!"CD1 {command.name} not implemented in simulator"]
      | some guarded => executeGuarded env guarded {}

def handleCd3PresetVolume (env : PumpEnv) (data : List Byte) :
    PumpM (List ProtocolFault) := do
  let volumeRaw ← fromExcept (decodePackedBcd data)
  executeGuarded env .PRESET_VOLUME
    { presetValue := some volumeRaw, volumeRaw := some volumeRaw }

def handleCd4PresetAmount (env : PumpEnv) (data : List Byte) :
    PumpM (List ProtocolFault) := do
  let amountRaw ← fromExcept (decodePackedBcd data)
  executeGuarded env .PRESET_AMOUNT
    { presetValue := some amountRaw, amountRaw := some amountRaw }

/-- The loop over three-byte prices; the nozzle is the 1-based ordinal. -/
def handlePrices (env : PumpEnv) : Nat → List Byte → PumpM (List ProtocolFault)
  | nozzle, first :: second :: third :: rest => do
      let priceRaw ← fromExcept (decodePackedBcd [first, second, third])
      let result ← executeGuarded env .SET_PRICE
        { priceRaw := some priceRaw, nozzle := some nozzle }
      let later ← handlePrices env (nozzle + 1) rest
      return result ++ later
  | _, _ => return []

def handleCd5Price (env : PumpEnv) (data : List Byte) : PumpM (List ProtocolFault) :=
  handlePrices env 1 data

def handleOneTx (env : PumpEnv) (trans : Byte) (data : List Byte) :
    PumpM (List ProtocolFault) := do
  if trans = 0x01 ∧ data.length = 1 then handleCd1 env (data.headD 0)
  else if trans = 0x03 ∧ data.length = 4 then handleCd3PresetVolume env data
  else if trans = 0x04 ∧ data.length = 4 then handleCd4PresetAmount env data
  else if trans = 0x05 ∧ data.length ≥ 3 ∧ data.length % 3 = 0 then
    handleCd5Price env data
  else if trans = 0x65 ∧ data.length = 1 then
    let pump ← get
    queueEncoded (encodeDc101Totals (data.headD 0) pump.totalAmountRaw
      pump.totalVolumeRaw 0) "DC101_TOTALS"
    return []
  else
    let pump ← get
    return [pump.fault env .APPLICATION_REJECTED
      (s!"unsupported controller TRANS=0x{byteHexUpper trans} " ++
        s!"LNG={data.length}")]

/-- The loop over the units of a payload, on what is left of it; a unit takes
at least two bytes, so a payload's length is fuel enough. -/
def handleUnits (env : PumpEnv) : Nat → List Byte → PumpM (List ProtocolFault)
  | fuel + 1, transId :: lng :: rest => do
      if rest.length < lng.toNat then
        let pump ← get
        return [pump.fault env .MALFORMED_FRAME "truncated application transaction"]
      else
        let faults ← handleOneTx env transId (rest.take lng.toNat)
        let later ← handleUnits env fuel (rest.drop lng.toNat)
        return faults ++ later
  | _, _ => return []

/-- Process the units of one controller payload. -/
def handleApplicationPayload (env : PumpEnv) (payload : List Byte) :
    PumpM (List ProtocolFault) :=
  handleUnits env payload.length payload

def hasPending (pump : SimulatedPump) : Bool := !pump.pendingOutbound.isEmpty

end SimulatedPump
end Simulator
end Intelipump
