import Mathlib.Tactic.Common
import Intelipump.Link.Polling
import Intelipump.Simulator.PumpEvents

namespace Intelipump
namespace Link

open Domain
open Dart.Line
open Dart.Application
open Controller
open Simulator
open Foundation.StateEffect
open StateMachine
open Simulator.SimulatedPump

/-!
# The pump between deliveries

A pump that delivers nothing queues reports only.  Before its first cold start
it is `Dormant`: it does not listen, and every operation but the cold start
leaves it so.  After a cold start it is `AtRest`, and the reports in its queue
lead the controller to `READY`.  Lifting a nozzle and CD1
RETURN_PUMP_PARAMETERS are the two operations that end this.
-/

/-- Prices below this bound fit in the three bytes of a DC3. -/
def priceBound : Nat := 100 ^ 3

/-- What a pump shows of itself, its queue aside. -/
structure PumpFace where
  state : PumpState
  listens : Bool
  nozzleOut : Bool
  price : Nat
deriving DecidableEq, Repr

def face (pump : SimulatedPump) : PumpFace where
  state := pump.normalizedState
  listens := pump.communicationEnabled
  nozzleOut := pump.nozzleOut
  price := pump.effectivePrice

/-- A pump that delivers nothing, with its queue read as reports. -/
structure IdlePump (pump : SimulatedPump) (reports : List IdleReport) : Prop where
  wayneStatus : pump.wayneStatus = .RESET
  stopped : pump.fillingActive = false
  reported : Reported pump.pendingOutbound reports

/-- The pump before its first cold start. -/
structure Dormant (pump : SimulatedPump) (reports : List IdleReport) : Prop where
  idle : IdlePump pump reports
  state : pump.normalizedState = .DISCONNECTED
  silent : pump.communicationEnabled = false

/-- The pump after a cold start, holstered and without a delivery. -/
structure AtRest (pump : SimulatedPump) (reports : List IdleReport) : Prop where
  idle : IdlePump pump reports
  state : pump.normalizedState = .READY
  listens : pump.communicationEnabled = true
  holstered : pump.nozzleOut = false
  price : pump.effectivePrice < priceBound
  ready : observeAll .DISCONNECTED reports = .READY

theorem observeAll_append (state : PumpState) (reports added : List IdleReport) :
    observeAll state (reports ++ added) = observeAll (observeAll state reports) added :=
  List.foldl_append

/-- The states a controller can be led to by reports of an idle pump. -/
def idleStates : List PumpState := [.DISCONNECTED, .DISCOVERING, .RESET, .READY, .NOZZLE_UP]

theorem observe_mem_idleStates {state : PumpState} (hstate : state ∈ idleStates)
    (sighting : Sighting) : sighting.observe state ∈ idleStates := by
  revert hstate
  cases state <;> cases sighting <;> decide

theorem observeAll_mem_idleStates (reports : List IdleReport) {state : PumpState}
    (hstate : state ∈ idleStates) : observeAll state reports ∈ idleStates := by
  induction reports generalizing state with
  | nil => exact hstate
  | cons report rest ih => exact ih (observe_mem_idleStates hstate report.sighting)

/-- A status and a holstered nozzle lead every such controller to `READY`. -/
theorem observe_holstered {state : PumpState} (hstate : state ∈ idleStates)
    (price logicalNozzle : Nat) :
    observeAll state [.reset, .nozzle price logicalNozzle false] = .READY := by
  change Sighting.nozzleIn.observe (Sighting.reset.observe state) = .READY
  revert hstate
  cases state <;> decide

section

variable {pump : SimulatedPump} {reports : List IdleReport}

/-- What an idle pump needs of a change. -/
theorem IdlePump.of_eq (hidle : IdlePump pump reports) {after : SimulatedPump}
    (hstatus : after.wayneStatus = pump.wayneStatus)
    (hfilling : after.fillingActive = pump.fillingActive)
    (hpending : after.pendingOutbound = pump.pendingOutbound) : IdlePump after reports :=
  ⟨hstatus.trans hidle.wayneStatus, hfilling.trans hidle.stopped, hpending ▸ hidle.reported⟩

/-! ## Queueing a report -/

/-- A pump with one more payload in its queue. -/
def enqueued (pump : SimulatedPump) (payload : List Byte) (label : String) :
    SimulatedPump :=
  { pump with pendingOutbound := pump.pendingOutbound ++ [⟨payload, label⟩] }

theorem IdlePump.enqueued (hidle : IdlePump pump reports) {report : IdleReport}
    {payload : List Byte} (hencoded : report.encode = .ok payload) (label : String) :
    IdlePump (Link.enqueued pump payload label) (reports ++ [report]) :=
  ⟨hidle.wayneStatus, hidle.stopped,
    List.rel_append hidle.reported (.cons hencoded .nil)⟩

theorem queueEncoded_ok {payload : List Byte} {encoded : Except Raised (List Byte)}
    (hencoded : encoded = .ok payload) (label : String) (pump : SimulatedPump) :
    finalState (queueEncoded encoded label) pump = Link.enqueued pump payload label ∧
      returned (queueEncoded encoded label) pump = some () := by
  subst hencoded
  exact ⟨rfl, rfl⟩

theorem queueEncoded_error {error : Raised} {encoded : Except Raised (List Byte)}
    (hencoded : encoded = .error error) (label : String) (pump : SimulatedPump) :
    finalState (queueEncoded encoded label) pump = pump := by
  subst hencoded
  rfl

/-- A report that is queued, or whose encoding raises. -/
theorem IdlePump.queueEncoded (hidle : IdlePump pump reports) (report : IdleReport)
    (label : String) :
    ∃ added, (added = [] ∨ added = [report]) ∧
      IdlePump (finalState (SimulatedPump.queueEncoded report.encode label) pump)
        (reports ++ added) ∧
      face (finalState (SimulatedPump.queueEncoded report.encode label) pump) = face pump := by
  cases hencoded : report.encode with
  | error error =>
      rw [queueEncoded_error rfl]
      exact ⟨[], Or.inl rfl, by rwa [List.append_nil], rfl⟩
  | ok payload =>
      rw [(queueEncoded_ok rfl label pump).1]
      exact ⟨[report], Or.inr rfl, hidle.enqueued hencoded label, rfl⟩

/-- The DC3 of the pump. -/
def nozzleReport (pump : SimulatedPump) : IdleReport :=
  .nozzle pump.effectivePrice pump.effectiveNozzle pump.nozzleOut

theorem encode_nozzle_isOk_iff (price logicalNozzle : Nat) (nozzleOut : Bool) :
    (∃ payload, (IdleReport.nozzle price logicalNozzle nozzleOut).encode = .ok payload) ↔
      price < priceBound :=
  encodeDc3NozzlePrice_isOk_iff price logicalNozzle nozzleOut

/-- The pump's status goes into the queue, and its DC3 when the price fits. -/
theorem IdlePump.queueStatusAndNozzle (hidle : IdlePump pump reports) :
    face (finalState SimulatedPump.queueStatusAndNozzle pump) = face pump ∧
      IdlePump (finalState SimulatedPump.queueStatusAndNozzle pump)
        (reports ++ if pump.effectivePrice < priceBound then [.reset, nozzleReport pump]
          else [.reset]) := by
  obtain ⟨status, hstatus⟩ : ∃ payload, IdleReport.encode .reset = .ok payload := ⟨_, rfl⟩
  have hfirst := hidle.enqueued hstatus "DC1_STATUS"
  have hunfold : finalState SimulatedPump.queueStatusAndNozzle pump =
      finalState (SimulatedPump.queueEncoded pump.encodeDc3 "DC3_NOZZLE_PRICE")
        (Link.enqueued pump status "DC1_STATUS") := by
    have hdc1 : encodeDc1Status pump.wayneStatus.code = .ok status := by
      rw [hidle.wayneStatus]
      exact hstatus
    unfold SimulatedPump.queueStatusAndNozzle
    rw [finalState_get_bind, finalState_bind, (queueEncoded_ok hdc1 _ _).1,
      (queueEncoded_ok hdc1 _ _).2]
    rfl
  rw [hunfold]
  by_cases hprice : pump.effectivePrice < priceBound
  · obtain ⟨payload, hpayload⟩ := (encode_nozzle_isOk_iff pump.effectivePrice
      pump.effectiveNozzle pump.nozzleOut).mpr hprice
    have hdc3 : pump.encodeDc3 = .ok payload := hpayload
    rw [if_pos hprice, (queueEncoded_ok hdc3 _ _).1]
    refine ⟨rfl, ?_⟩
    have hboth := hfirst.enqueued hpayload "DC3_NOZZLE_PRICE"
    rwa [List.append_assoc] at hboth
  · rw [if_neg hprice]
    cases hencoded : pump.encodeDc3 with
    | ok payload =>
        exact absurd ((encode_nozzle_isOk_iff _ _ _).mp ⟨payload, hencoded⟩) hprice
    | error error =>
        rw [queueEncoded_error rfl]
        exact ⟨rfl, hfirst⟩

/-! ## Commands under guard -/

theorem IdlePump.noted (hidle : IdlePump pump reports) (command : PumpCommand) :
    IdlePump (Simulator.noted pump command) reports :=
  hidle.of_eq rfl rfl rfl

/-- The commands of the controller that act on a pump under guard. -/
def guardedCommands : List PumpCommand :=
  [.SET_PRICE, .PRESET_VOLUME, .PRESET_AMOUNT, .AUTHORIZE, .STOP, .SUSPEND, .RESUME, .RESET]

/-- A pump that does not listen refuses every guarded command. -/
theorem blocked_of_silent (hsilent : pump.communicationEnabled = false)
    {command : PumpCommand} (hcommand : command ∈ guardedCommands) (presetValue : Option ℚ) :
    collectBlocking command pump.syncContextFields.context presetValue ≠ [] := by
  have hhealth : pump.syncContextFields.context.communicationHealthy = false := hsilent
  have hunhealthy : blocks (pump.syncContextFields.context.communicationHealthy = false)
      "communication_unhealthy" ≠ [] := by
    unfold blocks
    rw [if_pos hhealth]
    exact List.cons_ne_nil _ _
  unfold collectBlocking
  unfold guardedCommands at hcommand
  cases command with
  | READ_STATUS => exact absurd hcommand (by decide)
  | READ_TOTALS => exact hunhealthy
  | _ =>
      dsimp only
      intro hnone
      simp only [List.append_eq_nil_iff] at hnone
      exact hunhealthy (by tauto)

/-! ## What a command can do -/

/-- What keeps a property of pumps through every command but
RETURN_PUMP_PARAMETERS. -/
structure Withstands (P : SimulatedPump → Prop) (env : PumpEnv) : Prop where
  status : ∀ pump, P pump → P (finalState queueStatusAndNozzle pump)
  fill : ∀ pump, P pump → P (finalState queueFillData pump)
  identity : ∀ pump, P pump → P (finalState (queueEncoded encodeDc9Identity "DC9_IDENTITY") pump)
  guarded : ∀ pump command (args : GuardedArgs), command ∈ guardedCommands →
    (∀ price ∈ args.priceRaw, price < priceBound) → P pump →
      P (finalState (executeGuarded env command args) pump)

/-- A command that makes the pump report its status without its nozzle. -/
def AsksParameters (trans : Byte) (data : List Byte) : Prop :=
  trans = 0x01 ∧ data.length = 1 ∧
    PumpControlCommand.ofCode? (data.headD 0) = some .RETURN_PUMP_PARAMETERS

instance (trans : Byte) (data : List Byte) : Decidable (AsksParameters trans data) :=
  inferInstanceAs (Decidable (_ ∧ _ ∧ _))

section

variable {P : SimulatedPump → Prop} {env : PumpEnv}

theorem Withstands.handleCd1 (hkeeps : Withstands P env) {dcc : Byte}
    (hdcc : PumpControlCommand.ofCode? dcc ≠ some .RETURN_PUMP_PARAMETERS)
    (hpump : P pump) : P (finalState (SimulatedPump.handleCd1 env dcc) pump) := by
  unfold SimulatedPump.handleCd1
  rw [finalState_get_bind]
  cases hcommand : PumpControlCommand.ofCode? dcc with
  | none => exact hpump
  | some command =>
      cases command with
      | RETURN_STATUS =>
          dsimp only
          rw [finalState_bind_pure]
          exact hkeeps.status pump hpump
      | RETURN_FILLING_INFORMATION =>
          dsimp only
          rw [finalState_bind_pure]
          exact hkeeps.fill pump hpump
      | RETURN_PUMP_IDENTITY =>
          dsimp only
          rw [finalState_bind_pure]
          exact hkeeps.identity pump hpump
      | RETURN_PUMP_PARAMETERS => exact absurd hcommand hdcc
      | RESET => exact hkeeps.guarded pump .RESET {} (by decide) (by simp) hpump
      | AUTHORIZE => exact hkeeps.guarded pump .AUTHORIZE {} (by decide) (by simp) hpump
      | STOP => exact hkeeps.guarded pump .STOP {} (by decide) (by simp) hpump
      | SUSPEND_FUELLING_POINT =>
          exact hkeeps.guarded pump .SUSPEND {} (by decide) (by simp) hpump
      | RESUME_FUELLING_POINT =>
          exact hkeeps.guarded pump .RESUME {} (by decide) (by simp) hpump
      | _ => exact hpump

theorem Withstands.handlePrices (hkeeps : Withstands P env) (nozzle : Nat)
    (data : List Byte) (hpump : P pump) :
    P (finalState (SimulatedPump.handlePrices env nozzle data) pump) := by
  fun_induction SimulatedPump.handlePrices env nozzle data generalizing pump with
  | case1 nozzle first second third rest ih =>
      cases hprice : decodePackedBcd [first, second, third] with
      | error error => exact hpump
      | ok price =>
          have hset := hkeeps.guarded pump .SET_PRICE
            { priceRaw := some price, nozzle := some nozzle } (by decide) (by
              intro found hfound
              obtain rfl := Option.mem_some_iff.mp hfound
              exact decodePackedBcd_lt hprice) hpump
          change P (finalState (executeGuarded env .SET_PRICE
            { priceRaw := some price, nozzle := some nozzle } >>= fun result =>
              SimulatedPump.handlePrices env (nozzle + 1) rest >>= fun later =>
                pure (result ++ later)) pump)
          rw [finalState_bind]
          cases returned (executeGuarded env .SET_PRICE
            { priceRaw := some price, nozzle := some nozzle }) pump with
          | none => exact hset
          | some result =>
              dsimp only
              rw [finalState_bind_pure]
              exact ih hset
  | case2 => exact hpump

/-- Every command that the property withstands. -/
theorem Withstands.handleOneTx (hkeeps : Withstands P env) {trans : Byte}
    {data : List Byte} (htrans : trans ≠ 0x65) (hasks : ¬ AsksParameters trans data)
    (hpump : P pump) : P (finalState (SimulatedPump.handleOneTx env trans data) pump) := by
  have hpreset : ∀ (command : PumpCommand) (args : Nat → GuardedArgs),
      command ∈ guardedCommands → (∀ value, (args value).priceRaw = none) →
      P (finalState (fromExcept (decodePackedBcd data) >>= fun value =>
        executeGuarded env command (args value)) pump) := by
    intro command args hcommand hargs
    cases decodePackedBcd data with
    | error error => exact hpump
    | ok value =>
        refine hkeeps.guarded pump command (args value) hcommand ?_ hpump
        rw [hargs]
        exact fun _ hnone => (nomatch hnone)
  unfold SimulatedPump.handleOneTx
  split
  · rename_i hcd1
    exact hkeeps.handleCd1 (fun hdcc => hasks ⟨hcd1.1, hcd1.2, hdcc⟩) hpump
  · split
    · exact hpreset .PRESET_VOLUME
        (fun value => { presetValue := some value, volumeRaw := some value }) (by decide)
        fun _ => rfl
    · split
      · exact hpreset .PRESET_AMOUNT
          (fun value => { presetValue := some value, amountRaw := some value }) (by decide)
          fun _ => rfl
      · split
        · exact hkeeps.handlePrices 1 data hpump
        · split
          · rename_i htotals
            exact absurd htotals.1 htrans
          · exact hpump

end

/-! ## The dormant pump -/

theorem Dormant.of_face (hdormant : Dormant pump reports) {after : SimulatedPump}
    {reports' : List IdleReport} (hidle : IdlePump after reports')
    (hface : face after = face pump) : Dormant after reports' :=
  ⟨hidle, (congrArg PumpFace.state hface).trans hdormant.state,
    (congrArg PumpFace.listens hface).trans hdormant.silent⟩

/-- A dormant pump stays dormant. -/
theorem withstands_dormant (env : PumpEnv) :
    Withstands (fun pump => ∃ reports, Dormant pump reports) env where
  status := by
    rintro pump ⟨reports, hdormant⟩
    obtain ⟨hface, hidle⟩ := hdormant.idle.queueStatusAndNozzle
    exact ⟨_, hdormant.of_face hidle hface⟩
  fill := by
    rintro pump ⟨reports, hdormant⟩
    obtain ⟨added, -, hidle, hface⟩ := hdormant.idle.queueEncoded
      (.fill pump.volumeRaw pump.amountRaw) "DC2_FILL"
    exact ⟨_, hdormant.of_face hidle hface⟩
  identity := by
    rintro pump ⟨reports, hdormant⟩
    obtain ⟨added, -, hidle, hface⟩ := hdormant.idle.queueEncoded .identity "DC9_IDENTITY"
    exact ⟨_, hdormant.of_face hidle hface⟩
  guarded := by
    rintro pump command args hcommand - ⟨reports, hdormant⟩
    rw [executeGuarded_eq, if_neg (blocked_of_silent hdormant.silent hcommand _)]
    exact ⟨_, hdormant.of_face (hdormant.idle.noted command) rfl⟩

/-! ## The pump at rest -/

theorem AtRest.of_face (hrest : AtRest pump reports) {after : SimulatedPump}
    {added : List IdleReport} (hidle : IdlePump after (reports ++ added))
    (hface : face after = face pump) (hready : observeAll .READY added = .READY) :
    AtRest after (reports ++ added) where
  idle := hidle
  state := (congrArg PumpFace.state hface).trans hrest.state
  listens := (congrArg PumpFace.listens hface).trans hrest.listens
  holstered := (congrArg PumpFace.nozzleOut hface).trans hrest.holstered
  price := (congrArg PumpFace.price hface).trans_lt hrest.price
  ready := by rw [observeAll_append, hrest.ready, hready]

/-- The status of a pump at rest goes into the queue with its nozzle. -/
theorem AtRest.queueStatusAndNozzle (hrest : AtRest pump reports) :
    ∃ added, AtRest (finalState SimulatedPump.queueStatusAndNozzle pump)
      (reports ++ added) := by
  obtain ⟨hface, hidle⟩ := hrest.idle.queueStatusAndNozzle
  rw [if_pos hrest.price] at hidle
  refine ⟨_, hrest.of_face hidle hface ?_⟩
  unfold nozzleReport
  rw [hrest.holstered]
  exact observe_holstered (by decide) _ _

/-- A change that keeps the pump at rest. -/
theorem AtRest.of_eq (hrest : AtRest pump reports) {after : SimulatedPump}
    (hidle : IdlePump after reports) (hface : face after = face pump) :
    AtRest after reports := by
  have hnothing : IdlePump after (reports ++ []) := by rwa [List.append_nil]
  have h := hrest.of_face hnothing hface rfl
  rwa [List.append_nil] at h

/-- Setting a price that fits. -/
theorem AtRest.setPrice (hrest : AtRest pump reports) (nozzle : Nat) {price : Nat}
    (hprice : price < priceBound) :
    AtRest ({ pump.setPrice nozzle price with priceVerified := true }.syncContextFields)
      reports where
  idle := hrest.idle.of_eq rfl rfl rfl
  state := hrest.state
  listens := hrest.listens
  holstered := hrest.holstered
  price := by
    change (pump.setPrice nozzle price).effectivePrice < priceBound
    rw [effectivePrice_setPrice]
    split
    · exact hprice
    · exact hrest.price
  ready := hrest.ready

/-- A guarded reset of a pump at rest. -/
theorem AtRest.resetPump (hrest : AtRest pump reports) (env : PumpEnv)
    (args : GuardedArgs) :
    ∃ added, AtRest (finalState (executeEligible env .RESET args) pump)
      (reports ++ added) := by
  -- a reset clears the delivery and passes through RESET back to READY
  generalize hcleared : ({ pump with
    fillingActive := false
    suspended := false
    volumeRaw := 0
    amountRaw := 0
    presetAmountRaw := none
    presetVolumeRaw := none
    activeTransactionId := none
    wayneStatus := .RESET } : SimulatedPump) = cleared
  have hclearedIdle : IdlePump cleared reports := by
    rw [← hcleared]
    exact hrest.idle.of_eq hrest.idle.wayneStatus.symm hrest.idle.stopped.symm rfl
  have hclearedFace : face cleared = face pump := hcleared ▸ rfl
  generalize hreset : cleared.applyEvent .RESET_OBSERVED
    { rawWayneStatus := some WaynePumpStatus.RESET.code } = reset
  have hresetState : reset.normalizedState = .RESET := by
    rw [← hreset, normalizedState_applyEvent cleared .RESET_OBSERVED rfl rfl rfl (by decide),
      show cleared.normalizedState = pump.normalizedState from
        congrArg PumpFace.state hclearedFace, hrest.state]
    rfl
  have hholstered : reset.nozzleOut = false := by
    rw [← hreset]
    exact (congrArg PumpFace.nozzleOut hclearedFace).trans hrest.holstered
  -- the nozzle hangs, so the pump is ready again
  have hready : AtRest (reset.applyEvent .READY_OBSERVED {}) reports := by
    refine hrest.of_eq (hclearedIdle.of_eq ?_ ?_ ?_) ?_
    · rw [← hreset]
      simp
    · rw [← hreset]
      simp
    · rw [← hreset]
      simp
    · have hstate : (reset.applyEvent .READY_OBSERVED {}).normalizedState =
          pump.normalizedState := by
        rw [normalizedState_applyEvent reset .READY_OBSERVED rfl rfl rfl (by decide),
          hresetState, hrest.state]
        rfl
      have hlistens : (reset.applyEvent .READY_OBSERVED {}).communicationEnabled =
          pump.communicationEnabled := by
        rw [communicationEnabled_applyEvent _ _ (by decide) (by decide), ← hreset,
          communicationEnabled_applyEvent _ _ (by decide) (by decide)]
        exact congrArg PumpFace.listens hclearedFace
      have hout : (reset.applyEvent .READY_OBSERVED {}).nozzleOut = pump.nozzleOut :=
        hholstered.trans hrest.holstered.symm
      have hprice : (reset.applyEvent .READY_OBSERVED {}).effectivePrice =
          pump.effectivePrice := by
        rw [effectivePrice_applyEvent, ← hreset, effectivePrice_applyEvent]
        exact congrArg PumpFace.price hclearedFace
      unfold face
      rw [hstate, hlistens, hout, hprice]
  obtain ⟨added, hadded⟩ := hready.queueStatusAndNozzle
  refine ⟨added, ?_⟩
  unfold executeEligible
  rw [finalState_modify_bind, finalState_modify_bind, finalState_bind_pure, hcleared,
    hreset, if_pos hholstered]
  exact hadded

/-- A pump at rest withstands every command but RETURN_PUMP_PARAMETERS. -/
theorem withstands_atRest (env : PumpEnv) :
    Withstands (fun pump => ∃ reports, AtRest pump reports) env where
  status := by
    rintro pump ⟨reports, hrest⟩
    obtain ⟨added, hadded⟩ := hrest.queueStatusAndNozzle
    exact ⟨_, hadded⟩
  fill := by
    rintro pump ⟨reports, hrest⟩
    obtain ⟨added, hadded, hidle, hface⟩ := hrest.idle.queueEncoded
      (.fill pump.volumeRaw pump.amountRaw) "DC2_FILL"
    refine ⟨_, hrest.of_face hidle hface ?_⟩
    rcases hadded with rfl | rfl <;> rfl
  identity := by
    rintro pump ⟨reports, hrest⟩
    obtain ⟨added, hadded, hidle, hface⟩ :=
      hrest.idle.queueEncoded .identity "DC9_IDENTITY"
    refine ⟨_, hrest.of_face hidle hface ?_⟩
    rcases hadded with rfl | rfl <;> rfl
  guarded := by
    rintro pump command args hcommand hprice ⟨reports, hrest⟩
    have hnoted : AtRest (noted pump command) reports :=
      hrest.of_eq (hrest.idle.noted command) rfl
    have hstate : pump.syncContextFields.context.currentState = .READY := hrest.state
    rw [executeGuarded_eq]
    split
    · rename_i heligible
      unfold collectBlocking at heligible
      rw [hstate] at heligible
      cases command with
      | SET_PRICE =>
          unfold executeEligible
          dsimp only
          split
          · rename_i price nozzle hpriceRaw hnozzle
            rw [finalState_modify_bind, finalState_bind_pure]
            obtain ⟨added, hadded⟩ :=
              (hnoted.setPrice nozzle (hprice price hpriceRaw)).queueStatusAndNozzle
            exact ⟨_, hadded⟩
          · exact ⟨_, hnoted⟩
      | PRESET_VOLUME =>
          unfold executeEligible
          dsimp only
          split
          · exact ⟨_, hnoted.of_eq (hnoted.idle.of_eq rfl rfl rfl) rfl⟩
          · exact ⟨_, hnoted⟩
      | PRESET_AMOUNT =>
          unfold executeEligible
          dsimp only
          split
          · exact ⟨_, hnoted.of_eq (hnoted.idle.of_eq rfl rfl rfl) rfl⟩
          · exact ⟨_, hnoted⟩
      | RESET =>
          obtain ⟨added, hadded⟩ := hnoted.resetPump env args
          exact ⟨_, hadded⟩
      | READ_STATUS => exact ⟨_, hnoted⟩
      | READ_TOTALS => exact ⟨_, hnoted⟩
      -- the other commands are blocked by the state
      | _ => simp [blocks, stopStates] at heligible
    · exact ⟨_, hnoted⟩

/-! ## Operations at the pump -/

/-- A cold start begins with a pump that listens. -/
def listening (pump : SimulatedPump) : SimulatedPump :=
  if pump.communicationEnabled then pump else pump.enableCommunication

/-- The pump of a cold start before it reports. -/
def coldStarted (pump : SimulatedPump) : SimulatedPump :=
  let discovered := (listening pump).applyEvent .PUMP_DISCOVERED {}
  let reset := { discovered with wayneStatus := .RESET }.applyEvent .RESET_OBSERVED
    { rawWayneStatus := some WaynePumpStatus.RESET.code }
  { { reset with nozzleOut := false }.applyEvent .READY_OBSERVED {} with
    wayneStatus := .RESET }

theorem finalState_coldStartToReady (pump : SimulatedPump) :
    finalState coldStartToReady pump = finalState queueStatusAndNozzle (coldStarted pump) :=
  rfl

/-- A cold start brings an idle pump to `READY`. -/
theorem IdlePump.coldStarted (hidle : IdlePump pump reports)
    (hstate : pump.normalizedState = .DISCONNECTED ∧ pump.communicationEnabled = false ∨
      pump.normalizedState = .READY ∧ pump.communicationEnabled = true) :
    IdlePump (Link.coldStarted pump) reports ∧
      face (Link.coldStarted pump) = ⟨.READY, true, false, pump.effectivePrice⟩ := by
  -- a silent pump starts to listen, one that listens is left as it is
  have hlistening : IdlePump (listening pump) reports ∧
      (listening pump).communicationEnabled = true ∧
      (listening pump).effectivePrice = pump.effectivePrice ∧
      ((listening pump).normalizedState = .DISCOVERING ∨
        (listening pump).normalizedState = .READY) := by
    unfold listening
    rcases hstate with ⟨hdisconnected, hsilent⟩ | ⟨hready, hlistens⟩
    · rw [hsilent, if_neg Bool.false_ne_true]
      refine ⟨hidle.of_eq rfl rfl rfl, rfl, rfl, Or.inl ?_⟩
      unfold enableCommunication
      rw [normalizedState_applyEvent _ _ rfl rfl rfl (by decide)]
      exact congrArg (moved · .COMMUNICATION_STARTED) hdisconnected
    · rw [hlistens, if_pos rfl]
      exact ⟨hidle, hlistens, rfl, Or.inr hready⟩
  obtain ⟨hidle', hlistens, hprice, hstart⟩ := hlistening
  -- then it is discovered, reset and made ready
  unfold Link.coldStarted
  generalize listening pump = heard at *
  dsimp only
  generalize hdiscovered : heard.applyEvent .PUMP_DISCOVERED {} = discovered
  generalize hreset : ({ discovered with wayneStatus := .RESET } :
    SimulatedPump).applyEvent .RESET_OBSERVED
      { rawWayneStatus := some WaynePumpStatus.RESET.code } = reset
  generalize hready : ({ reset with nozzleOut := false } : SimulatedPump).applyEvent
    .READY_OBSERVED {} = ready
  have hdiscoveredState : discovered.normalizedState = .RESET ∨
      discovered.normalizedState = .READY := by
    rw [← hdiscovered, normalizedState_applyEvent _ _ rfl rfl rfl (by decide)]
    rcases hstart with hstate | hstate <;> rw [hstate]
    · exact Or.inl rfl
    · exact Or.inr rfl
  have hresetState : reset.normalizedState = .RESET := by
    rw [← hreset, normalizedState_applyEvent _ _ rfl rfl rfl (by decide)]
    change moved discovered.normalizedState .RESET_OBSERVED = _
    rcases hdiscoveredState with hstate | hstate <;> rw [hstate] <;> rfl
  have hreadyState : ready.normalizedState = .READY := by
    rw [← hready, normalizedState_applyEvent _ _ rfl rfl rfl (by decide)]
    change moved reset.normalizedState .READY_OBSERVED = _
    rw [hresetState]
    rfl
  -- none of the three events touches the ear or the price
  have hreadyListens : ready.communicationEnabled = true := by
    rw [← hready, communicationEnabled_applyEvent _ _ (by decide) (by decide)]
    change reset.communicationEnabled = true
    rw [← hreset, communicationEnabled_applyEvent _ _ (by decide) (by decide)]
    change discovered.communicationEnabled = true
    rw [← hdiscovered, communicationEnabled_applyEvent _ _ (by decide) (by decide), hlistens]
  have hreadyPrice : ready.effectivePrice = heard.effectivePrice := by
    rw [← hready, effectivePrice_applyEvent]
    change reset.effectivePrice = _
    rw [← hreset, effectivePrice_applyEvent]
    change discovered.effectivePrice = _
    rw [← hdiscovered, effectivePrice_applyEvent]
  have hout : ready.nozzleOut = false := by
    rw [← hready]
    rfl
  constructor
  · refine hidle'.of_eq hidle'.wayneStatus.symm ?_ ?_
    · rw [← hready, ← hreset, ← hdiscovered]
      simp
    · rw [← hready, ← hreset, ← hdiscovered]
      simp
  · change PumpFace.mk ready.normalizedState ready.communicationEnabled ready.nozzleOut
      ready.effectivePrice = _
    rw [hreadyState, hreadyListens, hout, hreadyPrice, hprice]

/-- After a cold start the pump is at rest, when it can show its price; else
the controller only hears of the status. -/
theorem IdlePump.coldStartToReady (hidle : IdlePump pump reports)
    (hstate : pump.normalizedState = .DISCONNECTED ∧ pump.communicationEnabled = false ∨
      pump.normalizedState = .READY ∧ pump.communicationEnabled = true) :
    if pump.effectivePrice < priceBound then
      ∃ reports', AtRest (finalState SimulatedPump.coldStartToReady pump) reports'
    else
      IdlePump (finalState SimulatedPump.coldStartToReady pump) (reports ++ [.reset]) ∧
        (finalState SimulatedPump.coldStartToReady pump).normalizedState = .READY ∧
        (finalState SimulatedPump.coldStartToReady pump).communicationEnabled = true := by
  obtain ⟨hstarted, hface⟩ := hidle.coldStarted hstate
  obtain ⟨hkept, hqueued⟩ := hstarted.queueStatusAndNozzle
  rw [hface] at hkept
  have hprice : (Link.coldStarted pump).effectivePrice = pump.effectivePrice :=
    congrArg PumpFace.price hface
  have hholstered : (Link.coldStarted pump).nozzleOut = false :=
    congrArg PumpFace.nozzleOut hface
  rw [finalState_coldStartToReady]
  rw [hprice] at hqueued
  split
  · rename_i hfits
    rw [if_pos hfits] at hqueued
    refine ⟨_, hqueued, congrArg PumpFace.state hkept, congrArg PumpFace.listens hkept,
      congrArg PumpFace.nozzleOut hkept, (congrArg PumpFace.price hkept).trans_lt hfits, ?_⟩
    unfold nozzleReport
    rw [observeAll_append, hholstered]
    exact observe_holstered (observeAll_mem_idleStates reports (by decide)) _ _
  · rename_i hlong
    rw [if_neg hlong] at hqueued
    exact ⟨hqueued, congrArg PumpFace.state hkept, congrArg PumpFace.listens hkept⟩

/-- A lifted nozzle before it is reported. -/
def lifted (pump : SimulatedPump) (nozzle : Nat) : SimulatedPump :=
  ({ pump with
    selectedNozzle := some nozzle
    nozzleOut := true
    priceVerified := true }.syncContextFields).applyEvent .NOZZLE_LIFTED
      { selectedNozzle := some nozzle, priceVerified := some true }

theorem finalState_liftNozzle (env : PumpEnv) (pump : SimulatedPump) (nozzle : Nat) :
    finalState (liftNozzle env nozzle) pump =
      if pump.priceOf? nozzle = none then pump
      else finalState queueStatusAndNozzle (lifted pump nozzle) := by
  unfold liftNozzle
  rw [finalState_get_bind]
  split
  · rfl
  · rw [finalState_modify_bind, finalState_modify_bind, finalState_bind_pure]
    rfl

theorem IdlePump.lifted (hidle : IdlePump pump reports) (nozzle : Nat) :
    IdlePump (Link.lifted pump nozzle) reports ∧
      (Link.lifted pump nozzle).normalizedState =
        moved pump.normalizedState .NOZZLE_LIFTED ∧
      (Link.lifted pump nozzle).communicationEnabled = pump.communicationEnabled ∧
      (Link.lifted pump nozzle).nozzleOut = true := by
  refine ⟨hidle.of_eq rfl rfl rfl, ?_, ?_, rfl⟩
  · unfold Link.lifted
    rw [normalizedState_applyEvent _ _ rfl rfl rfl (by decide)]
    rfl
  · unfold Link.lifted
    rw [communicationEnabled_applyEvent _ _ (by decide) (by decide)]
    rfl

/-- Returning the nozzle of an idle pump changes its reports only. -/
theorem finalState_returnNozzle (hstate : pump.normalizedState ∉
    [PumpState.NOZZLE_UP, .AUTHORIZED]) :
    finalState returnNozzle pump =
      finalState queueStatusAndNozzle { pump with nozzleOut := false } := by
  unfold returnNozzle
  rw [finalState_modify_bind, if_neg hstate]

/-- Time passes an idle pump by. -/
theorem finalState_onTimeAdvance (hstopped : pump.fillingActive = false) (env : PumpEnv) :
    finalState (onTimeAdvance env) pump = pump := by
  unfold onTimeAdvance
  rw [finalState_get_bind, if_pos (Or.inl hstopped)]
  rfl

end

end Link
end Intelipump
