import Mathlib.Tactic.Common
import Intelipump.Simulator.FillLoop

namespace Intelipump
namespace Simulator

open Domain
open Dart.Line
open Dart.Application
open Foundation.StateEffect
open StateMachine
open SimulatedPump

/-!
# Runs of a pump

Every operation on a pump and every unit of the controller is a turn.  What a turn does is
decided by the input and by what is eligible on the pump it finds (`PumpTurn.deed`); the
effect of each deed on the fields of a delivery is stated once (`turn_effect`).
-/

/-- The inputs of a pump: the units of the controller and the operations at the pump. -/
inductive PumpInput where
  | unit (transId : Byte) (data : List Byte)
  | coldStartToReady
  | liftNozzle (nozzle : Nat)
  | returnNozzle
  | injectFault (code : Nat)
  | clearFault
  | onTimeAdvance
  | enableCommunication
  | disableCommunication
  | restartPump (preserveTotals : Bool)
deriving DecidableEq, Repr

def PumpInput.run (env : PumpEnv) : PumpInput → PumpM Unit
  | .unit transId data => do
      let _ ← handleOneTx env transId data
  | .coldStartToReady => SimulatedPump.coldStartToReady
  | .liftNozzle nozzle => do
      let _ ← SimulatedPump.liftNozzle env nozzle
  | .returnNozzle => SimulatedPump.returnNozzle
  | .injectFault code => SimulatedPump.injectFault code
  | .clearFault => modify (·.clearFault)
  | .onTimeAdvance => SimulatedPump.onTimeAdvance env
  | .enableCommunication => modify (·.enableCommunication)
  | .disableCommunication => modify (·.disableCommunication)
  | .restartPump preserveTotals => modify (·.restartPump preserveTotals)

/-- One input with the clock reading and the `uuid4()` it meets. -/
structure PumpTurn where
  env : PumpEnv
  input : PumpInput
deriving DecidableEq, Repr

namespace SimulatedPump

/-- The pump after an input, whether it raised or not. -/
def turn (pump : SimulatedPump) (turn : PumpTurn) : SimulatedPump :=
  finalState (turn.input.run turn.env) pump

def turns (pump : SimulatedPump) (turns : List PumpTurn) : SimulatedPump :=
  turns.foldl turn pump

/-- Nothing blocks a preset of a value. -/
def EligiblePreset (pump : SimulatedPump) (command : PumpCommand) (value : Nat) : Prop :=
  (evaluateCommandEligibility command pump.syncContextFields.context
    (some (value : ℚ))).eligible = true

instance (pump : SimulatedPump) (command : PumpCommand) (value : Nat) :
    Decidable (pump.EligiblePreset command value) :=
  inferInstanceAs (Decidable (_ = true))

end SimulatedPump

/-- A payload is a run of its units, so every operation is a run of turns. -/
theorem operation_turns (env : PumpEnv) (operation : PumpOperation) (pump : SimulatedPump) :
    ∃ turns, finalState (operation.run env) pump = pump.turns turns := by
  have hone : ∀ input : PumpInput, finalState (operation.run env) pump =
      finalState (input.run env) pump →
      ∃ turns, finalState (operation.run env) pump = pump.turns turns :=
    fun input hinput => ⟨[⟨env, input⟩], hinput⟩
  cases operation with
  | coldStartToReady => exact hone .coldStartToReady rfl
  | liftNozzle nozzle => exact hone (.liftNozzle nozzle) rfl
  | returnNozzle => exact hone .returnNozzle rfl
  | injectFault code => exact hone (.injectFault code) rfl
  | clearFault => exact hone .clearFault rfl
  | onTimeAdvance => exact hone .onTimeAdvance rfl
  | enableCommunication => exact hone .enableCommunication rfl
  | disableCommunication => exact hone .disableCommunication rfl
  | restartPump preserveTotals => exact hone (.restartPump preserveTotals) rfl
  | handleApplicationPayload payload =>
      obtain ⟨handled, -, hfinal⟩ := finalState_handleApplicationPayload env payload pump
      refine ⟨handled.map fun unit => ⟨env, .unit unit.1 unit.2⟩, ?_⟩
      dsimp only [PumpOperation.run]
      rw [finalState_bind_pure, hfinal]
      unfold turns
      rw [List.foldl_map]
      congr 1
      funext current unit
      change finalState (handleOneTx env unit.1 unit.2) current =
        finalState (PumpInput.run env (.unit unit.1 unit.2)) current
      dsimp only [PumpInput.run]
      rw [finalState_bind_pure]

/-! ## Deeds -/

/-- What a turn does to a delivery. -/
inductive PumpDeed where
  | keeps
  | authorizes
  | presetsVolume (volumeRaw : Nat)
  | presetsAmount (amountRaw : Nat)
  | setsPrices
  | stops
  | resets
  | restarts (preserveTotals : Bool)
  | lifts (nozzle : Nat)
  | returns
  | coldStarts
  | advances
deriving DecidableEq, Repr

/-- The deed of a CD1 command. -/
def commandDeed (pump : SimulatedPump) : Option PumpControlCommand → PumpDeed
  | some .AUTHORIZE => if pump.Eligible .AUTHORIZE then .authorizes else .keeps
  | some .STOP => if pump.Eligible .STOP then .stops else .keeps
  | some .RESET => if pump.Eligible .RESET then .resets else .keeps
  | _ => .keeps

/-- The deed of a preset, when its digits are a number that is accepted. -/
def presetDeed (pump : SimulatedPump) (command : PumpCommand) (deed : Nat → PumpDeed)
    (data : List Byte) : PumpDeed :=
  match decodePackedBcd data with
  | .ok value => if pump.EligiblePreset command value then deed value else .keeps
  | .error _ => .keeps

def unitDeed (pump : SimulatedPump) (transId : Byte) (data : List Byte) : PumpDeed :=
  if transId = 0x01 ∧ data.length = 1 then
    commandDeed pump (PumpControlCommand.ofCode? (data.headD 0))
  else if transId = 0x03 ∧ data.length = 4 then
    presetDeed pump .PRESET_VOLUME .presetsVolume data
  else if transId = 0x04 ∧ data.length = 4 then
    presetDeed pump .PRESET_AMOUNT .presetsAmount data
  else if transId = 0x05 ∧ data.length ≥ 3 ∧ data.length % 3 = 0 then .setsPrices
  else .keeps

def PumpTurn.deed (turn : PumpTurn) (pump : SimulatedPump) : PumpDeed :=
  match turn.input with
  | .unit transId data => unitDeed pump transId data
  | .coldStartToReady => .coldStarts
  | .liftNozzle nozzle => if pump.priceOf? nozzle = none then .keeps else .lifts nozzle
  | .returnNozzle => .returns
  | .onTimeAdvance => .advances
  | .restartPump preserveTotals => .restarts preserveTotals
  | .injectFault _ | .clearFault | .enableCommunication | .disableCommunication => .keeps

/-! ## The effects of the deeds -/

section

variable (before after : SimulatedPump)

/-- A delivery of nothing begins. -/
structure AuthorizeEffect (env : PumpEnv) : Prop where
  nozzleUp : before.normalizedState = .NOZZLE_UP
  free : before.activeTransactionId = none
  fields : after.fields =
    { before.fields with
      volumeRaw := 0
      amountRaw := 0
      activeTransactionId := some env.uuid4 }
  filling : after.fillingActive = true
  runs : EngineRuns after

/-- A preset is stored, where no delivery runs. -/
structure PresetEffect (fields : PumpFields) (value : Nat) : Prop where
  state : before.normalizedState ∈ presetStates
  fields : after.fields = fields
  fits : value < 100 ^ 4
  engine : EngineKept before after

/-- Prices of three bytes are stored, where no delivery runs. -/
structure PricesEffect : Prop where
  fields : after.fields = { before.fields with pricesRaw := after.pricesRaw }
  fits : ∀ entry ∈ after.pricesRaw, entry ∈ before.pricesRaw ∨ entry.2 < 100 ^ 3
  state : before.normalizedState ∈ setPriceStates ∨ after.pricesRaw = before.pricesRaw
  stays : after.normalizedState = before.normalizedState
  engine : EngineKept before after

/-- The delivery is added to the totals. -/
structure StopEffect : Prop where
  fields : after.fields = before.fields.completed
  stopped : after.fillingActive = false

/-- The delivery and its presets are gone. -/
structure ResetEffect : Prop where
  state : before.normalizedState ∈ resetEligibleStates
  fields : after.fields =
    { before.fields with
      presetVolumeRaw := none
      presetAmountRaw := none
      volumeRaw := 0
      amountRaw := 0
      activeTransactionId := none }
  stopped : after.fillingActive = false

structure RestartEffect (preserveTotals : Bool) : Prop where
  fields : after.fields =
    { before.fields with
      nozzleOut := false
      presetVolumeRaw := none
      presetAmountRaw := none
      volumeRaw := 0
      amountRaw := 0
      totalVolumeRaw := if preserveTotals then before.totalVolumeRaw else 0
      totalAmountRaw := if preserveTotals then before.totalAmountRaw else 0
      activeTransactionId := none }
  stopped : after.fillingActive = false

structure LiftEffect (nozzle : Nat) : Prop where
  known : before.priceOf? nozzle ≠ none
  fields : after.fields =
    { before.fields with selectedNozzle := some nozzle, nozzleOut := true }
  filling : after.fillingActive = before.fillingActive
  runs : EngineRuns before → EngineRuns after

/-- The effect of a deed. -/
def DeedEffect (env : PumpEnv) (before after : SimulatedPump) : PumpDeed → Prop
  | .keeps => Kept before after
  | .authorizes => AuthorizeEffect before after env
  | .presetsVolume volumeRaw =>
      PresetEffect before after { before.fields with presetVolumeRaw := some volumeRaw } volumeRaw
  | .presetsAmount amountRaw =>
      PresetEffect before after { before.fields with presetAmountRaw := some amountRaw } amountRaw
  | .setsPrices => PricesEffect before after
  | .stops => StopEffect before after
  | .resets => ResetEffect before after
  | .restarts preserveTotals => RestartEffect before after preserveTotals
  | .lifts nozzle => LiftEffect before after nozzle
  | .returns => Holstered before after
  | .coldStarts => Holstered before after
  | .advances => Fills before (before.dueIntervals env) after

end

/-! ## Commands under guard -/

section

variable {env : PumpEnv} {pump : SimulatedPump}

/-- A blocked command keeps the pump. -/
theorem deedEffect_guarded {command : PumpCommand} {deed : PumpDeed}
    (heffect : pump.Eligible command → DeedEffect env pump
      (finalState (executeEligible env command {}) (noted pump command)) deed) :
    DeedEffect env pump (finalState (executeGuarded env command {}) pump)
      (if pump.Eligible command then deed else .keeps) := by
  rw [finalState_executeGuarded env command rfl]
  split
  · rename_i heligible
    exact heffect heligible
  · exact kept_noted pump command

/-- A command that reports the status of a changed pump. -/
theorem kept_report {change : SimulatedPump → SimulatedPump} {faults : List ProtocolFault}
    (hchange : ∀ pump, Kept pump (change pump)) :
    Preserves Kept (do
      modify change
      queueStatusAndNozzle
      return faults : PumpM (List ProtocolFault)) :=
  .of_bind (.of_modify hchange) fun _ => .of_bind kept_queueStatusAndNozzle fun _ => .of_pure _

theorem kept_suspend (args : GuardedArgs) : Preserves Kept (executeEligible env .SUSPEND args) := by
  unfold executeEligible
  refine kept_report fun pump => ⟨rfl, ?_⟩
  exact .applyEvent (.of_eq rfl rfl id) (by decide) rfl rfl rfl

theorem kept_resume (args : GuardedArgs) : Preserves Kept (executeEligible env .RESUME args) := by
  unfold executeEligible
  refine kept_report fun pump => ⟨rfl, ?_⟩
  exact .applyEvent (.of_eq rfl rfl fun _ => Option.some_ne_none env.now) (by decide) rfl rfl rfl

theorem authorize_effect (heligible : pump.Eligible .AUTHORIZE) :
    AuthorizeEffect pump
      (finalState (executeEligible env .AUTHORIZE {}) (noted pump .AUTHORIZE)) env := by
  have hready := (authorize_eligible_iff _ _).mp heligible
  have hopens : Opens env.uuid4 (noted pump .AUTHORIZE) _ := opens_authorize env {} hready
  -- the reports at the end only fill the queue
  have hreported : Preserves OnlyQueued (do
      queueStatusAndNozzle
      queueFillData
      return [] : PumpM (List ProtocolFault)) :=
    .of_bind onlyQueued_queueStatusAndNozzle fun _ =>
      .of_bind onlyQueued_queueFillData fun _ => .of_pure _
  have hwritten : (finalState (executeEligible env .AUTHORIZE {})
      (noted pump .AUTHORIZE)).lastFillTickMs = some env.now ∧
      (finalState (executeEligible env .AUTHORIZE {}) (noted pump .AUTHORIZE)).fields =
        { pump.fields with
          volumeRaw := 0
          amountRaw := 0
          activeTransactionId := some env.uuid4 } := by
    unfold executeEligible
    dsimp only
    rw [finalState_modify_bind, finalState_modify_bind]
    generalize hstarted : SimulatedPump.applyEvent _ .FILLING_STARTED _ = started
    have hqueued := hreported started
    have hkept := kept_of_onlyQueued hqueued
    unfold OnlyQueued at hqueued
    refine ⟨?_, ?_⟩
    · rw [hqueued, ← hstarted]
      rfl
    · rw [hkept.fields, ← hstarted]
      rfl
  refine ⟨hready.nozzleUp, hready.noTransaction, hwritten.2, hopens.filling, fun hfilling => ?_⟩
  refine ⟨hopens.coherent.running hfilling, ?_⟩
  rw [hwritten.1]
  exact Option.some_ne_none env.now

theorem stop_effect (heligible : pump.Eligible .STOP) :
    StopEffect pump (finalState (executeEligible env .STOP {}) (noted pump .STOP)) := by
  obtain ⟨hstate, -⟩ := (stop_eligible_iff _ _).mp heligible
  change pump.normalizedState ∈ stopStates at hstate
  have hrunning : ¬ ((noted pump .STOP).fillingActive = false ∧
      (noted pump .STOP).normalizedState ∉
        [PumpState.FILLING, .SUSPENDED, .AUTHORIZED, .LIMIT_REACHED]) := by
    rintro ⟨-, hother⟩
    change pump.normalizedState ∉ _ at hother
    revert hstate hother
    cases pump.normalizedState <;> decide
  have heffect := completeFilling_effect hrunning
  unfold executeEligible
  dsimp only
  rw [finalState_bind_pure]
  exact ⟨heffect.1, heffect.2⟩

theorem reset_effect (heligible : pump.Eligible .RESET) :
    ResetEffect pump (finalState (executeEligible env .RESET {}) (noted pump .RESET)) := by
  obtain ⟨hstate, -⟩ := (reset_eligible_iff _ _).mp heligible
  generalize hreset : (cleared (noted pump .RESET)).applyEvent .RESET_OBSERVED
    { rawWayneStatus := some WaynePumpStatus.RESET.code } = reset
  have hstopped : reset.fillingActive = false := by
    rw [← hreset]
    rfl
  have hready : Kept reset
      (if reset.nozzleOut = false then reset.applyEvent .READY_OBSERVED {} else reset) := by
    split
    · exact ⟨rfl, .applyEvent (refl_of EngineKept _) (by decide) rfl rfl rfl⟩
    · exact refl_of Kept reset
  have hlast := trans_of Kept hready (kept_queueStatusAndNozzle _)
  have hfinal : finalState (executeEligible env .RESET {}) (noted pump .RESET) =
      finalState queueStatusAndNozzle
        (if reset.nozzleOut = false then reset.applyEvent .READY_OBSERVED {} else reset) := by
    unfold executeEligible
    dsimp only
    rw [finalState_modify_bind, finalState_modify_bind, finalState_bind_pure, ← hreset]
    rfl
  rw [hfinal]
  refine ⟨hstate, ?_, ?_⟩
  · rw [hlast.fields, ← hreset]
    rfl
  · exact Bool.eq_false_iff.mpr fun h =>
      Bool.false_ne_true (hstopped.symm.trans (hlast.engine.stopped h))

theorem handleCd1_deedEffect (dcc : Byte) :
    DeedEffect env pump (finalState (handleCd1 env dcc) pump)
      (commandDeed pump (PumpControlCommand.ofCode? dcc)) := by
  unfold handleCd1
  rw [finalState_get_bind]
  cases PumpControlCommand.ofCode? dcc with
  | none => exact refl_of Kept pump
  | some command =>
      cases command with
      -- the four requests only queue their answers
      | RETURN_STATUS =>
          dsimp only
          rw [finalState_bind_pure]
          exact kept_queueStatusAndNozzle pump
      | RETURN_FILLING_INFORMATION =>
          dsimp only
          rw [finalState_bind_pure]
          exact kept_queueFillData pump
      | RETURN_PUMP_IDENTITY =>
          dsimp only
          rw [finalState_bind_pure]
          exact kept_queueEncoded _ _ pump
      | RETURN_PUMP_PARAMETERS =>
          dsimp only
          rw [finalState_bind_pure]
          exact kept_queueEncoded _ _ pump
      -- a suspended delivery runs on
      | SUSPEND_FUELLING_POINT =>
          have hsuspend : DeedEffect env pump (finalState (executeGuarded env .SUSPEND {}) pump)
              (if pump.Eligible .SUSPEND then .keeps else .keeps) :=
            deedEffect_guarded fun _ => trans_of Kept (kept_noted pump .SUSPEND)
              (kept_suspend {} _)
          rwa [ite_self] at hsuspend
      | RESUME_FUELLING_POINT =>
          have hresume : DeedEffect env pump (finalState (executeGuarded env .RESUME {}) pump)
              (if pump.Eligible .RESUME then .keeps else .keeps) :=
            deedEffect_guarded fun _ => trans_of Kept (kept_noted pump .RESUME)
              (kept_resume {} _)
          rwa [ite_self] at hresume
      -- the three commands that end or begin a delivery
      | AUTHORIZE => exact deedEffect_guarded authorize_effect
      | STOP => exact deedEffect_guarded stop_effect
      | RESET => exact deedEffect_guarded reset_effect
      | _ => exact refl_of Kept pump

end

/-! ## Presets and prices -/

instance : IsPreorder SimulatedPump PricesEffect where
  refl pump := ⟨rfl, fun _ h => Or.inl h, Or.inr rfl, rfl, refl_of EngineKept pump⟩
  trans _ _ _ hfirst hsecond := by
    refine ⟨?_, fun entry hentry => ?_, ?_, hsecond.stays.trans hfirst.stays,
      trans_of EngineKept hfirst.engine hsecond.engine⟩
    · rw [hsecond.fields, hfirst.fields]
    · rcases hsecond.fits entry hentry with hmiddle | hfits
      · exact hfirst.fits entry hmiddle
      · exact Or.inr hfits
    · rcases hfirst.state with hstate | hsame
      · exact Or.inl hstate
      · refine hsecond.state.imp (fun h => hfirst.stays ▸ h) fun h => h.trans hsame

section

variable {env : PumpEnv} {pump : SimulatedPump}

/-- A preset runs when its digits are a number that is accepted. -/
theorem deedEffect_preset {command : PumpCommand} {args : Nat → GuardedArgs}
    {deed : Nat → PumpDeed} {data : List Byte}
    (hargs : ∀ value, (args value).presetValue = some value)
    (heffect : ∀ value, pump.EligiblePreset command value → value < 100 ^ data.length →
      DeedEffect env pump
        (finalState (executeEligible env command (args value)) (noted pump command))
        (deed value)) :
    DeedEffect env pump
      (finalState (fromExcept (decodePackedBcd data) >>= fun value =>
        executeGuarded env command (args value)) pump)
      (presetDeed pump command deed data) := by
  unfold presetDeed
  cases hdecoded : decodePackedBcd data with
  | error error => exact refl_of Kept pump
  | ok value =>
      have heligible := eligible_iff command pump.syncContextFields.context (some (value : ℚ))
      change DeedEffect env pump (finalState (executeGuarded env command (args value)) pump) _
      dsimp only
      rw [executeGuarded_eq, hargs, Option.map_some]
      by_cases hclear : pump.EligiblePreset command value
      · rw [if_pos hclear, if_pos (heligible.mp hclear)]
        exact heffect value hclear (decodePackedBcd_lt hdecoded)
      · rw [if_neg hclear, if_neg fun h => hclear (heligible.mpr h)]
        exact kept_noted pump command

theorem preset_state {command : PumpCommand} {value : Nat}
    (hcommand : command = .PRESET_VOLUME ∨ command = .PRESET_AMOUNT)
    (heligible : pump.EligiblePreset command value) : pump.normalizedState ∈ presetStates := by
  have hclear := (eligible_iff _ _ _).mp heligible
  by_contra hnot
  have hblocked : pump.syncContextFields.context.currentState ∉ presetStates := hnot
  rcases hcommand with rfl | rfl
  · simp [collectBlocking, hblocked] at hclear
  · simp [collectBlocking, hblocked] at hclear

theorem setPrice_state (heligible : pump.Eligible .SET_PRICE) :
    pump.normalizedState ∈ setPriceStates := by
  have hclear := (eligible_iff _ _ _).mp heligible
  by_contra hnot
  have hblocked : pump.syncContextFields.context.currentState ∉ setPriceStates := hnot
  simp [collectBlocking, hblocked] at hclear

theorem prices_of_kept {before after : SimulatedPump} (hkept : Kept before after)
    (hstays : after.normalizedState = before.normalizedState) : PricesEffect before after := by
  have hprices : after.pricesRaw = before.pricesRaw := congrArg PumpFields.pricesRaw hkept.fields
  refine ⟨?_, fun entry hentry => Or.inl (hprices ▸ hentry), Or.inr hprices, hstays,
    hkept.engine⟩
  rw [hkept.fields, hprices]
  rfl

theorem prices_setPrice (env : PumpEnv) {nozzle price : Nat} (hfits : price < 100 ^ 3) :
    Preserves PricesEffect (executeGuarded env .SET_PRICE
      { priceRaw := some price, nozzle := some nozzle }) := by
  intro pump
  have hqueued := (executeGuarded_setPrice_spec env nozzle price pump).1
  have hreported : ∀ {changed after : SimulatedPump}, OnlyQueued changed after →
      PricesEffect changed after := by
    intro changed after honly
    refine prices_of_kept (kept_of_onlyQueued honly) ?_
    unfold OnlyQueued at honly
    rw [honly]
    rfl
  refine trans_of PricesEffect ?_ (hreported hqueued)
  split
  · rename_i heligible
    refine ⟨rfl, fun entry hentry => ?_, Or.inl (setPrice_state heligible), rfl, .of_eq rfl rfl id⟩
    rcases List.mem_cons.mp hentry with rfl | hkept
    · exact Or.inr hfits
    · exact Or.inl (List.mem_of_mem_filter hkept)
  · exact prices_of_kept (kept_noted pump .SET_PRICE) rfl

theorem prices_handlePrices (env : PumpEnv) (nozzle : Nat) (data : List Byte) :
    Preserves PricesEffect (handlePrices env nozzle data) := by
  fun_induction handlePrices env nozzle data with
  | case1 nozzle first second third rest ih =>
      cases hprice : decodePackedBcd [first, second, third] with
      | error error => exact fun pump => refl_of PricesEffect pump
      | ok price =>
          change Preserves PricesEffect (executeGuarded env .SET_PRICE
            { priceRaw := some price, nozzle := some nozzle } >>= fun result =>
              handlePrices env (nozzle + 1) rest >>= fun later => pure (result ++ later))
          exact .of_bind (prices_setPrice env (decodePackedBcd_lt hprice)) fun _ =>
            .of_bind ih fun _ => .of_pure _
  | case2 => exact .of_pure _

/-! ## Turns -/

theorem unit_effect (transId : Byte) (data : List Byte) :
    DeedEffect env pump (finalState (handleOneTx env transId data) pump)
      (unitDeed pump transId data) := by
  unfold handleOneTx unitDeed
  split
  · exact handleCd1_deedEffect _
  · split
    · rename_i hvolume
      refine deedEffect_preset (fun _ => rfl) fun value heligible hfits => ?_
      rw [hvolume.2] at hfits
      exact ⟨preset_state (Or.inl rfl) heligible, rfl, hfits, .of_eq rfl rfl id⟩
    · split
      · rename_i hamount
        refine deedEffect_preset (fun _ => rfl) fun value heligible hfits => ?_
        rw [hamount.2] at hfits
        exact ⟨preset_state (Or.inr rfl) heligible, rfl, hfits, .of_eq rfl rfl id⟩
      · split
        · exact prices_handlePrices env 1 data pump
        · split
          · exact Preserves.of_bind (R := Kept) .of_get (fun _ =>
              .of_bind (kept_queueEncoded _ _) fun _ => .of_pure _) pump
          · exact Preserves.of_bind (R := Kept) .of_get (fun _ => .of_pure _) pump

/-- The pump of a restart, before its machine starts again. -/
def restartCleared (pump : SimulatedPump) (preserveTotals : Bool) : SimulatedPump :=
  let cleared := { pump with
    fillingActive := false
    suspended := false
    nozzleOut := false
    volumeRaw := 0
    amountRaw := 0
    presetAmountRaw := none
    presetVolumeRaw := none
    faultCode := none
    activeTransactionId := none
    pendingOutbound := [] }.resetProtocolSequences
  if preserveTotals then cleared
  else { cleared with totalVolumeRaw := 0, totalAmountRaw := 0 }

theorem restart_effect (preserveTotals : Bool) :
    RestartEffect pump (pump.restartPump preserveTotals) preserveTotals := by
  have hcleared : RestartEffect pump { restartCleared pump preserveTotals with
      context := (restartCleared pump preserveTotals).restartContext
        (pump.fillingActive || decide (pump.normalizedState ∈
          [PumpState.FILLING, .SUSPENDED, .AUTHORIZED])) } preserveTotals := by
    constructor
    · cases preserveTotals <;> rfl
    · cases preserveTotals <;> rfl
  have hmoved : ∀ (restarted : SimulatedPump) (event : PumpEvent),
      RestartEffect pump restarted preserveTotals →
      RestartEffect pump (restarted.applyEvent event {}) preserveTotals :=
    fun _ _ heffect => ⟨heffect.fields, heffect.stopped⟩
  have hstatus : ∀ restarted : SimulatedPump, RestartEffect pump restarted preserveTotals →
      RestartEffect pump { restarted with wayneStatus := .RESET } preserveTotals :=
    fun _ heffect => ⟨heffect.fields, heffect.stopped⟩
  unfold restartPump
  dsimp only
  split
  · exact hmoved _ _ (hmoved _ _ (hstatus _ hcleared))
  · exact hcleared

theorem turn_effect (turn : PumpTurn) (pump : SimulatedPump) :
    DeedEffect turn.env pump (pump.turn turn) (turn.deed pump) := by
  obtain ⟨env, input⟩ := turn
  cases input with
  | unit transId data =>
      change DeedEffect env pump (finalState (PumpInput.run env (.unit transId data)) pump)
        (unitDeed pump transId data)
      dsimp only [PumpInput.run]
      rw [finalState_bind_pure]
      exact unit_effect transId data
  | coldStartToReady => exact holstered_coldStartToReady pump
  | liftNozzle nozzle =>
      change DeedEffect env pump (finalState (PumpInput.run env (.liftNozzle nozzle)) pump)
        (if pump.priceOf? nozzle = none then .keeps else .lifts nozzle)
      dsimp only [PumpInput.run]
      rw [finalState_bind_pure]
      by_cases hknown : pump.priceOf? nozzle = none
      · rw [if_pos hknown]
        unfold liftNozzle
        rw [finalState_get_bind, if_pos hknown]
        exact refl_of Kept pump
      · obtain ⟨hfields, hfilling, hruns⟩ := liftNozzle_effect env nozzle pump hknown
        rw [if_neg hknown]
        exact ⟨hknown, hfields, hfilling, hruns⟩
  | returnNozzle => exact holstered_returnNozzle pump
  | injectFault code => exact kept_injectFault code pump
  | clearFault => exact kept_clearFault pump
  | onTimeAdvance => exact fills_onTimeAdvance env pump
  | enableCommunication => exact kept_enableCommunication pump
  | disableCommunication => exact kept_disableCommunication pump
  | restartPump preserveTotals => exact restart_effect preserveTotals

/-- What a deed did: the effect of the deed, for proofs by cases of the deed. -/
inductive DeedDone (env : PumpEnv) (before after : SimulatedPump) : PumpDeed → Prop where
  | keeps (hkept : Kept before after) : DeedDone env before after .keeps
  | authorizes (hopened : AuthorizeEffect before after env) :
      DeedDone env before after .authorizes
  | presetsVolume (volumeRaw : Nat) (hpreset : PresetEffect before after
      { before.fields with presetVolumeRaw := some volumeRaw } volumeRaw) :
      DeedDone env before after (.presetsVolume volumeRaw)
  | presetsAmount (amountRaw : Nat) (hpreset : PresetEffect before after
      { before.fields with presetAmountRaw := some amountRaw } amountRaw) :
      DeedDone env before after (.presetsAmount amountRaw)
  | setsPrices (hprices : PricesEffect before after) : DeedDone env before after .setsPrices
  | stops (hstopped : StopEffect before after) : DeedDone env before after .stops
  | resets (hreset : ResetEffect before after) : DeedDone env before after .resets
  | restarts (preserveTotals : Bool)
      (hrestarted : RestartEffect before after preserveTotals) :
      DeedDone env before after (.restarts preserveTotals)
  | lifts (nozzle : Nat) (hlifted : LiftEffect before after nozzle) :
      DeedDone env before after (.lifts nozzle)
  | returns (hholstered : Holstered before after) : DeedDone env before after .returns
  | coldStarts (hholstered : Holstered before after) : DeedDone env before after .coldStarts
  | advances (hfills : Fills before (before.dueIntervals env) after) :
      DeedDone env before after .advances

theorem deedDone_turn (turn : PumpTurn) (pump : SimulatedPump) :
    DeedDone turn.env pump (pump.turn turn) (turn.deed pump) := by
  have heffect := turn_effect turn pump
  generalize turn.deed pump = deed at heffect ⊢
  cases deed with
  | keeps => exact .keeps heffect
  | authorizes => exact .authorizes heffect
  | presetsVolume volumeRaw => exact .presetsVolume volumeRaw heffect
  | presetsAmount amountRaw => exact .presetsAmount amountRaw heffect
  | setsPrices => exact .setsPrices heffect
  | stops => exact .stops heffect
  | resets => exact .resets heffect
  | restarts preserveTotals => exact .restarts preserveTotals heffect
  | lifts nozzle => exact .lifts nozzle heffect
  | returns => exact .returns heffect
  | coldStarts => exact .coldStarts heffect
  | advances => exact .advances heffect

/-- The deeds of the units. -/
def PumpDeed.OfUnit : PumpDeed → Prop
  | .restarts _ | .lifts _ | .returns | .coldStarts | .advances => False
  | _ => True

theorem ofUnit_unitDeed (pump : SimulatedPump) (transId : Byte) (data : List Byte) :
    (unitDeed pump transId data).OfUnit := by
  have hpreset : ∀ (command : PumpCommand) (deed : Nat → PumpDeed),
      (∀ value, (deed value).OfUnit) → (presetDeed pump command deed data).OfUnit := by
    intro command deed hdeed
    unfold presetDeed
    split
    · split
      · exact hdeed _
      · trivial
    · trivial
  unfold unitDeed
  split
  · unfold commandDeed
    split
    all_goals try split
    all_goals trivial
  · split
    · exact hpreset _ _ fun _ => trivial
    · split
      · exact hpreset _ _ fun _ => trivial
      · split <;> trivial

/-- The deeds that only one operation has. -/
theorem input_of_advances {turn : PumpTurn} (hdeed : turn.deed pump = .advances) :
    turn.input = .onTimeAdvance := by
  obtain ⟨env, input⟩ := turn
  cases input with
  | unit transId data =>
      have hunit := ofUnit_unitDeed pump transId data
      change unitDeed pump transId data = .advances at hdeed
      rw [hdeed] at hunit
      exact hunit.elim
  | liftNozzle nozzle =>
      change (if pump.priceOf? nozzle = none then PumpDeed.keeps else .lifts nozzle) = _
        at hdeed
      split at hdeed <;> cases hdeed
  | onTimeAdvance => rfl
  | _ => cases hdeed

theorem input_of_restarts {turn : PumpTurn} {preserveTotals : Bool}
    (hdeed : turn.deed pump = .restarts preserveTotals) :
    turn.input = .restartPump preserveTotals := by
  obtain ⟨env, input⟩ := turn
  cases input with
  | unit transId data =>
      have hunit := ofUnit_unitDeed pump transId data
      change unitDeed pump transId data = .restarts preserveTotals at hdeed
      rw [hdeed] at hunit
      exact hunit.elim
  | liftNozzle nozzle =>
      change (if pump.priceOf? nozzle = none then PumpDeed.keeps else .lifts nozzle) = _
        at hdeed
      split at hdeed <;> cases hdeed
  | restartPump _ =>
      cases hdeed
      rfl
  | _ => cases hdeed

/-- No delivery runs in another state. -/
theorem EngineRuns.idle (hruns : EngineRuns pump)
    (hphase : deliveryPhase pump.normalizedState ≠ .running) : pump.fillingActive = false :=
  Bool.eq_false_iff.mpr fun hfilling => hphase (hruns hfilling).1

theorem idle_of_preset (hruns : EngineRuns pump) (hstate : pump.normalizedState ∈ presetStates) :
    pump.fillingActive = false := by
  refine hruns.idle ?_
  revert hstate
  cases pump.normalizedState <;> decide

theorem engineRuns_turn (hruns : EngineRuns pump) (turn : PumpTurn) :
    EngineRuns (pump.turn turn) := by
  have hdone := deedDone_turn turn pump
  have hstops : (pump.turn turn).fillingActive = false → EngineRuns (pump.turn turn) :=
    fun hstopped hfilling => absurd (hstopped.symm.trans hfilling) Bool.false_ne_true
  generalize hdeed : turn.deed pump = deed at hdone
  cases hdone with
  | keeps hkept => exact hkept.engine.runs hruns
  | authorizes hopened => exact hopened.runs
  | presetsVolume volumeRaw hpreset => exact hpreset.engine.runs hruns
  | presetsAmount amountRaw hpreset => exact hpreset.engine.runs hruns
  | setsPrices hprices => exact hprices.engine.runs hruns
  | stops hstopped => exact hstops hstopped.stopped
  | resets hreset => exact hstops hreset.stopped
  | restarts preserveTotals hrestarted => exact hstops hrestarted.stopped
  | lifts nozzle hlifted => exact hlifted.runs hruns
  | returns hholstered => exact hholstered.engine.runs hruns
  | coldStarts hholstered => exact hholstered.engine.runs hruns
  | advances hfills => exact hfills.kept.2.runs hruns

end

end Simulator
end Intelipump
