import Mathlib.Tactic.Common
import Intelipump.Foundation.Runs
import Intelipump.Simulator.Operations
import Intelipump.Simulator.PumpEvents

namespace Intelipump
namespace Simulator

open Domain
open Dart.Line
open Dart.Application
open Foundation.StateEffect
open Foundation.Runs
open StateMachine
open SimulatedPump

/-!
# Which units a pump can handle

A unit raises when a number of it is no packed BCD, or when a number of the
pump does not fit the reply to it.  `CanHandle` says so of the pump that the
unit finds, branch by branch of the dispatch; the units of a payload are
handled one after the other, each on the pump the ones before it left.
-/

namespace SimulatedPump

/-- The price shown fits the three bytes of a DC3. -/
def PriceFits (pump : SimulatedPump) : Prop := pump.effectivePrice < 100 ^ 3

/-- Volume and amount fit the four bytes each of a DC2. -/
def FillFits (pump : SimulatedPump) : Prop :=
  pump.volumeRaw < 100 ^ 4 ∧ pump.amountRaw < 100 ^ 4

/-- The totals fit the five bytes each of a DC101. -/
def TotalsFit (pump : SimulatedPump) : Prop :=
  pump.totalAmountRaw < 100 ^ 5 ∧ pump.totalVolumeRaw < 100 ^ 5

/-- Nothing blocks a command without a preset value. -/
def Eligible (pump : SimulatedPump) (command : PumpCommand) : Prop :=
  (evaluateCommandEligibility command pump.syncContextFields.context none).eligible = true

/-- What a CD1 command asks of the pump. -/
def CanExecute (pump : SimulatedPump) : Option PumpControlCommand → Prop
  | some .RETURN_STATUS => pump.PriceFits
  | some .RETURN_FILLING_INFORMATION => pump.FillFits
  | some .RESET => pump.Eligible .RESET → pump.PriceFits
  -- the new delivery starts from zero, only the price is reported as it was
  | some .AUTHORIZE => pump.Eligible .AUTHORIZE → pump.PriceFits
  | some .STOP => pump.Eligible .STOP → pump.PriceFits ∧ pump.FillFits
  | some .SUSPEND_FUELLING_POINT => pump.Eligible .SUSPEND → pump.PriceFits
  | some .RESUME_FUELLING_POINT => pump.Eligible .RESUME → pump.PriceFits
  | _ => True

/-- The pump can handle a unit. -/
def CanHandle (pump : SimulatedPump) (trans : Byte) (data : List Byte) : Prop :=
  if trans = 0x01 ∧ data.length = 1 then
    pump.CanExecute (PumpControlCommand.ofCode? (data.headD 0))
  else if trans = 0x03 ∧ data.length = 4 then IsBcd data
  else if trans = 0x04 ∧ data.length = 4 then IsBcd data
  else if trans = 0x05 ∧ data.length ≥ 3 ∧ data.length % 3 = 0 then
    -- every new price is reported with the price of the selected nozzle
    IsBcd data ∧ (pump.Eligible .SET_PRICE → pump.PriceFits ∨ pump.effectiveNozzle = 1)
  else if trans = 0x65 ∧ data.length = 1 then pump.TotalsFit
  else True

instance (pump : SimulatedPump) : Decidable pump.PriceFits :=
  inferInstanceAs (Decidable (_ < _))

instance (pump : SimulatedPump) : Decidable pump.FillFits :=
  inferInstanceAs (Decidable (_ ∧ _))

instance (pump : SimulatedPump) : Decidable pump.TotalsFit :=
  inferInstanceAs (Decidable (_ ∧ _))

instance (pump : SimulatedPump) (command : PumpCommand) :
    Decidable (pump.Eligible command) :=
  inferInstanceAs (Decidable (_ = true))

instance (pump : SimulatedPump) (command : Option PumpControlCommand) :
    Decidable (pump.CanExecute command) := by
  unfold CanExecute
  split <;> infer_instance

instance (pump : SimulatedPump) (trans : Byte) (data : List Byte) :
    Decidable (pump.CanHandle trans data) := by
  unfold CanHandle
  infer_instance

end SimulatedPump

/-! ## Reports -/

theorem returns_queueEncoded_iff (encoded : Except Raised (List Byte)) (label : String)
    (pump : SimulatedPump) :
    Returns (queueEncoded encoded label) pump ↔ ∃ payload, encoded = .ok payload := by
  unfold queueEncoded queue
  rw [returns_bind_iff (P := True) fun _ _ => iff_of_true (returns_modify _ _) trivial,
    and_true, returns_fromExcept_iff]

theorem effectivePrice_of_onlyQueued {before after : SimulatedPump}
    (hqueued : OnlyQueued before after) : after.effectivePrice = before.effectivePrice := by
  unfold OnlyQueued at hqueued
  rw [hqueued]
  rfl

theorem returns_queueStatusAndNozzle_iff (pump : SimulatedPump) :
    Returns queueStatusAndNozzle pump ↔ pump.PriceFits := by
  have hstatus := (returns_queueEncoded_iff (encodeDc1Status pump.wayneStatus.code)
    "DC1_STATUS" pump).mpr (encodeDc1Status_isOk _)
  have hprice := effectivePrice_of_onlyQueued (onlyQueued_queueEncoded
    (encodeDc1Status pump.wayneStatus.code) "DC1_STATUS" pump)
  unfold queueStatusAndNozzle
  rw [returns_get_bind, returns_bind_iff (P := pump.PriceFits)]
  · exact ⟨And.right, fun h => ⟨hstatus, h⟩⟩
  · intro _ _
    rw [returns_get_bind, returns_queueEncoded_iff]
    unfold PriceFits
    rw [← hprice]
    exact encodeDc3NozzlePrice_isOk_iff _ _ _

theorem returns_queueFillData_iff (pump : SimulatedPump) :
    Returns queueFillData pump ↔ pump.FillFits := by
  unfold queueFillData
  rw [returns_get_bind, returns_queueEncoded_iff]
  exact encodeDc2VolumeAmount_isOk_iff _ _

/-- The status of a changed pump is the last thing a command reports. -/
theorem returns_report_iff {change : SimulatedPump → SimulatedPump} {pump : SimulatedPump}
    {faults : List ProtocolFault}
    (hprice : (change pump).effectivePrice = pump.effectivePrice) :
    Returns (do
      modify change
      queueStatusAndNozzle
      return faults : PumpM (List ProtocolFault)) pump ↔ pump.PriceFits := by
  rw [returns_modify_bind, returns_bind_pure_iff, returns_queueStatusAndNozzle_iff]
  unfold PriceFits
  rw [hprice]

/-! ## Commands under guard -/

/-- A blocked command is answered with a fault. -/
theorem returns_executeGuarded_iff (env : PumpEnv) (command : PumpCommand)
    (args : GuardedArgs) (pump : SimulatedPump) :
    Returns (executeGuarded env command args) pump ↔
      ((evaluateCommandEligibility command pump.syncContextFields.context
          (args.presetValue.map (Nat.cast : Nat → ℚ))).eligible = true →
        Returns (executeEligible env command args) (noted pump command)) := by
  unfold executeGuarded
  rw [returns_modify_bind, returns_get_bind, returns_modify_bind]
  dsimp only
  split
  · rename_i hblocked
    exact iff_of_true (returns_pure _ _) fun h => absurd (hblocked.symm.trans h) (by decide)
  · rename_i heligible
    exact ⟨fun h _ => h, fun h => h (by simpa using heligible)⟩

/-- A completion that is not skipped reports the price and the delivery. -/
theorem returns_completeFilling_of_running {pump : SimulatedPump}
    (hrunning : ¬ (pump.fillingActive = false ∧ pump.normalizedState ∉
      [PumpState.FILLING, .SUSPENDED, .AUTHORIZED, .LIMIT_REACHED])) :
    Returns completeFilling pump ↔ pump.PriceFits ∧ pump.FillFits := by
  unfold completeFilling
  rw [returns_get_bind, if_neg hrunning, returns_modify_bind,
    returns_bind_iff (P := pump.FillFits)]
  · rw [returns_queueStatusAndNozzle_iff]
    exact Iff.rfl
  · intro _ _
    rw [returns_queueFillData_iff]
    have hqueued := onlyQueued_queueStatusAndNozzle ({ pump with
      fillingActive := false
      suspended := false
      totalVolumeRaw := pump.totalVolumeRaw + pump.volumeRaw
      totalAmountRaw := pump.totalAmountRaw + pump.amountRaw
      wayneStatus := .FILLING_COMPLETED }.applyEvent .FILLING_COMPLETED
        { rawWayneStatus := some WaynePumpStatus.FILLING_COMPLETED.code
          completionEvidenceKey := some
            s!"complete:{pump.transactionText}:{pump.volumeRaw}:{pump.amountRaw}" })
    unfold OnlyQueued at hqueued
    rw [hqueued]
    exact Iff.rfl

theorem returns_completeFilling_iff (pump : SimulatedPump) (hrunning : pump.normalizedState ∈
      [PumpState.FILLING, .SUSPENDED, .AUTHORIZED, .LIMIT_REACHED]) :
    Returns completeFilling pump ↔ pump.PriceFits ∧ pump.FillFits :=
  returns_completeFilling_of_running fun h => h.2 hrunning

/-- An authorization reports the price and a delivery of nothing. -/
theorem returns_executeEligible_authorize_iff (env : PumpEnv) (pump : SimulatedPump) :
    Returns (executeEligible env .AUTHORIZE {}) pump ↔ pump.PriceFits := by
  unfold executeEligible
  dsimp only
  rw [returns_modify_bind, returns_modify_bind, returns_bind_iff (P := True)]
  · rw [and_true, returns_queueStatusAndNozzle_iff]
    exact Iff.rfl
  · intro _ _
    refine iff_of_true ?_ trivial
    rw [returns_bind_pure_iff, returns_queueFillData_iff]
    -- the delivery that begins has delivered nothing
    have hqueued := onlyQueued_queueStatusAndNozzle ({ ({ pump with
      activeTransactionId := some env.uuid4
      volumeRaw := 0
      amountRaw := 0
      wayneStatus := .AUTHORIZED }.applyEvent .AUTHORIZATION_CONFIRMED
        { activeTransactionId := some env.uuid4
          rawWayneStatus := some WaynePumpStatus.AUTHORIZED.code }) with
      fillingActive := true
      suspended := false
      lastFillTickMs := some env.now
      wayneStatus := .FILLING }.applyEvent .FILLING_STARTED
        { rawWayneStatus := some WaynePumpStatus.FILLING.code })
    unfold OnlyQueued at hqueued
    rw [hqueued]
    exact ⟨Nat.pow_pos (by decide), Nat.pow_pos (by decide)⟩

/-- A guarded command that reports the status of a changed pump. -/
theorem returns_executeGuarded_report_iff {env : PumpEnv} {command : PumpCommand}
    {pump : SimulatedPump}
    (hreport : ∀ noted : SimulatedPump,
      Returns (executeEligible env command {}) noted ↔ noted.PriceFits) :
    Returns (executeGuarded env command {}) pump ↔
      (pump.Eligible command → pump.PriceFits) := by
  rw [returns_executeGuarded_iff]
  exact imp_congr Iff.rfl ((hreport _).trans Iff.rfl)

theorem returns_executeGuarded_stop_iff (env : PumpEnv) (pump : SimulatedPump) :
    Returns (executeGuarded env .STOP {}) pump ↔
      (pump.Eligible .STOP → pump.PriceFits ∧ pump.FillFits) := by
  rw [returns_executeGuarded_iff]
  refine imp_congr_right fun heligible => ?_
  -- a delivery that may be stopped is running
  have hrunning : pump.normalizedState ∈
      [PumpState.FILLING, .SUSPENDED, .AUTHORIZED, .LIMIT_REACHED] := by
    obtain ⟨hstate, -⟩ := (stop_eligible_iff _ _).mp heligible
    change pump.normalizedState ∈ stopStates at hstate
    revert hstate
    cases pump.normalizedState <;> decide
  refine (returns_bind_pure_iff _ _ _).trans ?_
  exact (returns_completeFilling_iff (noted pump .STOP) hrunning).trans Iff.rfl

theorem returns_handleCd1_iff (env : PumpEnv) (dcc : Byte) (pump : SimulatedPump) :
    Returns (handleCd1 env dcc) pump ↔
      pump.CanExecute (PumpControlCommand.ofCode? dcc) := by
  unfold handleCd1
  rw [returns_get_bind]
  cases PumpControlCommand.ofCode? dcc with
  | none => exact iff_of_true (returns_pure _ _) trivial
  | some command =>
      cases command with
      | RETURN_STATUS =>
          dsimp only
          rw [returns_bind_pure_iff, returns_queueStatusAndNozzle_iff]
          exact Iff.rfl
      | RETURN_FILLING_INFORMATION =>
          dsimp only
          rw [returns_bind_pure_iff, returns_queueFillData_iff]
          exact Iff.rfl
      | RETURN_PUMP_IDENTITY =>
          dsimp only
          rw [returns_bind_pure_iff, returns_queueEncoded_iff]
          exact iff_of_true encodeDc9Identity_isOk trivial
      | RETURN_PUMP_PARAMETERS =>
          dsimp only
          rw [returns_bind_pure_iff, returns_queueEncoded_iff]
          exact iff_of_true (encodeDc1Status_isOk _) trivial
      -- a reset reports the price as it was, whether the nozzle hangs or not
      | RESET =>
          refine returns_executeGuarded_report_iff fun noted => ?_
          refine (returns_modify_bind _ _ _).trans ((returns_report_iff ?_).trans Iff.rfl)
          split <;> rfl
      | AUTHORIZE =>
          exact returns_executeGuarded_report_iff (returns_executeEligible_authorize_iff env)
      | STOP => exact returns_executeGuarded_stop_iff env pump
      | SUSPEND_FUELLING_POINT =>
          exact returns_executeGuarded_report_iff fun noted => returns_report_iff rfl
      | RESUME_FUELLING_POINT =>
          exact returns_executeGuarded_report_iff fun noted => returns_report_iff rfl
      | _ => exact iff_of_true (returns_pure _ _) trivial

/-! ## Prices -/

/-- A price set under guard, on a pump whose fields were written to its context. -/
def pricedAs (pump : SimulatedPump) (nozzle price : Nat) : SimulatedPump :=
  { (noted pump .SET_PRICE).setPrice nozzle price with
    priceVerified := true }.syncContextFields

theorem effectivePrice_pricedAs (pump : SimulatedPump) (nozzle price : Nat) :
    (pricedAs pump nozzle price).effectivePrice =
      if pump.effectiveNozzle = nozzle then price else pump.effectivePrice :=
  effectivePrice_setPrice (noted pump .SET_PRICE) nozzle price

/-- The eligibility of a new price reads neither prices nor reports. -/
theorem eligible_setPrice_congr {before after : SimulatedPump}
    (hlistens : after.communicationEnabled = before.communicationEnabled)
    (hstate : after.normalizedState = before.normalizedState)
    (htransaction : after.activeTransactionId = before.activeTransactionId) :
    after.Eligible .SET_PRICE ↔ before.Eligible .SET_PRICE := by
  have hstate' : after.syncContextFields.context.currentState =
      before.syncContextFields.context.currentState := hstate
  have hhealth : after.syncContextFields.context.communicationHealthy =
      before.syncContextFields.context.communicationHealthy := hlistens
  have hactive : after.syncContextFields.context.activeTransactionId =
      before.syncContextFields.context.activeTransactionId := htransaction
  unfold Eligible
  rw [eligible_iff, eligible_iff]
  unfold collectBlocking
  dsimp only
  rw [hstate', hhealth, hactive]

/-- A guarded command without a preset value runs when it is eligible. -/
theorem finalState_executeGuarded (env : PumpEnv) (command : PumpCommand)
    {args : GuardedArgs} (hpreset : args.presetValue = none) (pump : SimulatedPump) :
    finalState (executeGuarded env command args) pump =
      if pump.Eligible command then
        finalState (executeEligible env command args) (noted pump command)
      else noted pump command := by
  have hclear := eligible_iff command pump.syncContextFields.context none
  rw [executeGuarded_eq, hpreset]
  exact if_congr hclear.symm rfl rfl

section

variable (env : PumpEnv) (nozzle price : Nat) (pump : SimulatedPump)

/-- What one new price does. -/
theorem executeGuarded_setPrice_spec :
    OnlyQueued
        (if pump.Eligible .SET_PRICE then pricedAs pump nozzle price
          else noted pump .SET_PRICE)
        (finalState (executeGuarded env .SET_PRICE
          { priceRaw := some price, nozzle := some nozzle }) pump) ∧
      (Returns (executeGuarded env .SET_PRICE
          { priceRaw := some price, nozzle := some nozzle }) pump ↔
        (pump.Eligible .SET_PRICE → (pricedAs pump nozzle price).PriceFits)) := by
  constructor
  · rw [finalState_executeGuarded env _ rfl]
    split
    · unfold executeEligible
      dsimp only
      rw [finalState_modify_bind, finalState_bind_pure]
      exact onlyQueued_queueStatusAndNozzle _
    · exact refl_of OnlyQueued _
  · rw [returns_executeGuarded_iff]
    refine imp_congr Iff.rfl ?_
    refine (returns_modify_bind _ _ _).trans ?_
    rw [returns_bind_pure_iff, returns_queueStatusAndNozzle_iff]
    exact Iff.rfl

/-- The eligibility of a new price stays through the prices of a unit. -/
theorem eligible_after_setPrice :
    (finalState (executeGuarded env .SET_PRICE
        { priceRaw := some price, nozzle := some nozzle }) pump).Eligible .SET_PRICE ↔
      pump.Eligible .SET_PRICE := by
  have hqueued := (executeGuarded_setPrice_spec env nozzle price pump).1
  generalize finalState (executeGuarded env .SET_PRICE
    { priceRaw := some price, nozzle := some nozzle }) pump = after at *
  unfold OnlyQueued at hqueued
  rw [hqueued]
  split <;> exact eligible_setPrice_congr rfl rfl rfl

end

/-- The prices of a unit: the first of them is reported with the price of the selected
nozzle, and from then on that price fits. -/
theorem returns_handlePrices_iff (env : PumpEnv) (nozzle : Nat) (data : List Byte)
    (pump : SimulatedPump) (hlength : data.length % 3 = 0) :
    Returns (handlePrices env nozzle data) pump ↔
      IsBcd data ∧ (data ≠ [] → pump.Eligible .SET_PRICE →
        pump.PriceFits ∨ pump.effectiveNozzle = nozzle) := by
  fun_induction handlePrices env nozzle data generalizing pump with
  | case1 nozzle first second third rest ih =>
      have hsplit : first :: second :: third :: rest = [first, second, third] ++ rest := rfl
      rw [hsplit, isBcd_append, ← decodePackedBcd_isOk_iff (List.cons_ne_nil _ _)]
      cases hprice : decodePackedBcd [first, second, third] with
      -- digits that are no BCD raise before anything is executed
      | error error =>
          refine iff_of_false (fun h => Bool.noConfusion h) ?_
          rintro ⟨⟨⟨_, h⟩, -⟩, -⟩
          cases h
      | ok price =>
          have hfits : price < 100 ^ 3 := decodePackedBcd_lt hprice
          have hpriced : (pricedAs pump nozzle price).PriceFits ↔
              pump.PriceFits ∨ pump.effectiveNozzle = nozzle := by
            unfold PriceFits
            rw [effectivePrice_pricedAs]
            split
            · rename_i hsame
              exact iff_of_true hfits (Or.inr hsame)
            · rename_i hother
              exact (or_iff_left hother).symm
          -- the first price may raise at its report; the later ones find its pump
          obtain ⟨hqueued, hreturns⟩ := executeGuarded_setPrice_spec env nozzle price pump
          change Returns (executeGuarded env .SET_PRICE
            { priceRaw := some price, nozzle := some nozzle } >>= fun result =>
              handlePrices env (nozzle + 1) rest >>= fun later =>
                pure (result ++ later)) pump ↔ _
          rw [returns_bind_iff (P := IsBcd rest ∧ (rest ≠ [] → pump.Eligible .SET_PRICE →
            (finalState (executeGuarded env .SET_PRICE
              { priceRaw := some price, nozzle := some nozzle }) pump).PriceFits ∨
            (finalState (executeGuarded env .SET_PRICE
              { priceRaw := some price, nozzle := some nozzle }) pump).effectiveNozzle =
                nozzle + 1)), hreturns, hpriced]
          · constructor
            · rintro ⟨hthis, hrest, -⟩
              exact ⟨⟨⟨price, rfl⟩, hrest⟩, fun _ => hthis⟩
            · -- a price that fits was reported, so it fits at the next nozzle too
              rintro ⟨⟨-, hrest⟩, hthis⟩
              refine ⟨hthis (List.cons_ne_nil _ _), hrest, fun _ heligible => Or.inl ?_⟩
              unfold PriceFits
              rw [effectivePrice_of_onlyQueued hqueued, if_pos heligible]
              exact hpriced.mpr (hthis (List.cons_ne_nil _ _) heligible)
          · intro _ _
            rw [returns_bind_pure_iff, ih, eligible_after_setPrice]
            simp only [List.length_cons] at hlength
            omega
  | case2 data nozzle hshort =>
      have hnil : data = [] := by
        rcases data with _ | ⟨first, _ | ⟨second, _ | ⟨third, rest⟩⟩⟩
        · rfl
        · simp at hlength
        · simp at hlength
        · exact absurd rfl (hshort first second third rest)
      subst hnil
      exact iff_of_true (returns_pure _ _)
        ⟨fun _ h => absurd h List.not_mem_nil, fun h => absurd rfl h⟩

/-! ## Units -/

/-- A preset raises on its digits only. -/
theorem returns_preset_iff {env : PumpEnv} (command : PumpCommand)
    (args : Nat → GuardedArgs) {data : List Byte} (hdata : data ≠ [])
    (hreturns : ∀ value pump, Returns (executeEligible env command (args value)) pump)
    (pump : SimulatedPump) :
    Returns (fromExcept (decodePackedBcd data) >>= fun value =>
      executeGuarded env command (args value)) pump ↔ IsBcd data := by
  rw [← decodePackedBcd_isOk_iff hdata, ← returns_fromExcept_iff (decodePackedBcd data) pump,
    returns_bind_iff (P := True), and_true]
  intro value _
  exact iff_of_true ((returns_executeGuarded_iff env command _ _).mpr fun _ =>
    hreturns value _) trivial

/-- The dispatch raises exactly on the units that the pump cannot handle. -/
theorem returns_handleOneTx_iff (env : PumpEnv) (trans : Byte) (data : List Byte)
    (pump : SimulatedPump) :
    Returns (handleOneTx env trans data) pump ↔ pump.CanHandle trans data := by
  have hlong : ∀ {length : Nat}, 0 < length → data.length = length → data ≠ [] := by
    intro length hpositive hlength hnil
    rw [hnil] at hlength
    exact absurd hlength.symm (Nat.ne_of_gt hpositive)
  unfold handleOneTx CanHandle
  split
  · exact returns_handleCd1_iff env _ pump
  · split
    · rename_i hvolume
      exact returns_preset_iff .PRESET_VOLUME
        (fun value => { presetValue := some value, volumeRaw := some value })
        (hlong (by decide) hvolume.2) (fun _ _ => rfl) pump
    · split
      · rename_i hamount
        exact returns_preset_iff .PRESET_AMOUNT
          (fun value => { presetValue := some value, amountRaw := some value })
          (hlong (by decide) hamount.2) (fun _ _ => rfl) pump
      · split
        · rename_i hprice
          have hdata : data ≠ [] := by
            rintro rfl
            exact absurd hprice.2.1 (by decide)
          unfold handleCd5Price
          rw [returns_handlePrices_iff env 1 data pump hprice.2.2]
          exact and_congr_right fun _ => ⟨fun h => h hdata, fun h _ => h⟩
        · split
          · rw [returns_get_bind, returns_bind_pure_iff, returns_queueEncoded_iff,
              encodeDc101Totals_isOk_iff]
            exact ⟨fun h => ⟨h.1, h.2.1⟩, fun h => ⟨h.1, h.2, Nat.pow_pos (by decide)⟩⟩
          · exact iff_of_true rfl trivial

/-! ## Payloads -/

/-- The complete units of a payload, up to a truncated one. -/
def payloadUnits : Nat → List Byte → List (Byte × List Byte)
  | fuel + 1, transId :: lng :: rest =>
      if rest.length < lng.toNat then []
      else (transId, rest.take lng.toNat) :: payloadUnits fuel (rest.drop lng.toNat)
  | _, _ => []

/-- What a unit leaves of the pump, whether it raised or not. -/
def unitStep (env : PumpEnv) (pump : SimulatedPump) (unit : Byte × List Byte) :
    SimulatedPump :=
  finalState (handleOneTx env unit.1 unit.2) pump

/-- Every unit of a payload finds a pump that can handle it. -/
def CanHandleAll (env : PumpEnv) (pump : SimulatedPump) (payload : List Byte) : Prop :=
  Along (unitStep env) (fun found unit => found.CanHandle unit.1 unit.2) pump
    (payloadUnits payload.length payload)

instance (env : PumpEnv) (pump : SimulatedPump) (payload : List Byte) :
    Decidable (CanHandleAll env pump payload) :=
  decidableAlong _ _ _ _

/-- A payload is handled without raising exactly when each of its units is. -/
theorem returns_handleApplicationPayload_iff (env : PumpEnv) (payload : List Byte)
    (pump : SimulatedPump) :
    Returns (handleApplicationPayload env payload) pump ↔
      CanHandleAll env pump payload := by
  unfold handleApplicationPayload CanHandleAll
  generalize payload.length = fuel
  fun_induction handleUnits env fuel payload generalizing pump with
  | case1 fuel transId lng rest htruncated =>
      unfold payloadUnits
      rw [if_pos htruncated]
      exact iff_of_true rfl trivial
  | case2 fuel transId lng rest hcomplete ih =>
      unfold payloadUnits
      rw [if_neg hcomplete]
      rw [returns_bind_iff fun _ _ => (returns_bind_pure_iff _ _ _).trans (ih _),
        returns_handleOneTx_iff]
      exact Iff.rfl
  | case3 fuel payload hnone =>
      have hunits : payloadUnits fuel payload = [] := by
        unfold payloadUnits
        split
        · rename_i fuel transId lng rest
          exact absurd rfl (hnone fuel transId lng rest rfl)
        · rfl
      rw [hunits]
      exact iff_of_true (returns_pure _ _) trivial

/-- A payload is a run of its units, up to the first one that raises. -/
theorem finalState_handleApplicationPayload (env : PumpEnv) (payload : List Byte)
    (pump : SimulatedPump) :
    ∃ handled, handled <+: payloadUnits payload.length payload ∧
      finalState (handleApplicationPayload env payload) pump =
        handled.foldl (unitStep env) pump := by
  unfold handleApplicationPayload
  generalize payload.length = fuel
  fun_induction handleUnits env fuel payload generalizing pump with
  | case1 fuel transId lng rest htruncated => exact ⟨[], List.nil_prefix, rfl⟩
  | case2 fuel transId lng rest hcomplete ih =>
      unfold payloadUnits
      rw [if_neg hcomplete, finalState_bind]
      cases returned (handleOneTx env transId (rest.take lng.toNat)) pump with
      | none =>
          exact ⟨[(transId, rest.take lng.toNat)],
            List.cons_prefix_cons.mpr ⟨rfl, List.nil_prefix⟩, rfl⟩
      | some faults =>
          dsimp only
          rw [finalState_bind_pure]
          obtain ⟨handled, hprefix, hfinal⟩ :=
            ih (finalState (handleOneTx env transId (rest.take lng.toNat)) pump)
          exact ⟨(transId, rest.take lng.toNat) :: handled,
            List.cons_prefix_cons.mpr ⟨rfl, hprefix⟩, hfinal⟩
  | case3 => exact ⟨[], List.nil_prefix, rfl⟩

end Simulator
end Intelipump
