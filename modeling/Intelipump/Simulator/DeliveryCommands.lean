import Mathlib.Tactic.Common
import Intelipump.Simulator.DeliverySteps

namespace Intelipump
namespace Simulator

open Domain
open Dart.Line
open Dart.Application
open Foundation.StateEffect
open StateMachine
open SimulatedPump

/-!
# What a command does to a delivery

A unit of the controller is quiet, opens a delivery, completes the one that
runs, or clears it (`command_effect`).
-/

variable {pump : SimulatedPump}

/-! ## Clearing and opening -/

/-- The delivery is gone; the totals and what is recorded stay. -/
structure Clears (before after : SimulatedPump) : Prop where
  volumeRaw : after.volumeRaw = 0
  amountRaw : after.amountRaw = 0
  totalVolumeRaw : after.totalVolumeRaw = before.totalVolumeRaw
  totalAmountRaw : after.totalAmountRaw = before.totalAmountRaw
  activeTransactionId : after.activeTransactionId = none
  keys : after.context.completedEvidenceKeys ⊆ before.context.completedEvidenceKeys
  completed : after.wayneStatus = .FILLING_COMPLETED →
    before.wayneStatus = .FILLING_COMPLETED
  stopped : after.fillingActive = false
  coherent : Coherent after

/-- A delivery of nothing begins. -/
structure Opens (transaction : String) (before after : SimulatedPump) : Prop where
  free : before.activeTransactionId = none
  books : after.books =
    { before.books with
      volumeRaw := 0
      amountRaw := 0
      activeTransactionId := some transaction }
  status : after.wayneStatus ≠ .FILLING_COMPLETED
  filling : after.fillingActive = true
  coherent : Coherent after

theorem Clears.of_quiet {before noted after : SimulatedPump} (hquiet : Quiet before noted)
    (hclears : Clears noted after) : Clears before after where
  volumeRaw := hclears.volumeRaw
  amountRaw := hclears.amountRaw
  totalVolumeRaw :=
    hclears.totalVolumeRaw.trans (congrArg DeliveryBooks.totalVolumeRaw hquiet.books)
  totalAmountRaw :=
    hclears.totalAmountRaw.trans (congrArg DeliveryBooks.totalAmountRaw hquiet.books)
  activeTransactionId := hclears.activeTransactionId
  keys := hclears.keys.trans
    (Finset.subset_of_eq (congrArg DeliveryBooks.completedEvidenceKeys hquiet.books))
  completed h := hquiet.completed (hclears.completed h)
  stopped := hclears.stopped
  coherent := hclears.coherent

theorem Clears.quiet {before cleared after : SimulatedPump}
    (hclears : Clears before cleared) (hquiet : Quiet cleared after) :
    Clears before after := by
  obtain ⟨hcoherent, hfilling⟩ := hquiet.coherent hclears.coherent
  have hbooks := hquiet.books
  unfold SimulatedPump.books at hbooks
  injection hbooks with hvolume hamount htotalVolume htotalAmount htransaction hkeys
  refine ⟨hvolume.trans hclears.volumeRaw, hamount.trans hclears.amountRaw,
    htotalVolume.trans hclears.totalVolumeRaw, htotalAmount.trans hclears.totalAmountRaw,
    htransaction.trans hclears.activeTransactionId, hkeys ▸ hclears.keys,
    fun h => hclears.completed (hquiet.completed h), ?_, hcoherent⟩
  by_contra h
  exact h (Bool.eq_false_iff.mpr fun h' =>
    Bool.false_ne_true (hclears.stopped.symm.trans (hfilling h').1))

theorem Opens.of_onlyQueued {transaction : String} {before opened after : SimulatedPump}
    (hopens : Opens transaction before opened) (hqueued : OnlyQueued opened after) :
    Opens transaction before after := by
  unfold OnlyQueued at hqueued
  rw [hqueued]
  exact ⟨hopens.free, hopens.books, hopens.status, hopens.filling, hopens.coherent⟩

theorem Clears.applyEvent {before cleared : SimulatedPump} {event : PumpEvent}
    {args : ApplyArgs} (hclears : Clears before cleared) (hevent : event ∈ steadyEvents)
    (hobservation : args.observation = none) (hobservedAt : args.observedAt = none)
    (himplicit : args.allowImplicitAuthorizeToFilling = false) :
    Clears before (cleared.applyEvent event args) :=
  hclears.quiet (quiet_applyEvent hevent hobservation hobservedAt himplicit)

/-- A restarted machine is idle and has recorded nothing. -/
theorem restartContext_spec (pump : SimulatedPump) (wasFilling : Bool) :
    deliveryPhase (pump.restartContext wasFilling).currentState = .idle ∧
      (pump.restartContext wasFilling).completedEvidenceKeys = ∅ := by
  unfold restartContext
  split <;> exact ⟨rfl, rfl⟩

/-- A restart clears the delivery. -/
theorem clears_restartPump (pump : SimulatedPump) : Clears pump (pump.restartPump true) := by
  unfold restartPump
  dsimp only
  rw [if_pos rfl]
  split
  · refine Clears.applyEvent (Clears.applyEvent ?_ (by decide) rfl rfl rfl) (by decide)
      rfl rfl rfl
    refine ⟨rfl, rfl, rfl, rfl, rfl, ?_, (fun h => by cases h), rfl,
      (restartContext_spec _ _).1⟩
    rw [(restartContext_spec _ _).2]
    exact Finset.empty_subset _
  · refine ⟨rfl, rfl, rfl, rfl, rfl, ?_, id, rfl, (restartContext_spec _ _).1⟩
    rw [(restartContext_spec _ _).2]
    exact Finset.empty_subset _

/-- The pump of a guarded reset before it is ready again. -/
def cleared (pump : SimulatedPump) : SimulatedPump :=
  { pump with
    fillingActive := false
    suspended := false
    volumeRaw := 0
    amountRaw := 0
    presetAmountRaw := none
    presetVolumeRaw := none
    activeTransactionId := none
    wayneStatus := .RESET }

/-- An eligible reset clears a delivery that does not run. -/
theorem clears_reset (env : PumpEnv) (args : GuardedArgs) (hcoherent : Coherent pump)
    (hstate : pump.normalizedState ∈ resetEligibleStates) :
    Clears pump (finalState (executeEligible env .RESET args) pump) := by
  have hidle : deliveryPhase pump.normalizedState = .idle := by
    have hpassing := hcoherent.phase_ne_passing
    revert hstate hpassing
    cases pump.normalizedState <;> decide
  have hcleared : Clears pump (cleared pump) :=
    ⟨rfl, rfl, rfl, rfl, rfl, Finset.Subset.refl _, (fun h => by cases h), rfl,
      hidle⟩
  have hready : ∀ reset : SimulatedPump, Quiet reset
      (if reset.nozzleOut = false then reset.applyEvent .READY_OBSERVED {} else reset) := by
    intro reset
    split
    · exact quiet_applyEvent (by decide) rfl rfl rfl
    · exact refl_of Quiet reset
  unfold executeEligible
  dsimp only
  rw [finalState_modify_bind, finalState_modify_bind, finalState_bind_pure]
  refine Clears.quiet ?_ (quiet_queueStatusAndNozzle _)
  refine Clears.quiet ?_ (hready _)
  exact hcleared.applyEvent (by decide) rfl rfl rfl

/-- An eligible authorization opens a delivery. -/
theorem opens_authorize (env : PumpEnv) (args : GuardedArgs)
    (hready : ReadyToAuthorize pump.syncContextFields.context) :
    Opens env.uuid4 pump (finalState (executeEligible env .AUTHORIZE args) pump) := by
  have hstate : pump.normalizedState = .NOZZLE_UP := hready.nozzleUp
  generalize hauthorized : ({ pump with
    activeTransactionId := some env.uuid4
    volumeRaw := 0
    amountRaw := 0
    wayneStatus := .AUTHORIZED } : SimulatedPump).applyEvent .AUTHORIZATION_CONFIRMED
      { activeTransactionId := some env.uuid4
        rawWayneStatus := some WaynePumpStatus.AUTHORIZED.code } = authorized
  have hauthorizedBooks : authorized.books = { pump.books with
      volumeRaw := 0
      amountRaw := 0
      activeTransactionId := some env.uuid4 } := by
    rw [← hauthorized, books_applyEvent _ _ (by decide)]
    rfl
  have hauthorizedState : authorized.normalizedState = .AUTHORIZED := by
    rw [← hauthorized, normalizedState_applyEvent _ _ rfl rfl rfl (by decide)]
    exact congrArg (moved · .AUTHORIZATION_CONFIRMED) hstate
  -- the delivery starts in the same command
  generalize hstarted : ({ authorized with
    fillingActive := true
    suspended := false
    lastFillTickMs := some env.now
    wayneStatus := .FILLING } : SimulatedPump).applyEvent .FILLING_STARTED
      { rawWayneStatus := some WaynePumpStatus.FILLING.code } = started
  have hopens : Opens env.uuid4 pump started := by
    refine ⟨hready.noTransaction, ?_, ?_, ?_, ?_⟩
    · rw [← hstarted, books_applyEvent _ _ (by decide)]
      exact hauthorizedBooks
    · rw [← hstarted]
      exact WaynePumpStatus.noConfusion
    · rw [← hstarted]
      rfl
    · have hstartedState : started.normalizedState = .FILLING := by
        rw [← hstarted, normalizedState_applyEvent _ _ rfl rfl rfl (by decide)]
        exact congrArg (moved · .FILLING_STARTED) hauthorizedState
      unfold Coherent
      rw [hstartedState, ← hstarted]
      rfl
  -- the reports at the end only fill the queue
  have hreported : Preserves OnlyQueued (do
      queueStatusAndNozzle
      queueFillData
      return [] : PumpM (List ProtocolFault)) :=
    .of_bind onlyQueued_queueStatusAndNozzle fun _ =>
      .of_bind onlyQueued_queueFillData fun _ => .of_pure _
  unfold executeEligible
  dsimp only
  rw [finalState_modify_bind, finalState_modify_bind, hauthorized, hstarted]
  exact hopens.of_onlyQueued (hreported started)

/-! ## Commands under guard -/

theorem quiet_noted (pump : SimulatedPump) (command : PumpCommand) :
    Quiet pump (noted pump command) :=
  .of_eq rfl id rfl rfl rfl

/-- A guarded command that is quiet on the pumps it is eligible on. -/
theorem quiet_executeGuarded {env : PumpEnv} {command : PumpCommand} {args : GuardedArgs}
    {pump : SimulatedPump}
    (hquiet : collectBlocking command pump.syncContextFields.context
        (args.presetValue.map (Nat.cast : Nat → ℚ)) = [] →
      Quiet (noted pump command)
        (finalState (executeEligible env command args) (noted pump command))) :
    Quiet pump (finalState (executeGuarded env command args) pump) := by
  rw [executeGuarded_eq]
  split
  · rename_i hclear
    exact trans_of Quiet (quiet_noted pump command) (hquiet hclear)
  · exact quiet_noted pump command

/-- A command that reports the status of a quietly changed pump. -/
theorem quiet_report {change : SimulatedPump → SimulatedPump} {faults : List ProtocolFault}
    (hchange : ∀ pump, Quiet pump (change pump)) :
    Preserves Quiet (do
      modify change
      queueStatusAndNozzle
      return faults : PumpM (List ProtocolFault)) :=
  .of_bind (.of_modify hchange) fun _ =>
    .of_bind quiet_queueStatusAndNozzle fun _ => .of_pure _

theorem quiet_setPrice (env : PumpEnv) (nozzle price : Nat) (pump : SimulatedPump) :
    Quiet pump (finalState (executeEligible env .SET_PRICE
      { priceRaw := some price, nozzle := some nozzle }) pump) := by
  unfold executeEligible
  dsimp only
  refine quiet_report (fun pump => ?_) pump
  exact .of_eq rfl id rfl rfl rfl

theorem quiet_suspend (env : PumpEnv) (args : GuardedArgs) (pump : SimulatedPump) :
    Quiet pump (finalState (executeEligible env .SUSPEND args) pump) := by
  unfold executeEligible
  dsimp only
  refine quiet_report (fun pump => ?_) pump
  exact Quiet.applyEvent (.of_eq rfl (fun h => by cases h) rfl rfl rfl) (by decide)
    rfl rfl rfl

theorem quiet_resume (env : PumpEnv) (args : GuardedArgs) (pump : SimulatedPump) :
    Quiet pump (finalState (executeEligible env .RESUME args) pump) := by
  unfold executeEligible
  dsimp only
  refine quiet_report (fun pump => ?_) pump
  exact Quiet.applyEvent (.of_eq rfl (fun h => by cases h) rfl rfl rfl) (by decide)
    rfl rfl rfl

/-- A preset is taken in states without a running delivery only. -/
theorem quiet_preset {change : SimulatedPump → SimulatedPump} {pump : SimulatedPump}
    {command : PumpCommand} {presetValue : Option ℚ}
    (hcommand : command = .PRESET_VOLUME ∨ command = .PRESET_AMOUNT)
    (hclear : collectBlocking command pump.syncContextFields.context presetValue = [])
    (hbooks : (change (noted pump command)).books = (noted pump command).books)
    (hstatus : (change (noted pump command)).wayneStatus = pump.wayneStatus)
    (hstate : (change (noted pump command)).normalizedState = pump.normalizedState)
    (hfilling : (change (noted pump command)).fillingActive = pump.fillingActive) :
    Quiet (noted pump command) (change (noted pump command)) := by
  have hpreset : pump.normalizedState ∈ presetStates := by
    by_contra hnot
    have hblocked : pump.syncContextFields.context.currentState ∉ presetStates := hnot
    rcases hcommand with rfl | rfl
    · simp [collectBlocking, hblocked] at hclear
    · simp [collectBlocking, hblocked] at hclear
  refine ⟨hbooks, fun h => hstatus ▸ h, fun hcoherent =>
    ⟨hcoherent.of_eq hstate hfilling, fun h => ?_⟩⟩
  rw [hfilling] at h
  have hrunning := Coherent.running hcoherent h
  change deliveryPhase pump.normalizedState = .running at hrunning
  exfalso
  revert hpreset hrunning
  cases pump.normalizedState <;> decide

/-- A stop adds the running delivery to the totals. -/
theorem completed_stop (env : PumpEnv) (args : GuardedArgs) (hcoherent : Coherent pump)
    (hdelivering : pump.fillingActive = true → Delivering pump)
    (hstate : pump.normalizedState ∈ stopStates) :
    pump.fillingActive = true ∧
      Completed pump (finalState (executeEligible env .STOP args) pump) := by
  have hfilling : pump.fillingActive = true := by
    have hpassing := hcoherent.phase_ne_passing
    have hphase : deliveryPhase pump.normalizedState = .running := by
      revert hstate hpassing
      cases pump.normalizedState <;> decide
    exact hcoherent.filling hphase
  have hrunning := hdelivering hfilling
  refine ⟨hfilling, ?_⟩
  unfold executeEligible
  dsimp only
  rw [finalState_bind_pure]
  refine completed_completeFilling ?_ hrunning.fresh
  have hstates := hrunning.state
  revert hstates
  cases pump.normalizedState <;> decide

/-! ## Units -/

/-- The CD1 command of a unit. -/
def cd1Command (trans : Byte) (data : List Byte) : Option PumpControlCommand :=
  if trans = 0x01 ∧ data.length = 1 then PumpControlCommand.ofCode? (data.headD 0) else none

/-- What a command does to a delivery. -/
inductive CommandEffect (transaction : String) (command : Option PumpControlCommand)
    (before after : SimulatedPump) : Prop where
  | quiet (hquiet : Quiet before after)
      (hkept : ¬ (command = some .RESET ∧ before.Eligible .RESET))
  | clears (hclears : Clears before after) (hcommand : command = some .RESET)
      (heligible : before.Eligible .RESET)
  | opens (hopens : Opens transaction before after) (hcommand : command = some .AUTHORIZE)
  | completes (hcompleted : Completed before after) (hfilling : before.fillingActive = true)
      (hkept : ¬ (command = some .RESET ∧ before.Eligible .RESET))

section

variable {env : PumpEnv}

theorem quiet_handlePrices (nozzle : Nat) (data : List Byte) :
    Preserves Quiet (handlePrices env nozzle data) := by
  fun_induction handlePrices env nozzle data with
  | case1 nozzle first second third rest ih =>
      refine .of_bind (.of_fromExcept _) fun price => ?_
      have hset : Preserves Quiet (executeGuarded env .SET_PRICE
          { priceRaw := some price, nozzle := some nozzle }) := fun pump =>
        quiet_executeGuarded fun _ => quiet_setPrice env nozzle price _
      exact .of_bind hset fun _ => .of_bind ih fun _ => .of_pure _
  | case2 => exact .of_pure _

/-- The effect of a guarded command of CD1. -/
theorem handleCd1_effect (dcc : Byte) (hcoherent : Coherent pump)
    (hdelivering : pump.fillingActive = true → Delivering pump) :
    CommandEffect env.uuid4 (PumpControlCommand.ofCode? dcc) pump
      (finalState (handleCd1 env dcc) pump) := by
  have hother : ∀ {command : PumpControlCommand}, command ≠ .RESET →
      ¬ (some command = some PumpControlCommand.RESET ∧ pump.Eligible .RESET) :=
    fun hcommand h => hcommand (Option.some.inj h.1)
  unfold handleCd1
  rw [finalState_get_bind]
  cases hcommand : PumpControlCommand.ofCode? dcc with
  | none => exact .quiet (refl_of Quiet pump) fun h => nomatch h.1
  | some command =>
      cases command with
      -- the four requests only queue their answers
      | RETURN_STATUS =>
          dsimp only
          rw [finalState_bind_pure]
          exact .quiet (quiet_queueStatusAndNozzle pump) (hother (by decide))
      | RETURN_FILLING_INFORMATION =>
          dsimp only
          rw [finalState_bind_pure]
          exact .quiet (quiet_queueFillData pump) (hother (by decide))
      | RETURN_PUMP_IDENTITY =>
          dsimp only
          rw [finalState_bind_pure]
          exact .quiet (quiet_queueEncoded _ _ pump) (hother (by decide))
      | RETURN_PUMP_PARAMETERS =>
          dsimp only
          rw [finalState_bind_pure]
          exact .quiet (quiet_queueEncoded _ _ pump) (hother (by decide))
      -- a suspended delivery runs on
      | SUSPEND_FUELLING_POINT =>
          exact .quiet (quiet_executeGuarded fun _ => quiet_suspend env _ _)
            (hother (by decide))
      | RESUME_FUELLING_POINT =>
          exact .quiet (quiet_executeGuarded fun _ => quiet_resume env _ _)
            (hother (by decide))
      -- the three commands that end or begin a delivery
      | RESET =>
          change CommandEffect _ _ _ (finalState (executeGuarded env .RESET {}) pump)
          rw [finalState_executeGuarded env _ rfl]
          split
          · rename_i heligible
            obtain ⟨hstate, -⟩ := (reset_eligible_iff _ _).mp heligible
            exact .clears (Clears.of_quiet (quiet_noted pump .RESET)
              (clears_reset env {} hcoherent hstate)) rfl heligible
          · rename_i hblocked
            exact .quiet (quiet_noted pump .RESET) fun h => hblocked h.2
      | AUTHORIZE =>
          change CommandEffect _ _ _ (finalState (executeGuarded env .AUTHORIZE {}) pump)
          rw [finalState_executeGuarded env _ rfl]
          split
          · rename_i heligible
            have hready := (authorize_eligible_iff _ _).mp heligible
            have hopens : Opens env.uuid4 (noted pump .AUTHORIZE) _ :=
              opens_authorize env {} hready
            exact .opens ⟨hopens.free, hopens.books, hopens.status, hopens.filling,
              hopens.coherent⟩ rfl
          · exact .quiet (quiet_noted pump .AUTHORIZE) (hother (by decide))
      | STOP =>
          change CommandEffect _ _ _ (finalState (executeGuarded env .STOP {}) pump)
          rw [finalState_executeGuarded env _ rfl]
          split
          · rename_i heligible
            obtain ⟨hstate, -⟩ := (stop_eligible_iff _ _).mp heligible
            have hnoted : (noted pump .STOP).fillingActive = true →
                Delivering (noted pump .STOP) := fun hfilling =>
              ⟨(hdelivering hfilling).coherent, hfilling, (hdelivering hfilling).limit,
                (hdelivering hfilling).status, (hdelivering hfilling).fresh⟩
            have hstop : (noted pump .STOP).fillingActive = true ∧
                Completed (noted pump .STOP) _ :=
              completed_stop env {} hcoherent hnoted hstate
            obtain ⟨hfilling, hcompleted⟩ := hstop
            exact .completes ⟨hcompleted.books, hcompleted.status, hcompleted.stopped,
              hcompleted.coherent⟩ hfilling (hother (by decide))
          · exact .quiet (quiet_noted pump .STOP) (hother (by decide))
      | _ => exact .quiet (refl_of Quiet pump) (hother (by decide))

theorem quiet_handleCd3PresetVolume (data : List Byte) :
    Preserves Quiet (handleCd3PresetVolume env data) := by
  refine .of_bind (.of_fromExcept _) fun volumeRaw pump => quiet_executeGuarded fun hclear => ?_
  exact quiet_preset (Or.inl rfl) hclear rfl rfl rfl rfl

theorem quiet_handleCd4PresetAmount (data : List Byte) :
    Preserves Quiet (handleCd4PresetAmount env data) := by
  refine .of_bind (.of_fromExcept _) fun amountRaw pump => quiet_executeGuarded fun hclear => ?_
  exact quiet_preset (Or.inr rfl) hclear rfl rfl rfl rfl

/-- The effect of a unit, whatever it is and however it ends. -/
theorem command_effect (trans : Byte) (data : List Byte) (hcoherent : Coherent pump)
    (hdelivering : pump.fillingActive = true → Delivering pump) :
    CommandEffect env.uuid4 (cd1Command trans data) pump
      (finalState (handleOneTx env trans data) pump) := by
  unfold handleOneTx cd1Command
  split
  · exact handleCd1_effect _ hcoherent hdelivering
  · have hquiet : ∀ {action : PumpM (List ProtocolFault)}, Preserves Quiet action →
        CommandEffect env.uuid4 none pump (finalState action pump) := fun haction =>
      .quiet (haction pump) fun h => nomatch h.1
    split
    · exact hquiet (quiet_handleCd3PresetVolume data)
    · split
      · exact hquiet (quiet_handleCd4PresetAmount data)
      · split
        · exact hquiet (quiet_handlePrices 1 data)
        · split
          · exact hquiet (.of_bind .of_get fun _ =>
              .of_bind (quiet_queueEncoded _ _) fun _ => .of_pure _)
          · exact hquiet (.of_bind .of_get fun _ => .of_pure _)

end

end Simulator
end Intelipump
