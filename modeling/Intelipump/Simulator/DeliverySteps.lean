import Mathlib.Data.List.Basic
import Mathlib.Tactic.Common
import Intelipump.Simulator.Handling

namespace Intelipump
namespace Simulator

open Domain
open Dart.Line
open Dart.Application
open Foundation.StateEffect
open StateMachine
open SimulatedPump

/-!
# What an operation does to a delivery

Most operations are quiet: they leave the numbers of a delivery alone and start
no filling.  An authorization opens a delivery, an interval fills it, a
completion adds it to the totals; a guarded reset and a restart clear it.
-/

/-- The numbers of a delivery. -/
structure DeliveryBooks where
  volumeRaw : Nat
  amountRaw : Nat
  totalVolumeRaw : Nat
  totalAmountRaw : Nat
  activeTransactionId : Option String
  completedEvidenceKeys : Finset String
deriving DecidableEq

def SimulatedPump.books (pump : SimulatedPump) : DeliveryBooks where
  volumeRaw := pump.volumeRaw
  amountRaw := pump.amountRaw
  totalVolumeRaw := pump.totalVolumeRaw
  totalAmountRaw := pump.totalAmountRaw
  activeTransactionId := pump.activeTransactionId
  completedEvidenceKeys := pump.context.completedEvidenceKeys

/-- The evidence key of a completion. -/
def completionKey (transaction : String) (volumeRaw amountRaw : Nat) : String :=
  s!"complete:{transaction}:{volumeRaw}:{amountRaw}"

/-- The books with other numbers of the running delivery. -/
def DeliveryBooks.filled (books : DeliveryBooks) (volumeRaw amountRaw : Nat) :
    DeliveryBooks :=
  { books with volumeRaw := volumeRaw, amountRaw := amountRaw }

/-- The books after the delivery was added to the totals. -/
def DeliveryBooks.completed (books : DeliveryBooks) : DeliveryBooks :=
  { books with
    totalVolumeRaw := books.totalVolumeRaw + books.volumeRaw
    totalAmountRaw := books.totalAmountRaw + books.amountRaw
    completedEvidenceKeys := insert (completionKey (books.activeTransactionId.getD "None")
      books.volumeRaw books.amountRaw) books.completedEvidenceKeys }

/-- No completion of the transaction is recorded. -/
def DeliveryBooks.Fresh (books : DeliveryBooks) : Prop :=
  ∀ volumeRaw amountRaw, completionKey (books.activeTransactionId.getD "None") volumeRaw
    amountRaw ∉ books.completedEvidenceKeys

/-- What a state says of a delivery. -/
inductive DeliveryPhase where
  | idle | passing | running
deriving DecidableEq, Repr

/-- No operation ends in the two passing states. -/
def deliveryPhase : PumpState → DeliveryPhase
  | .FILLING | .SUSPENDED => .running
  | .AUTHORIZED | .LIMIT_REACHED => .passing
  | _ => .idle

/-- The filling engine is on exactly in the states of a running delivery. -/
def Coherent (pump : SimulatedPump) : Prop :=
  deliveryPhase pump.normalizedState = if pump.fillingActive then .running else .idle

variable {pump : SimulatedPump}

theorem Coherent.running (hcoherent : Coherent pump) (hfilling : pump.fillingActive = true) :
    deliveryPhase pump.normalizedState = .running := by
  unfold Coherent at hcoherent
  rw [hcoherent, if_pos hfilling]

theorem Coherent.filling (hcoherent : Coherent pump)
    (hphase : deliveryPhase pump.normalizedState = .running) :
    pump.fillingActive = true := by
  by_contra hstopped
  unfold Coherent at hcoherent
  rw [hphase, if_neg hstopped] at hcoherent
  cases hcoherent

theorem Coherent.of_eq {before after : SimulatedPump} (hcoherent : Coherent before)
    (hstate : after.normalizedState = before.normalizedState)
    (hfilling : after.fillingActive = before.fillingActive) : Coherent after := by
  unfold Coherent
  rw [hstate, hfilling]
  exact hcoherent

/-- The key names its transaction: volume and amount are the last two fields. -/
theorem transaction_of_completionKey {first second : String} {volume amount : Nat}
    {volume' amount' : Nat}
    (hkey : completionKey first volume amount = completionKey second volume' amount') :
    first = second := by
  have hchars : ∀ (transaction : String) (volumeRaw amountRaw : Nat),
      (completionKey transaction volumeRaw amountRaw).toList =
        ("complete:".toList ++ transaction.toList ++ ':' :: (toString volumeRaw).toList) ++
          ':' :: (toString amountRaw).toList := by
    intro transaction volumeRaw amountRaw
    unfold completionKey
    simp [String.toList_append, toString]
  have heq := congrArg String.toList hkey
  rw [hchars, hchars] at heq
  -- the last colon stands before the amount, the one before it before the volume
  have hvolume := eq_of_append_separator (toString_not_mem_colon amount)
    (toString_not_mem_colon amount') heq
  have htransaction := eq_of_append_separator (toString_not_mem_colon volume)
    (toString_not_mem_colon volume') hvolume
  exact String.toList_injective (List.append_cancel_left htransaction)

/-! ## Quiet operations -/

/-- The delivery is left as it was, or its filling is stopped. -/
structure Quiet (before after : SimulatedPump) : Prop where
  books : after.books = before.books
  completed : after.wayneStatus = .FILLING_COMPLETED →
    before.wayneStatus = .FILLING_COMPLETED
  coherent : Coherent before → Coherent after ∧ (after.fillingActive = true →
    before.fillingActive = true ∧ after.limitVolume = before.limitVolume)

instance : IsPreorder SimulatedPump Quiet where
  refl _ := ⟨rfl, id, fun hcoherent => ⟨hcoherent, fun hfilling => ⟨hfilling, rfl⟩⟩⟩
  trans _ _ _ hfirst hsecond := by
    refine ⟨hsecond.books.trans hfirst.books,
      fun h => hfirst.completed (hsecond.completed h), fun hcoherent => ?_⟩
    obtain ⟨hmiddle, hkept⟩ := hfirst.coherent hcoherent
    obtain ⟨hlast, hkept'⟩ := hsecond.coherent hmiddle
    refine ⟨hlast, fun hfilling => ?_⟩
    obtain ⟨hfilling', hlimit'⟩ := hkept' hfilling
    obtain ⟨hfilling'', hlimit⟩ := hkept hfilling'
    exact ⟨hfilling'', hlimit'.trans hlimit⟩

/-- A change of other fields. -/
theorem Quiet.of_eq {before after : SimulatedPump} (hbooks : after.books = before.books)
    (hstatus : after.wayneStatus = .FILLING_COMPLETED →
      before.wayneStatus = .FILLING_COMPLETED)
    (hstate : after.normalizedState = before.normalizedState)
    (hfilling : after.fillingActive = before.fillingActive)
    (hlimit : after.limitVolume = before.limitVolume) : Quiet before after := by
  exact ⟨hbooks, hstatus, fun hcoherent =>
    ⟨hcoherent.of_eq hstate hfilling, fun h => ⟨hfilling ▸ h, hlimit⟩⟩⟩

theorem quiet_of_onlyQueued {before after : SimulatedPump}
    (hqueued : OnlyQueued before after) : Quiet before after := by
  unfold OnlyQueued at hqueued
  rw [hqueued]
  exact .of_eq rfl id rfl rfl rfl

theorem quiet_queueEncoded (encoded : Except Raised (List Byte)) (label : String) :
    Preserves Quiet (queueEncoded encoded label) :=
  fun pump => quiet_of_onlyQueued (onlyQueued_queueEncoded encoded label pump)

theorem quiet_queueStatusAndNozzle : Preserves Quiet queueStatusAndNozzle :=
  fun pump => quiet_of_onlyQueued (onlyQueued_queueStatusAndNozzle pump)

theorem quiet_queueFillData : Preserves Quiet queueFillData :=
  fun pump => quiet_of_onlyQueued (onlyQueued_queueFillData pump)

/-- The books after an event that is no completion. -/
theorem books_applyEvent (pump : SimulatedPump) (args : ApplyArgs) {event : PumpEvent}
    (hevent : event ≠ .FILLING_COMPLETED) :
    (pump.applyEvent event args).books = pump.books := by
  unfold books
  rw [completedEvidenceKeys_applyEvent pump args hevent]
  rfl

/-- Events that neither begin nor end a delivery. -/
def steadyEvents : List PumpEvent :=
  [.COMMUNICATION_STARTED, .PUMP_DISCOVERED, .RESET_OBSERVED, .READY_OBSERVED,
    .NOZZLE_LIFTED, .NOZZLE_RETURNED, .FAULT_CLEARED, .FILLING_UPDATED,
    .SUSPENDED_OBSERVED, .RESUMED_OBSERVED]

theorem deliveryPhase_moved {event : PumpEvent} (hevent : event ∈ steadyEvents)
    {state : PumpState} (hstate : deliveryPhase state ≠ .passing) :
    deliveryPhase (moved state event) = deliveryPhase state := by
  revert hevent hstate
  cases event <;> cases state <;> decide

section

variable {args : ApplyArgs}

theorem Coherent.phase_ne_passing (hcoherent : Coherent pump) :
    deliveryPhase pump.normalizedState ≠ .passing := by
  unfold Coherent at hcoherent
  rw [hcoherent]
  split <;> exact DeliveryPhase.noConfusion

theorem quiet_applyEvent {event : PumpEvent} (hevent : event ∈ steadyEvents)
    (hobservation : args.observation = none) (hobservedAt : args.observedAt = none)
    (himplicit : args.allowImplicitAuthorizeToFilling = false) :
    Quiet pump (pump.applyEvent event args) := by
  have hcompletion : event ≠ .FILLING_COMPLETED := by
    rintro rfl
    exact absurd hevent (by decide)
  refine ⟨books_applyEvent pump args hcompletion, id, fun hcoherent => ⟨?_, fun h => ⟨h, rfl⟩⟩⟩
  unfold Coherent
  rw [normalizedState_applyEvent pump event hobservation hobservedAt himplicit hcompletion,
    deliveryPhase_moved hevent hcoherent.phase_ne_passing]
  exact hcoherent

/-- A steady event after a quiet change. -/
theorem Quiet.applyEvent {changed : SimulatedPump} {event : PumpEvent}
    (hchanged : Quiet pump changed) (hevent : event ∈ steadyEvents)
    (hobservation : args.observation = none) (hobservedAt : args.observedAt = none)
    (himplicit : args.allowImplicitAuthorizeToFilling = false) :
    Quiet pump (changed.applyEvent event args) :=
  trans_of Quiet hchanged (quiet_applyEvent hevent hobservation hobservedAt himplicit)

/-- An event that ends every delivery, after the filling engine was stopped. -/
theorem quiet_stopped {stopped : SimulatedPump} {event : PumpEvent}
    (hbooks : stopped.books = pump.books)
    (hstatus : stopped.wayneStatus = .FILLING_COMPLETED →
      pump.wayneStatus = .FILLING_COMPLETED)
    (hfilling : stopped.fillingActive = false)
    (hevent : event = .FAULT_OBSERVED ∨ event = .COMMUNICATION_LOST)
    (hobservation : args.observation = none) (hobservedAt : args.observedAt = none)
    (himplicit : args.allowImplicitAuthorizeToFilling = false) :
    Quiet pump (stopped.applyEvent event args) := by
  have hcompletion : event ≠ .FILLING_COMPLETED := by
    rcases hevent with rfl | rfl <;> exact PumpEvent.noConfusion
  have hfilling' : (stopped.applyEvent event args).fillingActive = false := hfilling
  refine ⟨(books_applyEvent stopped args hcompletion).trans hbooks, hstatus, fun _ =>
    ⟨?_, fun h => absurd (hfilling'.symm.trans h) Bool.false_ne_true⟩⟩
  unfold Coherent
  rw [hfilling', normalizedState_applyEvent stopped event hobservation hobservedAt himplicit
    hcompletion]
  rcases hevent with rfl | rfl <;> cases stopped.normalizedState <;> rfl

end

/-! ## Operations at the pump -/

theorem quiet_enableCommunication (pump : SimulatedPump) :
    Quiet pump pump.enableCommunication :=
  Quiet.applyEvent (.of_eq rfl id rfl rfl rfl) (by decide) rfl rfl rfl

theorem quiet_disableCommunication (pump : SimulatedPump) :
    Quiet pump pump.disableCommunication := by
  have hlost : Quiet pump ({ pump with
      communicationEnabled := false
      fillingActive := false }.applyEvent .COMMUNICATION_LOST {}) :=
    quiet_stopped rfl id rfl (Or.inr rfl) rfl rfl rfl
  have hcleared : ∀ lost : SimulatedPump, Quiet lost { lost with
      pendingOutbound := []
      awaitingAckSequence := none
      dataPendingSinceMs := none } := fun _ => .of_eq rfl id rfl rfl rfl
  exact trans_of Quiet hlost (hcleared _)

theorem quiet_coldStartToReady : Preserves Quiet coldStartToReady := by
  refine .of_bind (.of_modify fun pump => ?_) fun _ => ?_
  · split
    · exact refl_of Quiet pump
    · exact quiet_enableCommunication pump
  refine .of_bind (.of_modify fun pump => quiet_applyEvent (by decide) rfl rfl rfl)
    fun _ => ?_
  refine .of_bind (.of_modify fun pump => ?_) fun _ => ?_
  · exact Quiet.applyEvent (.of_eq rfl (fun h => by cases h) rfl rfl rfl) (by decide)
      rfl rfl rfl
  refine .of_bind (.of_modify fun pump => ?_) fun _ => ?_
  · exact Quiet.applyEvent (.of_eq rfl id rfl rfl rfl) (by decide) rfl rfl rfl
  refine .of_bind (.of_modify fun pump => ?_) fun _ => quiet_queueStatusAndNozzle
  exact .of_eq rfl (fun h => by cases h) rfl rfl rfl

theorem quiet_liftNozzle (env : PumpEnv) (nozzle : Nat) :
    Preserves Quiet (liftNozzle env nozzle) := by
  refine .of_bind .of_get fun pump => .of_ite (.of_pure _) ?_
  refine .of_bind (.of_modify fun pump => .of_eq rfl id rfl rfl rfl) fun _ => ?_
  refine .of_bind (.of_modify fun pump => quiet_applyEvent (by decide) rfl rfl rfl)
    fun _ => ?_
  exact .of_bind quiet_queueStatusAndNozzle fun _ => .of_pure _

theorem quiet_returnNozzle : Preserves Quiet returnNozzle := by
  refine .of_bind (.of_modify fun pump => ?_) fun _ => quiet_queueStatusAndNozzle
  dsimp only
  split
  · exact Quiet.applyEvent (.of_eq rfl id rfl rfl rfl) (by decide) rfl rfl rfl
  · exact .of_eq rfl id rfl rfl rfl

theorem quiet_injectFault (code : Nat) : Preserves Quiet (injectFault code) := by
  refine .of_bind (.of_modify fun pump => ?_) fun _ => quiet_queueEncoded _ _
  exact quiet_stopped rfl (fun h => by cases h) rfl (Or.inl rfl) rfl rfl rfl

theorem quiet_clearFault (pump : SimulatedPump) : Quiet pump pump.clearFault := by
  have hcleared : Quiet pump
      ({ pump with faultCode := none }.applyEvent .FAULT_CLEARED {}) :=
    Quiet.applyEvent (.of_eq rfl id rfl rfl rfl) (by decide) rfl rfl rfl
  have hreset : ∀ cleared : SimulatedPump, Quiet cleared
      ({ cleared with wayneStatus := .RESET }.applyEvent .RESET_OBSERVED {}) := fun _ =>
    Quiet.applyEvent (.of_eq rfl (fun h => by cases h) rfl rfl rfl) (by decide) rfl rfl rfl
  unfold clearFault
  exact Quiet.applyEvent (trans_of Quiet hcleared (hreset _)) (by decide) rfl rfl rfl

/-! ## Filling -/

/-- A delivery that runs. -/
structure Delivering (pump : SimulatedPump) : Prop where
  coherent : Coherent pump
  filling : pump.fillingActive = true
  limit : pump.volumeRaw ≤ pump.limitVolume
  status : pump.wayneStatus ≠ .FILLING_COMPLETED
  fresh : pump.books.Fresh

/-- The delivery runs on with more volume. -/
structure Filled (before after : SimulatedPump) : Prop where
  delivering : Delivering after
  books : after.books = before.books.filled after.volumeRaw after.amountRaw
  volume_le : before.volumeRaw ≤ after.volumeRaw

/-- The delivery was added to the totals. -/
structure Completed (before after : SimulatedPump) : Prop where
  books : after.books = before.books.completed
  status : after.wayneStatus = .FILLING_COMPLETED
  stopped : after.fillingActive = false
  coherent : Coherent after

/-- A delivery was filled, and completed perhaps. -/
def Delivered (before after : SimulatedPump) : Prop :=
  Filled before after ∨ ∃ filled, Filled before filled ∧ Completed filled after

theorem Delivering.of_onlyQueued {before after : SimulatedPump}
    (hdelivering : Delivering before) (hqueued : OnlyQueued before after) :
    Delivering after := by
  unfold OnlyQueued at hqueued
  rw [hqueued]
  exact ⟨hdelivering.coherent, hdelivering.filling, hdelivering.limit, hdelivering.status,
    hdelivering.fresh⟩

theorem Filled.of_onlyQueued {before filled after : SimulatedPump}
    (hfilled : Filled before filled) (hqueued : OnlyQueued filled after) :
    Filled before after := by
  have hdelivering := hfilled.delivering.of_onlyQueued hqueued
  unfold OnlyQueued at hqueued
  have hbooks : after.books = filled.books := by
    rw [hqueued]
    rfl
  have hvolume : after.volumeRaw = filled.volumeRaw := congrArg DeliveryBooks.volumeRaw hbooks
  have hamount : after.amountRaw = filled.amountRaw := congrArg DeliveryBooks.amountRaw hbooks
  refine ⟨hdelivering, ?_, hvolume ▸ hfilled.volume_le⟩
  rw [hbooks, hvolume, hamount]
  exact hfilled.books

theorem Filled.trans {before filled after : SimulatedPump}
    (hfilled : Filled before filled) (hafter : Filled filled after) : Filled before after :=
  ⟨hafter.delivering, by rw [hafter.books, hfilled.books]; rfl,
    hfilled.volume_le.trans hafter.volume_le⟩

theorem Filled.delivered {before filled after : SimulatedPump}
    (hfilled : Filled before filled) (hafter : Delivered filled after) :
    Delivered before after := by
  rcases hafter with hmore | ⟨last, hmore, hcompleted⟩
  · exact Or.inl (hfilled.trans hmore)
  · exact Or.inr ⟨last, hfilled.trans hmore, hcompleted⟩

theorem Delivering.filled (hdelivering : Delivering pump) : Filled pump pump :=
  ⟨hdelivering, rfl, le_rfl⟩

theorem Delivered.volume_le {before after : SimulatedPump} (hdelivered : Delivered before after) :
    before.volumeRaw ≤ after.volumeRaw := by
  rcases hdelivered with hfilled | ⟨filled, hfilled, hcompleted⟩
  · exact hfilled.volume_le
  · have hvolume : after.volumeRaw = filled.volumeRaw :=
      congrArg DeliveryBooks.volumeRaw hcompleted.books
    exact hvolume ▸ hfilled.volume_le

/-- A completion that was not recorded before moves the machine and is recorded. -/
theorem context_completed {pump : SimulatedPump} {args : ApplyArgs} {key : String}
    (hstate : pump.normalizedState ∈ [PumpState.FILLING, .SUSPENDED, .LIMIT_REACHED])
    (hobservation : args.observation = none) (hobservedAt : args.observedAt = none)
    (himplicit : args.allowImplicitAuthorizeToFilling = false)
    (hkey : args.completionEvidenceKey = some key)
    (hfresh : key ∉ pump.context.completedEvidenceKeys) :
    (pump.applyEvent .FILLING_COMPLETED args).normalizedState = .FILLING_COMPLETE ∧
      (pump.applyEvent .FILLING_COMPLETED args).context.completedEvidenceKeys =
        insert key pump.context.completedEvidenceKeys := by
  have hnew : ¬ IsDuplicateCompletion pump.syncContextFields.context .FILLING_COMPLETED
      args := by
    rintro ⟨-, found, hfound, hrecorded⟩
    rw [hkey] at hfound
    cases hfound
    exact hfresh hrecorded
  have htable : tableOutcome pump.normalizedState .FILLING_COMPLETED false =
      .transition .FILLING_COMPLETE := by
    revert hstate
    cases pump.normalizedState <;> decide
  have hcontext := context_applyEvent pump .FILLING_COMPLETED args
  rw [outcome_applyEvent pump _ hobservation hobservedAt himplicit hnew, htable] at hcontext
  unfold normalizedState
  rw [hcontext]
  refine ⟨rfl, ?_⟩
  rw [contextAfter_completedEvidenceKeys, hkey]
  exact if_pos rfl

/-- A pump that added its delivery to the totals, before it reports. -/
def counted (pump : SimulatedPump) : SimulatedPump :=
  { pump with
    fillingActive := false
    suspended := false
    totalVolumeRaw := pump.totalVolumeRaw + pump.volumeRaw
    totalAmountRaw := pump.totalAmountRaw + pump.amountRaw
    wayneStatus := .FILLING_COMPLETED }.applyEvent .FILLING_COMPLETED
      { rawWayneStatus := some WaynePumpStatus.FILLING_COMPLETED.code
        completionEvidenceKey := some
          (completionKey pump.transactionText pump.volumeRaw pump.amountRaw) }

theorem completed_counted {pump : SimulatedPump}
    (hstate : pump.normalizedState ∈ [PumpState.FILLING, .SUSPENDED, .LIMIT_REACHED])
    (hfresh : pump.books.Fresh) : Completed pump (counted pump) := by
  have hmachine : (counted pump).normalizedState = .FILLING_COMPLETE ∧
      (counted pump).context.completedEvidenceKeys =
        insert (completionKey pump.transactionText pump.volumeRaw pump.amountRaw)
          pump.context.completedEvidenceKeys :=
    context_completed hstate rfl rfl rfl rfl (hfresh pump.volumeRaw pump.amountRaw)
  refine ⟨?_, rfl, rfl, ?_⟩
  · unfold SimulatedPump.books
    rw [hmachine.2]
    rfl
  · unfold Coherent
    rw [hmachine.1]
    rfl

theorem Completed.of_onlyQueued {before counted after : SimulatedPump}
    (hcompleted : Completed before counted) (hqueued : OnlyQueued counted after) :
    Completed before after := by
  unfold OnlyQueued at hqueued
  rw [hqueued]
  exact ⟨hcompleted.books, hcompleted.status, hcompleted.stopped, hcompleted.coherent⟩

/-- A completion adds the delivery to the totals, whether its reports raise or not. -/
theorem completed_completeFilling {pump : SimulatedPump}
    (hstate : pump.normalizedState ∈ [PumpState.FILLING, .SUSPENDED, .LIMIT_REACHED])
    (hfresh : pump.books.Fresh) : Completed pump (finalState completeFilling pump) := by
  have hrunning : ¬ (pump.fillingActive = false ∧ pump.normalizedState ∉
      [PumpState.FILLING, .SUSPENDED, .AUTHORIZED, .LIMIT_REACHED]) := by
    rintro ⟨-, hstopped⟩
    revert hstate hstopped
    cases pump.normalizedState <;> decide
  have hreported : Preserves OnlyQueued (do
      queueStatusAndNozzle
      queueFillData : PumpM Unit) :=
    .of_bind onlyQueued_queueStatusAndNozzle fun _ => onlyQueued_queueFillData
  unfold completeFilling
  rw [finalState_get_bind, if_neg hrunning, finalState_modify_bind]
  exact (completed_counted hstate hfresh).of_onlyQueued (hreported (counted pump))

/-- A delivering pump is in a state from which the machine completes. -/
theorem Delivering.state (hdelivering : Delivering pump) :
    pump.normalizedState ∈ [PumpState.FILLING, .SUSPENDED] := by
  have hphase := hdelivering.coherent.running hdelivering.filling
  revert hphase
  cases pump.normalizedState <;> decide

/-- The pump of an interval before it reports. -/
def advancedTo (pump : SimulatedPump) (volumeRaw amountRaw : Nat) : SimulatedPump :=
  { pump with volumeRaw := volumeRaw, amountRaw := amountRaw }.applyEvent .FILLING_UPDATED
    { rawWayneStatus := some WaynePumpStatus.FILLING.code }

theorem Delivering.advancedTo (hdelivering : Delivering pump) {volumeRaw : Nat}
    (hless : pump.volumeRaw ≤ volumeRaw) (hlimit : volumeRaw ≤ pump.limitVolume)
    (amountRaw : Nat) : Filled pump (advancedTo pump volumeRaw amountRaw) := by
  have hbooks : (Simulator.advancedTo pump volumeRaw amountRaw).books =
      pump.books.filled volumeRaw amountRaw :=
    books_applyEvent _ _ (by decide)
  have hquiet : Quiet { pump with volumeRaw := volumeRaw, amountRaw := amountRaw }
      (Simulator.advancedTo pump volumeRaw amountRaw) :=
    quiet_applyEvent (by decide) rfl rfl rfl
  refine ⟨⟨(hquiet.coherent hdelivering.coherent).1, hdelivering.filling, hlimit,
    hdelivering.status, ?_⟩, hbooks, hless⟩
  rw [hbooks]
  exact hdelivering.fresh

/-- A pump that reports its limit, when a preset set it. -/
def limitReached (pump : SimulatedPump) (cfg : FillingConfig) : SimulatedPump :=
  if pump.presetAmountRaw ≠ none ∨ pump.presetVolumeRaw ≠ none ∨
      cfg.presetAmountRaw ≠ none ∨ cfg.presetVolumeRaw ≠ none then
    { pump with wayneStatus := .MAX_AMOUNT_VOLUME_REACHED }.applyEvent .LIMIT_REACHED
      { rawWayneStatus := some WaynePumpStatus.MAX_AMOUNT_VOLUME_REACHED.code }
  else pump

/-- The limit changes the state only. -/
theorem limitReached_spec (hdelivering : Delivering pump) (cfg : FillingConfig) :
    (limitReached pump cfg).books = pump.books ∧ (limitReached pump cfg).normalizedState ∈
      [PumpState.FILLING, .SUSPENDED, .LIMIT_REACHED] := by
  have hstate := hdelivering.state
  unfold limitReached
  split
  · refine ⟨books_applyEvent _ _ (by decide), ?_⟩
    rw [normalizedState_applyEvent _ _ rfl rfl rfl (by decide)]
    change moved pump.normalizedState .LIMIT_REACHED ∈ _
    revert hstate
    cases pump.normalizedState <;> decide
  · refine ⟨rfl, ?_⟩
    revert hstate
    cases pump.normalizedState <;> decide

/-- The end of an interval: the fill is reported, and a delivery that reached its limit
is completed. -/
theorem delivered_of_filled {advanced : SimulatedPump} (hfilled : Filled pump advanced)
    (hitLimit : Bool) (cfg : FillingConfig) :
    Delivered pump (finalState (do
      queueFillData
      if hitLimit then do
        modify fun pump => limitReached pump cfg
        completeFilling
      else return () : PumpM Unit) advanced) := by
  have hreported := hfilled.of_onlyQueued (onlyQueued_queueFillData advanced)
  rw [finalState_bind]
  cases returned queueFillData advanced with
  | none => exact Or.inl hreported
  | some _ =>
      dsimp only
      generalize finalState queueFillData advanced = reported at *
      cases hitLimit with
      | false => exact Or.inl hreported
      | true =>
          obtain ⟨hbooks, hstate⟩ := limitReached_spec hreported.delivering cfg
          have hcompleted := completed_completeFilling hstate
            (hbooks ▸ hreported.delivering.fresh)
          refine Or.inr ⟨reported, hreported, ?_⟩
          rw [if_pos rfl, finalState_modify_bind]
          exact ⟨hbooks ▸ hcompleted.books, hcompleted.status, hcompleted.stopped,
            hcompleted.coherent⟩

/-- One interval of a running delivery. -/
theorem delivered_fillOneInterval (hdelivering : Delivering pump) :
    Delivered pump (finalState fillOneInterval pump) := by
  unfold fillOneInterval
  rw [finalState_get_bind]
  dsimp only
  generalize hnew : (if pump.volumeRaw + fillDelta pump.config.filling ≥ pump.limitVolume
    then pump.limitVolume else pump.volumeRaw + fillDelta pump.config.filling) = newVolume
  have hless : pump.volumeRaw ≤ newVolume := by
    rw [← hnew]
    split
    · exact hdelivering.limit
    · omega
  have hlimit : newVolume ≤ pump.limitVolume := by
    rw [← hnew]
    split <;> omega
  rw [finalState_modify_bind]
  exact delivered_of_filled (hdelivering.advancedTo hless hlimit _) _ _

/-! ## Intervals -/

/-- What the intervals of the filling loop add to `volume_raw` and to `amount_raw`. -/
def intervalIncreases : Nat → SimulatedPump → Nat × Int
  | 0, _ => (0, 0)
  | steps + 1, pump =>
      if pump.fillingActive = false ∨ pump.suspended = true then (0, 0)
      else
        let filled := finalState fillOneInterval pump
        -- an interval that raises is the last one
        let later :=
          if Returns fillOneInterval pump then intervalIncreases steps filled else (0, 0)
        (filled.volumeRaw - pump.volumeRaw + later.1,
          (filled.amountRaw : Int) - pump.amountRaw + later.2)

/-- A pump whose engine is off passes the loop by. -/
theorem fillIntervals_stopped {pump : SimulatedPump}
    (hstopped : pump.fillingActive = false ∨ pump.suspended = true) (steps : Nat) :
    finalState (fillIntervals steps) pump = pump ∧ intervalIncreases steps pump = (0, 0) := by
  cases steps with
  | zero => exact ⟨rfl, rfl⟩
  | succ steps =>
      unfold fillIntervals intervalIncreases
      rw [finalState_get_bind, if_pos hstopped, if_pos hstopped]
      exact ⟨rfl, rfl⟩

/-- The intervals of a running delivery add up to what the loop changed. -/
theorem delivered_fillIntervals (hdelivering : Delivering pump) (steps : Nat) :
    Delivered pump (finalState (fillIntervals steps) pump) ∧
      intervalIncreases steps pump =
        ((finalState (fillIntervals steps) pump).volumeRaw - pump.volumeRaw,
          ((finalState (fillIntervals steps) pump).amountRaw : Int) - pump.amountRaw) := by
  induction steps generalizing pump with
  | zero =>
      refine ⟨Or.inl hdelivering.filled, ?_⟩
      change (0, 0) = (pump.volumeRaw - pump.volumeRaw, (pump.amountRaw : Int) - pump.amountRaw)
      rw [Nat.sub_self, Int.sub_self]
  | succ steps ih =>
      by_cases hstopped : pump.fillingActive = false ∨ pump.suspended = true
      · obtain ⟨hfinal, hnone⟩ := fillIntervals_stopped hstopped (steps + 1)
        rw [hfinal, hnone, Nat.sub_self, Int.sub_self]
        exact ⟨Or.inl hdelivering.filled, rfl⟩
      have hdelivered := delivered_fillOneInterval hdelivering
      unfold fillIntervals intervalIncreases
      rw [finalState_get_bind, if_neg hstopped, if_neg hstopped, finalState_bind]
      dsimp only
      by_cases hreturns : Returns fillOneInterval pump
      · obtain ⟨value, hvalue⟩ := hreturns.exists
        rw [hvalue, if_pos hreturns]
        dsimp only
        generalize finalState fillOneInterval pump = filled at *
        rcases hdelivered with hfilled | ⟨running, hfilled, hcompleted⟩
        · obtain ⟨hrest, hincreases⟩ := ih hfilled.delivering
          have hless := hrest.volume_le
          have hless' := hfilled.volume_le
          rw [hincreases]
          refine ⟨hfilled.delivered hrest, Prod.ext ?_ ?_⟩
          · dsimp only
            omega
          · dsimp only
            omega
        · -- the engine went off with the completion
          obtain ⟨hfinal, hnone⟩ := fillIntervals_stopped (Or.inl hcompleted.stopped) steps
          rw [hfinal, hnone]
          exact ⟨Or.inr ⟨running, hfilled, hcompleted⟩, by simp⟩
      · rw [returned_eq_none_of_not hreturns, if_neg hreturns]
        exact ⟨hdelivered, by simp⟩

/-- What a time advance adds to `volume_raw` and to `amount_raw`, interval by interval. -/
def dispensedBy (env : PumpEnv) (pump : SimulatedPump) : Nat × Int :=
  if pump.fillingActive = false ∨ pump.suspended = true then (0, 0)
  else if pump.normalizedState ∉ [PumpState.FILLING, .AUTHORIZED] then (0, 0)
  else
    match pump.lastFillTickMs with
    | none => (0, 0)
    | some last =>
        let interval := pump.config.filling.updateIntervalMs
        -- no interval is due when none has passed, or when it is zero
        let steps := (env.now - last) / interval
        intervalIncreases steps { pump with lastFillTickMs := some (last + steps * interval) }

theorem Delivering.ticked (hdelivering : Delivering pump) (tick : Option Nat) :
    Delivering { pump with lastFillTickMs := tick } :=
  ⟨hdelivering.coherent, hdelivering.filling, hdelivering.limit, hdelivering.status,
    hdelivering.fresh⟩

/-- Time passes a pump that delivers nothing; else it fills. -/
theorem onTimeAdvance_spec (env : PumpEnv) (pump : SimulatedPump)
    (hdelivering : pump.fillingActive = true → Delivering pump) :
    (Quiet pump (finalState (onTimeAdvance env) pump) ∧ dispensedBy env pump = (0, 0)) ∨
      (pump.fillingActive = true ∧ Delivered pump (finalState (onTimeAdvance env) pump) ∧
        dispensedBy env pump =
          ((finalState (onTimeAdvance env) pump).volumeRaw - pump.volumeRaw,
            ((finalState (onTimeAdvance env) pump).amountRaw : Int) - pump.amountRaw)) := by
  unfold onTimeAdvance dispensedBy
  rw [finalState_get_bind]
  by_cases hstopped : pump.fillingActive = false ∨ pump.suspended = true
  · rw [if_pos hstopped, if_pos hstopped]
    exact Or.inl ⟨refl_of Quiet pump, rfl⟩
  rw [if_neg hstopped, if_neg hstopped]
  by_cases hstate : pump.normalizedState ∉ [PumpState.FILLING, .AUTHORIZED]
  · rw [if_pos hstate, if_pos hstate]
    exact Or.inl ⟨refl_of Quiet pump, rfl⟩
  rw [if_neg hstate, if_neg hstate]
  have hfilling : pump.fillingActive = true :=
    Bool.eq_true_of_not_eq_false fun h => hstopped (Or.inl h)
  -- the first tick only starts the clock
  cases htick : pump.lastFillTickMs with
  | none => exact Or.inl ⟨.of_eq rfl id rfl rfl rfl, rfl⟩
  | some last =>
      dsimp only
      generalize pump.config.filling.updateIntervalMs = interval
      by_cases hearly : env.now - last < interval
      · rw [if_pos hearly, Nat.div_eq_of_lt hearly]
        exact Or.inl ⟨refl_of Quiet pump, rfl⟩
      by_cases hzero : interval = 0
      · rw [if_neg hearly, if_pos hzero, hzero, Nat.div_zero]
        exact Or.inl ⟨refl_of Quiet pump, rfl⟩
      rw [if_neg hearly, if_neg hzero, finalState_modify_bind]
      -- the intervals that are due are dispensed one by one
      obtain ⟨hdelivered, hincreases⟩ := delivered_fillIntervals
        ((hdelivering hfilling).ticked (some (last + (env.now - last) / interval * interval)))
        ((env.now - last) / interval)
      refine Or.inr ⟨hfilling, ?_, hincreases⟩
      rcases hdelivered with hfilled | ⟨filled, hfilled, hcompleted⟩
      · exact Or.inl ⟨hfilled.delivering, hfilled.books, hfilled.volume_le⟩
      · exact Or.inr ⟨filled, ⟨hfilled.delivering, hfilled.books, hfilled.volume_le⟩,
          hcompleted⟩

end Simulator
end Intelipump
