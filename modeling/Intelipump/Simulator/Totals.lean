import Mathlib.Tactic.Common
import Intelipump.Simulator.DeliveryCommands

namespace Intelipump
namespace Simulator

open Dart.Line
open Dart.Application
open Foundation.Runs
open Foundation.StateEffect
open SimulatedPump

/-!
# The totals of a pump

A meter beside the pump sums up what the intervals of the filling engine
dispense.  Whatever was dispensed is in the totals or in the delivery that was
not added to them yet, as long as no reset and no restart clears such a
delivery (`totals_conserve_iff`).
-/

/-- The operations on a pump that keep its totals: the units of the controller and
the operations at the pump. -/
inductive PumpAction where
  | command (transId : Byte) (data : List Byte)
  | coldStartToReady
  | liftNozzle (nozzle : Nat)
  | returnNozzle
  | injectFault (code : Nat)
  | clearFault
  | onTimeAdvance
  | enableCommunication
  | disableCommunication
  | restartPump
deriving DecidableEq, Repr

def PumpAction.run (env : PumpEnv) : PumpAction → PumpM Unit
  | .command transId data => do
      let _ ← handleOneTx env transId data
  | .coldStartToReady => SimulatedPump.coldStartToReady
  | .liftNozzle nozzle => do
      let _ ← SimulatedPump.liftNozzle env nozzle
  | .returnNozzle => SimulatedPump.returnNozzle
  | .injectFault code => SimulatedPump.injectFault code
  | .clearFault => modify (·.clearFault)
  | .onTimeAdvance => SimulatedPump.onTimeAdvance env
  | .enableCommunication => modify (·.enableCommunication)
  | .disableCommunication => modify (·.disableCommunication)
  | .restartPump => modify (·.restartPump true)

/-- One operation with the clock reading and the `uuid4()` it meets. -/
structure PumpCall where
  env : PumpEnv
  action : PumpAction
deriving DecidableEq, Repr

/-- The transaction id that a call draws. -/
def PumpCall.drawn (call : PumpCall) : Option String :=
  match call.action with
  | .command transId data =>
      if cd1Command transId data = some .AUTHORIZE then some call.env.uuid4 else none
  | _ => none

/-- What the intervals of a call add to `volume_raw` and to `amount_raw`. -/
def PumpCall.dispensed (call : PumpCall) (pump : SimulatedPump) : Nat × Int :=
  match call.action with
  | .onTimeAdvance => dispensedBy call.env pump
  | _ => (0, 0)

/-- A pump with what it dispensed so far. -/
structure Meter where
  pump : SimulatedPump
  dispensedVolume : Nat := 0
  dispensedAmount : Int := 0
  /-- The delivery was added to the totals. -/
  counted : Bool := false
  drawn : List String := []
deriving DecidableEq

namespace Meter

def start (config : PumpConfig) : Meter := { pump := SimulatedPump.create config }

/-- The delivery is in the totals after an operation: an authorization begins a new one,
and the status FILLING_COMPLETED is written by `completeFilling` alone, when it adds the
delivery to the totals. -/
def countedAfter (meter : Meter) (after : SimulatedPump) : Bool :=
  if meter.pump.activeTransactionId = none ∧ after.activeTransactionId ≠ none then false
  else meter.counted || decide (after.wayneStatus = .FILLING_COMPLETED)

def step (meter : Meter) (call : PumpCall) : Meter :=
  let after := finalState (call.action.run call.env) meter.pump
  let dispensed := call.dispensed meter.pump
  { pump := after
    dispensedVolume := meter.dispensedVolume + dispensed.1
    dispensedAmount := meter.dispensedAmount + dispensed.2
    counted := meter.countedAfter after
    drawn := meter.drawn ++ call.drawn.toList }

def run (meter : Meter) (calls : List PumpCall) : Meter := calls.foldl step meter

/-- The volume of the delivery that was not added to the totals yet. -/
def uncountedVolume (meter : Meter) : Nat :=
  if meter.counted then 0 else meter.pump.volumeRaw

def uncountedAmount (meter : Meter) : Nat :=
  if meter.counted then 0 else meter.pump.amountRaw

/-- Nothing that was dispensed is lost or counted twice. -/
structure Conserved (meter : Meter) : Prop where
  volume : meter.dispensedVolume = meter.pump.totalVolumeRaw + meter.uncountedVolume
  amount : meter.dispensedAmount = meter.pump.totalAmountRaw + meter.uncountedAmount

/-- The delivery is in the totals, or there is nothing of it. -/
def Settled (meter : Meter) : Prop :=
  meter.counted = true ∨ meter.pump.volumeRaw = 0 ∧ meter.pump.amountRaw = 0

instance (meter : Meter) : Decidable meter.Settled := inferInstanceAs (Decidable (_ ∨ _))

/-- A reset that is eligible and a restart meet a settled delivery. -/
def ClearsSettled (meter : Meter) (call : PumpCall) : Prop :=
  match call.action with
  | .command transId data =>
      cd1Command transId data = some .RESET ∧ meter.pump.Eligible .RESET → meter.Settled
  | .restartPump => meter.Settled
  | _ => True

instance (meter : Meter) (call : PumpCall) : Decidable (meter.ClearsSettled call) := by
  unfold ClearsSettled
  split <;> infer_instance

/-! ## The invariant of a run -/

structure Sound (meter : Meter) : Prop where
  coherent : Coherent meter.pump
  delivering : meter.pump.fillingActive = true → Delivering meter.pump
  uncounted : meter.pump.fillingActive = true → meter.counted = false
  active : meter.pump.fillingActive = true → meter.pump.activeTransactionId ≠ none
  nothing : meter.pump.activeTransactionId = none →
    meter.pump.volumeRaw = 0 ∧ meter.pump.amountRaw = 0
  status : meter.pump.wayneStatus = .FILLING_COMPLETED → meter.counted = true
  drawn : ∀ transaction, meter.pump.activeTransactionId = some transaction →
    transaction ∈ meter.drawn
  keys : ∀ key ∈ meter.pump.context.completedEvidenceKeys,
    ∃ transaction ∈ meter.drawn, ∃ volumeRaw amountRaw,
      key = completionKey transaction volumeRaw amountRaw

/-- A call draws an id that was not drawn before. -/
def DrawsFresh (meter : Meter) (call : PumpCall) : Prop :=
  ∀ transaction ∈ call.drawn, transaction ∉ meter.drawn

theorem sound_start (config : PumpConfig) : Sound (start config) where
  coherent := rfl
  delivering h := nomatch h
  uncounted h := nomatch h
  active h := nomatch h
  nothing _ := ⟨rfl, rfl⟩
  status h := nomatch h
  drawn _ h := nomatch h
  keys _ h := absurd h (Finset.notMem_empty _)

/-- What a call does to the delivery and to the meter. -/
inductive CallEffect (meter : Meter) (call : PumpCall) (after : SimulatedPump) : Prop where
  | quiet (hquiet : Quiet meter.pump after) (hdispensed : call.dispensed meter.pump = (0, 0))
      (hkept : meter.ClearsSettled call)
  | clears (hclears : Clears meter.pump after)
      (hdispensed : call.dispensed meter.pump = (0, 0))
      (hkept : meter.ClearsSettled call ↔ meter.Settled)
  | opens (transaction : String) (hdrawn : call.drawn = some transaction)
      (hopens : Opens transaction meter.pump after)
      (hdispensed : call.dispensed meter.pump = (0, 0)) (hkept : meter.ClearsSettled call)
  | delivers (hfilling : meter.pump.fillingActive = true)
      (hdelivered : Delivered meter.pump after)
      (hdispensed : call.dispensed meter.pump = (after.volumeRaw - meter.pump.volumeRaw,
        (after.amountRaw : Int) - meter.pump.amountRaw))
      (hkept : meter.ClearsSettled call)

theorem call_effect {meter : Meter} (hsound : meter.Sound) (call : PumpCall) :
    meter.CallEffect call (finalState (call.action.run call.env) meter.pump) := by
  obtain ⟨env, action⟩ := call
  cases action with
  | command transId data =>
      dsimp only [PumpAction.run]
      rw [finalState_bind_pure]
      cases command_effect transId data hsound.coherent hsound.delivering with
      | quiet hquiet hkept => exact .quiet hquiet rfl fun h => absurd h hkept
      | clears hclears hcommand heligible =>
          exact .clears hclears rfl ⟨fun h => h ⟨hcommand, heligible⟩, fun h _ => h⟩
      | opens hopens hcommand =>
          refine .opens env.uuid4 (if_pos hcommand) hopens rfl fun h => ?_
          exact absurd (hcommand.symm.trans h.1) (by decide)
      | completes hcompleted hfilling hkept =>
          have hrunning := hsound.delivering hfilling
          -- a stop dispenses nothing, it only adds up
          have hbooks := hcompleted.books
          injection hbooks with hvolume hamount
          refine .delivers hfilling (Or.inr ⟨_, hrunning.filled, hcompleted⟩) ?_
            fun h => absurd h hkept
          rw [hvolume, hamount]
          change (0, 0) = (meter.pump.volumeRaw - meter.pump.volumeRaw,
            (meter.pump.amountRaw : Int) - meter.pump.amountRaw)
          rw [Nat.sub_self, Int.sub_self]
  | onTimeAdvance =>
      rcases onTimeAdvance_spec env meter.pump hsound.delivering with
        ⟨hquiet, hdispensed⟩ | ⟨hfilling, hdelivered, hdispensed⟩
      · exact .quiet hquiet hdispensed trivial
      · exact .delivers hfilling hdelivered hdispensed trivial
  | liftNozzle nozzle =>
      dsimp only [PumpAction.run]
      rw [finalState_bind_pure]
      exact .quiet (quiet_liftNozzle env nozzle meter.pump) rfl trivial
  | coldStartToReady => exact .quiet (quiet_coldStartToReady meter.pump) rfl trivial
  | returnNozzle => exact .quiet (quiet_returnNozzle meter.pump) rfl trivial
  | injectFault code => exact .quiet (quiet_injectFault code meter.pump) rfl trivial
  | clearFault => exact .quiet (quiet_clearFault meter.pump) rfl trivial
  | enableCommunication =>
      exact .quiet (quiet_enableCommunication meter.pump) rfl trivial
  | disableCommunication =>
      exact .quiet (quiet_disableCommunication meter.pump) rfl trivial
  | restartPump => exact .clears (clears_restartPump meter.pump) rfl Iff.rfl

/-! ## One call -/

section

variable {meter : Meter} {after : SimulatedPump}

theorem countedAfter_quiet (hsound : meter.Sound) (hquiet : Quiet meter.pump after) :
    meter.countedAfter after = meter.counted := by
  have htransaction : after.activeTransactionId = meter.pump.activeTransactionId :=
    congrArg DeliveryBooks.activeTransactionId hquiet.books
  unfold countedAfter
  rw [if_neg fun h => h.2 (htransaction.trans h.1)]
  by_cases hcompleted : after.wayneStatus = .FILLING_COMPLETED
  · rw [hsound.status (hquiet.completed hcompleted), Bool.true_or]
  · rw [decide_eq_false hcompleted, Bool.or_false]

theorem countedAfter_clears (hsound : meter.Sound) (hclears : Clears meter.pump after) :
    meter.countedAfter after = meter.counted := by
  unfold countedAfter
  rw [if_neg fun h => h.2 hclears.activeTransactionId]
  by_cases hcompleted : after.wayneStatus = .FILLING_COMPLETED
  · rw [hsound.status (hclears.completed hcompleted), Bool.true_or]
  · rw [decide_eq_false hcompleted, Bool.or_false]

theorem countedAfter_opens {transaction : String}
    (hopens : Opens transaction meter.pump after) : meter.countedAfter after = false := by
  have htransaction : after.activeTransactionId = some transaction :=
    congrArg DeliveryBooks.activeTransactionId hopens.books
  unfold countedAfter
  rw [if_pos ⟨hopens.free, by rw [htransaction]; exact Option.some_ne_none _⟩]

theorem countedAfter_filled (hsound : meter.Sound)
    (hfilling : meter.pump.fillingActive = true) (hfilled : Filled meter.pump after) :
    meter.countedAfter after = false := by
  unfold countedAfter
  rw [if_neg fun h => hsound.active hfilling h.1, hsound.uncounted hfilling,
    decide_eq_false hfilled.delivering.status]
  rfl

theorem countedAfter_completed (hsound : meter.Sound)
    (hfilling : meter.pump.fillingActive = true)
    (hstatus : after.wayneStatus = .FILLING_COMPLETED) :
    meter.countedAfter after = true := by
  unfold countedAfter
  rw [if_neg fun h => hsound.active hfilling h.1, decide_eq_true hstatus, Bool.or_true]

end

section

variable {meter next : Meter}

theorem Sound.recorded (hsound : meter.Sound) (hdrawn : meter.drawn ⊆ next.drawn) :
    ∀ key ∈ meter.pump.context.completedEvidenceKeys,
      ∃ transaction ∈ next.drawn, ∃ volumeRaw amountRaw,
        key = completionKey transaction volumeRaw amountRaw := by
  intro key hkey
  obtain ⟨transaction, hmem, hrecorded⟩ := hsound.keys key hkey
  exact ⟨transaction, hdrawn hmem, hrecorded⟩

theorem Sound.quiet (hsound : meter.Sound) (hdrawn : meter.drawn ⊆ next.drawn)
    (hquiet : Quiet meter.pump next.pump) (hcounted : next.counted = meter.counted) :
    next.Sound := by
  obtain ⟨hcoherent, hfilling⟩ := hquiet.coherent hsound.coherent
  have hbooks := hquiet.books
  injection hbooks with hvolume hamount _ _ htransaction hrecorded
  refine ⟨hcoherent, fun h => ?_, fun h => ?_, fun h => ?_, fun h => ?_, fun h => ?_,
    fun transaction h => ?_, fun key h => ?_⟩
  · obtain ⟨hbefore, hlimit⟩ := hfilling h
    have hrunning := hsound.delivering hbefore
    refine ⟨hcoherent, h, ?_, fun hc => hrunning.status (hquiet.completed hc),
      hquiet.books ▸ hrunning.fresh⟩
    rw [hvolume, hlimit]
    exact hrunning.limit
  · exact hcounted.trans (hsound.uncounted (hfilling h).1)
  · exact htransaction ▸ hsound.active (hfilling h).1
  · rw [hvolume, hamount]
    exact hsound.nothing (htransaction ▸ h)
  · exact hcounted.trans (hsound.status (hquiet.completed h))
  · exact hdrawn (hsound.drawn transaction (htransaction ▸ h))
  · exact hsound.recorded hdrawn key (hrecorded ▸ h)

theorem Sound.clears (hsound : meter.Sound) (hdrawn : meter.drawn ⊆ next.drawn)
    (hclears : Clears meter.pump next.pump) (hcounted : next.counted = meter.counted) :
    next.Sound := by
  have hstopped : ∀ {P : Prop}, next.pump.fillingActive = true → P := fun h =>
    absurd (hclears.stopped.symm.trans h) Bool.false_ne_true
  refine ⟨hclears.coherent, hstopped, hstopped, hstopped,
    fun _ => ⟨hclears.volumeRaw, hclears.amountRaw⟩,
    fun h => hcounted.trans (hsound.status (hclears.completed h)), fun _ h => ?_,
    fun key h => hsound.recorded hdrawn key (hclears.keys h)⟩
  rw [hclears.activeTransactionId] at h
  cases h

/-- The id of the delivery that opens is new, so no recorded completion is its own. -/
theorem Sound.opens {transaction : String} (hsound : meter.Sound)
    (hdrawn : meter.drawn ⊆ next.drawn) (hnext : transaction ∈ next.drawn)
    (hfresh : transaction ∉ meter.drawn) (hopens : Opens transaction meter.pump next.pump)
    (hcounted : next.counted = false) : next.Sound := by
  have hbooks := hopens.books
  injection hbooks with hvolume hamount _ _ htransaction hrecorded
  have hfreshBooks : next.pump.books.Fresh := by
    intro volumeRaw amountRaw hmem
    rw [hopens.books] at hmem
    obtain ⟨other, hother, _, _, hkey⟩ := hsound.keys _ hmem
    -- the recorded completions are of transactions drawn before
    have hsame : transaction = other := transaction_of_completionKey hkey
    exact hfresh (hsame ▸ hother)
  refine ⟨hopens.coherent, fun h => ?_, fun _ => hcounted, fun _ => ?_, fun h => ?_,
    fun h => absurd h hopens.status, fun other h => ?_, fun key h => ?_⟩
  · refine ⟨hopens.coherent, h, ?_, hopens.status, hfreshBooks⟩
    rw [hvolume]
    exact Nat.zero_le _
  · rw [htransaction]
    exact Option.some_ne_none _
  · exact ⟨hvolume, hamount⟩
  · rw [htransaction] at h
    exact Option.some.inj h ▸ hnext
  · rw [hrecorded] at h
    exact hsound.recorded hdrawn key h

theorem Sound.filled (hsound : meter.Sound) (hdrawn : meter.drawn ⊆ next.drawn)
    (hfilling : meter.pump.fillingActive = true) (hfilled : Filled meter.pump next.pump)
    (hcounted : next.counted = false) : next.Sound := by
  have hbooks := hfilled.books
  injection hbooks with _ _ _ _ htransaction hrecorded
  have hactive : next.pump.activeTransactionId ≠ none :=
    htransaction ▸ hsound.active hfilling
  refine ⟨hfilled.delivering.coherent, fun _ => hfilled.delivering, fun _ => hcounted,
    fun _ => hactive, fun h => absurd h hactive,
    fun h => absurd h hfilled.delivering.status, fun other h => ?_, fun key h => ?_⟩
  · rw [htransaction] at h
    exact hdrawn (hsound.drawn other h)
  · rw [hrecorded] at h
    exact hsound.recorded hdrawn key h

/-- The completion records a key of the delivery that was running. -/
theorem Sound.completed {filled : SimulatedPump} (hsound : meter.Sound)
    (hdrawn : meter.drawn ⊆ next.drawn) (hfilling : meter.pump.fillingActive = true)
    (hfilled : Filled meter.pump filled) (hcompleted : Completed filled next.pump)
    (hcounted : next.counted = true) : next.Sound := by
  obtain ⟨transaction, hactive⟩ := Option.ne_none_iff_exists'.mp (hsound.active hfilling)
  have hbooks := hcompleted.books
  rw [hfilled.books] at hbooks
  injection hbooks with _ _ _ _ htransaction hrecorded
  have hstill : next.pump.activeTransactionId = some transaction := htransaction.trans hactive
  have hstopped : ∀ {P : Prop}, next.pump.fillingActive = true → P := fun h =>
    absurd (hcompleted.stopped.symm.trans h) Bool.false_ne_true
  refine ⟨hcompleted.coherent, hstopped, hstopped, hstopped, fun h => ?_,
    fun _ => hcounted, fun other h => ?_, fun key h => ?_⟩
  · rw [hstill] at h
    cases h
  · rw [hstill, ← hactive] at h
    exact hdrawn (hsound.drawn other h)
  · rw [hrecorded] at h
    rcases Finset.mem_insert.mp h with rfl | hbefore
    · refine ⟨transaction, hdrawn (hsound.drawn transaction hactive),
        filled.volumeRaw, filled.amountRaw, ?_⟩
      dsimp only [DeliveryBooks.filled, books]
      rw [hactive]
      rfl
    · exact hsound.recorded hdrawn key hbefore

end

/-- Every call that draws a fresh id keeps the invariant. -/
theorem sound_step {meter : Meter} (hsound : meter.Sound) {call : PumpCall}
    (hfresh : meter.DrawsFresh call) : (meter.step call).Sound := by
  have hdrawn : meter.drawn ⊆ (meter.step call).drawn := List.subset_append_left ..
  cases call_effect hsound call with
  | quiet hquiet _ _ =>
      exact hsound.quiet hdrawn hquiet (countedAfter_quiet hsound hquiet)
  | clears hclears _ _ =>
      exact hsound.clears hdrawn hclears (countedAfter_clears hsound hclears)
  | opens transaction hcall hopens _ _ =>
      have hnext : transaction ∈ (meter.step call).drawn :=
        List.mem_append_right _ (Option.mem_toList.mpr hcall)
      exact hsound.opens hdrawn hnext (hfresh transaction hcall) hopens
        (countedAfter_opens hopens)
  | delivers hfilling hdelivered _ _ =>
      rcases hdelivered with hfilled | ⟨filled, hfilled, hcompleted⟩
      · exact hsound.filled hdrawn hfilling hfilled
          (countedAfter_filled hsound hfilling hfilled)
      · exact hsound.completed hdrawn hfilling hfilled hcompleted
          (countedAfter_completed hsound hfilling hcompleted.status)

/-! ## Conservation -/

section

variable {meter next : Meter}

theorem conserved_iff (meter : Meter) :
    meter.Conserved ↔
      meter.dispensedVolume = meter.pump.totalVolumeRaw + meter.uncountedVolume ∧
        meter.dispensedAmount = meter.pump.totalAmountRaw + meter.uncountedAmount :=
  ⟨fun h => ⟨h.volume, h.amount⟩, fun h => ⟨h.1, h.2⟩⟩

theorem uncounted_of_counted (hcounted : meter.counted = true) :
    meter.uncountedVolume = 0 ∧ meter.uncountedAmount = 0 :=
  ⟨if_pos hcounted, if_pos hcounted⟩

theorem uncounted_of_not_counted (hcounted : meter.counted = false) :
    meter.uncountedVolume = meter.pump.volumeRaw ∧
      meter.uncountedAmount = meter.pump.amountRaw := by
  unfold uncountedVolume uncountedAmount
  rw [hcounted]
  exact ⟨rfl, rfl⟩

theorem uncounted_eq_zero (hvolume : meter.pump.volumeRaw = 0)
    (hamount : meter.pump.amountRaw = 0) :
    meter.uncountedVolume = 0 ∧ meter.uncountedAmount = 0 := by
  unfold uncountedVolume uncountedAmount
  rw [hvolume, hamount, ite_self]
  exact ⟨rfl, rfl⟩

theorem Conserved.quiet (hconserved : meter.Conserved) (hquiet : Quiet meter.pump next.pump)
    (hcounted : next.counted = meter.counted)
    (hvolume : next.dispensedVolume = meter.dispensedVolume)
    (hamount : next.dispensedAmount = meter.dispensedAmount) : next.Conserved := by
  have hbooks := hquiet.books
  injection hbooks with hvolume' hamount' htotalVolume htotalAmount
  obtain ⟨hbefore, hbefore'⟩ := hconserved
  unfold uncountedVolume at hbefore
  unfold uncountedAmount at hbefore'
  rw [conserved_iff, uncountedVolume, uncountedAmount, hvolume, hamount, hcounted, hvolume',
    hamount', htotalVolume, htotalAmount]
  exact ⟨hbefore, hbefore'⟩

/-- What is cleared is lost unless it was in the totals. -/
theorem conserved_clears_iff (hconserved : meter.Conserved)
    (hclears : Clears meter.pump next.pump)
    (hvolume : next.dispensedVolume = meter.dispensedVolume)
    (hamount : next.dispensedAmount = meter.dispensedAmount) :
    next.Conserved ↔ meter.Settled := by
  obtain ⟨hnone, hnone'⟩ := uncounted_eq_zero hclears.volumeRaw hclears.amountRaw
  obtain ⟨hbefore, hbefore'⟩ := hconserved
  rw [conserved_iff, hnone, hnone', hvolume, hamount, hclears.totalVolumeRaw,
    hclears.totalAmountRaw]
  unfold Settled
  cases hmeter : meter.counted with
  | true =>
      obtain ⟨hzero, hzero'⟩ := uncounted_of_counted hmeter
      rw [hzero] at hbefore
      rw [hzero'] at hbefore'
      exact iff_of_true ⟨hbefore, hbefore'⟩ (Or.inl rfl)
  | false =>
      obtain ⟨hwhole, hwhole'⟩ := uncounted_of_not_counted hmeter
      rw [hwhole] at hbefore
      rw [hwhole'] at hbefore'
      constructor
      · rintro ⟨h, h'⟩
        exact Or.inr ⟨by omega, by omega⟩
      · rintro (h | ⟨h, h'⟩)
        · cases h
        · exact ⟨by omega, by omega⟩

theorem Conserved.opens {transaction : String} (hconserved : meter.Conserved)
    (hnothing : meter.pump.volumeRaw = 0 ∧ meter.pump.amountRaw = 0)
    (hopens : Opens transaction meter.pump next.pump)
    (hvolume : next.dispensedVolume = meter.dispensedVolume)
    (hamount : next.dispensedAmount = meter.dispensedAmount) : next.Conserved := by
  have hbooks := hopens.books
  injection hbooks with hvolume' hamount' htotalVolume htotalAmount
  obtain ⟨hnone, hnone'⟩ := uncounted_eq_zero hnothing.1 hnothing.2
  obtain ⟨hnext, hnext'⟩ := uncounted_eq_zero hvolume' hamount'
  obtain ⟨hbefore, hbefore'⟩ := hconserved
  rw [hnone] at hbefore
  rw [hnone'] at hbefore'
  rw [conserved_iff, hnext, hnext', hvolume, hamount, htotalVolume, htotalAmount]
  exact ⟨hbefore, hbefore'⟩

/-- The delivery has what was dispensed. -/
theorem Conserved.filled (hconserved : meter.Conserved) (hopen : meter.counted = false)
    (hfilled : Filled meter.pump next.pump) (hcounted : next.counted = false)
    (hvolume : next.dispensedVolume =
      meter.dispensedVolume + (next.pump.volumeRaw - meter.pump.volumeRaw))
    (hamount : next.dispensedAmount =
      meter.dispensedAmount + ((next.pump.amountRaw : Int) - meter.pump.amountRaw)) :
    next.Conserved := by
  have hless := hfilled.volume_le
  have hbooks := hfilled.books
  injection hbooks with _ _ htotalVolume htotalAmount
  obtain ⟨hbefore, hbefore'⟩ := hconserved
  obtain ⟨hwhole, hwhole'⟩ := uncounted_of_not_counted hopen
  obtain ⟨hnext, hnext'⟩ := uncounted_of_not_counted hcounted
  rw [hwhole] at hbefore
  rw [hwhole'] at hbefore'
  rw [conserved_iff, hnext, hnext', hvolume, hamount, htotalVolume, htotalAmount]
  dsimp only [books]
  omega

/-- The totals have what was dispensed. -/
theorem Conserved.completed {filled : SimulatedPump} (hconserved : meter.Conserved)
    (hopen : meter.counted = false) (hfilled : Filled meter.pump filled)
    (hcompleted : Completed filled next.pump) (hcounted : next.counted = true)
    (hvolume : next.dispensedVolume =
      meter.dispensedVolume + (next.pump.volumeRaw - meter.pump.volumeRaw))
    (hamount : next.dispensedAmount =
      meter.dispensedAmount + ((next.pump.amountRaw : Int) - meter.pump.amountRaw)) :
    next.Conserved := by
  have hless := hfilled.volume_le
  have hbooks := hcompleted.books
  rw [hfilled.books] at hbooks
  injection hbooks with hvolume' hamount' htotalVolume htotalAmount
  dsimp only [books, DeliveryBooks.filled] at hvolume' hamount' htotalVolume htotalAmount
  obtain ⟨hbefore, hbefore'⟩ := hconserved
  obtain ⟨hwhole, hwhole'⟩ := uncounted_of_not_counted hopen
  obtain ⟨hnone, hnone'⟩ := uncounted_of_counted hcounted
  rw [hwhole] at hbefore
  rw [hwhole'] at hbefore'
  rw [conserved_iff, hnone, hnone', hvolume, hamount, htotalVolume, htotalAmount, hvolume',
    hamount']
  omega

end

/-- A call conserves what was dispensed exactly when it clears no delivery that is not
settled. -/
theorem conserved_step_iff {meter : Meter} (hsound : meter.Sound)
    (hconserved : meter.Conserved) (call : PumpCall) :
    (meter.step call).Conserved ↔ meter.ClearsSettled call := by
  have hvolume : (meter.step call).dispensedVolume =
      meter.dispensedVolume + (call.dispensed meter.pump).1 := rfl
  have hamount : (meter.step call).dispensedAmount =
      meter.dispensedAmount + (call.dispensed meter.pump).2 := rfl
  cases call_effect hsound call with
  | quiet hquiet hdispensed hkept =>
      rw [hdispensed] at hvolume hamount
      exact iff_of_true (hconserved.quiet hquiet (countedAfter_quiet hsound hquiet) hvolume
        (hamount.trans (Int.add_zero _))) hkept
  | clears hclears hdispensed hkept =>
      rw [hdispensed] at hvolume hamount
      rw [hkept]
      exact conserved_clears_iff hconserved hclears hvolume (hamount.trans (Int.add_zero _))
  | opens transaction _ hopens hdispensed hkept =>
      rw [hdispensed] at hvolume hamount
      exact iff_of_true (hconserved.opens (hsound.nothing hopens.free) hopens hvolume
        (hamount.trans (Int.add_zero _))) hkept
  | delivers hfilling hdelivered hdispensed hkept =>
      have hopen := hsound.uncounted hfilling
      rw [hdispensed] at hvolume hamount
      refine iff_of_true ?_ hkept
      -- the delivery is still open, or it was completed in this very call
      rcases hdelivered with hfilled | ⟨filled, hfilled, hcompleted⟩
      · exact hconserved.filled hopen hfilled (countedAfter_filled hsound hfilling hfilled)
          hvolume hamount
      · exact hconserved.completed hopen hfilled hcompleted
          (countedAfter_completed hsound hfilling hcompleted.status) hvolume hamount

/-! ## Runs -/

/-- The units of a payload are calls. -/
theorem run_payload (meter : Meter) (env : PumpEnv) (payload : List Byte) :
    ∃ handled, handled <+: payloadUnits payload.length payload ∧
      (meter.run (handled.map fun unit => ⟨env, .command unit.1 unit.2⟩)).pump =
        finalState (handleApplicationPayload env payload) meter.pump := by
  obtain ⟨handled, hprefix, hfinal⟩ :=
    finalState_handleApplicationPayload env payload meter.pump
  refine ⟨handled, hprefix, ?_⟩
  rw [hfinal]
  clear hprefix hfinal
  unfold run
  induction handled generalizing meter with
  | nil => rfl
  | cons unit rest ih =>
      rw [List.map_cons, List.foldl_cons, List.foldl_cons, ih]
      have hpump : (meter.step ⟨env, .command unit.1 unit.2⟩).pump =
          unitStep env meter.pump unit := by
        change finalState (handleOneTx env unit.1 unit.2 >>= fun _ => pure ()) meter.pump = _
        rw [finalState_bind_pure]
        rfl
      rw [hpump]

/-- Ids that differ are fresh when they are drawn. -/
theorem along_drawsFresh {meter : Meter} {calls : List PumpCall}
    (hdistinct : (meter.drawn ++ calls.filterMap PumpCall.drawn).Nodup) :
    Along step DrawsFresh meter calls := by
  induction calls generalizing meter with
  | nil => trivial
  | cons call rest ih =>
      have hrest : (meter.step call).drawn ++ rest.filterMap PumpCall.drawn =
          meter.drawn ++ (call :: rest).filterMap PumpCall.drawn := by
        change meter.drawn ++ call.drawn.toList ++ _ = _
        rw [List.append_assoc, List.filterMap_cons]
        cases call.drawn <;> rfl
      refine ⟨fun transaction hdrawn hmem => ?_, ih (hrest ▸ hdistinct)⟩
      refine List.disjoint_of_nodup_append hdistinct hmem ?_
      exact List.mem_filterMap.mpr ⟨call, List.mem_cons_self .., hdrawn⟩

/-- In every run in which each authorization draws a new transaction id, what was
dispensed is in the totals or in the delivery not added yet, all along, exactly when
resets and restarts meet settled deliveries only. -/
theorem totals_conserve_iff (config : PumpConfig) (calls : List PumpCall)
    (huuid4 : (calls.filterMap PumpCall.drawn).Nodup) :
    (∀ earlier, earlier <+: calls → ((start config).run earlier).Conserved) ↔
      Along step ClearsSettled (start config) calls := by
  have hfresh : Along step DrawsFresh (start config) calls :=
    along_drawsFresh (by rw [show (start config).drawn = [] from rfl]; exact huuid4)
  have hsound : Along step (fun meter _ => meter.Sound) (start config) calls :=
    along_of_invariant (fun _ _ hmeter hcall => ⟨hmeter, sound_step hmeter hcall⟩)
      (sound_start config) hfresh
  have hstep : ∀ (meter : Meter) (call : PumpCall), meter.Sound → meter.Conserved →
      ((meter.step call).Conserved ↔ meter.ClearsSettled call) :=
    fun _ call hmeter hconserved => conserved_step_iff hmeter hconserved call
  exact forall_prefix_iff_along_of hstep hsound ⟨rfl, rfl⟩

/-- A delivery that is stopped before the pump is reset. -/
theorem totals_conserve_stopped :
    ((start { pumpId := "fp-1", dartAddress := 1 }).run [
      ⟨⟨0, ""⟩, .coldStartToReady⟩, ⟨⟨0, ""⟩, .liftNozzle 1⟩,
      ⟨⟨0, "tx-1"⟩, .command 0x01 [0x06]⟩, ⟨⟨400, ""⟩, .onTimeAdvance⟩,
      ⟨⟨400, ""⟩, .command 0x01 [0x08]⟩, ⟨⟨400, ""⟩, .command 0x01 [0x05]⟩]).Conserved :=
  (totals_conserve_iff { pumpId := "fp-1", dartAddress := 1 } _ (by decide +kernel)).mpr
    (by decide +kernel) _ List.prefix_rfl

/-- A fault ends a filling without adding it to the totals, and the reset that follows
clears its volume. -/
theorem not_conserved_after_fault :
    ((start { pumpId := "fp-1", dartAddress := 1 }).run [
        ⟨⟨0, ""⟩, .coldStartToReady⟩, ⟨⟨0, ""⟩, .liftNozzle 1⟩,
        ⟨⟨0, "tx-1"⟩, .command 0x01 [0x06]⟩, ⟨⟨200, ""⟩, .onTimeAdvance⟩,
        ⟨⟨200, ""⟩, .injectFault 7⟩,
        ⟨⟨200, ""⟩, .command 0x01 [0x05]⟩]).dispensedVolume = 100 ∧
      ¬ ((start { pumpId := "fp-1", dartAddress := 1 }).run [
        ⟨⟨0, ""⟩, .coldStartToReady⟩, ⟨⟨0, ""⟩, .liftNozzle 1⟩,
        ⟨⟨0, "tx-1"⟩, .command 0x01 [0x06]⟩, ⟨⟨200, ""⟩, .onTimeAdvance⟩,
        ⟨⟨200, ""⟩, .injectFault 7⟩, ⟨⟨200, ""⟩, .command 0x01 [0x05]⟩]).Conserved :=
  ⟨by decide +kernel, fun h => absurd h.volume (by decide +kernel)⟩

end Meter
end Simulator
end Intelipump
