import Mathlib.Tactic.Common
import Intelipump.Link.Reports
import Intelipump.Simulator.PumpReports

namespace Intelipump
namespace Link

open Dart.Line
open Dart.Application
open Controller
open Simulator
open Foundation
open Foundation.StateEffect
open StateMachine (Unauthorizing)
open Simulator.SimulatorSession

/-!
# Where the blocks of a dialogue come from

Every filling report that is queued, sent or decoded shows a reading that the pump's meter
has had, and none of them reports the status AUTHORIZED (`Attributed`), whatever happens to
the frames and to the two ends.
-/

/-- Volume and amount of a meter. -/
abbrev Reading := Nat × Nat

/-- The payload reports no more than one of the readings, and no status AUTHORIZED. -/
structure Attributable (readings : List Reading) (payload : List Byte) : Prop where
  filled : ∃ reading ∈ readings, ReportsAtMost reading.1 reading.2 payload
  status : Unauthorizing payload

theorem Attributable.mono {readings later : List Reading} {payload : List Byte}
    (hpayload : Attributable readings payload) (hsubset : readings ⊆ later) :
    Attributable later payload := by
  obtain ⟨⟨reading, hreading, hreports⟩, hstatus⟩ := hpayload
  exact ⟨⟨reading, hsubset hreading, hreports⟩, hstatus⟩

/-- What the meter of the session's pump shows. -/
def LinkState.meter (link : LinkState) : List Reading :=
  ((link.simulator.getPump link.address).map fun pump => (pump.volumeRaw, pump.amountRaw)).toList

/-! ## One action -/

/-- What an action does to the pump, and which payloads it takes from its queue. -/
structure PumpStep (link after : LinkState) (pump pumpAfter : SimulatedPump) : Prop where
  getPump : after.simulator.getPump link.address = some pumpAfter
  addresses : SameAddresses link.simulator after.simulator
  told : Told pump pumpAfter
  popped : ∀ item ∈ after.popped, item ∈ link.popped ∨
    ∃ queued ∈ pump.pendingOutbound, queued.payload = item.1

section

variable {link : LinkState} {pump : SimulatedPump}

/-- An action that does not reach the simulator. -/
theorem pumpStep_kept {after : LinkState}
    (hpump : link.simulator.getPump link.address = some pump)
    (hsimulator : after.simulator = link.simulator) (hpopped : after.popped = link.popped) :
    PumpStep link after pump pump where
  getPump := hsimulator ▸ hpump
  addresses := hsimulator ▸ refl_of SameAddresses link.simulator
  told := Told.refl pump
  popped := fun _ hitem => Or.inl (hpopped ▸ hitem)

theorem pumpStep_deliver (hpump : link.simulator.getPump link.address = some pump)
    (uuid4 : String) (wire : List Byte) :
    ∃ pumpAfter, PumpStep link (link.deliver uuid4 wire) pump pumpAfter := by
  obtain ⟨pumpAfter, hafter, hcommanded⟩ := told_receive hpump uuid4 wire
  refine ⟨pumpAfter, hafter, sameAddresses_receive uuid4 wire _, hcommanded.told, ?_⟩
  intro item hitem
  have hbefore : LinkState.pendingOutbound link.simulator link.address =
      pump.pendingOutbound := by
    unfold LinkState.pendingOutbound
    rw [hpump]
    rfl
  rcases List.mem_append.mp hitem with hold | hnew
  · exact Or.inl hold
  · obtain ⟨payload, number⟩ := item
    have hleft := List.fst_mem_of_mem_zipIdx hnew
    rw [hbefore] at hleft
    unfold leftQueue at hleft
    obtain ⟨queued, hqueued, hpayload⟩ := List.mem_map.mp hleft
    exact Or.inr ⟨queued, List.mem_of_mem_take hqueued, hpayload⟩

theorem pumpStep_step (hpump : link.simulator.getPump link.address = some pump)
    (hdistinct : link.simulator.addresses.Nodup) (action : LinkAction) :
    ∃ pumpAfter, PumpStep link (link.step action) pump pumpAfter := by
  have htransmit : ∀ (current : LinkState) (built : Except Raised (List Byte)),
      (current.transmit built).simulator = current.simulator ∧
        (current.transmit built).popped = current.popped := by
    intro current built
    unfold LinkState.transmit
    split <;> exact ⟨rfl, rfl⟩
  unfold LinkState.step
  cases action with
  | poll => exact ⟨pump, pumpStep_kept hpump (htransmit _ _).1 (htransmit _ _).2⟩
  | command sequence payload =>
      exact ⟨pump, pumpStep_kept hpump (htransmit _ _).1 (htransmit _ _).2⟩
  | iap => exact ⟨pump, pumpStep_kept hpump (htransmit _ _).1 (htransmit _ _).2⟩
  | lose => exact ⟨pump, pumpStep_kept hpump rfl rfl⟩
  | pumpReceives uuid4 =>
      dsimp only
      split
      · exact pumpStep_deliver hpump uuid4 _
      · exact ⟨pump, pumpStep_kept hpump rfl rfl⟩
  | controllerReceives =>
      dsimp only
      split
      · split <;> exact ⟨pump, pumpStep_kept hpump rfl rfl⟩
      · exact ⟨pump, pumpStep_kept hpump rfl rfl⟩
  | corrupt frame =>
      dsimp only
      split
      · split <;> exact ⟨pump, pumpStep_kept hpump rfl rfl⟩
      · exact ⟨pump, pumpStep_kept hpump rfl rfl⟩
  | timeout maxConsecutive => exact ⟨pump, pumpStep_kept hpump rfl rfl⟩
  | operate uuid4 operation =>
      dsimp only
      have hran := (onPump_spec hpump (operation.run ⟨link.simulator.clockMs, uuid4⟩)).1
      have hwritten := getPump_setPump link.simulator hpump
        (finalState (operation.run ⟨link.simulator.clockMs, uuid4⟩) pump) link.address
      rw [if_pos rfl, ← hran] at hwritten
      exact ⟨_, hwritten, sameAddresses_onPump _ _ _, operation.told_run _ pump,
        fun _ hitem => Or.inl hitem⟩
  | advance milliseconds =>
      have hticked : ({ link.simulator with
          clockMs := link.simulator.clockMs + milliseconds } :
            SimulatorSession).getPump link.address = some pump := hpump
      obtain ⟨pumpAfter, hafter, hadvancing⟩ := advancing_advancePumps
        ⟨link.simulator.clockMs + milliseconds, ""⟩ hdistinct hticked
      exact ⟨pumpAfter, hafter, sameAddresses_advance milliseconds _, hadvancing.told,
        fun _ hitem => Or.inl hitem⟩
  | restartController => exact ⟨pump, pumpStep_kept hpump rfl rfl⟩

end

/-! ## Attribution -/

/-- The pump's meter has its readings recorded, and every block comes from one of them and
from a settled status. -/
structure AttributedTo (link : LinkState) (pump : SimulatedPump) (readings : List Reading) :
    Prop where
  wellFormed : WellFormed link pump
  distinct : link.simulator.addresses.Nodup
  settled : pump.wayneStatus ≠ .AUTHORIZED
  shown : (pump.volumeRaw, pump.amountRaw) ∈ readings
  queued : ∀ item ∈ pump.pendingOutbound, Attributable readings item.payload
  popped : ∀ item ∈ link.popped, Attributable readings item.1
  sourced : (link.line pump).Sourced

def Attributed (link : LinkState) (readings : List Reading) : Prop :=
  ∃ pump, AttributedTo link pump readings

/-- What is decoded was popped. -/
theorem Attributed.decoded {link : LinkState} {readings : List Reading}
    (hattributed : Attributed link readings) :
    ∀ item ∈ link.decoded, Attributable readings item.1 := by
  obtain ⟨pump, hpump⟩ := hattributed
  exact fun item hitem => hpump.popped item (hpump.sourced.delivered item hitem)

/-- Every action keeps the attribution, when the reading after it is recorded. -/
theorem Attributed.step {link : LinkState} {readings : List Reading}
    (hattributed : Attributed link readings) (action : LinkAction) :
    Attributed (link.step action) (readings ++ (link.step action).meter) := by
  obtain ⟨pump, hpump⟩ := hattributed
  obtain ⟨after, hwell, hline⟩ := hpump.wellFormed.step_simulates action
  obtain ⟨pumpAfter, hstep⟩ := pumpStep_step hpump.wellFormed.getPump hpump.distinct action
  have hafter : (link.step action).simulator.getPump (link.step action).address =
      some pumpAfter := by
    rw [address_step]
    exact hstep.getPump
  obtain rfl := Option.some.inj (hafter.symm.trans hwell.getPump)
  have hmeter : (link.step action).meter = [(pumpAfter.volumeRaw, pumpAfter.amountRaw)] := by
    unfold LinkState.meter
    rw [hafter]
    rfl
  have hold : readings ⊆ readings ++ (link.step action).meter :=
    List.subset_append_left _ _
  have hnow : (pumpAfter.volumeRaw, pumpAfter.amountRaw) ∈
      readings ++ (link.step action).meter :=
    List.mem_append_right _ (hmeter ▸ List.mem_cons_self)
  refine ⟨pumpAfter, hwell, ?_, hstep.told.status hpump.settled, hnow,
    fun item hitem => ?_, fun item hitem => ?_, ?_⟩
  · rw [hstep.addresses]
    exact hpump.distinct
  · -- a new block shows the meter as it was before or as it is now
    rcases hstep.told.queue item hitem with hkept | ⟨hreports, hstatus⟩
    · exact (hpump.queued item hkept).mono hold
    · refine ⟨?_, hstatus hpump.settled⟩
      rcases hreports with hbefore | hafter
      · exact ⟨_, hold hpump.shown, hbefore⟩
      · exact ⟨_, hnow, hafter⟩
  · rcases hstep.popped item hitem with hkept | ⟨queued, hqueued, hpayload⟩
    · exact (hpump.popped item hkept).mono hold
    · rw [← hpayload]
      exact (hpump.queued queued hqueued).mono hold
  · rw [hline]
    exact hpump.sourced.step link.next 0 _

theorem Attributed.mono {link : LinkState} {readings later : List Reading}
    (hattributed : Attributed link readings) (hsubset : readings ⊆ later) :
    Attributed link later := by
  obtain ⟨pump, hpump⟩ := hattributed
  exact ⟨pump, { hpump with
    shown := hsubset hpump.shown
    queued := fun item hitem => (hpump.queued item hitem).mono hsubset
    popped := fun item hitem => (hpump.popped item hitem).mono hsubset }⟩

theorem attributed_start (config : SimulatorConfig) {address : Byte} (pumpId : String)
    (haddress : address ∈ config.pumps.map (·.dartAddress)) :
    Attributed (LinkState.start config address pumpId)
      (LinkState.start config address pumpId).meter := by
  obtain ⟨pumpConfig, rfl, hgetPump⟩ := getPump_create config haddress
  obtain ⟨pump, hwell, hline⟩ := wellFormed_start config pumpId haddress
  have hsame := hwell.getPump
  change (SimulatorSession.create config).getPump pumpConfig.dartAddress = some pump at hsame
  obtain rfl := Option.some.inj (hgetPump.symm.trans hsame)
  have hreset : WaynePumpStatus.RESET ≠ .AUTHORIZED := by decide
  refine ⟨_, hwell, distinct_run config [], hreset, ?_, ?_, ?_, ?_⟩
  · unfold LinkState.meter
    rw [hwell.getPump]
    exact List.mem_cons_self
  · exact fun item hitem => absurd hitem List.not_mem_nil
  · exact fun item hitem => absurd hitem List.not_mem_nil
  · rw [hline]
    exact ⟨fun _ h => absurd h (by simp), fun _ _ h => absurd h (by simp),
      fun _ h => absurd h List.not_mem_nil, fun _ h => absurd h List.not_mem_nil⟩

/-! ## Runs -/

/-- What the meter shows at the start of a run and after each of its actions. -/
def LinkState.shown (link : LinkState) : List LinkAction → List Reading
  | [] => link.meter
  | action :: rest => link.meter ++ (link.step action).shown rest

theorem meter_subset_shown (link : LinkState) (actions : List LinkAction) :
    link.meter ⊆ link.shown actions := by
  cases actions with
  | nil => exact List.Subset.refl _
  | cons action rest => exact List.subset_append_left _ _

theorem Attributed.run {link : LinkState} {readings : List Reading}
    (hattributed : Attributed link readings) (actions : List LinkAction) :
    Attributed (link.run actions) (readings ++ link.shown actions) := by
  induction actions generalizing link readings with
  | nil => exact hattributed.mono (List.subset_append_left _ _)
  | cons action rest ih =>
      refine (ih (hattributed.step action)).mono ?_
      intro reading hreading
      change reading ∈ readings ++ (link.meter ++ (link.step action).shown rest)
      simp only [List.mem_append] at hreading ⊢
      rcases hreading with (hold | hmeter) | hlater
      · exact Or.inl hold
      · exact Or.inr (Or.inr (meter_subset_shown _ _ hmeter))
      · exact Or.inr (Or.inr hlater)

/-- What the report says was filled, the meter has shown. -/
def ReportWithin (readings : List Reading) (report : TransactionDecodedPayload) : Prop :=
  ∀ volume ∈ report.rawVolume, ∀ amount ∈ report.rawAmount,
    ∃ reading ∈ readings, volume ≤ reading.1 ∧ amount ≤ reading.2

theorem reportWithin_payloadReports {readings : List Reading} {payload : List Byte}
    (hpayload : Attributable readings payload) :
    ∀ report ∈ payloadReports payload, ReportWithin readings report := by
  intro report hreport volume hvolume amount hamount
  obtain ⟨tx, htx, rfl⟩ := List.mem_map.mp hreport
  obtain ⟨reading, hreading, hreports⟩ := hpayload.filled
  unfold PumpSession.transactionDecodedPayload at hvolume hamount
  dsimp only at hvolume hamount
  cases hbody : tx.decodedBody with
  | none =>
      rw [hbody] at hvolume
      cases hvolume
  | some body =>
      rw [hbody] at hvolume hamount
      cases body with
      | dc2 filledVolume filledAmount =>
          cases hvolume
          cases hamount
          exact ⟨reading, hreading, hreports _ tx htx _ _ hbody⟩
      | _ => cases hvolume

/-- Over any run, whatever is lost, corrupted, repeated or restarted, a filled volume or
amount on the event bus is never more than the pump's meter has shown. -/
theorem published_within_meter (config : SimulatorConfig) (address : Byte)
    (pumpId : String) (actions : List LinkAction)
    (haddress : address ∈ config.pumps.map (·.dartAddress)) :
    ∀ report ∈ reports ((LinkState.start config address pumpId).publishedBy actions),
      ReportWithin ((LinkState.start config address pumpId).shown actions) report := by
  intro report hreport
  have hattributed := (attributed_start config pumpId haddress).run actions
  have hdecoded := reports_publishedBy (LinkState.start config address pumpId) actions
  change _ = [] ++ _ at hdecoded
  rw [List.nil_append] at hdecoded
  rw [← hdecoded] at hreport
  obtain ⟨payload, hpayload, hlisted⟩ := List.mem_flatMap.mp hreport
  obtain ⟨item, hitem, rfl⟩ := List.mem_map.mp hpayload
  refine reportWithin_payloadReports ((hattributed.decoded item hitem).mono ?_) report hlisted
  exact List.append_subset.mpr ⟨meter_subset_shown _ _, List.Subset.refl _⟩

/-- A delivery whose first report is lost and sent again. -/
def fillingRun : List LinkAction :=
  [.operate "" .coldStartToReady, .operate "" (.liftNozzle 1),
    .operate "sale" (.handleApplicationPayload [0x01, 0x01, 0x06]), .advance 1000] ++
    (List.replicate 6 exchange).flatten ++
    [.poll, .pumpReceives "", .lose, .timeout 3, .advance 500] ++ exchange ++ exchange

theorem published_within_meter_filling :
    (∃ report ∈ reports (defaultLink.publishedBy fillingRun), ∃ volume ∈ report.rawVolume,
        0 < volume) ∧
      ∀ report ∈ reports (defaultLink.publishedBy fillingRun),
        ReportWithin (defaultLink.shown fillingRun) report :=
  ⟨by decide +kernel, published_within_meter {} 0x01 "fp-1" fillingRun (by decide)⟩

end Link
end Intelipump
