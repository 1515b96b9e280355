import Mathlib.Tactic.Common
import Intelipump.Simulator.CodecRoundTrip
import Intelipump.Simulator.FillLoop
import Intelipump.Simulator.Operations
import Intelipump.Simulator.Receive
import Intelipump.Simulator.SessionAdvance
import Intelipump.StateMachine.WayneMapper

namespace Intelipump
namespace Simulator

open Domain
open Dart.Line
open Dart.Application
open Foundation
open Foundation.StateEffect
open StateMachine (Unauthorizing extractRawStatus)
open SimulatedPump

/-!
# What a pump reports

A DC2 tells volume and amount as the meter shows them, a DC1 tells the status, and nothing
else is read as either.  A command or a local action queues what the pump showed before it
and may set the meter back (`Commanded`); a time advance queues no more than the meter
shows after it (`Advancing`).  Neither leaves a pump at the status AUTHORIZED, which stands
only inside of a command.
-/

/-- What the decoder reads in a payload as filled is at most so much. -/
def ReportsAtMost (volumeRaw amountRaw : Nat) (payload : List Byte) : Prop :=
  ∀ origin, ∀ tx ∈ (decodeDataPayload payload origin).transactions, ∀ volume amount,
    tx.decodedBody = some (.dc2 volume amount) →
      volume.rawScaled ≤ volumeRaw ∧ amount.rawScaled ≤ amountRaw

theorem ReportsAtMost.mono {volumeRaw amountRaw volumeRaw' amountRaw' : Nat}
    {payload : List Byte} (hreports : ReportsAtMost volumeRaw amountRaw payload)
    (hvolume : volumeRaw ≤ volumeRaw') (hamount : amountRaw ≤ amountRaw') :
    ReportsAtMost volumeRaw' amountRaw' payload := by
  intro origin tx htx volume amount hbody
  obtain ⟨hleVolume, hleAmount⟩ := hreports origin tx htx volume amount hbody
  exact ⟨hleVolume.trans hvolume, hleAmount.trans hamount⟩

/-! ## One unit -/

/-- Only a DC2 is read as filled volume and amount, and only a DC1 as a status. -/
theorem body_of_transactionId (rawTx : RawTransaction) (origin : FrameOrigin) :
    (rawTx.transactionId ≠ 0x02 → ∀ volume amount,
        (decodeRawTransaction rawTx origin).decodedBody ≠ some (.dc2 volume amount)) ∧
      (rawTx.transactionId ≠ 0x01 →
        extractRawStatus (decodeRawTransaction rawTx origin) = none) := by
  unfold decodeRawTransaction
  dsimp only
  split_ifs with hstatus hfilled
  · exact ⟨fun _ _ _ h => (by cases h), fun hother => absurd hstatus.1 hother⟩
  · refine ⟨fun hother => absurd hfilled.1 hother, fun _ => ?_⟩
    unfold decodeDc2
    dsimp only
    cases decodeScaledBcd (rawTx.data.take 4) with
    | error error => rfl
    | ok volume => cases decodeScaledBcd ((rawTx.data.drop 4).take 4) <;> rfl
  · unfold decodeDc3Preferred
    split <;> exact ⟨fun _ _ _ h => (by cases h), fun _ => rfl⟩
  · exact ⟨fun _ _ _ h => (by cases h), fun _ => rfl⟩
  · unfold decodeCd5
    split <;> exact ⟨fun _ _ _ h => (by cases h), fun _ => rfl⟩
  · exact ⟨fun _ _ _ h => (by cases h), fun _ => rfl⟩
  · unfold decodeDc101
    dsimp only
    cases decodeScaledBcd ((rawTx.data.drop 1).take 5) with
    | error error => exact ⟨fun _ _ _ h => (by cases h), fun _ => rfl⟩
    | ok totalValue =>
        cases decodeScaledBcd ((rawTx.data.drop 6).take 5) with
        | error error => exact ⟨fun _ _ _ h => (by cases h), fun _ => rfl⟩
        | ok totalMeter1 =>
            cases decodeScaledBcd ((rawTx.data.drop 11).take 5) with
            | error error => exact ⟨fun _ _ _ h => (by cases h), fun _ => rfl⟩
            | ok totalMeter2 => exact ⟨fun _ _ _ h => (by cases h), fun _ => rfl⟩
  · exact ⟨fun _ _ _ h => (by cases h), fun _ => rfl⟩

/-- The transactions of a payload that is one unit. -/
theorem transactions_unit (unit : TransactionUnit) (origin : FrameOrigin) :
    (decodeDataPayload unit.bytes origin).transactions =
      [decodeRawTransaction (unit.carvedAt 0) origin] := by
  have hnothing : Incomplete [] := trivial
  obtain ⟨htransactions, -⟩ := splitFrom_units [unit] hnothing 0
  rw [List.map_singleton, List.flatten_singleton, List.append_nil] at htransactions
  unfold decodeDataPayload splitTransactions
  dsimp only
  rw [htransactions]
  rfl

/-- What is encoded is one unit with this TRANS. -/
def UnitOf (trans : Byte) (encoded : Except Raised (List Byte)) : Prop :=
  ∀ payload, encoded = .ok payload →
    ∃ unit : TransactionUnit, unit.transactionId = trans ∧ unit.bytes = payload

theorem unitOf_encodeUnit (trans : Byte) (data : List Byte) :
    UnitOf trans (encodeUnit trans data) := by
  intro payload hencoded
  have hlength : data.length ≤ 255 := by
    unfold encodeUnit at hencoded
    split at hencoded
    · cases hencoded
    · omega
  obtain ⟨rfl, -⟩ := encodeUnit_eq_ok hencoded
  exact ⟨⟨trans, data, hlength⟩, rfl, rfl⟩

/-- A step that fails or yields a value leaves the unit to what follows. -/
theorem unitOf_bind {α : Type} {trans : Byte} (first : Except Raised α)
    {next : α → Except Raised (List Byte)} (hnext : ∀ value, UnitOf trans (next value)) :
    UnitOf trans (first >>= next) := by
  intro payload hencoded
  cases first with
  | error error => cases hencoded
  | ok value => exact hnext value payload hencoded

section

variable {trans : Byte} {encoded : Except Raised (List Byte)} {payload : List Byte}

/-- A unit other than DC2 reports no filling. -/
theorem UnitOf.reportsNothing (hunit : UnitOf trans encoded) (htrans : trans ≠ 0x02)
    (hencoded : encoded = .ok payload) : ReportsAtMost 0 0 payload := by
  obtain ⟨unit, rfl, rfl⟩ := hunit payload hencoded
  intro origin tx htx volume amount hbody
  rw [transactions_unit, List.mem_singleton] at htx
  subst htx
  exact absurd hbody ((body_of_transactionId (unit.carvedAt 0) origin).1 htrans volume amount)

/-- A unit other than DC1 reports no status. -/
theorem UnitOf.unauthorizing (hunit : UnitOf trans encoded) (htrans : trans ≠ 0x01)
    (hencoded : encoded = .ok payload) : Unauthorizing payload := by
  obtain ⟨unit, rfl, rfl⟩ := hunit payload hencoded
  intro origin tx htx hstatus
  rw [transactions_unit, List.mem_singleton] at htx
  subst htx
  have hnone := (body_of_transactionId (unit.carvedAt 0) origin).2 htrans
  rw [hnone] at hstatus
  cases hstatus

end

/-- A DC1 reports the status it was made from. -/
theorem unauthorizing_dc1 {status : WaynePumpStatus} (hstatus : status ≠ .AUTHORIZED)
    {payload : List Byte} (hencoded : encodeDc1Status status.code = .ok payload) :
    Unauthorizing payload := by
  obtain ⟨unit, hunit, hdecoded⟩ := PumpMessage.dc1_roundTrips status.code
  obtain rfl := Except.ok.inj (hencoded.symm.trans hunit)
  intro origin tx htx hread
  rw [transactions_unit, List.mem_singleton] at htx
  subst htx
  obtain ⟨dc1, cd1, hbody⟩ := (hdecoded 0 origin).carried
  unfold extractRawStatus at hread
  rw [hbody] at hread
  have hcode : status.code = WaynePumpStatus.AUTHORIZED.code := Option.some.inj hread
  revert hcode
  cases status <;> first | exact absurd rfl hstatus | decide

/-- A DC2 reports what it was made from. -/
theorem reportsAtMost_dc2 {volumeRaw amountRaw : Nat} {payload : List Byte}
    (hencoded : encodeDc2VolumeAmount volumeRaw amountRaw = .ok payload) :
    ReportsAtMost volumeRaw amountRaw payload := by
  intro origin tx htx volume amount hbody
  obtain ⟨hvolume, hamount⟩ :=
    (encodeDc2VolumeAmount_isOk_iff volumeRaw amountRaw).mp ⟨payload, hencoded⟩
  obtain ⟨unit, hunit, hdecoded⟩ := PumpMessage.dc2_roundTrips hvolume hamount
  obtain rfl := Except.ok.inj (hencoded.symm.trans hunit)
  rw [transactions_unit, List.mem_singleton] at htx
  subst htx
  obtain ⟨readVolume, readAmount, hread, hreadVolume, hreadAmount⟩ :=
    (hdecoded 0 origin).carried
  rw [hread] at hbody
  cases hbody
  exact ⟨hreadVolume.le, hreadAmount.le⟩

/-- The payload tells no more than the meter and the status of the pump. -/
structure Shows (pump : SimulatedPump) (payload : List Byte) : Prop where
  filled : ReportsAtMost pump.volumeRaw pump.amountRaw payload
  status : pump.wayneStatus ≠ .AUTHORIZED → Unauthorizing payload

theorem shows_unit {trans : Byte} {encoded : Except Raised (List Byte)}
    (hunit : UnitOf trans encoded) (hstatus : trans ≠ 0x01) (hfilled : trans ≠ 0x02)
    (pump : SimulatedPump) {payload : List Byte} (hencoded : encoded = .ok payload) :
    Shows pump payload :=
  ⟨(hunit.reportsNothing hfilled hencoded).mono (Nat.zero_le _) (Nat.zero_le _),
    fun _ => hunit.unauthorizing hstatus hencoded⟩

theorem shows_dc1 (pump : SimulatedPump) {payload : List Byte}
    (hencoded : encodeDc1Status pump.wayneStatus.code = .ok payload) : Shows pump payload :=
  ⟨((unitOf_encodeUnit 0x01 _).reportsNothing (by decide) hencoded).mono (Nat.zero_le _)
    (Nat.zero_le _), fun hstatus => unauthorizing_dc1 hstatus hencoded⟩

theorem shows_dc2 (pump : SimulatedPump) {payload : List Byte}
    (hencoded : encodeDc2VolumeAmount pump.volumeRaw pump.amountRaw = .ok payload) :
    Shows pump payload :=
  ⟨reportsAtMost_dc2 hencoded, fun _ => UnitOf.unauthorizing
    (unitOf_bind _ fun _ => unitOf_bind _ fun _ => unitOf_encodeUnit 0x02 _)
    (by decide) hencoded⟩

/-! ## Commands and local actions -/

/-- The meter runs back or stays, the status does not stay at AUTHORIZED, and what was
queued tells what the pump showed before. -/
structure Commanded (before after : SimulatedPump) : Prop where
  volume_le : after.volumeRaw ≤ before.volumeRaw
  amount_le : after.amountRaw ≤ before.amountRaw
  status : before.wayneStatus ≠ .AUTHORIZED → after.wayneStatus ≠ .AUTHORIZED
  queue : ∀ item ∈ after.pendingOutbound,
    item ∈ before.pendingOutbound ∨ Shows before item.payload

namespace Commanded

/-- A change that queues nothing. -/
theorem of_le {before after : SimulatedPump} (hvolume : after.volumeRaw ≤ before.volumeRaw)
    (hamount : after.amountRaw ≤ before.amountRaw)
    (hstatus : before.wayneStatus ≠ .AUTHORIZED → after.wayneStatus ≠ .AUTHORIZED)
    (hpending : ∀ item ∈ after.pendingOutbound, item ∈ before.pendingOutbound) :
    Commanded before after :=
  ⟨hvolume, hamount, hstatus, fun item hitem => Or.inl (hpending item hitem)⟩

/-- A change of the status only, among the fields that count here. -/
theorem of_status {before after : SimulatedPump}
    (hstatus : before.wayneStatus ≠ .AUTHORIZED → after.wayneStatus ≠ .AUTHORIZED)
    (hvolume : after.volumeRaw = before.volumeRaw)
    (hamount : after.amountRaw = before.amountRaw)
    (hpending : after.pendingOutbound = before.pendingOutbound) : Commanded before after :=
  of_le hvolume.le hamount.le hstatus fun _ hitem => hpending ▸ hitem

/-- A change of other fields. -/
theorem of_eq {before after : SimulatedPump} (hvolume : after.volumeRaw = before.volumeRaw)
    (hamount : after.amountRaw = before.amountRaw)
    (hstatus : after.wayneStatus = before.wayneStatus)
    (hpending : after.pendingOutbound = before.pendingOutbound) : Commanded before after :=
  of_status (fun hbefore => hstatus ▸ hbefore) hvolume hamount hpending

theorem applyEvent (pump : SimulatedPump) (event : PumpEvent)
    (args : StateMachine.ApplyArgs) : Commanded pump (pump.applyEvent event args) :=
  of_eq rfl rfl rfl rfl

instance : IsPreorder SimulatedPump Commanded where
  refl pump := of_eq rfl rfl rfl rfl
  trans first second third hfirst hsecond := by
    refine ⟨hsecond.volume_le.trans hfirst.volume_le,
      hsecond.amount_le.trans hfirst.amount_le,
      fun hstatus => hsecond.status (hfirst.status hstatus), fun item hitem => ?_⟩
    rcases hsecond.queue item hitem with hold | hnew
    · exact hfirst.queue item hold
    · exact Or.inr ⟨hnew.filled.mono hfirst.volume_le hfirst.amount_le,
        fun hstatus => hnew.status (hfirst.status hstatus)⟩

end Commanded

namespace SimulatedPump

/-- A command sets the status to another one than AUTHORIZED. -/
theorem settled (status : WaynePumpStatus) (hother : status ≠ .AUTHORIZED)
    {pump : SimulatedPump} : pump.wayneStatus ≠ .AUTHORIZED → status ≠ .AUTHORIZED :=
  fun _ => hother

theorem commanded_queueEncoded {pump : SimulatedPump} {encoded : Except Raised (List Byte)}
    (hshows : ∀ payload, encoded = .ok payload → Shows pump payload) (label : String) :
    Commanded pump (finalState (queueEncoded encoded label) pump) := by
  unfold queueEncoded queue
  rw [finalState_bind]
  cases hencoded : encoded with
  | error error => exact refl_of Commanded pump
  | ok payload =>
      refine ⟨le_rfl, le_rfl, id, fun item hitem => ?_⟩
      rcases List.mem_append.mp hitem with hold | hnew
      · exact Or.inl hold
      · rw [List.mem_singleton.mp hnew]
        exact Or.inr (hshows payload hencoded)

/-- A unit that tells neither meter nor status. -/
theorem commanded_queueOther {trans : Byte} {encoded : Except Raised (List Byte)}
    (hunit : UnitOf trans encoded) (hstatus : trans ≠ 0x01) (hfilled : trans ≠ 0x02)
    (label : String) : Preserves Commanded (queueEncoded encoded label) :=
  fun pump => commanded_queueEncoded (fun _ => shows_unit hunit hstatus hfilled pump) label

theorem unitOf_dc3 (priceRaw logicalNozzle : Nat) (nozzleOut : Bool) :
    UnitOf 0x03 (encodeDc3NozzlePrice priceRaw logicalNozzle nozzleOut) :=
  unitOf_bind _ fun _ => unitOf_encodeUnit _ _

theorem unitOf_dc101 (counterSelect : Byte)
    (totalValueRaw totalMeter1Raw totalMeter2Raw : Nat) :
    UnitOf 0x65 (encodeDc101Totals counterSelect totalValueRaw totalMeter1Raw
      totalMeter2Raw) :=
  unitOf_bind _ fun _ => unitOf_bind _ fun _ => unitOf_bind _ fun _ => unitOf_encodeUnit _ _

theorem commanded_queueStatusAndNozzle : Preserves Commanded queueStatusAndNozzle := by
  intro pump
  have hstatus := commanded_queueEncoded (fun _ => shows_dc1 pump) "DC1_STATUS"
  have hnozzle : Preserves Commanded (do
      queueEncoded (← get).encodeDc3 "DC3_NOZZLE_PRICE" : PumpM Unit) :=
    .of_bind .of_get fun pump =>
      commanded_queueOther (unitOf_dc3 _ _ _) (by decide) (by decide) _
  unfold queueStatusAndNozzle
  rw [finalState_get_bind, finalState_bind]
  cases returned (queueEncoded (encodeDc1Status pump.wayneStatus.code) "DC1_STATUS") pump with
  | none => exact hstatus
  | some value => exact trans_of Commanded hstatus (hnozzle _)

theorem commanded_queueFillData : Preserves Commanded queueFillData :=
  fun pump => commanded_queueEncoded (fun _ => shows_dc2 pump) "DC2_FILL"

theorem commanded_modify {change : SimulatedPump → SimulatedPump}
    (hchange : ∀ pump, Commanded pump (change pump)) :
    Preserves Commanded (modify change : PumpM PUnit) :=
  Preserves.of_modify hchange

theorem commanded_coldStartToReady : Preserves Commanded coldStartToReady := by
  refine .of_bind (commanded_modify fun pump => ?_) fun _ => ?_
  · split
    · exact refl_of Commanded pump
    · exact .of_eq rfl rfl rfl rfl
  refine .of_bind (commanded_modify fun pump => .applyEvent pump _ _) fun _ => ?_
  refine .of_bind (commanded_modify fun _ =>
    .of_status (settled .RESET (by decide)) rfl rfl rfl) fun _ => ?_
  refine .of_bind (commanded_modify fun _ => .of_eq rfl rfl rfl rfl) fun _ => ?_
  refine .of_bind (commanded_modify fun _ =>
    .of_status (settled .RESET (by decide)) rfl rfl rfl) fun _ => ?_
  exact commanded_queueStatusAndNozzle

theorem commanded_liftNozzle (env : PumpEnv) (nozzle : Nat) :
    Preserves Commanded (liftNozzle env nozzle) := by
  refine .of_bind .of_get fun pump => .of_ite (.of_pure _) ?_
  refine .of_bind (commanded_modify fun _ => .of_eq rfl rfl rfl rfl) fun _ => ?_
  refine .of_bind (commanded_modify fun _ => .of_eq rfl rfl rfl rfl) fun _ => ?_
  exact .of_bind commanded_queueStatusAndNozzle fun _ => .of_pure _

theorem commanded_returnNozzle : Preserves Commanded returnNozzle := by
  refine .of_bind (commanded_modify fun pump => ?_) fun _ => commanded_queueStatusAndNozzle
  dsimp only
  split
  · exact .of_eq rfl rfl rfl rfl
  · exact .of_eq rfl rfl rfl rfl

theorem commanded_injectFault (code : Nat) : Preserves Commanded (injectFault code) :=
  .of_bind (commanded_modify fun _ =>
    .of_status (settled .RESET (by decide)) rfl rfl rfl) fun _ =>
      commanded_queueOther (unitOf_encodeUnit 0x05 _) (by decide) (by decide) _

theorem commanded_clearFault (pump : SimulatedPump) : Commanded pump pump.clearFault := by
  have hcleared : Commanded pump
      ({ pump with faultCode := none }.applyEvent .FAULT_CLEARED {}) := .of_eq rfl rfl rfl rfl
  have hreset : ∀ cleared : SimulatedPump, Commanded cleared
      ({ cleared with wayneStatus := .RESET }.applyEvent .RESET_OBSERVED {}) :=
    fun _ => .of_status (settled .RESET (by decide)) rfl rfl rfl
  unfold clearFault
  exact trans_of Commanded (trans_of Commanded hcleared (hreset _)) (.applyEvent _ _ _)

theorem commanded_completeFilling : Preserves Commanded completeFilling := by
  refine .of_bind .of_get fun pump => .of_ite (.of_pure _) ?_
  refine .of_bind (commanded_modify fun _ =>
    .of_status (settled .FILLING_COMPLETED (by decide)) rfl rfl rfl) fun _ => ?_
  exact .of_bind commanded_queueStatusAndNozzle fun _ => commanded_queueFillData

theorem commanded_executeEligible (env : PumpEnv) (command : PumpCommand) (args : GuardedArgs) :
    Preserves Commanded (executeEligible env command args) := by
  have hset : ∀ {change : SimulatedPump → SimulatedPump}
      (_ : ∀ pump, Commanded pump (change pump)),
      Preserves Commanded (do
        modify change
        queueStatusAndNozzle
        return [] : PumpM (List ProtocolFault)) := by
    intro change hchange
    refine .of_bind (commanded_modify hchange) fun _ => ?_
    exact .of_bind commanded_queueStatusAndNozzle fun _ => .of_pure _
  cases command with
  | SET_PRICE =>
      unfold executeEligible
      dsimp only
      split
      · exact hset fun _ => .of_eq rfl rfl rfl rfl
      · exact .of_throw _
  | PRESET_VOLUME =>
      unfold executeEligible
      dsimp only
      split
      · exact .of_bind (commanded_modify fun _ => .of_eq rfl rfl rfl rfl) fun _ => .of_pure _
      · exact .of_throw _
  | PRESET_AMOUNT =>
      unfold executeEligible
      dsimp only
      split
      · exact .of_bind (commanded_modify fun _ => .of_eq rfl rfl rfl rfl) fun _ => .of_pure _
      · exact .of_throw _
  | AUTHORIZE =>
      -- the meter starts from zero, and the pump is filling before it queues a status
      have hqueues : Preserves Commanded (do
          queueStatusAndNozzle
          queueFillData
          return [] : PumpM (List ProtocolFault)) :=
        .of_bind commanded_queueStatusAndNozzle fun _ =>
          .of_bind commanded_queueFillData fun _ => .of_pure _
      intro pump
      unfold executeEligible
      dsimp only
      rw [finalState_modify_bind, finalState_modify_bind]
      refine trans_of Commanded ?_ (hqueues _)
      exact .of_le (Nat.zero_le _) (Nat.zero_le _) (settled .FILLING (by decide)) fun _ => id
  | STOP => exact .of_bind commanded_completeFilling fun _ => .of_pure _
  | SUSPEND => exact hset fun _ => .of_status (settled .SUSPENDED (by decide)) rfl rfl rfl
  | RESUME => exact hset fun _ => .of_status (settled .FILLING (by decide)) rfl rfl rfl
  | RESET =>
      refine .of_bind (commanded_modify fun _ => .of_le (Nat.zero_le _) (Nat.zero_le _)
        (settled .RESET (by decide)) fun _ => id) fun _ => ?_
      refine hset fun pump => ?_
      split
      · exact .of_eq rfl rfl rfl rfl
      · exact refl_of Commanded pump
  | _ => exact .of_pure _

theorem commanded_executeGuarded (env : PumpEnv) (command : PumpCommand) (args : GuardedArgs) :
    Preserves Commanded (executeGuarded env command args) := by
  refine .of_bind (commanded_modify fun _ => .of_eq rfl rfl rfl rfl) fun _ => ?_
  refine .of_bind .of_get fun pump => ?_
  refine .of_bind (commanded_modify fun _ => .of_eq rfl rfl rfl rfl) fun _ => ?_
  exact .of_ite (.of_pure _) (commanded_executeEligible env command args)

theorem commanded_handleCd1 (env : PumpEnv) (dcc : Byte) :
    Preserves Commanded (handleCd1 env dcc) := by
  have hstatus : Preserves Commanded (do
      queueStatusAndNozzle
      return [] : PumpM (List ProtocolFault)) :=
    .of_bind commanded_queueStatusAndNozzle fun _ => .of_pure _
  have hfilled : Preserves Commanded (do
      queueFillData
      return [] : PumpM (List ProtocolFault)) :=
    .of_bind commanded_queueFillData fun _ => .of_pure _
  have hidentity : Preserves Commanded (do
      queueEncoded encodeDc9Identity "DC9_IDENTITY"
      return [] : PumpM (List ProtocolFault)) :=
    .of_bind (commanded_queueOther (unitOf_encodeUnit 0x09 _) (by decide) (by decide) _)
      fun _ => .of_pure _
  intro pump
  unfold handleCd1
  rw [finalState_get_bind]
  split
  · exact refl_of Commanded pump
  · exact hstatus pump
  · exact hfilled pump
  · exact hidentity pump
  · -- the status that was read is still the pump's
    rw [finalState_bind_pure]
    exact commanded_queueEncoded (fun _ => shows_dc1 pump) _
  · split
    · exact refl_of Commanded pump
    · exact commanded_executeGuarded env _ _ pump

theorem commanded_handlePrices (env : PumpEnv) (nozzle : Nat) (data : List Byte) :
    Preserves Commanded (handlePrices env nozzle data) := by
  fun_induction handlePrices env nozzle data with
  | case1 nozzle first second third rest ih =>
      refine .of_bind (.of_fromExcept _) fun price => ?_
      refine .of_bind (commanded_executeGuarded env _ _) fun _ => ?_
      exact .of_bind ih fun _ => .of_pure _
  | case2 => exact .of_pure _

theorem commanded_handleOneTx (env : PumpEnv) (trans : Byte) (data : List Byte) :
    Preserves Commanded (handleOneTx env trans data) := by
  refine .of_ite (commanded_handleCd1 env _)
    (.of_ite ?_ (.of_ite ?_ (.of_ite ?_ (.of_ite ?_ ?_))))
  · exact .of_bind (.of_fromExcept _) fun _ => commanded_executeGuarded env _ _
  · exact .of_bind (.of_fromExcept _) fun _ => commanded_executeGuarded env _ _
  · exact commanded_handlePrices env 1 data
  · refine .of_bind .of_get fun pump => ?_
    exact .of_bind (commanded_queueOther (unitOf_dc101 _ _ _ _) (by decide)
      (by decide) _) fun _ => .of_pure _
  · exact .of_bind .of_get fun _ => .of_pure _

theorem commanded_handleUnits (env : PumpEnv) (fuel : Nat) (payload : List Byte) :
    Preserves Commanded (handleUnits env fuel payload) := by
  fun_induction handleUnits env fuel payload with
  | case1 => exact .of_bind .of_get fun _ => .of_pure _
  | case2 fuel transId lng rest hcomplete ih =>
      refine .of_bind (commanded_handleOneTx env _ _) fun _ => ?_
      exact .of_bind ih fun _ => .of_pure _
  | case3 => exact .of_pure _

/-- A restart sets the meter to zero and empties the queue. -/
theorem commanded_restartPump (preserveTotals : Bool) (pump : SimulatedPump) :
    Commanded pump (pump.restartPump preserveTotals) := by
  have hempty := (restartPump_line pump preserveTotals).2.2.2
  have hzero : (pump.restartPump preserveTotals).volumeRaw = 0 ∧
      (pump.restartPump preserveTotals).amountRaw = 0 := by
    unfold restartPump
    dsimp only
    cases preserveTotals <;> split <;> exact ⟨rfl, rfl⟩
  have hstatus : (pump.restartPump preserveTotals).wayneStatus = .RESET ∨
      (pump.restartPump preserveTotals).wayneStatus = pump.wayneStatus := by
    unfold restartPump
    dsimp only
    cases preserveTotals <;> split <;> first | exact Or.inl rfl | exact Or.inr rfl
  refine .of_le (hzero.1.trans_le (Nat.zero_le _)) (hzero.2.trans_le (Nat.zero_le _)) ?_ ?_
  · rcases hstatus with hreset | hkept
    · rw [hreset]
      exact settled .RESET (by decide)
    · rw [hkept]
      exact id
  rw [hempty]
  exact fun _ hitem => absurd hitem List.not_mem_nil

end SimulatedPump

/-! ## Time -/

/-- What was queued reports no more than the meter shows now. -/
structure Advancing (before after : SimulatedPump) : Prop where
  status : before.wayneStatus ≠ .AUTHORIZED → after.wayneStatus ≠ .AUTHORIZED
  queue : ∀ item ∈ after.pendingOutbound, item ∈ before.pendingOutbound ∨
    ReportsAtMost after.volumeRaw after.amountRaw item.payload ∧
      (before.wayneStatus ≠ .AUTHORIZED → Unauthorizing item.payload)

theorem Advancing.refl (pump : SimulatedPump) : Advancing pump pump :=
  ⟨id, fun _ hitem => Or.inl hitem⟩

theorem commanded_reportInterval (hitLimit : Bool) (cfg : FillingConfig) :
    Preserves Commanded (reportInterval hitLimit cfg) := by
  refine .of_bind commanded_queueFillData fun _ => .of_ite ?_ (.of_pure _)
  refine .of_bind (commanded_modify fun pump => ?_) fun _ => commanded_completeFilling
  unfold limitReached
  split
  · exact .of_status (settled .MAX_AMOUNT_VOLUME_REACHED (by decide)) rfl rfl rfl
  · exact refl_of Commanded pump

/-- An interval shows the next numbers of the plan and reports them. -/
theorem reported_fillOneInterval {pump : SimulatedPump} (hfilling : pump.fillingActive = true) :
    (finalState fillOneInterval pump).volumeRaw = pump.plan.volumeAfter pump.volumeRaw 1 ∧
      (finalState fillOneInterval pump).amountRaw =
        pump.plan.charged (pump.plan.volumeAfter pump.volumeRaw 1) ∧
      Advancing pump (finalState fillOneInterval pump) := by
  have hnumbers : (finalState fillOneInterval pump).volumeRaw =
        pump.plan.volumeAfter pump.volumeRaw 1 ∧
      (finalState fillOneInterval pump).amountRaw =
        pump.plan.charged (pump.plan.volumeAfter pump.volumeRaw 1) := by
    cases intervalDoes_fillOneInterval hfilling with
    | fills hopen hqueued =>
        obtain ⟨hfields, -⟩ := filled_of_onlyQueued hfilling hqueued
        exact ⟨congrArg PumpFields.volumeRaw hfields, congrArg PumpFields.amountRaw hfields⟩
    | completes hreached hfields =>
        exact ⟨congrArg PumpFields.volumeRaw hfields, congrArg PumpFields.amountRaw hfields⟩
  have hcommanded : Commanded (firstAdvance pump) (finalState fillOneInterval pump) := by
    rw [finalState_congr (fillOneInterval_eq pump)]
    exact commanded_reportInterval _ _ _
  refine ⟨hnumbers.1, hnumbers.2, hcommanded.status, fun item hitem => ?_⟩
  rw [hnumbers.1, hnumbers.2]
  exact (hcommanded.queue item hitem).imp_right fun hshows => ⟨hshows.filled, hshows.status⟩

/-- A running delivery whose numbers are those of its plan goes on with larger ones. -/
theorem numbers_le_fillIntervals {pump : SimulatedPump} (hfilling : pump.fillingActive = true)
    (hsuspended : pump.suspended = false) (hlimit : pump.volumeRaw ≤ pump.plan.limit)
    (hcharged : pump.amountRaw = pump.plan.charged pump.volumeRaw) (steps : Nat) :
    pump.volumeRaw ≤ (finalState (fillIntervals steps) pump).volumeRaw ∧
      pump.amountRaw ≤ (finalState (fillIntervals steps) pump).amountRaw := by
  rcases (fills_fillIntervals hfilling hsuspended steps).numbers with
    ⟨-, hkept⟩ | ⟨taken, -, -, hvolume, hamount⟩
  · exact ⟨(congrArg PumpFields.volumeRaw hkept.fields).ge,
      (congrArg PumpFields.amountRaw hkept.fields).ge⟩
  · have hle := pump.plan.le_volumeAfter hlimit taken
    rw [hvolume, hamount, hcharged]
    exact ⟨hle, FillPlan.charged_mono hle⟩

theorem advancing_fillIntervals {pump : SimulatedPump} (hfilling : pump.fillingActive = true)
    (hsuspended : pump.suspended = false) (steps : Nat) :
    Advancing pump (finalState (fillIntervals steps) pump) := by
  induction steps generalizing pump with
  | zero => exact Advancing.refl pump
  | succ steps ih =>
      have hrunning : ¬ (pump.fillingActive = false ∨ pump.suspended = true) := by
        rintro (h | h)
        · exact Bool.noConfusion (hfilling.symm.trans h)
        · exact Bool.noConfusion (hsuspended.symm.trans h)
      obtain ⟨hvolume, hamount, hfirst⟩ := reported_fillOneInterval hfilling
      unfold fillIntervals
      rw [finalState_get_bind, if_neg hrunning, finalState_bind]
      cases returned fillOneInterval pump with
      | none => exact hfirst
      | some value =>
          dsimp only
          cases intervalDoes_fillOneInterval hfilling with
          | completes hreached hfields hstopped hengine =>
              rw [(fillIntervals_stopped (Or.inl hstopped) steps).1]
              exact hfirst
          | fills hopen hqueued =>
              obtain ⟨hfields, hactive, hsuspends, -⟩ := filled_of_onlyQueued hfilling hqueued
              have hplan := plan_of_filled hfields
              have hwaits := hsuspends.trans hsuspended
              -- what the first interval reported is not taken back by the later ones
              obtain ⟨hmoreVolume, hmoreAmount⟩ := numbers_le_fillIntervals hactive hwaits
                (by rw [hplan, hvolume]; exact FillPlan.volumeAfter_le_limit)
                (by rw [hplan, hvolume, hamount]) steps
              have hlater := ih hactive hwaits
              refine ⟨fun hstatus => hlater.status (hfirst.status hstatus),
                fun item hitem => ?_⟩
              rcases hlater.queue item hitem with hold | ⟨hreports, hnew⟩
              · exact (hfirst.queue item hold).imp_right fun hitem =>
                  ⟨hitem.1.mono hmoreVolume hmoreAmount, hitem.2⟩
              · exact Or.inr ⟨hreports, fun hstatus => hnew (hfirst.status hstatus)⟩

theorem advancing_onTimeAdvance (env : PumpEnv) (pump : SimulatedPump) :
    Advancing pump (finalState (onTimeAdvance env) pump) := by
  rw [finalState_onTimeAdvance]
  rcases Nat.eq_zero_or_pos (pump.dueIntervals env) with hnone | hdue
  · rw [hnone]
    exact ⟨id, fun _ hitem => Or.inl hitem⟩
  · obtain ⟨hfilling, hsuspended⟩ := due_running env pump hdue
    have hticked : (pump.ticked (pump.nextTick env)).fillingActive = true := hfilling
    have hadvancing := advancing_fillIntervals hticked hsuspended (pump.dueIntervals env)
    exact ⟨hadvancing.status, hadvancing.queue⟩

/-! ## What happens to a pump -/

/-- What was queued on the way reports no more than the meter showed before, or than it
shows now, and no status AUTHORIZED. -/
structure Told (before after : SimulatedPump) : Prop where
  status : before.wayneStatus ≠ .AUTHORIZED → after.wayneStatus ≠ .AUTHORIZED
  queue : ∀ item ∈ after.pendingOutbound, item ∈ before.pendingOutbound ∨
    (ReportsAtMost before.volumeRaw before.amountRaw item.payload ∨
      ReportsAtMost after.volumeRaw after.amountRaw item.payload) ∧
        (before.wayneStatus ≠ .AUTHORIZED → Unauthorizing item.payload)

theorem Commanded.told {before after : SimulatedPump} (hcommanded : Commanded before after) :
    Told before after :=
  ⟨hcommanded.status, fun item hitem => (hcommanded.queue item hitem).imp_right
    fun hshows => ⟨Or.inl hshows.filled, hshows.status⟩⟩

theorem Advancing.told {before after : SimulatedPump} (hadvancing : Advancing before after) :
    Told before after :=
  ⟨hadvancing.status, fun item hitem => (hadvancing.queue item hitem).imp_right
    fun hreports => ⟨Or.inr hreports.1, hreports.2⟩⟩

theorem Told.refl (pump : SimulatedPump) : Told pump pump := (Advancing.refl pump).told

theorem PumpOperation.commanded_run (env : PumpEnv) (operation : PumpOperation)
    (hcommand : operation ≠ .onTimeAdvance) : Preserves Commanded (operation.run env) := by
  cases operation with
  | coldStartToReady => exact commanded_coldStartToReady
  | liftNozzle nozzle => exact .of_bind (commanded_liftNozzle env nozzle) fun _ => .of_pure _
  | returnNozzle => exact commanded_returnNozzle
  | injectFault code => exact commanded_injectFault code
  | clearFault => exact commanded_modify commanded_clearFault
  | handleApplicationPayload payload =>
      exact .of_bind (commanded_handleUnits env _ payload) fun _ => .of_pure _
  | onTimeAdvance => exact absurd rfl hcommand
  | enableCommunication => exact commanded_modify fun _ => .of_eq rfl rfl rfl rfl
  | disableCommunication =>
      exact commanded_modify fun _ =>
        .of_le le_rfl le_rfl id fun _ hitem => absurd hitem List.not_mem_nil
  | restartPump preserveTotals =>
      exact commanded_modify fun pump => commanded_restartPump preserveTotals pump

theorem PumpOperation.told_run (env : PumpEnv) (operation : PumpOperation)
    (pump : SimulatedPump) : Told pump (finalState (operation.run env) pump) := by
  by_cases htime : operation = .onTimeAdvance
  · rw [htime]
    exact (advancing_onTimeAdvance env pump).told
  · exact (operation.commanded_run env htime pump).told

namespace SimulatorSession

theorem commanded_onPoll (now : Nat) : Preserves Commanded (onPoll now) := by
  refine .of_bind .of_get fun pump => ?_
  split
  · exact .of_pure _
  · intro pump
    unfold answerFromQueue
    rw [finalState_get_bind]
    cases hpending : pump.pendingOutbound with
    | nil =>
        dsimp only
        rw [finalState_bind_pure, finalState_fromExcept]
        exact refl_of Commanded pump
    | cons item rest =>
        have hpopped : Commanded pump { pump with pendingOutbound := rest } :=
          .of_le le_rfl le_rfl id fun other hother => by
            rw [hpending]
            exact List.mem_cons_of_mem item hother
        have hsent : Preserves Commanded (do
            let pump ← get
            let seq := pump.txSequence
            let wire ← fromExcept (buildDataFrame pump.config.dartAddress seq item.payload)
            modify fun pump => { pump with
              awaitingAckSequence := some seq
              dataPendingSinceMs := some now
              lastOutboundWire := some wire }
            return ({ responses := [wire], notes := [s!"POLL→DATA seq={seq.val}"] } :
              FrameExchangeResult) : PumpM FrameExchangeResult) :=
          .of_bind .of_get fun _ => .of_bind (.of_fromExcept _) fun _ =>
            .of_bind (commanded_modify fun _ => .of_eq rfl rfl rfl rfl) fun _ => .of_pure _
        exact trans_of Commanded hpopped (hsent _)

theorem commanded_onData (env : PumpEnv) (policy : SequencePolicy) (frame : DartLineFrame) :
    Preserves Commanded (onData env policy frame) := by
  refine .of_bind .of_get fun pump => .of_ite (.of_pure _) (.of_ite ?_ (.of_ite ?_ ?_))
  · exact .of_bind (.of_fromExcept _) fun _ => .of_pure _
  · exact .of_bind (.of_fromExcept _) fun _ => .of_pure _
  · refine .of_bind (commanded_handleUnits env _ frame.payload) fun _ => ?_
    refine .of_bind (commanded_modify fun _ => .of_eq rfl rfl rfl rfl) fun _ => ?_
    exact .of_bind (.of_fromExcept _) fun _ => .of_pure _

theorem commanded_onAck (now : Nat) (policy : SequencePolicy) (frame : DartLineFrame) :
    Preserves Commanded (onAck now policy frame) := by
  intro pump
  rw [(onAck_spec pump now policy frame).1]
  split
  · exact .of_eq rfl rfl rfl rfl
  · exact refl_of Commanded pump

theorem commanded_pumpAnswer (env : PumpEnv) (policy : SequencePolicy) (frame : DartLineFrame) :
    Preserves Commanded (pumpAnswer env policy frame) := by
  unfold pumpAnswer
  cases frame.controlType with
  | POLL => exact commanded_onPoll env.now
  | DATA => exact commanded_onData env policy frame
  | ACK => exact commanded_onAck env.now policy frame
  | IAP => exact .of_bind (commanded_modify fun _ => .of_eq rfl rfl rfl rfl) fun _ => .of_pure _
  | _ => exact .of_pure _

/-- A frame is told to the pump that hears it. -/
theorem told_receive {session : SimulatorSession} {address : Byte} {pump : SimulatedPump}
    (hpump : session.getPump address = some pump) (uuid4 : String) (wire : List Byte) :
    ∃ after, (finalState (receive uuid4 wire) session).getPump address = some after ∧
      Commanded pump after := by
  by_cases hunheard : session.Unheard wire
  · exact ⟨pump, ((receive_silent hunheard uuid4).getPump address).trans hpump,
      refl_of Commanded pump⟩
  · obtain ⟨frame, hearer, hparsed, hhearer, henabled⟩ := heard_of_not_unheard hunheard
    have hanswered := (receive_spec hparsed hhearer henabled uuid4).getPump address
    unfold updatedPumps at hanswered
    by_cases haddress : address = frame.address
    · rw [if_pos haddress] at hanswered
      rw [haddress, hhearer] at hpump
      cases hpump
      exact ⟨_, hanswered, commanded_pumpAnswer _ _ _ _⟩
    · rw [if_neg haddress] at hanswered
      exact ⟨pump, hanswered.trans hpump, refl_of Commanded pump⟩

/-- Advancing the pump at another address. -/
theorem getPump_onPump_ne {α : Type} {session : SimulatorSession} {address other : Byte}
    (hne : address ≠ other) (action : PumpM α) :
    (finalState (onPump other action) session).getPump address = session.getPump address := by
  cases hpump : session.getPump other with
  | none =>
      unfold finalState onPump
      rw [hpump]
  | some pump => rw [(onPump_spec hpump action).1, getPump_setPump session hpump, if_neg hne]

theorem getPump_checkResponseTimeout_ne {session : SimulatorSession} {address other : Byte}
    (hne : address ≠ other) :
    (session.checkResponseTimeout other).getPump address = session.getPump address := by
  cases hpump : session.getPump other with
  | none =>
      unfold checkResponseTimeout
      rw [hpump]
  | some pump => exact (checkResponseTimeout_spec hpump).2.1 address hne

/-- A pump whose address is not in the list is left alone, even if the loop raises. -/
theorem getPump_advancePumps (env : PumpEnv) {addresses : List Byte} {address : Byte}
    (hother : address ∉ addresses) (session : SimulatorSession) :
    (finalState (advancePumps env addresses) session).getPump address =
      session.getPump address := by
  induction addresses generalizing session with
  | nil => rfl
  | cons head rest ih =>
      rw [List.mem_cons, not_or] at hother
      have hhead : (finalState (onPump head (SimulatedPump.onTimeAdvance env)) session).getPump
          address = session.getPump address := getPump_onPump_ne hother.1 _
      unfold advancePumps
      rw [finalState_bind]
      cases returned (onPump head (SimulatedPump.onTimeAdvance env)) session with
      | none => exact hhead
      | some value =>
          dsimp only
          rw [finalState_modify_bind, ih hother.2, getPump_checkResponseTimeout_ne hother.1]
          exact hhead

/-- A pump is advanced once at most, so what it reports is no more than it shows in the
end. -/
theorem advancing_advancePumps (env : PumpEnv) {addresses : List Byte}
    (hdistinct : addresses.Nodup) {session : SimulatorSession} {address : Byte}
    {pump : SimulatedPump} (hpump : session.getPump address = some pump) :
    ∃ after, (finalState (advancePumps env addresses) session).getPump address = some after ∧
      Advancing pump after := by
  induction addresses generalizing session with
  | nil => exact ⟨pump, hpump, Advancing.refl pump⟩
  | cons head rest ih =>
      obtain ⟨hfresh, hrest⟩ := List.nodup_cons.mp hdistinct
      unfold advancePumps
      rw [finalState_bind]
      by_cases hhead : address = head
      · subst hhead
        obtain ⟨hfinal, -⟩ := onPump_spec hpump (SimulatedPump.onTimeAdvance env)
        have hadvanced := getPump_setPump session hpump
          (finalState (SimulatedPump.onTimeAdvance env) pump) address
        rw [if_pos rfl] at hadvanced
        have hadvancing := advancing_onTimeAdvance env pump
        rw [hfinal]
        cases returned (onPump address (SimulatedPump.onTimeAdvance env)) session with
        | none => exact ⟨_, hadvanced, hadvancing⟩
        | some value =>
            dsimp only
            rw [finalState_modify_bind, getPump_advancePumps env hfresh]
            obtain ⟨-, -, since, hchecked⟩ := checkResponseTimeout_spec hadvanced
            exact ⟨_, hchecked, hadvancing.status, hadvancing.queue⟩
      · have hkept : (finalState (onPump head (SimulatedPump.onTimeAdvance env))
            session).getPump address = session.getPump address := getPump_onPump_ne hhead _
        cases returned (onPump head (SimulatedPump.onTimeAdvance env)) session with
        | none => exact ⟨pump, hkept.trans hpump, Advancing.refl pump⟩
        | some value =>
            dsimp only
            rw [finalState_modify_bind]
            refine ih hrest ?_
            rw [getPump_checkResponseTimeout_ne hhead]
            exact hkept.trans hpump

end SimulatorSession

end Simulator
end Intelipump
