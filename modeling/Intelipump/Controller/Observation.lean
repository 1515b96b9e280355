import Mathlib.Tactic.Common
import Intelipump.Controller.Reachable
import Intelipump.Simulator.Encoding

namespace Intelipump
namespace Controller

open Domain
open Dart.Line
open Dart.Application
open Simulator
open StateMachine
open SessionCore (respond)

/-!
# What the controller makes of an idle pump's reports

A pump without a delivery reports with four kinds of blocks.  `observe` is what
one of them does to the controller's state by the table alone.  The duplicate
filter of the machine changes nothing about it (`currentState_acceptData`): a
report that comes again finds the state it led to the first time.
-/

/-- The blocks of a pump that delivers nothing. -/
inductive IdleReport where
  | reset
  | nozzle (price logicalNozzle : Nat) (nozzleOut : Bool)
  | fill (volume amount : Nat)
  | identity
deriving DecidableEq, Repr

def IdleReport.encode : IdleReport → Except Raised (List Byte)
  | .reset => encodeDc1Status WaynePumpStatus.RESET.code
  | .nozzle price logicalNozzle nozzleOut =>
      encodeDc3NozzlePrice price logicalNozzle nozzleOut
  | .fill volume amount => encodeDc2VolumeAmount volume amount
  | .identity => encodeDc9Identity

/-- What the controller's state takes from a report. -/
inductive Sighting where
  | reset | nozzleOut | nozzleIn | fill | identity
deriving DecidableEq, Repr

def IdleReport.sighting : IdleReport → Sighting
  | .reset => .reset
  | .nozzle _ _ nozzleOut => if nozzleOut then .nozzleOut else .nozzleIn
  | .fill _ _ => .fill
  | .identity => .identity

namespace Sighting

/-- The event a sighting stands for in a state. -/
def event (state : PumpState) : Sighting → PumpEvent
  | .reset => .RESET_OBSERVED
  | .nozzleOut => .NOZZLE_LIFTED
  | .nozzleIn =>
      if state ∈ [PumpState.NOZZLE_UP, .AUTHORIZED, .FILLING, .SUSPENDED] then
        .NOZZLE_RETURNED
      else .READY_OBSERVED
  | .fill => .FILLING_UPDATED
  | .identity => .UNKNOWN_OBSERVATION

/-- The controller's state after a sighting. -/
def observe (state : PumpState) (sighting : Sighting) : PumpState :=
  moved (respond state) (sighting.event (respond state))

theorem observe_respond (state : PumpState) (sighting : Sighting) :
    observe (respond state) sighting = observe state sighting := by
  cases state <;> rfl

theorem respond_observe (state : PumpState) (sighting : Sighting) :
    respond (observe state sighting) = observe state sighting := by
  cases state <;> cases sighting <;> rfl

/-- A sighting that comes again changes nothing. -/
theorem observe_observe (state : PumpState) (sighting : Sighting) :
    observe (observe state sighting) sighting = observe state sighting := by
  cases state <;> cases sighting <;> rfl

theorem event_ne_completed (state : PumpState) (sighting : Sighting) :
    sighting.event state ≠ .FILLING_COMPLETED := by
  cases state <;> cases sighting <;> decide

end Sighting

/-! ## From a block to its event -/

/-- The out bit of a NOZIO byte. -/
theorem nozioByte_out (logicalNozzle : Nat) (nozzleOut : Bool) :
    decide (nozioByte logicalNozzle nozzleOut &&& 0x10 ≠ 0) = nozzleOut := by
  have hsmall : ∀ low < 16, ∀ out : Bool,
      decide ((UInt8.ofNat low ||| (if out then 0x10 else 0x00)) &&& 0x10 ≠ 0) = out := by
    decide
  refine hsmall (logicalNozzle &&& 0x0F) ?_ nozzleOut
  exact Nat.lt_of_le_of_lt Nat.and_le_right (by decide)

/-- A decoded price report, by its nozzle byte. -/
theorem decodeDc3Preferred_report {price : Nat} {priceData : List Byte}
    (hprice : encodePackedBcd price (some 3) = .ok priceData) (nozio : Byte)
    (rawTx : RawTransaction) (hdata : rawTx.data = priceData ++ [nozio])
    (origin : FrameOrigin) :
    decodeDc3Preferred rawTx origin =
      envelope rawTx .DC3_NOZZLE_STATUS_PRICE .SLAVE_TO_MASTER .PARTIAL
        (some (.dc3 ⟨priceData, price⟩ nozio (nozio &&& 0x0F).toNat
          (decide (nozio &&& 0x10 ≠ 0)))) origin := by
  have hlength := length_encodePackedBcd hprice
  have htake : rawTx.data.take 3 = priceData := by
    rw [hdata]
    exact List.take_left' hlength
  have hlast : rawTx.data.getD 3 0 = nozio := by
    rw [hdata, List.getD_eq_getElem?_getD, List.getElem?_append_right (by omega), hlength]
    rfl
  have hdecoded : decodeScaledBcd priceData = .ok ⟨priceData, price⟩ := by
    unfold decodeScaledBcd
    rw [decodePackedBcd_encodePackedBcd (by decide) hprice]
    rfl
  unfold decodeDc3Preferred
  rw [htake, hdecoded, hlast]

/-- A frame with one unit carries one transaction. -/
theorem frameTransactions_encodeUnit {frame : DartLineFrame} {trans : Byte}
    {data : List Byte} (hencoded : encodeUnit trans data = .ok frame.payload)
    (address : Byte) :
    SessionCore.frameTransactions address frame =
      [decodeRawTransaction
        ⟨trans, data.length, data, trans :: UInt8.ofNat data.length :: data, 0⟩
        (SessionCore.frameOrigin address frame)] := by
  obtain ⟨hpayload, hlength⟩ := encodeUnit_eq_ok hencoded
  unfold SessionCore.frameTransactions decodeDataPayload
  rw [hpayload, splitTransactions_unit trans _ data hlength]
  rfl

/-- A frame with a report carries one transaction, which maps to the event of
the sighting without further evidence. -/
theorem frameTransactions_report {frame : DartLineFrame} {report : IdleReport}
    (hencoded : report.encode = .ok frame.payload) (address : Byte) :
    ∃ tx, SessionCore.frameTransactions address frame = [tx] ∧
      ∀ core : SessionCore,
        core.eventOf tx = report.sighting.event core.context.currentState ∧
        (core.argsOf tx).allowImplicitAuthorizeToFilling = false := by
  cases report with
  | reset =>
      change encodeUnit 0x01 [WaynePumpStatus.RESET.code] = _ at hencoded
      exact ⟨_, frameTransactions_encodeUnit hencoded address, fun core => ⟨rfl, rfl⟩⟩
  | fill volume amount =>
      change encodeDc2VolumeAmount volume amount = _ at hencoded
      unfold encodeDc2VolumeAmount at hencoded
      -- a report that was encoded has digits that fit
      cases hvolume : encodePackedBcd volume (some 4) with
      | error exc => rw [hvolume] at hencoded; cases hencoded
      | ok volumeData =>
          cases hamount : encodePackedBcd amount (some 4) with
          | error exc => rw [hvolume, hamount] at hencoded; cases hencoded
          | ok amountData =>
              rw [hvolume, hamount] at hencoded
              refine ⟨_, frameTransactions_encodeUnit hencoded address, fun core => ?_⟩
              have hlength : (volumeData ++ amountData).length = 8 := by
                rw [List.length_append, length_encodePackedBcd hvolume,
                  length_encodePackedBcd hamount]
              unfold decodeRawTransaction decodeDc2
              dsimp only
              rw [hlength, if_neg (by decide), if_pos (by decide)]
              split <;> exact ⟨rfl, rfl⟩
  | nozzle price logicalNozzle nozzleOut =>
      change encodeDc3NozzlePrice price logicalNozzle nozzleOut = _ at hencoded
      unfold encodeDc3NozzlePrice at hencoded
      cases hprice : encodePackedBcd price (some 3) with
      | error exc => rw [hprice] at hencoded; cases hencoded
      | ok priceData =>
          rw [hprice] at hencoded
          refine ⟨_, frameTransactions_encodeUnit hencoded address, fun core => ?_⟩
          have hlength :
              (priceData ++ [nozioByte logicalNozzle nozzleOut]).length = 4 := by
            rw [List.length_append, length_encodePackedBcd hprice]
            rfl
          unfold decodeRawTransaction
          rw [decodeDc3Preferred_report hprice _ _ rfl, nozioByte_out]
          dsimp only
          rw [hlength, if_neg (by decide), if_neg (by decide), if_pos (by decide)]
          -- a nozzle that hangs is read by the state the controller is in
          cases nozzleOut with
          | true => exact ⟨rfl, rfl⟩
          | false =>
              unfold SessionCore.eventOf SessionCore.argsOf SessionCore.mapperContext
              cases core.context.currentState <;> exact ⟨rfl, rfl⟩
  | identity =>
      change encodeUnit 0x09 [0x53, 0x49, 0x4D, 0x2D, 0x57, 0x50, 0x30, 0x31] = _
        at hencoded
      exact ⟨_, frameTransactions_encodeUnit hencoded address, fun core => ⟨rfl, rfl⟩⟩

/-- What a payload means does not depend on how it is read as a report. -/
theorem observe_eq_of_payload {frame : DartLineFrame} {report again : IdleReport}
    (hencoded : report.encode = .ok frame.payload)
    (hencoded' : again.encode = .ok frame.payload) (state : PumpState) :
    again.sighting.observe state = report.sighting.observe state := by
  obtain ⟨tx, htxs, hmaps⟩ := frameTransactions_report hencoded 0
  obtain ⟨tx', htxs', hmaps'⟩ := frameTransactions_report hencoded' 0
  obtain rfl : tx = tx' := List.singleton_inj.mp (htxs.symm.trans htxs')
  have hevent :=
    (hmaps ⟨{ pumpId := "", dartAddress := 0, currentState := respond state }, ∅⟩).1
  have hevent' :=
    (hmaps' ⟨{ pumpId := "", dartAddress := 0, currentState := respond state }, ∅⟩).1
  unfold Sighting.observe
  exact congrArg (moved (respond state)) (hevent'.symm.trans hevent)

/-! ## A report arrives -/

namespace SessionCore

/-- The report taken in last would change nothing if it came again. -/
def Settled (core : SessionCore) : Prop :=
  ∀ frame report, parseFrame frame.rawFrame = .ok frame →
    IdleReport.encode report = .ok frame.payload →
    core.context.lastSourceFrameHex = some (bytesHex frame.rawFrame) →
      report.sighting.observe core.context.currentState = core.context.currentState

theorem settled_initial (pumpId : String) (address : Byte) :
    Settled ⟨{ pumpId := pumpId, dartAddress := address }, ∅⟩ := by
  intro frame report _ _ hsource
  cases hsource

/-- The branch of the machine for an event that completes nothing. -/
theorem outcomeOf_of_ne_completed {core : SessionCore} {address : Byte}
    {frame : DartLineFrame} {tx : ApplicationTransaction}
    (htx : tx ∈ frameTransactions address frame)
    (hevent : core.eventOf tx ≠ .FILLING_COMPLETED) :
    core.outcomeOf tx =
      if core.context.lastSourceFrameHex = some (bytesHex frame.rawFrame) then
        .duplicateFrame
      else tableOutcome core.context.currentState (core.eventOf tx)
        (core.argsOf tx).allowImplicitAuthorizeToFilling := by
  have hsource := sourceFrame_argsOf htx core
  by_cases hlast : core.context.lastSourceFrameHex = some (bytesHex frame.rawFrame)
  · have hduplicate : IsDuplicateFrame core.context (core.argsOf tx) :=
      ⟨by rw [hsource]; exact Option.some_ne_none _, by rw [hsource, hlast]⟩
    unfold outcomeOf outcome
    rw [if_neg (not_isStale rfl), if_pos hduplicate, if_pos hlast]
  · rw [if_neg hlast]
    refine outcome_eq_tableOutcome (not_isStale rfl) (fun hduplicate => ?_)
      fun hcompletion => hevent hcompletion.1
    exact hlast (hduplicate.2.symm.trans hsource)

/-- What a report's transaction does to a core that is responsive. -/
theorem applyTransaction_report {core : SessionCore} {address : Byte}
    {frame : DartLineFrame} {report : IdleReport} {tx : ApplicationTransaction}
    (hparsed : parseFrame frame.rawFrame = .ok frame)
    (hencoded : report.encode = .ok frame.payload)
    (htxs : frameTransactions address frame = [tx])
    (hresponsive : respond core.context.currentState = core.context.currentState)
    (hsettled : core.Settled) :
    (core.applyTransaction tx).context.currentState =
        report.sighting.observe core.context.currentState ∧
      (core.applyTransaction tx).Settled := by
  obtain ⟨tx', htxs', hmaps⟩ := frameTransactions_report hencoded address
  obtain rfl : tx = tx' := List.singleton_inj.mp (htxs.symm.trans htxs')
  have htx : tx ∈ frameTransactions address frame := by rw [htxs]; exact List.mem_singleton_self tx
  obtain ⟨hevent, himplicit⟩ := hmaps core
  have hne : core.eventOf tx ≠ .FILLING_COMPLETED := by
    rw [hevent]
    exact report.sighting.event_ne_completed _
  have hobserve : report.sighting.observe core.context.currentState =
      moved core.context.currentState (core.eventOf tx) := by
    rw [Sighting.observe, hresponsive, hevent]
  have hoverlook : ¬ (core.eventOf tx = .FILLING_COMPLETED ∧
      frameCompletionKey frame ∈ core.appliedKeys) := fun h => hne h.1
  have hbranch := outcomeOf_of_ne_completed htx hne
  rw [applyTransaction_eq htx core, if_neg hoverlook, hbranch]
  by_cases hlast : core.context.lastSourceFrameHex = some (bytesHex frame.rawFrame)
  · rw [if_pos hlast]
    exact ⟨(hsettled frame report hparsed hencoded hlast).symm, hsettled⟩
  · rw [if_neg hlast, himplicit]
    have hstate : (contextAfter core.context (core.eventOf tx) (core.argsOf tx)
        (tableOutcome core.context.currentState (core.eventOf tx) false)).currentState =
          report.sighting.observe core.context.currentState := by
      rw [contextAfter_currentState, hobserve]
      rfl
    refine ⟨hstate, fun other again hparsed' hencoded' hsource => ?_⟩
    dsimp only at hsource ⊢
    rw [hstate]
    rw [contextAfter_lastSourceFrameHex] at hsource
    -- either the frame was recorded just now, or the state has not moved
    have hrecorded : some (bytesHex frame.rawFrame) = some (bytesHex other.rawFrame) →
        again.sighting.observe (report.sighting.observe core.context.currentState) =
          report.sighting.observe core.context.currentState := by
      intro hsame
      have hraw := bytesHex_injective (Option.some.inj hsame)
      rw [hraw, hparsed'] at hparsed
      obtain rfl := Except.ok.inj hparsed
      rw [observe_eq_of_payload hencoded hencoded', Sighting.observe_observe]
    have hunmoved : moved core.context.currentState (core.eventOf tx) =
          core.context.currentState →
        core.context.lastSourceFrameHex = some (bytesHex other.rawFrame) →
        again.sighting.observe (report.sighting.observe core.context.currentState) =
          report.sighting.observe core.context.currentState := by
      intro hkept hsource'
      rw [hobserve, hkept]
      exact hsettled other again hparsed' hencoded' hsource'
    rw [recordedSourceFrame_argsOf htx hparsed core core.context] at hsource
    cases htable : tableOutcome core.context.currentState (core.eventOf tx) false with
    | unknown => rw [htable] at hsource; exact hrecorded hsource
    | sameState => rw [htable] at hsource; exact hrecorded hsource
    | transition target => rw [htable] at hsource; exact hrecorded hsource
    | _ =>
        have hkept : moved core.context.currentState (core.eventOf tx) =
            core.context.currentState := by
          unfold moved
          rw [htable]
        rw [htable] at hsource
        exact hunmoved hkept hsource

/-- A report has its effect on the controller's state, whatever came before. -/
theorem currentState_acceptData {core : SessionCore} (address : Byte)
    {frame : DartLineFrame} {report : IdleReport}
    (hparsed : parseFrame frame.rawFrame = .ok frame)
    (hencoded : report.encode = .ok frame.payload) (hsettled : core.Settled) :
    (core.acceptData address frame).context.currentState =
        report.sighting.observe core.context.currentState ∧
      (core.acceptData address frame).Settled := by
  have hstate := currentState_markResponsive core
  have hresponsive : respond core.markResponsive.context.currentState =
      core.markResponsive.context.currentState := by
    rw [hstate]
    cases core.context.currentState <;> rfl
  have hmarked : core.markResponsive.Settled := by
    intro other again hparsed' hencoded' hsource
    rw [lastSourceFrameHex_markResponsive] at hsource
    have hkept := hsettled other again hparsed' hencoded' hsource
    rw [hstate, Sighting.observe_respond, hkept, ← hkept, Sighting.respond_observe]
  obtain ⟨tx, htxs, -⟩ := frameTransactions_report hencoded address
  unfold acceptData decodeAndApply
  rw [htxs, List.foldl_cons, List.foldl_nil]
  obtain ⟨happlied, hafter⟩ :=
    applyTransaction_report hparsed hencoded htxs hresponsive hmarked
  rw [hstate, Sighting.observe_respond] at happlied
  exact ⟨happlied, hafter⟩

end SessionCore

end Controller
end Intelipump
