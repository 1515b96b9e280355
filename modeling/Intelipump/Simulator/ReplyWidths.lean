import Mathlib.Tactic.Common
import Intelipump.Simulator.PumpTurns

namespace Intelipump
namespace Simulator

open Domain
open Dart.Line
open Dart.Application
open Foundation
open Foundation.Runs
open Foundation.StateEffect
open StateMachine
open SimulatedPump

/-!
# Numbers that fit their replies

Volumes, presets and prices come in through fields of the width they go out with.  Two
numbers do not: the amount is a product, which only an amount preset of the controller
bounds, and the totals grow with every delivery.
-/

/-! ## Errors of the replies -/

/-- A number did not fit its packed BCD field. -/
def IsBcdError (error : Raised) : Prop := ∃ message, error = .bcdError message

theorem encodePackedBcd_error {value : Int} {length : Option Nat} {error : Raised}
    (herror : encodePackedBcd value length = .error error) : IsBcdError error := by
  unfold encodePackedBcd at herror
  split at herror
  · cases herror
    exact ⟨_, rfl⟩
  · cases length with
    | none => cases herror
    | some length =>
        dsimp only at herror
        split at herror
        · cases herror
          exact ⟨_, rfl⟩
        · cases herror

/-- A field in front of what raises nothing else. -/
theorem isBcdError_bind {value : Int} {length : Nat} {error : Raised}
    {next : List Byte → Except Raised (List Byte)}
    (hnext : ∀ data : List Byte, data.length = length → ∀ found,
      next data = .error found → IsBcdError found)
    (herror : (encodePackedBcd value (some length) >>= next) = .error error) :
    IsBcdError error := by
  cases hdata : encodePackedBcd value (some length) with
  | error found =>
      rw [hdata] at herror
      cases herror
      exact encodePackedBcd_error hdata
  | ok data =>
      rw [hdata] at herror
      exact hnext data (length_encodePackedBcd hdata) error herror

theorem isBcdError_of_isOk {encoded : Except Raised (List Byte)} {error : Raised}
    (hok : ∃ payload, encoded = .ok payload) (herror : encoded = .error error) :
    IsBcdError error := by
  obtain ⟨payload, hpayload⟩ := hok
  cases hpayload.symm.trans herror

section

variable {error : Raised}

theorem encodeDc2VolumeAmount_error {volumeRaw amountRaw : Nat}
    (herror : encodeDc2VolumeAmount volumeRaw amountRaw = .error error) : IsBcdError error := by
  refine isBcdError_bind (fun volume hvolume found hfound => ?_) herror
  refine isBcdError_bind (fun amount hamount last hlast => ?_) hfound
  refine isBcdError_of_isOk (isOk_encodeUnit ?_) hlast
  rw [List.length_append, hvolume, hamount]
  decide

theorem encodeDc3NozzlePrice_error {priceRaw logicalNozzle : Nat} {nozzleOut : Bool}
    (herror : encodeDc3NozzlePrice priceRaw logicalNozzle nozzleOut = .error error) :
    IsBcdError error := by
  refine isBcdError_bind (fun price hprice found hfound => ?_) herror
  refine isBcdError_of_isOk (isOk_encodeUnit ?_) hfound
  rw [List.length_append, hprice, List.length_singleton]
  decide

theorem encodeDc101Totals_error {counterSelect : Byte}
    {totalValueRaw totalMeter1Raw totalMeter2Raw : Nat}
    (herror : encodeDc101Totals counterSelect totalValueRaw totalMeter1Raw totalMeter2Raw =
      .error error) : IsBcdError error := by
  refine isBcdError_bind (fun value hvalue found hfound => ?_) herror
  refine isBcdError_bind (fun meter1 hmeter1 found hfound => ?_) hfound
  refine isBcdError_bind (fun meter2 hmeter2 last hlast => ?_) hfound
  refine isBcdError_of_isOk (isOk_encodeUnit ?_) hlast
  simp only [List.length_cons, List.length_append, hvalue, hmeter1, hmeter2]
  decide

end

section

variable {env : PumpEnv}

theorem bcdOnly_queueEncoded {encoded : Except Raised (List Byte)} {label : String}
    (herror : ∀ error, encoded = .error error → IsBcdError error) :
    RaisesOnly IsBcdError (queueEncoded encoded label) :=
  .of_bind (.of_fromExcept herror) fun _ => .of_modify _

theorem bcdOnly_queueStatusAndNozzle : RaisesOnly IsBcdError queueStatusAndNozzle :=
  .of_bind .of_get fun _ =>
    .of_bind (bcdOnly_queueEncoded fun _ h => isBcdError_of_isOk (encodeDc1Status_isOk _) h)
      fun _ => .of_bind .of_get fun _ =>
        bcdOnly_queueEncoded fun _ h => encodeDc3NozzlePrice_error h

theorem bcdOnly_queueFillData : RaisesOnly IsBcdError queueFillData :=
  .of_bind .of_get fun _ => bcdOnly_queueEncoded fun _ h => encodeDc2VolumeAmount_error h

theorem bcdOnly_completeFilling : RaisesOnly IsBcdError completeFilling :=
  .of_bind .of_get fun _ => .of_ite (.of_pure _) (.of_bind (.of_modify _) fun _ =>
    .of_bind bcdOnly_queueStatusAndNozzle fun _ => bcdOnly_queueFillData)

theorem bcdOnly_fillOneInterval : RaisesOnly IsBcdError fillOneInterval :=
  .of_bind .of_get fun _ => .of_bind (.of_modify _) fun _ =>
    .of_bind bcdOnly_queueFillData fun _ =>
      .of_ite (.of_bind (.of_modify _) fun _ => bcdOnly_completeFilling) (.of_pure _)

theorem bcdOnly_fillIntervals (steps : Nat) : RaisesOnly IsBcdError (fillIntervals steps) := by
  induction steps with
  | zero => exact .of_pure _
  | succ steps ih =>
      exact .of_bind .of_get fun _ =>
        .of_ite (.of_pure _) (.of_bind bcdOnly_fillOneInterval fun _ => ih)

/-- A command that reports the status of a changed pump. -/
theorem bcdOnly_report (change : SimulatedPump → SimulatedPump)
    (faults : List ProtocolFault) :
    RaisesOnly IsBcdError (do
      modify change
      queueStatusAndNozzle
      return faults : PumpM (List ProtocolFault)) :=
  .of_bind (.of_modify _) fun _ => .of_bind bcdOnly_queueStatusAndNozzle fun _ => .of_pure _

/-- The guarded commands of CD1 raise at their reports only. -/
theorem bcdOnly_executeGuarded {command : PumpCommand}
    (heligible : RaisesOnly IsBcdError (executeEligible env command {})) :
    RaisesOnly IsBcdError (executeGuarded env command {}) :=
  .of_bind (.of_modify _) fun _ => .of_bind .of_get fun _ => .of_bind (.of_modify _) fun _ =>
    .of_ite (.of_pure _) heligible

theorem bcdOnly_handleCd1 (dcc : Byte) : RaisesOnly IsBcdError (handleCd1 env dcc) := by
  refine .of_bind .of_get fun pump => ?_
  cases PumpControlCommand.ofCode? dcc with
  | none => exact .of_pure _
  | some command =>
      cases command with
      | RETURN_STATUS => exact .of_bind bcdOnly_queueStatusAndNozzle fun _ => .of_pure _
      | RETURN_FILLING_INFORMATION => exact .of_bind bcdOnly_queueFillData fun _ => .of_pure _
      | RETURN_PUMP_IDENTITY =>
          exact .of_bind (bcdOnly_queueEncoded fun _ h =>
            isBcdError_of_isOk encodeDc9Identity_isOk h) fun _ => .of_pure _
      | RETURN_PUMP_PARAMETERS =>
          exact .of_bind (bcdOnly_queueEncoded fun _ h =>
            isBcdError_of_isOk (encodeDc1Status_isOk _) h) fun _ => .of_pure _
      | RESET =>
          exact bcdOnly_executeGuarded (.of_bind (.of_modify _) fun _ => bcdOnly_report _ _)
      | AUTHORIZE =>
          exact bcdOnly_executeGuarded (.of_bind (.of_modify _) fun _ =>
            .of_bind (.of_modify _) fun _ => .of_bind bcdOnly_queueStatusAndNozzle fun _ =>
              .of_bind bcdOnly_queueFillData fun _ => .of_pure _)
      | STOP =>
          exact bcdOnly_executeGuarded (.of_bind bcdOnly_completeFilling fun _ => .of_pure _)
      | SUSPEND_FUELLING_POINT => exact bcdOnly_executeGuarded (bcdOnly_report _ _)
      | RESUME_FUELLING_POINT => exact bcdOnly_executeGuarded (bcdOnly_report _ _)
      | _ => exact .of_pure _

/-- A request of CD1 or CD101 raises at its replies only. -/
theorem bcdOnly_handleOneTx {transId : Byte} {data : List Byte}
    (hrequest : transId = 0x01 ∨ transId = 0x65) :
    RaisesOnly IsBcdError (handleOneTx env transId data) := by
  unfold handleOneTx
  refine .of_ite (bcdOnly_handleCd1 _) ?_
  rw [if_neg, if_neg, if_neg]
  · refine .of_ite (.of_bind .of_get fun _ => .of_bind (bcdOnly_queueEncoded fun _ h =>
      encodeDc101Totals_error h) fun _ => .of_pure _) (.of_bind .of_get fun _ => .of_pure _)
  all_goals
    rintro ⟨rfl, -⟩
    revert hrequest
    decide

end

/-! ## Numbers of a run -/

/-- The numbers of a pump fit the fields they are reported in, the totals aside. -/
structure PumpFields.Encodable (fields : PumpFields) : Prop where
  filling : fields.config.filling = {}
  defaultPrice : fields.config.defaultPriceRaw < 100 ^ 3
  prices : ∀ entry ∈ fields.pricesRaw, entry.2 < 100 ^ 3
  presetVolume : ∀ volumeRaw ∈ fields.presetVolumeRaw, volumeRaw < 100 ^ 4
  presetAmount : ∀ amountRaw ∈ fields.presetAmountRaw, amountRaw < 100 ^ 4
  volume : fields.volumeRaw < 100 ^ 4
  amount : fields.amountRaw < 100 ^ 4

/-- A time advance or a request of CD1 or CD101. -/
def PumpInput.Replies : PumpInput → Prop
  | .onTimeAdvance => True
  | .unit transId _ => transId = 0x01 ∨ transId = 0x65
  | _ => False

/-- A number did not fit the field of a reply. -/
def RaisesBcdError (pump : SimulatedPump) (turn : PumpTurn) : Prop :=
  ∃ message after, turn.input.run turn.env pump = .error (.bcdError message) after

/-- The replies of a time advance and of a request can be encoded. -/
def EncodesReplies (pump : SimulatedPump) (turn : PumpTurn) : Prop :=
  turn.input.Replies → ¬ RaisesBcdError pump turn

/-- A time advance with due intervals finds an amount preset of the controller, or a volume
ahead of it whose amount fits its field; a request for the totals finds totals that fit. -/
def NumbersFit (pump : SimulatedPump) (turn : PumpTurn) : Prop :=
  match turn.input with
  | .onTimeAdvance => 0 < pump.dueIntervals turn.env →
      pump.presetAmountRaw ≠ none ∨
        pump.amountFromVolume
          (pump.plan.volumeAfter pump.volumeRaw (pump.dueIntervals turn.env)) < 100 ^ 4
  | .unit transId data => transId = 0x65 ∧ data.length = 1 → pump.TotalsFit
  | _ => True

instance (pump : SimulatedPump) (turn : PumpTurn) : Decidable (NumbersFit pump turn) := by
  unfold NumbersFit
  split <;> infer_instance

section

variable {pump : SimulatedPump}

theorem priceFits_of_encodable (hencodable : pump.fields.Encodable) : pump.PriceFits := by
  unfold PriceFits effectivePrice priceOf?
  cases hprice : pump.pricesRaw.lookup pump.effectiveNozzle with
  | none => exact hencodable.defaultPrice
  | some price =>
      obtain ⟨earlier, later, hlist, -⟩ := List.lookup_eq_some_iff.mp hprice
      refine hencodable.prices (pump.effectiveNozzle, price) ?_
      change _ ∈ pump.pricesRaw
      rw [hlist]
      exact List.mem_append_right _ List.mem_cons_self

theorem limitVolume_lt (hencodable : pump.fields.Encodable) : pump.limitVolume < 100 ^ 4 := by
  have hfilling : pump.config.filling = {} := hencodable.filling
  unfold limitVolume
  rw [hfilling]
  dsimp only
  rw [Option.or_none]
  cases hpreset : pump.presetVolumeRaw with
  | none => exact (by decide : 40000 < 100 ^ 4)
  | some volumeRaw => exact hencodable.presetVolume volumeRaw hpreset

/-- What the intervals up to the last due one charge fits. -/
theorem charged_fits (hencodable : pump.fields.Encodable) {taken steps : Nat}
    (hle : taken ≤ steps) (hfits : pump.presetAmountRaw ≠ none ∨
      pump.amountFromVolume (pump.plan.volumeAfter pump.volumeRaw steps) < 100 ^ 4) :
    pump.plan.charged (pump.plan.volumeAfter pump.volumeRaw taken) < 100 ^ 4 := by
  rcases hfits with hpreset | hamount
  · obtain ⟨cap, hcap⟩ := Option.ne_none_iff_exists'.mp hpreset
    exact (FillPlan.charged_le_cap hcap).trans_lt (hencodable.presetAmount cap hcap)
  · calc pump.plan.charged (pump.plan.volumeAfter pump.volumeRaw taken)
        ≤ pump.plan.amountOf (pump.plan.volumeAfter pump.volumeRaw taken) :=
          FillPlan.charged_le_amountOf
      _ ≤ pump.plan.amountOf (pump.plan.volumeAfter pump.volumeRaw steps) :=
          pump.plan.monotone (FillPlan.volumeAfter_mono hle)
      _ < 100 ^ 4 := hamount

/-- All due reports fit exactly when an amount preset caps them or the last one fits. -/
theorem reportsFit_iff (hencodable : pump.fields.Encodable) {steps : Nat}
    (hpositive : 0 < steps) :
    ReportsFit pump steps ↔ pump.presetAmountRaw ≠ none ∨
      pump.amountFromVolume (pump.plan.volumeAfter pump.volumeRaw steps) < 100 ^ 4 := by
  constructor
  · intro hfits
    by_contra hneither
    rw [not_or, not_not] at hneither
    obtain ⟨hnone, hlarge⟩ := hneither
    have hcharged : ∀ volume, pump.plan.charged volume = pump.amountFromVolume volume := by
      intro volume
      have hcap : pump.plan.cap = none := hnone
      unfold FillPlan.charged
      rw [hcap]
      rfl
    -- the interval that ends the delivery, or the last one, shows the whole amount
    have hexists : ∃ taken ≤ steps, 0 < taken ∧ pump.plan.OpenUntil pump.volumeRaw taken ∧
        (taken = steps ∨
          pump.plan.Reached (pump.plan.volumeAfter pump.volumeRaw taken)) :=
      FillPlan.exists_last hpositive
    obtain ⟨taken, hle, hfirst, hopen, hlast⟩ := hexists
    have hreport := (hfits taken hle hfirst hopen).2
    have hsame : pump.plan.volumeAfter pump.volumeRaw steps =
        pump.plan.volumeAfter pump.volumeRaw taken := by
      rcases hlast with rfl | hlimit | ⟨cap, hcap, -⟩
      · rfl
      · exact FillPlan.volumeAfter_of_limit hle hlimit
      · exact absurd (hnone.symm.trans hcap) (Option.some_ne_none cap).symm
    rw [hcharged, ← hsame] at hreport
    exact hlarge hreport
  · intro hfits taken hle _ _
    exact ⟨FillPlan.volumeAfter_le_limit.trans_lt (limitVolume_lt hencodable),
      charged_fits hencodable hle hfits⟩

/-- A request of CD1 or CD101 is handled unless it asks for totals that do not fit. -/
theorem canHandle_request_iff (hencodable : pump.fields.Encodable) {transId : Byte}
    {data : List Byte} (hrequest : transId = 0x01 ∨ transId = 0x65) :
    pump.CanHandle transId data ↔ (transId = 0x65 ∧ data.length = 1 → pump.TotalsFit) := by
  have hprice := priceFits_of_encodable hencodable
  have hfill : pump.FillFits := ⟨hencodable.volume, hencodable.amount⟩
  have hexecute : ∀ command, pump.CanExecute command := by
    intro command
    unfold CanExecute
    split
    · exact hprice
    · exact hfill
    · exact fun _ => hprice
    · exact fun _ => hprice
    · exact fun _ => ⟨hprice, hfill⟩
    · exact fun _ => hprice
    · exact fun _ => hprice
    · trivial
  unfold CanHandle
  rcases hrequest with rfl | rfl
  · have hnone : ¬ ((0x01 : Byte) = 0x65 ∧ data.length = 1) :=
      fun h => absurd h.1 (by decide)
    refine iff_of_true ?_ fun h => absurd h hnone
    split
    · exact hexecute _
    · rw [if_neg fun h => absurd h.1 (by decide), if_neg fun h => absurd h.1 (by decide),
        if_neg fun h => absurd h.1 (by decide)]
      trivial
  · rw [if_neg fun h => absurd h.1 (by decide), if_neg fun h => absurd h.1 (by decide),
      if_neg fun h => absurd h.1 (by decide), if_neg fun h => absurd h.1 (by decide)]
    split
    · rename_i htotals
      exact ⟨fun h _ => h, fun h => h htotals⟩
    · rename_i hother
      exact iff_of_true trivial fun h => absurd h hother

/-- A unit or a time advance that replies raises what does not fit, and nothing else. -/
theorem encodesReplies_iff {turn : PumpTurn} (hreplies : turn.input.Replies)
    (honly : ∀ error after, turn.input.run turn.env pump = .error error after →
      IsBcdError error) :
    EncodesReplies pump turn ↔ Returns (turn.input.run turn.env) pump := by
  constructor
  · intro hencodes
    unfold Returns returned
    cases hresult : turn.input.run turn.env pump with
    | ok value after => rfl
    | error error after =>
        obtain ⟨message, rfl⟩ := honly error after hresult
        exact absurd ⟨message, after, hresult⟩ (hencodes hreplies)
  · rintro hreturns - ⟨message, after, hraised⟩
    exact hreturns.ne_error hraised

/-- One turn. -/
theorem encodesReplies_turn_iff (hencodable : pump.fields.Encodable) (turn : PumpTurn) :
    EncodesReplies pump turn ↔ NumbersFit pump turn := by
  have hfilling : pump.config.filling = {} := hencodable.filling
  have hinterval : pump.config.filling.updateIntervalMs ≠ 0 := by
    rw [hfilling]
    decide
  obtain ⟨env, input⟩ := turn
  cases input with
  | onTimeAdvance =>
      have honly : ∀ error after, PumpInput.run env .onTimeAdvance pump =
          .error error after → IsBcdError error := by
        intro error after hraised
        have heq : PumpInput.run env .onTimeAdvance pump = onTimeAdvance env pump := rfl
        rw [heq, onTimeAdvance_eq env pump hinterval] at hraised
        exact bcdOnly_fillIntervals _ _ _ _ hraised
      have hreplies : (PumpTurn.mk env .onTimeAdvance).input.Replies := trivial
      rw [encodesReplies_iff hreplies honly]
      change Returns (onTimeAdvance env) pump ↔ (0 < pump.dueIntervals env → _)
      rw [returns_onTimeAdvance_iff env pump hinterval (priceFits_of_encodable hencodable)]
      rcases Nat.eq_zero_or_pos (pump.dueIntervals env) with hnone | hdue
      · rw [hnone]
        exact iff_of_true (fun taken hle hpositive => by omega)
          fun h => absurd h (Nat.lt_irrefl 0)
      · rw [reportsFit_iff hencodable hdue]
        exact ⟨fun h _ => h, fun h => h hdue⟩
  | unit transId data =>
      by_cases hrequest : transId = 0x01 ∨ transId = 0x65
      · have hrun : RaisesOnly IsBcdError (PumpInput.run env (.unit transId data)) :=
          .of_bind (bcdOnly_handleOneTx hrequest) fun _ => .of_pure _
        have hreplies : (PumpTurn.mk env (.unit transId data)).input.Replies := hrequest
        rw [encodesReplies_iff hreplies (hrun pump)]
        dsimp only [PumpInput.run]
        rw [returns_bind_pure_iff, returns_handleOneTx_iff,
          canHandle_request_iff hencodable hrequest]
        exact Iff.rfl
      · refine iff_of_true (fun hreplies => absurd hreplies hrequest) fun htotals => ?_
        exact absurd (Or.inr htotals.1) hrequest
  | _ => exact iff_of_true (fun hreplies => hreplies.elim) trivial

/-! ## Runs -/

/-- The numbers of a delivery that fit, where the presets and the prices are as before. -/
theorem encodable_of_fields {fields : PumpFields} {after : SimulatedPump}
    (hencodable : pump.fields.Encodable) (hfields : after.fields = fields)
    (hconfig : fields.config = pump.config) (hprices : fields.pricesRaw = pump.pricesRaw)
    (hvolume : fields.presetVolumeRaw = pump.presetVolumeRaw)
    (hamount : fields.presetAmountRaw = pump.presetAmountRaw)
    (hnumbers : fields.volumeRaw < 100 ^ 4 ∧ fields.amountRaw < 100 ^ 4) :
    after.fields.Encodable := by
  rw [hfields]
  constructor
  · rw [hconfig]
    exact hencodable.filling
  · rw [hconfig]
    exact hencodable.defaultPrice
  · rw [hprices]
    exact hencodable.prices
  · rw [hvolume]
    exact hencodable.presetVolume
  · rw [hamount]
    exact hencodable.presetAmount
  · exact hnumbers.1
  · exact hnumbers.2

/-- The due intervals of a time advance leave numbers that fit. -/
theorem encodable_fills {after : SimulatedPump} {steps : Nat}
    (hencodable : pump.fields.Encodable) (hfills : Fills pump steps after)
    (hfits : 0 < steps → pump.presetAmountRaw ≠ none ∨
      pump.amountFromVolume (pump.plan.volumeAfter pump.volumeRaw steps) < 100 ^ 4) :
    after.fields.Encodable := by
  refine encodable_of_fields hencodable hfills.kept.1 rfl rfl rfl rfl ?_
  rcases hfills.numbers with ⟨-, hkept⟩ | ⟨taken, hpositive, hle, hvolume, hamount⟩
  · have hvolume : after.volumeRaw = pump.volumeRaw := congrArg PumpFields.volumeRaw hkept.fields
    have hamount : after.amountRaw = pump.amountRaw := congrArg PumpFields.amountRaw hkept.fields
    rw [hvolume, hamount]
    exact ⟨hencodable.volume, hencodable.amount⟩
  · rw [hvolume, hamount]
    exact ⟨FillPlan.volumeAfter_le_limit.trans_lt (limitVolume_lt hencodable),
      charged_fits hencodable hle (hfits (hpositive.trans_le hle))⟩

/-- One turn whose time advance fits. -/
theorem encodable_turn (hencodable : pump.fields.Encodable) {turn : PumpTurn}
    (hfits : NumbersFit pump turn) : (pump.turn turn).fields.Encodable := by
  have hdone := deedDone_turn turn pump
  have hnumbers := And.intro hencodable.volume hencodable.amount
  have hnothing : (0 : Nat) < 100 ^ 4 ∧ (0 : Nat) < 100 ^ 4 := by decide
  generalize hdeed : turn.deed pump = deed at hdone
  cases hdone with
  | keeps hkept =>
      exact encodable_of_fields hencodable hkept.fields rfl rfl rfl rfl hnumbers
  | authorizes hopened =>
      exact encodable_of_fields hencodable hopened.fields rfl rfl rfl rfl hnothing
  | presetsVolume volumeRaw hpreset =>
      rw [hpreset.fields]
      refine { hencodable with presetVolume := fun preset hstored => ?_ }
      cases hstored
      exact hpreset.fits
  | presetsAmount amountRaw hpreset =>
      rw [hpreset.fields]
      refine { hencodable with presetAmount := fun preset hstored => ?_ }
      cases hstored
      exact hpreset.fits
  | setsPrices hprices =>
      rw [hprices.fields]
      refine { hencodable with prices := fun entry hentry => ?_ }
      rcases hprices.fits entry hentry with hold | hnew
      · exact hencodable.prices entry hold
      · exact hnew
  | stops hstopped =>
      exact encodable_of_fields hencodable hstopped.fields rfl rfl rfl rfl hnumbers
  | resets hreset =>
      rw [hreset.fields]
      exact {
        hencodable with
        presetVolume := fun _ hpreset => nomatch hpreset
        presetAmount := fun _ hpreset => nomatch hpreset
        volume := hnothing.1
        amount := hnothing.2 }
  | restarts preserveTotals hrestarted =>
      rw [hrestarted.fields]
      exact {
        hencodable with
        presetVolume := fun _ hpreset => nomatch hpreset
        presetAmount := fun _ hpreset => nomatch hpreset
        volume := hnothing.1
        amount := hnothing.2 }
  | lifts nozzle hlifted =>
      exact encodable_of_fields hencodable hlifted.fields rfl rfl rfl rfl hnumbers
  | returns hholstered =>
      exact encodable_of_fields hencodable hholstered.fields rfl rfl rfl rfl hnumbers
  | coldStarts hholstered =>
      exact encodable_of_fields hencodable hholstered.fields rfl rfl rfl rfl hnumbers
  | advances hfills =>
      refine encodable_fills hencodable hfills ?_
      unfold NumbersFit at hfits
      rw [input_of_advances hdeed] at hfits
      exact hfits

end

/-- The replies of a run from numbers that fit. -/
theorem along_encodesReplies_iff {pump : SimulatedPump} (hencodable : pump.fields.Encodable)
    (turns : List PumpTurn) :
    Along turn EncodesReplies pump turns ↔ Along turn NumbersFit pump turns := by
  have hstep : ∀ (current : SimulatedPump) (turn : PumpTurn), current.fields.Encodable →
      NumbersFit current turn → (current.turn turn).fields.Encodable :=
    fun _ _ hcurrent hfits => encodable_turn hcurrent hfits
  exact along_congr_of (fun _ turn hcurrent => encodesReplies_turn_iff hcurrent turn) hstep
    hencodable

theorem encodable_create (pumpId : String) (dartAddress : Byte) (nozzleCount : Nat) :
    (create {
      pumpId := pumpId
      dartAddress := dartAddress
      nozzleCount := nozzleCount }).fields.Encodable where
  filling := rfl
  defaultPrice := (by decide : 1175 < 100 ^ 3)
  prices := by
    intro entry hentry
    obtain ⟨nozzle, -, rfl⟩ := List.mem_map.mp hentry
    exact (by decide : 1175 < 100 ^ 3)
  presetVolume := fun _ hpreset => nomatch hpreset
  presetAmount := fun _ hpreset => nomatch hpreset
  volume := (by decide : 0 < 100 ^ 4)
  amount := (by decide : 0 < 100 ^ 4)

/-- The replies of a run can be encoded exactly when its amounts and totals fit. -/
theorem replies_encode_iff (pumpId : String) (dartAddress : Byte) (nozzleCount : Nat)
    (turns : List PumpTurn) :
    Along turn EncodesReplies (create {
        pumpId := pumpId
        dartAddress := dartAddress
        nozzleCount := nozzleCount }) turns ↔
      Along turn NumbersFit (create {
        pumpId := pumpId
        dartAddress := dartAddress
        nozzleCount := nozzleCount }) turns :=
  along_encodesReplies_iff (encodable_create pumpId dartAddress nozzleCount) turns

/-- A price of 999999 and a preset volume of 99999999: after 1001 intervals the volume is
100100, and the amount of a hundred million does not fit the four bytes of DC2. -/
theorem amount_overflows :
    ¬ Along turn EncodesReplies (create { pumpId := "fp-1", dartAddress := 1 }) [
      ⟨⟨0, ""⟩, .coldStartToReady⟩, ⟨⟨0, ""⟩, .unit 0x05 [0x99, 0x99, 0x99]⟩,
      ⟨⟨0, ""⟩, .liftNozzle 1⟩, ⟨⟨0, ""⟩, .unit 0x03 [0x99, 0x99, 0x99, 0x99]⟩,
      ⟨⟨0, "tx-1"⟩, .unit 0x01 [0x06]⟩, ⟨⟨200200, ""⟩, .onTimeAdvance⟩] := by
  rw [along_encodesReplies_iff (encodable_create "fp-1" 1 2)]
  decide +kernel

end Simulator
end Intelipump
