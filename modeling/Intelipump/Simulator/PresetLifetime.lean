import Mathlib.Tactic.Common
import Intelipump.Simulator.PumpTurns

namespace Intelipump
namespace Simulator

open Domain
open Foundation.Runs
open Foundation.StateEffect
open SimulatedPump

/-!
# How long a preset lives

Most operations that end a delivery leave its presets stored.  They do not reach the next
delivery all the same: an authorization is executed on a pump without an active transaction
only, and the two operations that take the transaction away take the presets with it.
-/

/-- The two presets of the controller. -/
inductive PresetKind where
  | volume
  | amount
deriving DecidableEq, Repr

def PumpFields.preset (fields : PumpFields) : PresetKind → Option Nat
  | .volume => fields.presetVolumeRaw
  | .amount => fields.presetAmountRaw

def SimulatedPump.preset (pump : SimulatedPump) (kind : PresetKind) : Option Nat :=
  pump.fields.preset kind

/-- The deed that stores a preset of the kind. -/
def PresetKind.deed : PresetKind → Nat → PumpDeed
  | .volume => .presetsVolume
  | .amount => .presetsAmount

/-- The controller caps nothing of the kind: the volume ends where the configuration says,
and the amount is charged as it is. -/
def Uncapped (pump : SimulatedPump) : PresetKind → Prop
  | .volume => pump.limitVolume = pump.config.filling.presetVolumeRaw.getD
      pump.config.filling.naturalCompleteVolumeRaw
  | .amount => ∀ volume, pump.plan.charged volume = pump.amountFromVolume volume

theorem uncapped_of_none {pump : SimulatedPump} {kind : PresetKind}
    (hnone : pump.preset kind = none) : Uncapped pump kind := by
  cases kind with
  | volume =>
      have hpreset : pump.presetVolumeRaw = none := hnone
      change (pump.presetVolumeRaw.or pump.config.filling.presetVolumeRaw).getD _ = _
      rw [hpreset, Option.none_or]
  | amount =>
      have hpreset : pump.plan.cap = none := hnone
      intro volume
      unfold Foundation.FillPlan.charged
      rw [hpreset]
      rfl

/-! ## One turn -/

/-- The preset is gone, or it stays and so does an active transaction. -/
def PresetKept (kind : PresetKind) (before after : SimulatedPump) : Prop :=
  after.preset kind = none ∨
    after.preset kind = before.preset kind ∧
      (before.activeTransactionId ≠ none → after.activeTransactionId ≠ none)

section

variable {kind : PresetKind} {before after : SimulatedPump}

theorem presetKept_of_eq (hpreset : after.preset kind = before.preset kind)
    (htransaction : after.activeTransactionId = before.activeTransactionId) :
    PresetKept kind before after :=
  Or.inr ⟨hpreset, fun hactive => htransaction ▸ hactive⟩

/-- Fields that are as before, but for the delivery and the nozzle. -/
theorem presetKept_of_fields {fields : PumpFields} (hfields : after.fields = fields)
    (hpreset : fields.preset kind = before.fields.preset kind)
    (htransaction : fields.activeTransactionId = before.activeTransactionId) :
    PresetKept kind before after := by
  refine presetKept_of_eq ?_ ?_
  · exact (congrArg (·.preset kind) hfields).trans hpreset
  · exact (congrArg PumpFields.activeTransactionId hfields).trans htransaction

theorem presetKept_turn {pump : SimulatedPump} {turn : PumpTurn}
    (hother : ∀ value, turn.deed pump ≠ kind.deed value) :
    PresetKept kind pump (pump.turn turn) := by
  have hdone := deedDone_turn turn pump
  generalize hdeed : turn.deed pump = deed at hdone
  cases hdone with
  | keeps hkept =>
      exact presetKept_of_fields hkept.fields rfl rfl
  | authorizes hopened =>
      have hactive : (pump.turn turn).activeTransactionId = some turn.env.uuid4 :=
        congrArg PumpFields.activeTransactionId hopened.fields
      refine Or.inr ⟨?_, fun _ h => nomatch hactive.symm.trans h⟩
      unfold SimulatedPump.preset
      rw [hopened.fields]
      cases kind <;> rfl
  | presetsVolume volumeRaw hpreset =>
      cases kind with
      | volume => exact absurd hdeed (hother volumeRaw)
      | amount => exact presetKept_of_fields hpreset.fields rfl rfl
  | presetsAmount amountRaw hpreset =>
      cases kind with
      | volume => exact presetKept_of_fields hpreset.fields rfl rfl
      | amount => exact absurd hdeed (hother amountRaw)
  | setsPrices hprices =>
      exact presetKept_of_fields hprices.fields (by cases kind <;> rfl) rfl
  | stops hstopped =>
      exact presetKept_of_fields hstopped.fields (by cases kind <;> rfl) rfl
  -- the two operations that take the transaction away
  | resets hreset =>
      refine Or.inl ((congrArg (·.preset kind) hreset.fields).trans ?_)
      cases kind <;> rfl
  | restarts preserveTotals hrestarted =>
      refine Or.inl ((congrArg (·.preset kind) hrestarted.fields).trans ?_)
      cases kind <;> rfl
  | lifts nozzle hlifted =>
      exact presetKept_of_fields hlifted.fields (by cases kind <;> rfl) rfl
  | returns hholstered =>
      exact presetKept_of_fields hholstered.fields (by cases kind <;> rfl) rfl
  | coldStarts hholstered =>
      exact presetKept_of_fields hholstered.fields (by cases kind <;> rfl) rfl
  | advances hfills =>
      exact presetKept_of_fields hfills.kept.1 (by cases kind <;> rfl) rfl

/-- An accepted preset is stored. -/
theorem preset_of_deed {pump : SimulatedPump} {turn : PumpTurn} {value : Nat}
    (hdeed : turn.deed pump = kind.deed value) :
    (pump.turn turn).preset kind = some value := by
  have heffect := turn_effect turn pump
  rw [hdeed] at heffect
  cases kind with
  | volume =>
      have hpreset : PresetEffect pump (pump.turn turn) _ value := heffect
      exact congrArg PumpFields.presetVolumeRaw hpreset.fields
  | amount =>
      have hpreset : PresetEffect pump (pump.turn turn) _ value := heffect
      exact congrArg PumpFields.presetAmountRaw hpreset.fields

end

/-! ## Runs -/

section

variable {kind : PresetKind} {start : SimulatedPump}

/-- The preset that is stored at the end of a run was accepted in it. -/
def AcceptedSince (kind : PresetKind) (start : SimulatedPump) (turns : List PumpTurn) : Prop :=
  ∃ before accepting after value, turns = before ++ accepting :: after ∧
    accepting.deed (start.turns before) = kind.deed value ∧
    (start.turns turns).preset kind = some value

/-- A run ends without a preset of the kind, and so without a cap of the controller, or with
one that was accepted in it. -/
def OwnPreset (kind : PresetKind) (start : SimulatedPump) (turns : List PumpTurn) : Prop :=
  (start.turns turns).preset kind = none ∧ Uncapped (start.turns turns) kind ∨
    AcceptedSince kind start turns

theorem turns_concat (turns : List PumpTurn) (last : PumpTurn) :
    start.turns (turns ++ [last]) = (start.turns turns).turn last :=
  List.foldl_concat ..

theorem AcceptedSince.concat {turns : List PumpTurn} {last : PumpTurn}
    (haccepted : AcceptedSince kind start turns)
    (hpreset : (start.turns (turns ++ [last])).preset kind = (start.turns turns).preset kind) :
    AcceptedSince kind start (turns ++ [last]) := by
  obtain ⟨before, accepting, after, value, rfl, hdeed, hstored⟩ := haccepted
  exact ⟨before, accepting, after ++ [last], value, List.append_assoc .., hdeed,
    hpreset.trans hstored⟩

/-- What holds without a stored preset, and of what keeps the preset, holds until a preset
of the kind is accepted. -/
theorem holds_or_acceptedSince {P : SimulatedPump → Prop}
    (hnone : ∀ pump, pump.preset kind = none → P pump)
    (hkept : ∀ before after, P before → PresetKept kind before after → P after)
    {first : List PumpTurn} (hfirst : P (start.turns first) ∨ AcceptedSince kind start first)
    (rest : List PumpTurn) :
    P (start.turns (first ++ rest)) ∨ AcceptedSince kind start (first ++ rest) := by
  induction rest using List.reverseRecOn with
  | nil => rwa [List.append_nil]
  | append_singleton rest last ih =>
      rw [← List.append_assoc]
      by_cases haccepts : ∃ value, last.deed (start.turns (first ++ rest)) = kind.deed value
      · obtain ⟨value, hdeed⟩ := haccepts
        refine Or.inr ⟨first ++ rest, last, [], value, rfl, hdeed, ?_⟩
        rw [turns_concat]
        exact preset_of_deed hdeed
      · have hturn : PresetKept kind (start.turns (first ++ rest))
            (start.turns (first ++ rest ++ [last])) := by
          rw [turns_concat]
          exact presetKept_turn fun value hdeed => haccepts ⟨value, hdeed⟩
        rcases ih with hholds | haccepted
        · exact Or.inl (hkept _ _ hholds hturn)
        · rcases hturn with hgone | ⟨hpreset, -⟩
          · exact Or.inl (hnone _ hgone)
          · exact Or.inr (haccepted.concat hpreset)

/-- A stored preset belongs to a delivery that was opened. -/
def Spent (kind : PresetKind) (pump : SimulatedPump) : Prop :=
  pump.activeTransactionId ≠ none ∨ pump.preset kind = none

theorem Spent.of_kept {before after : SimulatedPump} (hspent : Spent kind before)
    (hkept : PresetKept kind before after) : Spent kind after := by
  rcases hkept with hgone | ⟨hpreset, hactive⟩
  · exact Or.inr hgone
  · exact hspent.imp hactive fun hnone => hpreset.trans hnone

end

/-- The presets of a delivery are gone with it.  Whatever was accepted before an executed
authorization, and however its delivery ended: from the next executed authorization on, the
controller caps nothing by a preset, or by one that was accepted after the first
authorization. -/
theorem preset_limits_next_delivery (config : PumpConfig)
    (earlier between later : List PumpTurn) (first second : PumpTurn) (kind : PresetKind)
    (hfirst : first.deed ((create config).turns earlier) = .authorizes)
    (hsecond : second.deed
      (((create config).turns (earlier ++ [first])).turns between) = .authorizes) :
    OwnPreset kind ((create config).turns (earlier ++ [first]))
      (between ++ second :: later) := by
  generalize hopened : (create config).turns (earlier ++ [first]) = opened at *
  have hactive : opened.activeTransactionId ≠ none := by
    rw [turns_concat] at hopened
    have heffect := turn_effect first ((create config).turns earlier)
    rw [hfirst, hopened] at heffect
    have hopens : AuthorizeEffect _ opened first.env := heffect
    have htransaction : opened.activeTransactionId = some first.env.uuid4 :=
      congrArg PumpFields.activeTransactionId hopens.fields
    rw [htransaction]
    exact Option.some_ne_none _
  have hfree : (opened.turns between).activeTransactionId = none := by
    have heffect := turn_effect second (opened.turns between)
    rw [hsecond] at heffect
    have hopens : AuthorizeEffect (opened.turns between) _ second.env := heffect
    exact hopens.free
  -- until the second authorization the old preset is spent, which leaves none to it
  have hbetween : (opened.turns between).preset kind = none ∨
      AcceptedSince kind opened between := by
    have hstart : Spent kind (opened.turns []) ∨ AcceptedSince kind opened [] :=
      Or.inl (Or.inl hactive)
    have hspent : Spent kind (opened.turns between) ∨ AcceptedSince kind opened between :=
      holds_or_acceptedSince (P := Spent kind) (fun _ hnone => Or.inr hnone)
        (fun _ _ => Spent.of_kept) hstart between
    exact hspent.imp_left fun h => h.resolve_left fun h' => h' hfree
  have hlater : (opened.turns (between ++ second :: later)).preset kind = none ∨
      AcceptedSince kind opened (between ++ second :: later) := by
    refine holds_or_acceptedSince (fun _ hnone => hnone) ?_ hbetween (second :: later)
    intro before after hnone hkept
    rcases hkept with hgone | ⟨hpreset, -⟩
    · exact hgone
    · exact hpreset.trans hnone
  exact hlater.imp_left fun hnone => ⟨hnone, uncapped_of_none hnone⟩

/-- A delivery with a preset volume, reset after its end, and the next delivery. -/
theorem preset_limits_next_delivery_reset :
    OwnPreset .volume ((create { pumpId := "fp-1", dartAddress := 1 }).turns
        ([⟨⟨0, ""⟩, .coldStartToReady⟩, ⟨⟨0, ""⟩, .liftNozzle 1⟩,
          ⟨⟨0, ""⟩, .unit 0x03 [0x00, 0x00, 0x00, 0x50]⟩] ++
          [⟨⟨0, "tx-1"⟩, .unit 0x01 [0x06]⟩]))
      ([⟨⟨400, ""⟩, .onTimeAdvance⟩, ⟨⟨400, ""⟩, .returnNozzle⟩,
        ⟨⟨400, ""⟩, .unit 0x01 [0x05]⟩, ⟨⟨400, ""⟩, .liftNozzle 1⟩] ++
        ⟨⟨400, "tx-2"⟩, .unit 0x01 [0x06]⟩ :: [⟨⟨900, ""⟩, .onTimeAdvance⟩]) :=
  preset_limits_next_delivery { pumpId := "fp-1", dartAddress := 1 } _ _ _ _ _ .volume
    (by decide +kernel) (by decide +kernel)

end Simulator
end Intelipump
