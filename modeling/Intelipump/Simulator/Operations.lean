import Mathlib.Tactic.Common
import Intelipump.Simulator.Session

namespace Intelipump
namespace Simulator

open Domain
open Dart.Application
open Foundation.StateEffect

/-!
# What pump operations do to the line

Every local operation and every controller command leaves the sending side of
the line alone and only appends short units to the queue (`LineKept`); the
three operations that end the dialogue (disabling the communication, a restart
and IAP) do not.
-/

/-- The operations on a pump from outside the line. -/
inductive PumpOperation where
  | coldStartToReady
  | liftNozzle (nozzle : Nat)
  | returnNozzle
  | injectFault (code : Nat)
  | clearFault
  | handleApplicationPayload (payload : List Dart.Line.Byte)
  | onTimeAdvance
  | enableCommunication
  | disableCommunication
  | restartPump (preserveTotals : Bool)
deriving DecidableEq, Repr

def PumpOperation.run (env : PumpEnv) : PumpOperation → PumpM Unit
  | .coldStartToReady => SimulatedPump.coldStartToReady
  | .liftNozzle nozzle => do
      let _ ← SimulatedPump.liftNozzle env nozzle
  | .returnNozzle => SimulatedPump.returnNozzle
  | .injectFault code => SimulatedPump.injectFault code
  | .clearFault => modify (·.clearFault)
  | .handleApplicationPayload payload => do
      let _ ← SimulatedPump.handleApplicationPayload env payload
  | .onTimeAdvance => SimulatedPump.onTimeAdvance env
  | .enableCommunication => modify (·.enableCommunication)
  | .disableCommunication => modify (·.disableCommunication)
  | .restartPump preserveTotals => modify (·.restartPump preserveTotals)

/-- The operations that leave the dialogue with the controller standing. -/
def PumpOperation.KeepsDialogue : PumpOperation → Prop
  | .disableCommunication | .restartPump _ => False
  | _ => True

instance (operation : PumpOperation) : Decidable operation.KeepsDialogue := by
  unfold PumpOperation.KeepsDialogue
  cases operation <;> infer_instance

/-- The sending side is as before, and short units were appended to the
queue. -/
structure LineKept (before after : SimulatedPump) : Prop where
  config : after.config = before.config
  txSequence : after.txSequence = before.txSequence
  awaitingAckSequence : after.awaitingAckSequence = before.awaitingAckSequence
  lastOutboundWire : after.lastOutboundWire = before.lastOutboundWire
  pendingOutbound : ∃ added, after.pendingOutbound = before.pendingOutbound ++ added ∧
    ∀ item ∈ added, item.payload.length ≤ 18

namespace LineKept

theorem of_eq {before after : SimulatedPump} (hconfig : after.config = before.config)
    (htx : after.txSequence = before.txSequence)
    (hawaiting : after.awaitingAckSequence = before.awaitingAckSequence)
    (hwire : after.lastOutboundWire = before.lastOutboundWire)
    (hpending : after.pendingOutbound = before.pendingOutbound) :
    LineKept before after :=
  ⟨hconfig, htx, hawaiting, hwire, [], by rw [hpending, List.append_nil],
    fun _ hitem => absurd hitem List.not_mem_nil⟩

instance : IsPreorder SimulatedPump LineKept where
  refl pump := of_eq rfl rfl rfl rfl rfl
  trans first second third hfirst hsecond := by
    obtain ⟨added, hadded, hshort⟩ := hfirst.pendingOutbound
    obtain ⟨later, hlater, hshort'⟩ := hsecond.pendingOutbound
    refine ⟨hsecond.config.trans hfirst.config, hsecond.txSequence.trans hfirst.txSequence,
      hsecond.awaitingAckSequence.trans hfirst.awaitingAckSequence,
      hsecond.lastOutboundWire.trans hfirst.lastOutboundWire, added ++ later, ?_, ?_⟩
    · rw [hlater, hadded, List.append_assoc]
    · intro item hitem
      rcases List.mem_append.mp hitem with hmem | hmem
      · exact hshort item hmem
      · exact hshort' item hmem

theorem applyEvent (pump : SimulatedPump) (event : PumpEvent)
    (args : StateMachine.ApplyArgs) : LineKept pump (pump.applyEvent event args) :=
  of_eq rfl rfl rfl rfl rfl

end LineKept

namespace SimulatedPump

/-- A change of other fields keeps the line. -/
theorem keeps_modify {change : SimulatedPump → SimulatedPump}
    (hchange : ∀ pump, LineKept pump (change pump)) :
    Preserves LineKept (modify change : PumpM PUnit) :=
  Preserves.of_modify hchange

theorem keeps_queueEncoded {encoded : Except Raised (List Dart.Line.Byte)}
    (hshort : ShortUnit encoded) (label : String) :
    Preserves LineKept (queueEncoded encoded label) := by
  intro pump
  unfold queueEncoded queue
  rw [finalState_bind]
  cases hencoded : encoded with
  | error error => exact refl_of LineKept pump
  | ok payload =>
      refine ⟨rfl, rfl, rfl, rfl, [⟨payload, label⟩], rfl, fun item hitem => ?_⟩
      rw [List.mem_singleton.mp hitem]
      exact hshort payload hencoded

theorem keeps_queueStatusAndNozzle : Preserves LineKept queueStatusAndNozzle := by
  refine .of_bind .of_get fun pump => ?_
  refine .of_bind (keeps_queueEncoded (shortUnit_dc1 _) _) fun _ => ?_
  refine .of_bind .of_get fun pump => ?_
  exact keeps_queueEncoded (shortUnit_dc3 _ _ _) _

theorem keeps_queueFillData : Preserves LineKept queueFillData :=
  .of_bind .of_get fun _ => keeps_queueEncoded (shortUnit_dc2 _ _) _

theorem keeps_coldStartToReady : Preserves LineKept coldStartToReady := by
  refine .of_bind (keeps_modify fun pump => ?_) fun _ => ?_
  · split
    · exact refl_of LineKept pump
    · exact .of_eq rfl rfl rfl rfl rfl
  refine .of_bind (keeps_modify fun pump => .applyEvent pump _ _) fun _ => ?_
  refine .of_bind (keeps_modify fun pump => .of_eq rfl rfl rfl rfl rfl) fun _ => ?_
  refine .of_bind (keeps_modify fun pump => .of_eq rfl rfl rfl rfl rfl) fun _ => ?_
  refine .of_bind (keeps_modify fun pump => .of_eq rfl rfl rfl rfl rfl) fun _ => ?_
  exact keeps_queueStatusAndNozzle

theorem keeps_liftNozzle (env : PumpEnv) (nozzle : Nat) :
    Preserves LineKept (liftNozzle env nozzle) := by
  refine .of_bind .of_get fun pump => .of_ite (.of_pure _) ?_
  refine .of_bind (keeps_modify fun pump => .of_eq rfl rfl rfl rfl rfl) fun _ => ?_
  refine .of_bind (keeps_modify fun pump => .applyEvent pump _ _) fun _ => ?_
  exact .of_bind keeps_queueStatusAndNozzle fun _ => .of_pure _

theorem keeps_returnNozzle : Preserves LineKept returnNozzle := by
  refine .of_bind (keeps_modify fun pump => ?_) fun _ => keeps_queueStatusAndNozzle
  dsimp only
  split
  · exact .of_eq rfl rfl rfl rfl rfl
  · exact .of_eq rfl rfl rfl rfl rfl

theorem keeps_injectFault (code : Nat) : Preserves LineKept (injectFault code) :=
  .of_bind (keeps_modify fun _ => .of_eq rfl rfl rfl rfl rfl) fun _ =>
    keeps_queueEncoded (shortUnit_dc5 _) _

theorem keeps_clearFault (pump : SimulatedPump) : LineKept pump pump.clearFault := by
  have hcleared : LineKept pump
      ({ pump with faultCode := none }.applyEvent .FAULT_CLEARED {}) :=
    .of_eq rfl rfl rfl rfl rfl
  have hreset : ∀ cleared : SimulatedPump, LineKept cleared
      ({ cleared with wayneStatus := .RESET }.applyEvent .RESET_OBSERVED {}) :=
    fun _ => .of_eq rfl rfl rfl rfl rfl
  unfold clearFault
  exact trans_of LineKept (trans_of LineKept hcleared (hreset _)) (.applyEvent _ _ _)

/-! ## Filling -/

theorem keeps_completeFilling : Preserves LineKept completeFilling := by
  refine .of_bind .of_get fun pump => .of_ite (.of_pure _) ?_
  refine .of_bind (keeps_modify fun pump => .of_eq rfl rfl rfl rfl rfl) fun _ => ?_
  exact .of_bind keeps_queueStatusAndNozzle fun _ => keeps_queueFillData

theorem keeps_fillOneInterval : Preserves LineKept fillOneInterval := by
  refine .of_bind .of_get fun pump => ?_
  refine .of_bind (keeps_modify fun pump => .of_eq rfl rfl rfl rfl rfl) fun _ => ?_
  refine .of_bind keeps_queueFillData fun _ => .of_ite ?_ (.of_pure _)
  refine .of_bind (keeps_modify fun pump => ?_) fun _ => keeps_completeFilling
  split
  · exact .of_eq rfl rfl rfl rfl rfl
  · exact refl_of LineKept pump

theorem keeps_fillIntervals (steps : Nat) : Preserves LineKept (fillIntervals steps) := by
  induction steps with
  | zero => exact .of_pure _
  | succ steps ih =>
      refine .of_bind .of_get fun pump => .of_ite (.of_pure _) ?_
      exact .of_bind keeps_fillOneInterval fun _ => ih

theorem keeps_onTimeAdvance (env : PumpEnv) : Preserves LineKept (onTimeAdvance env) := by
  refine .of_bind .of_get fun pump => .of_ite (.of_pure _) (.of_ite (.of_pure _) ?_)
  cases pump.lastFillTickMs with
  | none => exact keeps_modify fun _ => .of_eq rfl rfl rfl rfl rfl
  | some last =>
      refine .of_ite (.of_pure _) (.of_ite (.of_throw _) ?_)
      exact .of_bind (keeps_modify fun _ => .of_eq rfl rfl rfl rfl rfl) fun _ =>
        keeps_fillIntervals _

/-! ## Commands -/

theorem keeps_executeEligible (env : PumpEnv) (command : PumpCommand)
    (args : GuardedArgs) : Preserves LineKept (executeEligible env command args) := by
  have hset : ∀ {change : SimulatedPump → SimulatedPump}
      (_ : ∀ pump, LineKept pump (change pump)),
      Preserves LineKept (do
        modify change
        queueStatusAndNozzle
        return [] : PumpM (List ProtocolFault)) := by
    intro change hchange
    refine .of_bind (keeps_modify hchange) fun _ => ?_
    exact .of_bind keeps_queueStatusAndNozzle fun _ => .of_pure _
  cases command with
  | SET_PRICE =>
      unfold executeEligible
      dsimp only
      split
      · exact hset fun _ => .of_eq rfl rfl rfl rfl rfl
      · exact .of_throw _
  | PRESET_VOLUME =>
      unfold executeEligible
      dsimp only
      split
      · exact .of_bind (keeps_modify fun _ => .of_eq rfl rfl rfl rfl rfl) fun _ =>
          .of_pure _
      · exact .of_throw _
  | PRESET_AMOUNT =>
      unfold executeEligible
      dsimp only
      split
      · exact .of_bind (keeps_modify fun _ => .of_eq rfl rfl rfl rfl rfl) fun _ =>
          .of_pure _
      · exact .of_throw _
  | AUTHORIZE =>
      refine .of_bind (keeps_modify fun _ => .of_eq rfl rfl rfl rfl rfl) fun _ => ?_
      refine .of_bind (keeps_modify fun _ => .of_eq rfl rfl rfl rfl rfl) fun _ => ?_
      refine .of_bind keeps_queueStatusAndNozzle fun _ => ?_
      exact .of_bind keeps_queueFillData fun _ => .of_pure _
  | STOP => exact .of_bind keeps_completeFilling fun _ => .of_pure _
  | SUSPEND => exact hset fun _ => .of_eq rfl rfl rfl rfl rfl
  | RESUME => exact hset fun _ => .of_eq rfl rfl rfl rfl rfl
  | RESET =>
      refine .of_bind (keeps_modify fun _ => .of_eq rfl rfl rfl rfl rfl) fun _ => ?_
      refine hset fun pump => ?_
      split
      · exact .applyEvent pump _ _
      · exact refl_of LineKept pump
  | _ => exact .of_pure _

theorem keeps_executeGuarded (env : PumpEnv) (command : PumpCommand)
    (args : GuardedArgs) : Preserves LineKept (executeGuarded env command args) := by
  refine .of_bind (keeps_modify fun _ => .of_eq rfl rfl rfl rfl rfl) fun _ => ?_
  refine .of_bind .of_get fun pump => ?_
  refine .of_bind (keeps_modify fun _ => .of_eq rfl rfl rfl rfl rfl) fun _ => ?_
  exact .of_ite (.of_pure _) (keeps_executeEligible env command args)

theorem keeps_handleCd1 (env : PumpEnv) (dcc : Dart.Line.Byte) :
    Preserves LineKept (handleCd1 env dcc) := by
  refine .of_bind .of_get fun pump => ?_
  split
  · exact .of_pure _
  · exact .of_bind keeps_queueStatusAndNozzle fun _ => .of_pure _
  · exact .of_bind keeps_queueFillData fun _ => .of_pure _
  · exact .of_bind (keeps_queueEncoded shortUnit_dc9 _) fun _ => .of_pure _
  · exact .of_bind (keeps_queueEncoded (shortUnit_dc1 _) _) fun _ => .of_pure _
  · split
    · exact .of_pure _
    · exact keeps_executeGuarded env _ _

theorem keeps_handlePrices (env : PumpEnv) (nozzle : Nat) (data : List Dart.Line.Byte) :
    Preserves LineKept (handlePrices env nozzle data) := by
  fun_induction handlePrices env nozzle data with
  | case1 nozzle first second third rest ih =>
      refine .of_bind (.of_fromExcept _) fun price => ?_
      refine .of_bind (keeps_executeGuarded env _ _) fun _ => ?_
      exact .of_bind ih fun _ => .of_pure _
  | case2 => exact .of_pure _

theorem keeps_handleOneTx (env : PumpEnv) (trans : Dart.Line.Byte)
    (data : List Dart.Line.Byte) : Preserves LineKept (handleOneTx env trans data) := by
  refine .of_ite (keeps_handleCd1 env _) (.of_ite ?_ (.of_ite ?_ (.of_ite ?_ (.of_ite ?_ ?_))))
  · exact .of_bind (.of_fromExcept _) fun _ => keeps_executeGuarded env _ _
  · exact .of_bind (.of_fromExcept _) fun _ => keeps_executeGuarded env _ _
  · exact keeps_handlePrices env 1 data
  · refine .of_bind .of_get fun pump => ?_
    exact .of_bind (keeps_queueEncoded (shortUnit_dc101 _ _ _ _) _) fun _ => .of_pure _
  · exact .of_bind .of_get fun _ => .of_pure _

theorem keeps_handleUnits (env : PumpEnv) (fuel : Nat) (payload : List Dart.Line.Byte) :
    Preserves LineKept (handleUnits env fuel payload) := by
  fun_induction handleUnits env fuel payload with
  | case1 => exact .of_bind .of_get fun _ => .of_pure _
  | case2 fuel transId lng rest hcomplete ih =>
      refine .of_bind (keeps_handleOneTx env _ _) fun _ => ?_
      exact .of_bind ih fun _ => .of_pure _
  | case3 => exact .of_pure _

end SimulatedPump

/-- A restart begins the line anew. -/
theorem restartPump_line (pump : SimulatedPump) (preserveTotals : Bool) :
    (pump.restartPump preserveTotals).config = pump.config ∧
      (pump.restartPump preserveTotals).txSequence = 0 ∧
      (pump.restartPump preserveTotals).awaitingAckSequence = none ∧
      (pump.restartPump preserveTotals).pendingOutbound = [] := by
  unfold SimulatedPump.restartPump
  dsimp only
  cases preserveTotals <;> split <;> exact ⟨rfl, rfl, rfl, rfl⟩

/-- A DATA frame of the controller keeps the line. -/
theorem keeps_onData (env : PumpEnv) (policy : SequencePolicy)
    (frame : Dart.Line.DartLineFrame) :
    Preserves LineKept (SimulatorSession.onData env policy frame) := by
  refine .of_bind .of_get fun pump => .of_ite (.of_pure _) (.of_ite ?_ (.of_ite ?_ ?_))
  · exact .of_bind (.of_fromExcept _) fun _ => .of_pure _
  · exact .of_bind (.of_fromExcept _) fun _ => .of_pure _
  · refine .of_bind (SimulatedPump.keeps_handleUnits env _ frame.payload) fun _ => ?_
    refine .of_bind (SimulatedPump.keeps_modify fun _ => .of_eq rfl rfl rfl rfl rfl)
      fun _ => ?_
    exact .of_bind (.of_fromExcept _) fun _ => .of_pure _

/-- Every operation but the two that end the dialogue keeps the line. -/
theorem PumpOperation.keeps_run (env : PumpEnv) {operation : PumpOperation}
    (hkeeps : operation.KeepsDialogue) : Preserves LineKept (operation.run env) := by
  cases operation with
  | coldStartToReady => exact SimulatedPump.keeps_coldStartToReady
  | liftNozzle nozzle =>
      exact .of_bind (SimulatedPump.keeps_liftNozzle env nozzle) fun _ => .of_pure _
  | returnNozzle => exact SimulatedPump.keeps_returnNozzle
  | injectFault code => exact SimulatedPump.keeps_injectFault code
  | clearFault => exact SimulatedPump.keeps_modify SimulatedPump.keeps_clearFault
  | handleApplicationPayload payload =>
      exact .of_bind (SimulatedPump.keeps_handleUnits env _ payload) fun _ => .of_pure _
  | onTimeAdvance => exact SimulatedPump.keeps_onTimeAdvance env
  | enableCommunication =>
      exact SimulatedPump.keeps_modify fun _ => .of_eq rfl rfl rfl rfl rfl
  | disableCommunication => exact hkeeps.elim
  | restartPump preserveTotals => exact hkeeps.elim

end Simulator
end Intelipump
