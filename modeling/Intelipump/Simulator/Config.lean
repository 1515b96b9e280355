import Mathlib.Data.Rat.Defs
import Mathlib.Tactic.Common
import Intelipump.Dart.Line.Control

namespace Intelipump
namespace Simulator

open Dart.Line

/-!
# Simulator configuration

Decimal parameters are rational numbers: the filling arithmetic is exact on
the values in use.
-/

/-- TX# wrap policy after 0xF. -/
inductive SequencePolicy where
  | SPEC_F_TO_1 | OBSERVED_F_TO_0
deriving DecidableEq, Repr

structure FillingConfig where
  flowRateLitersPerSecond : ℚ := 1 / 2
  updateIntervalMs : Nat := 200
  volumeDecimals : Nat := 3
  amountDecimals : Nat := 2
  priceDecimals : Nat := 2
  presetVolumeRaw : Option Nat := none
  presetAmountRaw : Option Nat := none
  naturalCompleteVolumeRaw : Nat := 40000
deriving DecidableEq

structure PumpConfig where
  pumpId : String
  dartAddress : Byte
  nozzleCount : Nat := 2
  defaultPriceRaw : Nat := 1175
  filling : FillingConfig := {}
deriving DecidableEq

structure SimulatorConfig where
  sequencePolicy : SequencePolicy := .SPEC_F_TO_1
  responseTimeoutMs : Nat := 25
  simulatorPhysicalEnable : Bool := true
  simulatorActiveCommandsEnabled : Bool := true
  pumps : List PumpConfig :=
    [{ pumpId := "fp-1", dartAddress := 1 }, { pumpId := "fp-2", dartAddress := 2 }]
deriving DecidableEq

/-- The next TX# after a successful DATA block. -/
def nextSequence (sequence : Fin 16) (policy : SequencePolicy) : Fin 16 :=
  if sequence ≠ 0x0F then sequence + 1
  else
    match policy with
    | .SPEC_F_TO_1 => 0x01
    | .OBSERVED_F_TO_0 => 0x00

theorem nextSequence_ne_self (sequence : Fin 16) (policy : SequencePolicy) :
    nextSequence sequence policy ≠ sequence := by
  cases policy <;> revert sequence <;> decide

end Simulator
end Intelipump
