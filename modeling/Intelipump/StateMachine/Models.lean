import Mathlib.Data.Finset.Insert
import Mathlib.Tactic.Common
import Intelipump.Dart.Line.Control
import Intelipump.Domain

namespace Intelipump
namespace StateMachine

open Domain
open Dart.Line

/-!
# Pump context and transition results

A timestamp is an integer instant.  The `notes` of an observation are read by
nothing and are left out.
-/

inductive TransitionSeverity where
  | INFO | WARNING | ERROR | CRITICAL
deriving DecidableEq, Repr

/-- Reference to the observation that produced an event. -/
structure ObservationRef where
  sourceFrameRawHex : Option String := none
  transactionId : Option Byte := none
  transactionType : Option String := none
  rawWayneStatus : Option Byte := none
deriving DecidableEq, Repr

structure PumpContext where
  pumpId : String
  dartAddress : Byte
  currentState : PumpState := .DISCONNECTED
  previousState : Option PumpState := none
  selectedNozzle : Option Nat := none
  activeTransactionId : Option String := none
  lastObservationAt : Option Int := none
  lastTransitionAt : Option Int := none
  lastRawWayneStatus : Option Byte := none
  communicationHealthy : Bool := false
  priceVerified : Bool := false
  faultCode : Option Nat := none
  warnings : List String := []
  stateVersion : Nat := 0
  completedEvidenceKeys : Finset String := ∅
  lastSourceFrameHex : Option String := none
deriving DecidableEq

structure TransitionResult where
  accepted : Bool
  context : PumpContext
  currentState : PumpState
  previousState : Option PumpState
  attemptedEvent : PumpEvent
  reason : String
  severity : TransitionSeverity
  noop : Bool := false
  observation : Option ObservationRef := none
  warnings : List String := []
deriving DecidableEq

end StateMachine
end Intelipump
