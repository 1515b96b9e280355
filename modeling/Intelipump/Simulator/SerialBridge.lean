import Mathlib.Tactic.Common
import Intelipump.Dart.Line.Stream
import Intelipump.Simulator.Receive

namespace Intelipump
namespace Simulator

open Dart.Line
open Foundation.StateEffect
open SimulatorSession (responsesOf)

/-!
# The simulator behind a byte transport

The bridge reads bytes, hands every frame that its assembler finds to the simulator and
writes the responses back.  What the simulator raises ends the bridge.
-/

structure SimulatorSerialBridge where
  simulator : SimulatorSession
  assembler : FrameStreamAssembler
  running : Bool

namespace SimulatorSerialBridge

def create (config : SimulatorConfig) : SimulatorSerialBridge where
  simulator := SimulatorSession.create config
  assembler := FrameStreamAssembler.default
  running := true

/-- A frame goes to the simulator; the responses are to be written. -/
def handleFrame (bridge : SimulatorSerialBridge) (uuid4 : String) (raw : List Byte) :
    SimulatorSerialBridge × List (List Byte) :=
  let result := returned (SimulatorSession.receive uuid4 raw) bridge.simulator
  ({ bridge with
      simulator := finalState (SimulatorSession.receive uuid4 raw) bridge.simulator
      running := result.isSome },
    responsesOf result)

/-- The time step at the end of a turn. -/
def advance (bridge : SimulatorSerialBridge) (milliseconds : Nat) : SimulatorSerialBridge :=
  { bridge with
    simulator := finalState (SimulatorSession.advance milliseconds) bridge.simulator
    running := (returned (SimulatorSession.advance milliseconds) bridge.simulator).isSome }

end SimulatorSerialBridge

end Simulator
end Intelipump
