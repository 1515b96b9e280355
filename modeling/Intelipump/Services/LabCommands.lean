import Mathlib.Tactic.Common
import Intelipump.Controller.PumpSession
import Intelipump.Persistence.UnitOfWork
import Intelipump.Simulator.Encoding
import Intelipump.StateMachine.Guards

namespace Intelipump
namespace Services

open Controller
open Dart.Application
open Dart.Line
open Domain
open Persistence
open Simulator
open StateMachine

/-!
# Commands for the LAB simulator

What the local API and the cloud intake share: the controller loop as they see it,
the map to CD1 commands, and the enqueue on a virtual or memory transport.
-/

/-- The controller loop: its sessions, and of its runtime the transport, the safety
context and the outbound queue. -/
structure ControllerLoop where
  sessions : List PumpSession
  transportKind : String
  safety : ControllerSafetyContext
  outbound : OutboundQueue

namespace ControllerLoop

def isVirtualOrMemory (loop : ControllerLoop) : Prop :=
  loop.transportKind ∈ ["memory", "serial_virtual"]

instance (loop : ControllerLoop) : Decidable loop.isVirtualOrMemory :=
  inferInstanceAs (Decidable (_ ∈ _))

/-- The context of the session at an address. -/
def sessionContext (loop : ControllerLoop) (address : Byte) : Option PumpContext :=
  (loop.sessions.find? (·.address = address)).map (·.context)

end ControllerLoop

/-- The commands that have a CD1 command to be enqueued as. -/
def CD1_MAP : PumpCommand → Option PumpControlCommand
  | .READ_STATUS => some .RETURN_STATUS
  | .RESET => some .RESET
  | .AUTHORIZE => some .AUTHORIZE
  | .STOP => some .STOP
  | _ => none

def idempotencyOf (command : PumpCommand) : IdempotencyClass :=
  if command ∈ NON_IDEMPOTENT_COMMANDS then .NON_IDEMPOTENT else .IDEMPOTENT

/-- The item of a command; the queue counts its time in milliseconds. -/
def labItem (env : Env) (address : Byte) (command : PumpCommand) (wire : List Byte) :
    OutboundDataItem :=
  .create (env.uuid4 .outboundItem) (env.now .outboundItem) address wire command true
    (idempotencyOf command)

/-- Enqueue a command with the LAB commands allowed. -/
def enqueueLab (env : Env) (address : Byte) (command : PumpCommand)
    (control : PumpControlCommand) (loop : ControllerLoop) : Except Raised ControllerLoop := do
  let wire ← encodeCd1Command control.code
  let queue ← loop.outbound.enqueue (env.now .outboundEnqueue)
    (labItem env address command wire)
    { loop.safety with allowLabSimulatorCommands := true }
  return { loop with outbound := queue }

/-- An enqueue puts the item of the command behind the queue, or is refused. -/
theorem enqueueLab_ok {env : Env} {address : Byte} {command : PumpCommand}
    {control : PumpControlCommand} {loop after : ControllerLoop}
    (henqueued : enqueueLab env address command control loop = .ok after) :
    after = { loop with outbound := { loop.outbound with
      items := loop.outbound.items ++
        [labItem env address command [0x01, 0x01, control.code]] } } := by
  have hwire : encodeCd1Command control.code = .ok [0x01, 0x01, control.code] := rfl
  unfold enqueueLab at henqueued
  rw [hwire] at henqueued
  dsimp only [bind, Except.bind] at henqueued
  split at henqueued
  · cases henqueued
  · rename_i queue hqueue
    cases henqueued
    obtain ⟨-, -, -, rfl⟩ := OutboundQueue.enqueue_ok hqueue
    rfl

end Services
end Intelipump
