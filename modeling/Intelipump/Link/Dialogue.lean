import Mathlib.Tactic.Common
import Intelipump.Controller.SessionCore
import Intelipump.Foundation.Runs
import Intelipump.Simulator.Operations
import Intelipump.Simulator.Receive

namespace Intelipump
namespace Link

open Dart.Line
open Controller
open Simulator
open Foundation.StateEffect
open Simulator.SimulatorSession

/-!
# The dialogue of a controller session and a simulated pump

Both ends and the half-duplex bus between them.  The bus holds one frame; a
frame that is sent while another one is on its way takes its place.  Every
frame may be lost, and any DATA frame with an invalid CRC may reach the
controller instead of the one that was sent.

Three logs are kept beside the state: the payloads popped from the pump's
queue with their numbers, the payloads passed to the controller's decoder, and
the payloads the controller answered with ACK.  The number that travels with a
frame is not on the wire; it only says which item a frame belongs to.
-/

/-- The frame on the bus. -/
inductive Bus where
  | idle
  | toPump (wire : List Byte)
  | toController (wire : List Byte) (number : Nat)
deriving DecidableEq, Repr

/-- A payload with its number in the order of popping. -/
abbrev Item := List Byte × Nat

structure LinkState where
  session : PumpSession
  simulator : SimulatorSession
  bus : Bus
  popped : List Item
  decoded : List Item
  acknowledged : List Item
deriving DecidableEq

inductive LinkAction where
  | poll
  | command (sequence : Fin 16) (payload : List Byte)
  | iap
  | lose
  | pumpReceives (uuid4 : String)
  | controllerReceives
  | corrupt (frame : DartLineFrame)
  | timeout (maxConsecutive : Nat)
  | operate (uuid4 : String) (operation : PumpOperation)
  | advance (milliseconds : Nat)
  | restartController
deriving DecidableEq

/-- Payloads that left the front of a queue. -/
def leftQueue (before after : List OutboundApplicationTransaction) : List (List Byte) :=
  (before.take (before.length - after.length)).map (·.payload)

namespace LinkState

/-- A simulator from its configuration and a new session with its policy for
one of the addresses. -/
def start (config : SimulatorConfig) (address : Byte) (pumpId : String) : LinkState where
  session := PumpSession.create address pumpId config.sequencePolicy
  simulator := SimulatorSession.create config
  bus := .idle
  popped := []
  decoded := []
  acknowledged := []

def address (link : LinkState) : Byte := link.session.address

/-- The queue of the session's pump. -/
def pendingOutbound (simulator : SimulatorSession) (address : Byte) :
    List OutboundApplicationTransaction :=
  ((simulator.getPump address).map (·.pendingOutbound)).getD []

/-- The controller puts a frame on the bus, unless it cannot be built. -/
def transmit (link : LinkState) (built : Except Raised (List Byte)) : LinkState :=
  match built with
  | .ok wire => { link with bus := .toPump wire }
  | .error _ => link

/-- The session handles a frame, and its ACK goes on the bus. -/
def hear (link : LinkState) (frame : DartLineFrame) (number : Nat) : LinkState :=
  let result := link.session.handleResponseFrame frame
  let item : Item := (frame.payload, number)
  { link with
    session := result.1
    bus :=
      match result.2 with
      | some ack => .toPump ack
      | none => .idle
    decoded := link.decoded ++
      if link.session.receiveLine.verdict frame = .accepted then [item] else []
    acknowledged := link.acknowledged ++ if result.2.isSome then [item] else [] }

/-- The simulator receives a frame, and its first response goes on the bus. -/
def deliver (link : LinkState) (uuid4 : String) (wire : List Byte) : LinkState :=
  let simulator := finalState (SimulatorSession.receive uuid4 wire) link.simulator
  let responses :=
    responsesOf (returned (SimulatorSession.receive uuid4 wire) link.simulator)
  let left := leftQueue (pendingOutbound link.simulator link.address)
    (pendingOutbound simulator link.address)
  let popped := link.popped ++ left.zipIdx (link.popped.length + 1)
  { link with
    simulator := simulator
    popped := popped
    bus :=
      match responses with
      | response :: _ => .toController response popped.length
      | [] => .idle }

def step (link : LinkState) : LinkAction → LinkState
  | .poll =>
      { link with session := link.session.buildPoll.1 }.transmit link.session.buildPoll.2
  | .command sequence payload =>
      link.transmit (buildDataFrame link.address sequence payload)
  | .iap => link.transmit (buildIap link.address)
  | .lose => { link with bus := .idle }
  | .pumpReceives uuid4 =>
      match link.bus with
      | .toPump wire => link.deliver uuid4 wire
      | _ => link
  | .controllerReceives =>
      match link.bus with
      | .toController wire number =>
          match parseFrame wire with
          | .ok frame => link.hear frame number
          | .error _ => { link with bus := .idle }
      | _ => link
  | .corrupt frame =>
      match link.bus with
      | .toController _ number =>
          if frame.controlType = .DATA ∧ frame.crcValid = some false then
            link.hear frame number
          else link
      | _ => link
  | .timeout maxConsecutive =>
      { link with session := link.session.onTimeout maxConsecutive }
  | .operate uuid4 operation =>
      { link with
        simulator := finalState
          (onPump link.address (operation.run ⟨link.simulator.clockMs, uuid4⟩))
          link.simulator }
  | .advance milliseconds =>
      { link with
        simulator := finalState (SimulatorSession.advance milliseconds) link.simulator }
  | .restartController =>
      { link with
        session := PumpSession.create link.address link.session.state.pumpId
          link.session.sequencePolicy }

def run (link : LinkState) (actions : List LinkAction) : LinkState :=
  actions.foldl step link

end LinkState

/-! ## What the pump's operations leave alone, seen from the simulator -/

/-- The pump at an address keeps its line through a session action. -/
structure PumpKept (address : Byte) (before after : SimulatorSession) : Prop where
  config : after.config = before.config
  pump : ∀ pump, before.getPump address = some pump →
    ∃ kept, after.getPump address = some kept ∧ LineKept pump kept

instance (address : Byte) : IsPreorder SimulatorSession (PumpKept address) where
  refl session := ⟨rfl, fun pump hpump => ⟨pump, hpump, refl_of LineKept pump⟩⟩
  trans first second third hfirst hsecond := by
    refine ⟨hsecond.config.trans hfirst.config, fun pump hpump => ?_⟩
    obtain ⟨middle, hmiddle, hkept⟩ := hfirst.pump pump hpump
    obtain ⟨last, hlast, hkept'⟩ := hsecond.pump middle hmiddle
    exact ⟨last, hlast, trans_of LineKept hkept hkept'⟩

theorem pumpKept_setPump {session : SimulatorSession} (address : Byte) {other : Byte}
    {old : SimulatedPump} (hold : session.getPump other = some old) (new : SimulatedPump)
    (hkept : LineKept old new) : PumpKept address session (session.setPump other new) := by
  refine ⟨rfl, fun pump hpump => ?_⟩
  rw [getPump_setPump session hold]
  split
  · rename_i hsame
    rw [hsame, hold] at hpump
    exact ⟨new, rfl, Option.some.inj hpump ▸ hkept⟩
  · exact ⟨pump, hpump, refl_of LineKept pump⟩

theorem pumpKept_onPump {α : Type} (address other : Byte) {action : PumpM α}
    (hkeeps : Preserves LineKept action) :
    Preserves (PumpKept address) (onPump other action) := by
  intro session
  cases hpump : session.getPump other with
  | none =>
      have hsame : finalState (onPump other action) session = session := by
        unfold finalState onPump
        rw [hpump]
      rw [hsame]
      exact refl_of (PumpKept address) session
  | some pump =>
      rw [(onPump_spec hpump action).1]
      exact pumpKept_setPump address hpump _ (hkeeps pump)

theorem pumpKept_checkResponseTimeout (address other : Byte)
    (session : SimulatorSession) :
    PumpKept address session (session.checkResponseTimeout other) := by
  unfold checkResponseTimeout
  cases hpump : session.getPump other with
  | none => exact refl_of (PumpKept address) session
  | some pump =>
      dsimp only
      split
      · split
        · have hkept := pumpKept_setPump address hpump
            { pump with dataPendingSinceMs := some session.clockMs }
            (.of_eq rfl rfl rfl rfl rfl)
          exact ⟨hkept.config, hkept.pump⟩
        · exact refl_of (PumpKept address) session
      · exact refl_of (PumpKept address) session

theorem pumpKept_advance (address : Byte) (milliseconds : Nat) :
    Preserves (PumpKept address) (SimulatorSession.advance milliseconds) := by
  have hpumps : ∀ (env : PumpEnv) (addresses : List Byte),
      Preserves (PumpKept address) (advancePumps env addresses) := by
    intro env addresses
    induction addresses with
    | nil => exact .of_pure _
    | cons other rest ih =>
        refine .of_bind (pumpKept_onPump address other
          (SimulatedPump.keeps_onTimeAdvance env)) fun _ => ?_
        exact .of_bind (.of_modify (pumpKept_checkResponseTimeout address other))
          fun _ => ih
  refine .of_bind (.of_modify fun session => ⟨rfl, fun pump hpump => ?_⟩) fun _ => ?_
  · exact ⟨pump, hpump, refl_of LineKept pump⟩
  · exact .of_bind .of_get fun _ => hpumps _ _

end Link
end Intelipump
