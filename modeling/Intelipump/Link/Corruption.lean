import Mathlib.Tactic.Common
import Intelipump.Controller.Reachable
import Intelipump.Simulator.Receive

namespace Intelipump
namespace Link

open Domain
open Dart.Line
open Controller
open Simulator
open Foundation.StateEffect
open Simulator.SimulatorSession

/-!
# Frames with a bad CRC

Both ends look at the control type before they look at the CRC, and only their
DATA handlers look at the CRC.  A DATA block whose CTRL byte arrives as a
control type is therefore acted on like a control frame, although the parser
has found its CRC to be wrong.
-/

/-! ## The controller -/

/-- What a session thinks of the line. -/
structure LineHealth where
  communication : CommunicationHealth
  consecutiveTimeouts : Nat
deriving DecidableEq, Repr

def health (session : PumpSession) : LineHealth where
  communication := session.state.communication
  consecutiveTimeouts := session.state.consecutiveTimeouts

theorem health_setCommunication (session : PumpSession)
    (communication : CommunicationHealth) :
    health (session.setCommunication communication) =
      { health session with communication := communication } := by
  unfold PumpSession.setCommunication
  dsimp only
  split
  · rfl
  · split <;> split <;> rfl

theorem health_applySm (session : PumpSession) (event : PumpEvent) :
    health (session.applySm event) = health session := by
  unfold PumpSession.applySm PumpSession.adoptResult
  dsimp only
  split <;> rfl

theorem health_markResponsive (session : PumpSession) :
    health session.markResponsive =
      { health session with communication := .HEALTHY } := by
  unfold PumpSession.markResponsive
  dsimp only
  split
  · rw [health_applySm, health_setCommunication]
  · rw [health_setCommunication]

/-- A corrupted frame is not accepted, and not acknowledged. -/
theorem verdict_of_corrupt (line : ReceiveLine) {frame : DartLineFrame}
    (hcrc : frame.crcValid = some false) :
    line.verdict frame =
      if frame.address = line.address ∧ frame.controlType = .EOT then .responsive
      else .ignored := by
  unfold ReceiveLine.verdict
  by_cases haddress : frame.address = line.address
  · rw [if_neg (not_not.mpr haddress)]
    cases frame.controlType <;> simp [haddress, hcrc]
  · rw [if_pos haddress, if_neg fun h => haddress h.1]

/-- A corrupted frame leaves the line health alone, unless it reads as EOT. -/
theorem health_handleResponseFrame (session : PumpSession) {frame : DartLineFrame}
    (hcrc : frame.crcValid = some false) :
    health (session.handleResponseFrame frame).1 =
      if session.receiveLine.verdict frame = .responsive then ⟨.HEALTHY, 0⟩
      else health session := by
  have hcorrupt := verdict_of_corrupt session.receiveLine hcrc
  rcases session.handleResponseFrame_cases frame with
    ⟨hverdict, _⟩ | ⟨hverdict, _⟩ | ⟨hverdict, hhandled⟩ | ⟨hverdict, hignored⟩
  · -- the CRC keeps the frame out of the data branch
    rw [hverdict] at hcorrupt
    split at hcorrupt <;> cases hcorrupt
  · rw [hverdict] at hcorrupt
    split at hcorrupt <;> cases hcorrupt
  · rw [hverdict, if_pos rfl, hhandled]
    change health (PumpSession.markResponsive _) = _
    rw [health_markResponsive]
    rfl
  · rw [hverdict, if_neg (by decide)]
    rcases hignored with hhandled | hhandled | hhandled | ⟨error, hhandled⟩
    · rw [hhandled]
      rfl
    · rw [hhandled]
      rfl
    · rw [hhandled]
      rfl
    · rw [hhandled]
      rfl

/-- A frame that leaves no trace in a session. -/
structure SessionInert (session : PumpSession) (frame : DartLineFrame) : Prop where
  context : (session.handleResponseFrame frame).1.context = session.context
  communication : (session.handleResponseFrame frame).1.state.communication =
    session.state.communication
  consecutiveTimeouts : (session.handleResponseFrame frame).1.state.consecutiveTimeouts =
    session.state.consecutiveTimeouts
  expectedRxSequence : (session.handleResponseFrame frame).1.state.expectedRxSequence =
    session.state.expectedRxSequence
  lastAcceptedRxSequence :
    (session.handleResponseFrame frame).1.state.lastAcceptedRxSequence =
      session.state.lastAcceptedRxSequence
  noAck : (session.handleResponseFrame frame).2 = none

/-- Marking a session responsive moves the machine exactly out of
`DISCONNECTED`. -/
theorem markResponsive_eq_self_iff (core : SessionCore) :
    core.markResponsive.context = core.context ↔
      core.context.currentState ≠ .DISCONNECTED := by
  constructor
  · intro hsame hdisconnected
    have hstate := core.currentState_markResponsive
    rw [hsame, hdisconnected] at hstate
    cases hstate
  · intro hconnected
    rw [core.context_markResponsive_eq, if_neg hconnected]

theorem sessionInert_iff (session : PumpSession) {frame : DartLineFrame}
    (hcrc : frame.crcValid = some false) :
    SessionInert session frame ↔
      frame.address ≠ session.address ∨ frame.controlType ≠ .EOT ∨
        (session.state.communication = .HEALTHY ∧
          session.state.consecutiveTimeouts = 0 ∧
          session.context.currentState ≠ .DISCONNECTED) := by
  obtain ⟨hline, hcore, hack⟩ := session.handleResponseFrame_spec frame
  have hhealth := health_handleResponseFrame session hcrc
  have hverdict := verdict_of_corrupt session.receiveLine hcrc
  rw [hverdict] at hcore hhealth
  unfold ReceiveLine.after at hline
  unfold ReceiveLine.ackFor at hack
  rw [hverdict] at hline hack
  by_cases heot : frame.address = session.receiveLine.address ∧ frame.controlType = .EOT
  · rw [if_pos heot] at hline hcore hhealth hack
    rw [if_pos rfl] at hhealth
    have hcontext := congrArg SessionCore.context hcore
    change _ = session.core.markResponsive.context at hcontext
    constructor
    · intro hinert
      refine Or.inr (Or.inr ⟨?_, ?_, ?_⟩)
      · rw [← hinert.communication]
        exact congrArg LineHealth.communication hhealth
      · rw [← hinert.consecutiveTimeouts]
        exact congrArg LineHealth.consecutiveTimeouts hhealth
      · exact (markResponsive_eq_self_iff session.core).mp
          (hcontext.symm.trans hinert.context)
    · rintro (haddress | htype | ⟨hhealthy, htimeouts, hconnected⟩)
      · exact absurd heot.1 haddress
      · exact absurd heot.2 htype
      · exact {
          context := hcontext.trans
            ((markResponsive_eq_self_iff session.core).mpr hconnected)
          communication := (congrArg LineHealth.communication hhealth).trans hhealthy.symm
          consecutiveTimeouts :=
            (congrArg LineHealth.consecutiveTimeouts hhealth).trans htimeouts.symm
          expectedRxSequence := congrArg ReceiveLine.expected hline
          lastAcceptedRxSequence := congrArg ReceiveLine.lastAccepted hline
          noAck := hack }
  · rw [if_neg heot] at hline hcore hhealth hack
    rw [if_neg (by decide)] at hhealth
    refine iff_of_true ?_ ?_
    · exact {
        context := congrArg SessionCore.context hcore
        communication := congrArg LineHealth.communication hhealth
        consecutiveTimeouts := congrArg LineHealth.consecutiveTimeouts hhealth
        expectedRxSequence := congrArg ReceiveLine.expected hline
        lastAcceptedRxSequence := congrArg ReceiveLine.lastAccepted hline
        noAck := hack }
    · by_cases haddress : frame.address = session.receiveLine.address
      · exact Or.inr (Or.inl fun htype => heot ⟨haddress, htype⟩)
      · exact Or.inl haddress

/-! ## The simulator -/

/-- A frame that leaves no trace in the pumps of a simulator and is not
answered. -/
structure SimulatorInert (simulator : SimulatorSession) (uuid4 : String)
    (wire : List Byte) : Prop where
  pumps : ∀ address,
    (finalState (SimulatorSession.receive uuid4 wire) simulator).getPump address =
      simulator.getPump address
  noResponse :
    responsesOf (returned (SimulatorSession.receive uuid4 wire) simulator) = []

/-- The pumps that a corrupted frame does nothing to: it does not read as
POLL, as the ACK a pump waits for, or as IAP for a pump that has sequences to
reset. -/
def PumpUnmoved (pump : SimulatedPump) (frame : DartLineFrame) : Prop :=
  match frame.controlType with
  | .POLL => False
  | .ACK => pump.awaitingAckSequence ≠ some frame.sequence
  | .IAP =>
      pump.txSequence = 0 ∧ pump.expectedControllerSequence = 0 ∧
        pump.lastAcceptedControllerSequence = none ∧
        pump.awaitingAckSequence = none ∧ pump.dataPendingSinceMs = none
  | _ => True

/-- A POLL always has an effect: an answer, or a payload lost from the queue. -/
theorem onPoll_moves (pump : SimulatedPump) (now : Nat) :
    ¬ (finalState (onPoll now) pump = pump ∧
      responsesOf (returned (onPoll now) pump) = []) := by
  rintro ⟨hfinal, hresponses⟩
  cases hrepeated : repeatedBlock pump with
  | some wire =>
      rw [(onPoll_repeat hrepeated now).2] at hresponses
      cases hresponses
  | none =>
      have hqueue := onPoll_of_idle hrepeated now
      unfold finalState returned at *
      rw [hqueue] at hfinal hresponses
      change finalState (answerFromQueue now) pump = pump at hfinal
      change responsesOf (returned (answerFromQueue now) pump) = [] at hresponses
      cases hpending : pump.pendingOutbound with
      | nil =>
          rw [(answerFromQueue_nil hpending now).2] at hresponses
          cases hresponses
      | cons item rest =>
          have hsent := answerFromQueue_cons hpending now
          split at hsent
          · rw [hsent.2] at hresponses
            cases hresponses
          · have hlost := congrArg (·.pendingOutbound) (hfinal.symm.trans hsent.1)
            change pump.pendingOutbound = rest at hlost
            rw [hpending] at hlost
            exact absurd hlost (List.cons_ne_self item rest)

/-- An acknowledged pump is not the pump that waited. -/
theorem afterAck_ne {pump : SimulatedPump} {sequence : Fin 16}
    (hawaiting : pump.awaitingAckSequence = some sequence) (policy : SequencePolicy) :
    afterAck pump policy ≠ pump := by
  intro hsame
  have hnone : none = pump.awaitingAckSequence := congrArg (·.awaitingAckSequence) hsame
  rw [hawaiting] at hnone
  cases hnone

theorem resetProtocolSequences_eq_self_iff (pump : SimulatedPump) :
    pump.resetProtocolSequences = pump ↔
      pump.txSequence = 0 ∧ pump.expectedControllerSequence = 0 ∧
        pump.lastAcceptedControllerSequence = none ∧
        pump.awaitingAckSequence = none ∧ pump.dataPendingSinceMs = none := by
  constructor
  · intro hsame
    exact ⟨(congrArg (·.txSequence) hsame).symm,
      (congrArg (·.expectedControllerSequence) hsame).symm,
      (congrArg (·.lastAcceptedControllerSequence) hsame).symm,
      (congrArg (·.awaitingAckSequence) hsame).symm,
      (congrArg (·.dataPendingSinceMs) hsame).symm⟩
  · rintro ⟨htx, hexpected, hlast, hawaiting, hpending⟩
    cases pump
    dsimp only at htx hexpected hlast hawaiting hpending
    subst htx hexpected hlast hawaiting hpending
    rfl

theorem pumpAnswer_inert_iff (pump : SimulatedPump) (env : PumpEnv)
    (policy : SequencePolicy) {frame : DartLineFrame}
    (hcrc : frame.crcValid = some false) :
    (finalState (pumpAnswer env policy frame) pump = pump ∧
        responsesOf (returned (pumpAnswer env policy frame) pump) = []) ↔
      PumpUnmoved pump frame := by
  unfold pumpAnswer PumpUnmoved
  cases frame.controlType with
  | POLL => exact iff_of_false (onPoll_moves pump env.now) not_false
  | DATA => exact iff_of_true (onData_corrupt env policy hcrc) trivial
  | ACK =>
      dsimp only
      rw [(onAck_spec pump env.now policy frame).1,
        (onAck_spec pump env.now policy frame).2]
      split
      · rename_i hawaiting
        exact iff_of_false (fun h => afterAck_ne hawaiting policy h.1)
          (not_not.mpr hawaiting)
      · rename_i hother
        exact iff_of_true ⟨rfl, rfl⟩ hother
  | IAP =>
      dsimp only
      rw [finalState_bind, returned_bind]
      change (pump.resetProtocolSequences = pump ∧ ([] : List (List Byte)) = []) ↔ _
      rw [and_iff_left rfl, resetProtocolSequences_eq_self_iff]
  | NAK => exact iff_of_true ⟨rfl, rfl⟩ trivial
  | EOT => exact iff_of_true ⟨rfl, rfl⟩ trivial
  | ACKPOLL => exact iff_of_true ⟨rfl, rfl⟩ trivial
  | UNKNOWN => exact iff_of_true ⟨rfl, rfl⟩ trivial

theorem simulatorInert_iff (simulator : SimulatorSession) (uuid4 : String)
    {wire : List Byte} {frame : DartLineFrame} (hparsed : parseFrame wire = .ok frame)
    (hcrc : frame.crcValid = some false) :
    SimulatorInert simulator uuid4 wire ↔
      ∀ pump, simulator.getPump frame.address = some pump →
        pump.communicationEnabled = true → PumpUnmoved pump frame := by
  by_cases hheard : ∃ pump, simulator.getPump frame.address = some pump ∧
      pump.communicationEnabled = true
  · obtain ⟨pump, hpump, henabled⟩ := hheard
    have hanswer := receive_spec hparsed hpump henabled uuid4
    have hiff := pumpAnswer_inert_iff pump ⟨simulator.clockMs, uuid4⟩
      simulator.config.sequencePolicy hcrc
    constructor
    · rintro hinert other hother -
      rw [hpump] at hother
      obtain rfl := Option.some.inj hother
      refine hiff.mp ⟨?_, hanswer.responses.symm.trans hinert.noResponse⟩
      have hsame := (hanswer.getPump frame.address).symm.trans
        (hinert.pumps frame.address)
      unfold updatedPumps at hsame
      rw [if_pos rfl, hpump] at hsame
      exact Option.some.inj hsame
    · intro hunmoved
      obtain ⟨hfinal, hresponses⟩ := hiff.mpr (hunmoved pump hpump henabled)
      refine ⟨fun address => ?_, hanswer.responses.trans hresponses⟩
      rw [hanswer.getPump, hfinal]
      unfold updatedPumps
      split
      · rename_i haddress
        rw [haddress, hpump]
      · rfl
  · have hanswer := receive_silent ((unheard_iff hparsed).mpr hheard) uuid4
    exact iff_of_true ⟨hanswer.getPump, hanswer.responses⟩
      fun pump hpump henabled => absurd ⟨pump, hpump, henabled⟩ hheard

/-- When a frame with a bad CRC is inert, at either end. -/
theorem corrupt_inert_iff (session : PumpSession) (simulator : SimulatorSession)
    (uuid4 : String) (wire : List Byte) (frame : DartLineFrame)
    (hparsed : parseFrame wire = .ok frame) (hcrc : frame.crcValid = some false) :
    (SessionInert session frame ↔
        frame.address ≠ session.address ∨ frame.controlType ≠ .EOT ∨
          (session.state.communication = .HEALTHY ∧
            session.state.consecutiveTimeouts = 0 ∧
            session.context.currentState ≠ .DISCONNECTED)) ∧
      (SimulatorInert simulator uuid4 wire ↔
        ∀ pump, simulator.getPump frame.address = some pump →
          pump.communicationEnabled = true → PumpUnmoved pump frame) :=
  ⟨sessionInert_iff session hcrc, simulatorInert_iff simulator uuid4 hparsed hcrc⟩

/-- A DC1 block of address 1 whose CTRL byte arrives as another one. -/
def misreadBlock (control : Byte) : List Byte :=
  (dataFrame 0x01 0 [0x01, 0x01, 0x01]).rawFrame.set 1 control

/-- What the parser makes of it. -/
def misreadFrame (control : Byte) : DartLineFrame :=
  { dataFrame 0x01 0 [0x01, 0x01, 0x01] with
    control := control
    controlType := classifyControl control
    sequence := extractSequence control
    computedCrc := some (dartCrc16 [0x01, control, 0x01, 0x01, 0x01])
    crcValid := some false
    rawFrame := misreadBlock control
    unknownControl := decide (classifyControl control = .UNKNOWN) }

/-- A controller session for address 1. -/
def newSession : PumpSession := PumpSession.create 0x01 "fp-1" .SPEC_F_TO_1

/-- The default simulator after the cold start of its first pump. -/
def startedSimulator : SimulatorSession :=
  finalState (onPump 0x01 SimulatedPump.coldStartToReady) (SimulatorSession.create {})

/-- One flipped bit in TX# leaves a DATA block: both ends drop it. -/
theorem corrupt_inert_data :
    SessionInert newSession (misreadFrame 0x31) ∧
      SimulatorInert startedSimulator "" (misreadBlock 0x31) := by
  obtain ⟨hsession, hsimulator⟩ := corrupt_inert_iff newSession startedSimulator ""
    (misreadBlock 0x31) (misreadFrame 0x31) (by decide +kernel) rfl
  exact ⟨hsession.mpr (by decide), hsimulator.mpr fun _ _ _ => trivial⟩

/-- One flipped bit makes the block an EOT for the controller (`0x30` to
`0x70`) and a POLL for the simulator (`0x30` to `0x20`); both act on it. -/
theorem corrupt_not_always_inert :
    (¬ ∀ wire frame, parseFrame wire = .ok frame → frame.crcValid = some false →
      SessionInert newSession frame) ∧
    (¬ ∀ wire frame, parseFrame wire = .ok frame → frame.crcValid = some false →
      SimulatorInert startedSimulator "" wire) := by
  constructor
  · intro hall
    have hhealth := (hall (misreadBlock 0x70) (misreadFrame 0x70) (by decide +kernel)
      rfl).communication
    revert hhealth
    decide +kernel
  · intro hall
    have hresponse := (hall (misreadBlock 0x20) (misreadFrame 0x20) (by decide +kernel)
      rfl).noResponse
    revert hresponse
    decide +kernel

end Link
end Intelipump
