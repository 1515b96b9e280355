import Mathlib.Tactic.Common
import Intelipump.Dart.Line.FrameParser
import Intelipump.Simulator.Pump

namespace Intelipump
namespace Simulator

open Domain
open Dart.Line
open Foundation.StateEffect (fromExcept)

/-!
# The byte-facing simulator session

One virtual dispenser with several pumps.  `receive` takes a wire frame of the
controller and answers with wire frames.  A pump is an object that handlers
mutate in place, so a handler that raises leaves its partial writes behind.
-/

structure FrameExchangeResult where
  responses : List (List Byte) := []
  faults : List ProtocolFault := []
  notes : List String := []
deriving DecidableEq, Repr

structure SimulatorSession where
  config : SimulatorConfig
  clockMs : Nat
  pumps : List (Byte × SimulatedPump)
  faults : List ProtocolFault
  notes : List String
deriving DecidableEq

abbrev SessionM := EStateM Raised SimulatorSession

namespace SimulatorSession

/-- `pumps.get(address)`. -/
def getPump (session : SimulatorSession) (address : Byte) : Option SimulatedPump :=
  session.pumps.lookup address

/-- Write back the pump object at an address. -/
def setPump (session : SimulatorSession) (address : Byte) (pump : SimulatedPump) :
    SimulatorSession :=
  { session with
    pumps := session.pumps.map fun entry =>
      if entry.1 = address then (entry.1, pump) else entry }

/-- One entry of the dictionary comprehension: a repeated key keeps its place
and takes the later value. -/
def addPump (pumps : List (Byte × SimulatedPump)) (config : PumpConfig) :
    List (Byte × SimulatedPump) :=
  let pump := SimulatedPump.create config
  if (pumps.lookup config.dartAddress).isSome then
    pumps.map fun entry =>
      if entry.1 = config.dartAddress then (entry.1, pump) else entry
  else pumps ++ [(config.dartAddress, pump)]

def create (config : SimulatorConfig) : SimulatorSession where
  config := config
  clockMs := 0
  pumps := config.pumps.foldl addPump []
  faults := []
  notes := []

/-- Run an action on the pump at an address. -/
def onPump {α : Type} (address : Byte) (action : PumpM α) : SessionM α :=
  fun session =>
    match session.getPump address with
    | none => .error (.lookupError s!"{address.toNat}") session
    | some pump =>
        match action pump with
        | .ok value next => .ok value (session.setPump address next)
        | .error error next => .error error (session.setPump address next)

/-- Take a payload from the queue and send it in a block. -/
def sendBlock (now : Nat) (item : OutboundApplicationTransaction)
    (rest : List OutboundApplicationTransaction) : PumpM FrameExchangeResult := do
  modify fun pump => { pump with pendingOutbound := rest }
  let pump ← get
  let seq := pump.txSequence
  let wire ← fromExcept (buildDataFrame pump.config.dartAddress seq item.payload)
  modify fun pump => { pump with
    awaitingAckSequence := some seq
    dataPendingSinceMs := some now
    lastOutboundWire := some wire }
  return { responses := [wire], notes := [s!"POLL→DATA seq={seq.val}"] }

/-- The queue answers a POLL: EOT when it is empty. -/
def answerFromQueue (now : Nat) : PumpM FrameExchangeResult := do
  let pump ← get
  match pump.pendingOutbound with
  | [] =>
      let eot ← fromExcept (buildEot pump.config.dartAddress pump.txSequence)
      return { responses := [eot], notes := ["POLL→EOT"] }
  | item :: rest => sendBlock now item rest

/-- POLL: repeat the block that waits for its ACK, or let the queue answer. -/
def onPoll (now : Nat) : PumpM FrameExchangeResult := do
  let pump ← get
  match pump.awaitingAckSequence, pump.lastOutboundWire with
  | some _, some wire =>
      return { responses := [wire], notes := ["POLL→DATA retransmit awaiting ACK"] }
  | _, _ => answerFromQueue now

/-- The fault of a DATA frame that is not processed. -/
def dataFault (pump : SimulatedPump) (now : Nat) (kind : ProtocolFaultKind)
    (message : String) (frame : DartLineFrame) : ProtocolFault where
  kind := kind
  message := message
  address := some pump.config.dartAddress
  sequence := some frame.sequence
  atMs := now

/-- DATA from the controller. -/
def onData (env : PumpEnv) (policy : SequencePolicy) (frame : DartLineFrame) :
    PumpM FrameExchangeResult := do
  let pump ← get
  if frame.crcValid = some false then
    let fault := { dataFault pump env.now .INVALID_CRC
        "invalid CRC; no application response" frame with
      rawFrameHex := some (bytesHex frame.rawFrame) }
    return { faults := [fault] }
  else if pump.lastAcceptedControllerSequence = some frame.sequence then
    let ack ← fromExcept (buildAck pump.config.dartAddress frame.sequence)
    return {
      responses := [ack]
      faults := [dataFault pump env.now .DUPLICATE_DATA
        s!"duplicate DATA seq={frame.sequence.val}; ACK without reprocess" frame]
      notes := ["dup DATA"] }
  else if frame.sequence ≠ pump.expectedControllerSequence then
    let nak ← fromExcept (buildNak pump.config.dartAddress frame.sequence)
    return {
      responses := [nak]
      faults := [dataFault pump env.now .UNEXPECTED_SEQUENCE
        (s!"expected seq={pump.expectedControllerSequence.val} " ++
          s!"got {frame.sequence.val}") frame]
      notes := ["DATA→NAK"] }
  else
    let appFaults ← SimulatedPump.handleApplicationPayload env frame.payload
    modify fun pump => { pump with
      lastAcceptedControllerSequence := some frame.sequence
      expectedControllerSequence := nextSequence frame.sequence policy }
    let ack ← fromExcept (buildAck pump.config.dartAddress frame.sequence)
    return {
      responses := [ack]
      faults := appFaults
      notes := "DATA→ACK" ::
        if appFaults.isEmpty then []
        else ["application faults recorded; ACK still sent for valid CRC/seq"] }

/-- ACK from the controller: the block it answers is done. -/
def onAck (now : Nat) (policy : SequencePolicy) (frame : DartLineFrame) :
    PumpM FrameExchangeResult := do
  let pump ← get
  match pump.awaitingAckSequence with
  | none => return { notes := ["spurious ACK ignored"] }
  | some awaiting =>
      if frame.sequence ≠ awaiting then
        return { faults := [dataFault pump now .UNEXPECTED_SEQUENCE
          s!"ACK seq {frame.sequence.val} != awaiting {awaiting.val}" frame] }
      else
        modify fun pump => { pump with
          txSequence := nextSequence pump.txSequence policy
          awaitingAckSequence := none
          dataPendingSinceMs := none
          lastOutboundWire := none }
        return { notes := ["ACK accepted; TX# advanced"] }

/-- Note something on the session and answer nothing. -/
def answerNothing (note : String) : SessionM FrameExchangeResult := do
  modify fun session => { session with notes := session.notes ++ [note] }
  return { notes := [note] }

/-- Refuse a frame with one fault. -/
def refuse (fault : ProtocolFault) : SessionM FrameExchangeResult := do
  modify fun session => { session with faults := session.faults ++ [fault] }
  return { faults := [fault] }

/-- Run a frame handler of the pump and keep its faults. -/
def handleOnPump (address : Byte) (action : PumpM FrameExchangeResult) :
    SessionM FrameExchangeResult := do
  let result ← onPump address action
  modify fun session => { session with faults := session.faults ++ result.faults }
  return result

/-- What the pump at the frame's address makes of a parsed frame. -/
def dispatch (uuid4 : String) (parsed : DartLineFrame) :
    SessionM FrameExchangeResult := do
  let session ← get
  let env : PumpEnv := ⟨session.clockMs, uuid4⟩
  let policy := session.config.sequencePolicy
  match parsed.controlType with
  | .POLL => handleOnPump parsed.address (onPoll env.now)
  | .DATA => handleOnPump parsed.address (onData env policy parsed)
  | .ACK => handleOnPump parsed.address (onAck env.now policy parsed)
  | .NAK =>
      answerNothing s!"NAK seq={parsed.sequence.val}; will retransmit on next POLL"
  | .IAP =>
      onPump parsed.address (modify (·.resetProtocolSequences))
      answerNothing "IAP: protocol sequence restart"
  | other => answerNothing s!"ignored control type {other.value}"

/-- Parse one controller frame and answer it. -/
def receive (uuid4 : String) (frameBytes : List Byte) :
    SessionM FrameExchangeResult := do
  let session ← get
  match parseFrame frameBytes with
  | .error parsed =>
      refuse {
        kind := .MALFORMED_FRAME
        message := parsed.message
        rawFrameHex := some (bytesHex frameBytes)
        atMs := session.clockMs }
  | .ok parsed =>
      match session.getPump parsed.address with
      | none =>
          refuse {
            kind := .UNKNOWN_ADDRESS
            message := s!"no simulated pump at address {parsed.address.toNat}"
            address := some parsed.address
            rawFrameHex := some (bytesHex frameBytes)
            atMs := session.clockMs }
      | some pump =>
          if pump.communicationEnabled = false then
            answerNothing
              (s!"address {parsed.address.toNat} " ++
                s!"communication disabled; no response")
          else dispatch uuid4 parsed

/-- No ACK within the response timeout: one fault, and the wait starts again. -/
def checkResponseTimeout (session : SimulatorSession) (address : Byte) :
    SimulatorSession :=
  match session.getPump address with
  | none => session
  | some pump =>
      match pump.awaitingAckSequence, pump.dataPendingSinceMs with
      | some awaiting, some since =>
          if session.clockMs - since ≥ session.config.responseTimeoutMs then
            let fault : ProtocolFault := {
              kind := .RESPONSE_TIMEOUT
              message := s!"no ACK within {session.config.responseTimeoutMs} ms"
              address := some pump.config.dartAddress
              sequence := some awaiting
              atMs := session.clockMs }
            { session.setPump address
                { pump with dataPendingSinceMs := some session.clockMs } with
              faults := session.faults ++ [fault] }
          else session
      | _, _ => session

/-- The loop over the pumps of one time advance. -/
def advancePumps (env : PumpEnv) : List Byte → SessionM Unit
  | [] => return ()
  | address :: rest => do
      onPump address (SimulatedPump.onTimeAdvance env)
      modify (·.checkResponseTimeout address)
      advancePumps env rest

/-- Advance simulated time and the filling engines. -/
def advance (milliseconds : Nat) : SessionM Unit := do
  modify fun session => { session with clockMs := session.clockMs + milliseconds }
  let session ← get
  advancePumps ⟨session.clockMs, ""⟩ (session.pumps.map (·.1))

end SimulatorSession
end Simulator
end Intelipump
