import Mathlib.Tactic.Common
import Intelipump.Controller.SessionModels
import Intelipump.Dart.Line.FrameParser
import Intelipump.Simulator.Config
import Intelipump.StateMachine.WayneMapper

namespace Intelipump
namespace Controller

open Domain
open Dart.Line
open Dart.Application
open Simulator
open StateMachine

/-!
# The controller's session for one pump address

Sequences, communication health and the normalized state of one pump.  The
published events are kept as the list of the session's bus.
-/

structure PumpSession where
  state : PumpSessionState
  events : List ControllerEvent
  sequencePolicy : SequencePolicy
  context : PumpContext
  appliedCompletionKeys : Finset String
deriving DecidableEq

namespace PumpSession

/-- A new session: sequences at zero, machine disconnected. -/
def create (address : Byte) (pumpId : String) (policy : SequencePolicy) :
    PumpSession where
  state := { address := address, pumpId := pumpId }
  events := []
  sequencePolicy := policy
  context := { pumpId := pumpId, dartAddress := address }
  appliedCompletionKeys := ∅

def address (session : PumpSession) : Byte := session.state.address

def publish (session : PumpSession) (event : ControllerEvent) : PumpSession :=
  { session with events := session.events ++ [event] }

/-- Publish an event that carries no payload. -/
def notify (session : PumpSession) (type : ControllerEventType)
    (detail : String) : PumpSession :=
  session.publish { type := type, address := session.address, detail := detail }

def publishStateChanged (session : PumpSession) (before after : PumpState)
    (event : PumpEvent) (context : PumpContext)
    (completionEvidenceKey : Option String) : PumpSession :=
  session.publish {
    type := .STATE_CHANGED
    address := session.address
    detail := s!"{before.value}->{after.value}"
    payload := .stateChanged {
      event := event
      previousState := before
      normalizedState := after
      stateVersion := context.stateVersion
      selectedNozzle := context.selectedNozzle
      activeTransactionId := context.activeTransactionId
      communicationHealthy := context.communicationHealthy
      rawWayneStatus := context.lastRawWayneStatus
      sourceFrameRef := context.lastSourceFrameHex
      completionEvidenceKey := completionEvidenceKey } }

/-- Take over the context of a machine result and publish a changed state. -/
def adoptResult (session : PumpSession) (event : PumpEvent)
    (result : TransitionResult) (completionEvidenceKey : Option String) :
    PumpSession :=
  let before := session.context.currentState
  let after := result.context.currentState
  let adopted : PumpSession :=
    { session with
      context := result.context
      state := { session.state with lastState := after } }
  if before ≠ after then
    adopted.publishStateChanged before after event result.context completionEvidenceKey
  else adopted

def applySm (session : PumpSession) (event : PumpEvent) : PumpSession :=
  session.adoptResult event (apply session.context event {}) none

/-- The keyword arguments `_apply_mapped` passes on to the machine. -/
def mappedArgs (mapped : MappedWayneObservation) : ApplyArgs where
  observation := some mapped.observation
  selectedNozzle := mapped.selectedNozzle
  rawWayneStatus := mapped.rawWayneStatus
  completionEvidenceKey := mapped.completionEvidenceKey
  allowImplicitAuthorizeToFilling := mapped.allowImplicitAuthorizeToFilling

/-- A completion key counts when it is a non-empty text. -/
def usableKey (mapped : MappedWayneObservation) : Option String :=
  mapped.completionEvidenceKey.filter (· ≠ "")

def applyMapped (session : PumpSession) (mapped : MappedWayneObservation) :
    PumpSession :=
  if ∃ key ∈ usableKey mapped, key ∈ session.appliedCompletionKeys then session
  else
    let result := apply session.context mapped.event (mappedArgs mapped)
    let remembered : PumpSession :=
      match usableKey mapped with
      | some key =>
          if result.accepted ∧ ¬ result.noop then
            { session with
              appliedCompletionKeys := insert key session.appliedCompletionKeys }
          else session
      | none => session
    remembered.adoptResult mapped.event result mapped.completionEvidenceKey

def setCommunication (session : PumpSession) (health : CommunicationHealth) :
    PumpSession :=
  let prev := session.state.communication
  let updated : PumpSession :=
    { session with state := { session.state with communication := health } }
  if prev = health then updated
  else
    let connected :=
      if health = .HEALTHY ∧ prev ∈ [.UNKNOWN, .DISCONNECTED, .DEGRADED] then
        updated.notify .PUMP_CONNECTED ""
      else updated
    if health = .DISCONNECTED then connected.notify .PUMP_DISCONNECTED ""
    else connected

/-- Count a poll and build it. -/
def buildPoll (session : PumpSession) : PumpSession × Except Raised (List Byte) :=
  let counted : PumpSession :=
    { session with
      state := { session.state with
        stats := { session.state.stats with
          pollCount := session.state.stats.pollCount + 1 } } }
  (counted.notify .POLL_SENT "", Dart.Line.buildPoll session.address)

def onTimeout (session : PumpSession) (maxConsecutive : Nat) : PumpSession :=
  let counted : PumpSession :=
    { session with
      state := { session.state with
        consecutiveTimeouts := session.state.consecutiveTimeouts + 1
        lastError := some "response_timeout"
        stats := { session.state.stats with
          timeoutCount := session.state.stats.timeoutCount + 1 } } }
  let noted := counted.notify .RESPONSE_TIMEOUT
    s!"consecutive={counted.state.consecutiveTimeouts}"
  if noted.state.consecutiveTimeouts ≥ maxConsecutive then
    (noted.setCommunication .DISCONNECTED).applySm .COMMUNICATION_LOST
  else if noted.state.consecutiveTimeouts ≥ 2 then noted.setCommunication .DEGRADED
  else noted

def transactionDecodedPayload (tx : ApplicationTransaction) :
    TransactionDecodedPayload where
  decodeStatus := tx.decodeStatus
  direction := tx.direction
  transactionType := tx.transactionType
  transactionId := tx.transactionId
  sourceFrameRef := tx.sourceFrameRawHex
  rawVolume :=
    match tx.decodedBody with
    | some (.dc2 volume _) => some volume.rawScaled
    | _ => none
  rawAmount :=
    match tx.decodedBody with
    | some (.dc2 _ amount) => some amount.rawScaled
    | _ => none
  rawPrice :=
    match tx.decodedBody with
    | some (.dc3 price _ _ _) => some price.rawScaled
    | _ => none

/-- The mapper context for a transaction that came from the pump. -/
def mapperContext (session : PumpSession) (tx : ApplicationTransaction) :
    MapperContext where
  currentState := some session.context.currentState
  previousWayneStatus := session.context.lastRawWayneStatus
  resolveAsDc1 := decide (tx.transactionId = 0x01)
  resolveAsDc3 := decide (tx.transactionId = 0x03)
  busDirection := some tx.direction

/-- One turn of the loop over the decoded transactions. -/
def applyTransaction (session : PumpSession) (tx : ApplicationTransaction) :
    PumpSession :=
  let published := session.publish {
    type := .APPLICATION_TRANSACTION_DECODED
    address := session.address
    detail := tx.transactionType.value
    payload := .transactionDecoded (transactionDecodedPayload tx) }
  published.applyMapped (mapWayneObservation tx (published.mapperContext tx))

/-- What the session tells the decoder about a frame. -/
def frameOrigin (session : PumpSession) (frame : DartLineFrame) : FrameOrigin where
  pumpAddress := some session.address
  lineSequence := some frame.sequence
  sourceFrameRawHex := some (bytesHex frame.rawFrame)

def decodeAndApply (session : PumpSession) (frame : DartLineFrame) : PumpSession :=
  (decodeDataPayload frame.payload (session.frameOrigin frame)).transactions.foldl
    applyTransaction session

/-- A frame was taken: the pump is there, and the machine leaves
`DISCONNECTED`. -/
def markResponsive (session : PumpSession) : PumpSession :=
  let healthy := session.setCommunication .HEALTHY
  if healthy.context.currentState = .DISCONNECTED then
    healthy.applySm .COMMUNICATION_STARTED
  else healthy

def onEot (session : PumpSession) : PumpSession × Option (List Byte) :=
  let counted : PumpSession :=
    { session with
      state := { session.state with
        consecutiveTimeouts := 0
        lastValidFrame := session.state.lastRawFrame
        stats := { session.state.stats with
          eotCount := session.state.stats.eotCount + 1 } } }
  (counted.markResponsive.notify .EOT_RECEIVED "", none)

def onNak (session : PumpSession) (frame : DartLineFrame) :
    PumpSession × Option (List Byte) :=
  let counted : PumpSession :=
    { session with
      state := { session.state with
        lastError := some s!"nak_seq_{frame.sequence.val}"
        stats := { session.state.stats with
          nakCount := session.state.stats.nakCount + 1
          retryCount := session.state.stats.retryCount + 1 } } }
  (counted.notify .NAK_RECEIVED s!"seq={frame.sequence.val}", none)

/-- DATA with a bad CRC: not decoded, not acknowledged. -/
def rejectCrc (session : PumpSession) : PumpSession :=
  let counted : PumpSession :=
    { session with
      state := { session.state with
        lastError := some "invalid_crc"
        stats := { session.state.stats with
          crcErrorCount := session.state.stats.crcErrorCount + 1 } } }
  counted.notify .FRAME_REJECTED "invalid_crc"

/-- A repeated block: acknowledged, not applied again. -/
def repeatAck (session : PumpSession) (frame : DartLineFrame) :
    PumpSession × Option (List Byte) :=
  let counted : PumpSession :=
    { session with
      state := { session.state with
        stats := { session.state.stats with
          duplicateCount := session.state.stats.duplicateCount + 1
          ackSentCount := session.state.stats.ackSentCount + 1 } } }
  (counted.notify .ACK_SENT "duplicate",
    (buildAck session.address frame.sequence).toOption)

/-- A block with an unexpected TX#: not applied, not acknowledged. -/
def rejectSequence (session : PumpSession) (frame : DartLineFrame) : PumpSession :=
  let error := s!"seq_mismatch expected={session.state.expectedRxSequence.val} " ++
    s!"got={frame.sequence.val}"
  let counted : PumpSession :=
    { session with
      state := { session.state with
        lastError := some error
        stats := { session.state.stats with
          sequenceErrorCount := session.state.stats.sequenceErrorCount + 1 } } }
  counted.notify .FRAME_REJECTED error

/-- The expected block: applied, remembered and acknowledged. -/
def acceptData (session : PumpSession) (frame : DartLineFrame) :
    PumpSession × Option (List Byte) :=
  let counted : PumpSession :=
    { session with
      state := { session.state with
        consecutiveTimeouts := 0
        lastValidFrame := some frame.rawFrame
        stats := { session.state.stats with
          dataCount := session.state.stats.dataCount + 1 } } }
  let applied := counted.markResponsive.decodeAndApply frame
  let advanced : PumpSession :=
    { applied with
      state := { applied.state with
        lastAcceptedRxSequence := some frame.sequence
        expectedRxSequence := nextSequence frame.sequence applied.sequencePolicy
        stats := { applied.state.stats with
          ackSentCount := applied.state.stats.ackSentCount + 1 } } }
  ((advanced.notify .DATA_RECEIVED s!"seq={frame.sequence.val}").notify .ACK_SENT
      s!"seq={frame.sequence.val}",
    (buildAck session.address frame.sequence).toOption)

def onData (session : PumpSession) (frame : DartLineFrame) :
    PumpSession × Option (List Byte) :=
  if frame.crcValid = some false then (session.rejectCrc, none)
  else if session.state.lastAcceptedRxSequence = some frame.sequence then
    session.repeatAck frame
  else if frame.sequence ≠ session.state.expectedRxSequence then
    (session.rejectSequence frame, none)
  else session.acceptData frame

/-- Remember the raw frame and say that it came in. -/
def noteFrame (session : PumpSession) (frame : DartLineFrame) : PumpSession :=
  let noted : PumpSession :=
    { session with
      state := { session.state with lastRawFrame := some frame.rawFrame } }
  noted.publish {
    type := .FRAME_RECEIVED
    address := session.address
    detail := frame.controlType.value
    payload := .rawHex (bytesHex frame.rawFrame) }

/-- Remember why a frame was not used. -/
def ignoreFrame (session : PumpSession) (error : String) : PumpSession :=
  { session with state := { session.state with lastError := some error } }

/-- Process a pump response; the bytes are an ACK to send. -/
def handleResponseFrame (session : PumpSession) (frame : DartLineFrame) :
    PumpSession × Option (List Byte) :=
  let noted := session.noteFrame frame
  if frame.address ≠ noted.address then (noted.ignoreFrame "address_mismatch", none)
  else
    match frame.controlType with
    | .EOT => noted.onEot
    | .DATA => noted.onData frame
    | .NAK => noted.onNak frame
    | other => (noted.ignoreFrame s!"unexpected_control_{other.value}", none)

end PumpSession
end Controller
end Intelipump
