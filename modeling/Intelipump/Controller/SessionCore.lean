import Mathlib.Tactic.Common
import Intelipump.Controller.PumpSession

namespace Intelipump
namespace Controller

open Domain
open Dart.Line
open Dart.Application
open Simulator
open StateMachine

/-!
# The two halves of a session

A session keeps two things that later frames depend on: its receive line
(`ReceiveLine`) and the core that decides the pump state (`SessionCore`).  They
do not read each other, and counters, texts and published events influence
neither.  The lemmas here say, for every operation of `PumpSession`, what it
does to each half; nothing later unfolds those operations again.
-/

/-- What decides which DATA block is taken. -/
structure ReceiveLine where
  address : Byte
  policy : SequencePolicy
  expected : Fin 16
  lastAccepted : Option (Fin 16)
deriving DecidableEq, Repr

/-- What decides the pump state. -/
structure SessionCore where
  context : PumpContext
  appliedKeys : Finset String
deriving DecidableEq

namespace SessionCore

/-- Take an event into the machine. -/
def applySm (core : SessionCore) (event : PumpEvent) : SessionCore :=
  { core with context := (apply core.context event {}).context }

def markResponsive (core : SessionCore) : SessionCore :=
  if core.context.currentState = .DISCONNECTED then
    core.applySm .COMMUNICATION_STARTED
  else core

def applyMapped (core : SessionCore) (mapped : MappedWayneObservation) :
    SessionCore :=
  if ∃ key ∈ PumpSession.usableKey mapped, key ∈ core.appliedKeys then core
  else
    let result := apply core.context mapped.event (PumpSession.mappedArgs mapped)
    { context := result.context
      appliedKeys :=
        match PumpSession.usableKey mapped with
        | some key =>
            if result.accepted ∧ ¬ result.noop then insert key core.appliedKeys
            else core.appliedKeys
        | none => core.appliedKeys }

/-- The mapper context of a core. -/
def mapperContext (core : SessionCore) (tx : ApplicationTransaction) :
    MapperContext where
  currentState := some core.context.currentState
  previousWayneStatus := core.context.lastRawWayneStatus
  resolveAsDc1 := decide (tx.transactionId = 0x01)
  resolveAsDc3 := decide (tx.transactionId = 0x03)
  busDirection := some tx.direction

def applyTransaction (core : SessionCore) (tx : ApplicationTransaction) :
    SessionCore :=
  core.applyMapped (mapWayneObservation tx (core.mapperContext tx))

/-- What a frame says about its origin. -/
def frameOrigin (address : Byte) (frame : DartLineFrame) : FrameOrigin where
  pumpAddress := some address
  lineSequence := some frame.sequence
  sourceFrameRawHex := some (bytesHex frame.rawFrame)

/-- The decoded transactions of a frame. -/
def frameTransactions (address : Byte) (frame : DartLineFrame) :
    List ApplicationTransaction :=
  (decodeDataPayload frame.payload (frameOrigin address frame)).transactions

def decodeAndApply (address : Byte) (core : SessionCore) (frame : DartLineFrame) :
    SessionCore :=
  (frameTransactions address frame).foldl applyTransaction core

/-- Everything an accepted DATA frame does to the core. -/
def acceptData (address : Byte) (core : SessionCore) (frame : DartLineFrame) :
    SessionCore :=
  decodeAndApply address core.markResponsive frame

end SessionCore

namespace PumpSession

def receiveLine (session : PumpSession) : ReceiveLine where
  address := session.state.address
  policy := session.sequencePolicy
  expected := session.state.expectedRxSequence
  lastAccepted := session.state.lastAcceptedRxSequence

def core (session : PumpSession) : SessionCore where
  context := session.context
  appliedKeys := session.appliedCompletionKeys

@[simp] theorem receiveLine_publish (session : PumpSession) (event : ControllerEvent) :
    (session.publish event).receiveLine = session.receiveLine := rfl

@[simp] theorem core_publish (session : PumpSession) (event : ControllerEvent) :
    (session.publish event).core = session.core := rfl

@[simp] theorem receiveLine_notify (session : PumpSession)
    (type : ControllerEventType) (detail : String) :
    (session.notify type detail).receiveLine = session.receiveLine := rfl

@[simp] theorem core_notify (session : PumpSession) (type : ControllerEventType)
    (detail : String) : (session.notify type detail).core = session.core := rfl

@[simp] theorem receiveLine_adoptResult (session : PumpSession) (event : PumpEvent)
    (result : TransitionResult) (key : Option String) :
    (session.adoptResult event result key).receiveLine = session.receiveLine := by
  unfold adoptResult
  dsimp only
  split <;> rfl

@[simp] theorem core_adoptResult (session : PumpSession) (event : PumpEvent)
    (result : TransitionResult) (key : Option String) :
    (session.adoptResult event result key).core =
      { session.core with context := result.context } := by
  unfold adoptResult
  dsimp only
  split <;> rfl

@[simp] theorem receiveLine_applySm (session : PumpSession) (event : PumpEvent) :
    (session.applySm event).receiveLine = session.receiveLine := by
  simp [applySm]

@[simp] theorem core_applySm (session : PumpSession) (event : PumpEvent) :
    (session.applySm event).core = session.core.applySm event := by
  rw [applySm, core_adoptResult]
  rfl

@[simp] theorem receiveLine_applyMapped (session : PumpSession)
    (mapped : MappedWayneObservation) :
    (session.applyMapped mapped).receiveLine = session.receiveLine := by
  unfold applyMapped
  split
  · rfl
  · rw [receiveLine_adoptResult]
    cases usableKey mapped with
    | none => rfl
    | some key => dsimp only; split <;> rfl

@[simp] theorem core_applyMapped (session : PumpSession)
    (mapped : MappedWayneObservation) :
    (session.applyMapped mapped).core = session.core.applyMapped mapped := by
  unfold applyMapped SessionCore.applyMapped
  by_cases hseen : ∃ key ∈ usableKey mapped, key ∈ session.appliedCompletionKeys
  · rw [if_pos hseen]
    exact (if_pos hseen).symm
  · rw [if_neg hseen, core_adoptResult]
    refine Eq.trans ?_ (if_neg hseen).symm
    cases usableKey mapped with
    | none => rfl
    | some key => dsimp only [core]; split <;> rfl

@[simp] theorem receiveLine_setCommunication (session : PumpSession)
    (health : CommunicationHealth) :
    (session.setCommunication health).receiveLine = session.receiveLine := by
  unfold setCommunication
  dsimp only
  split
  · rfl
  · split <;> split <;> rfl

@[simp] theorem core_setCommunication (session : PumpSession)
    (health : CommunicationHealth) :
    (session.setCommunication health).core = session.core := by
  unfold setCommunication
  dsimp only
  split
  · rfl
  · split <;> split <;> rfl

@[simp] theorem receiveLine_markResponsive (session : PumpSession) :
    session.markResponsive.receiveLine = session.receiveLine := by
  unfold markResponsive
  dsimp only
  split <;> simp

@[simp] theorem core_markResponsive (session : PumpSession) :
    session.markResponsive.core = session.core.markResponsive := by
  have hstate : (session.setCommunication .HEALTHY).context = session.context :=
    congrArg SessionCore.context (core_setCommunication session .HEALTHY)
  unfold markResponsive SessionCore.markResponsive
  dsimp only
  rw [hstate]
  change _ = if session.context.currentState = .DISCONNECTED then _ else _
  split <;> simp

@[simp] theorem receiveLine_applyTransaction (session : PumpSession)
    (tx : ApplicationTransaction) :
    (session.applyTransaction tx).receiveLine = session.receiveLine := by
  simp [applyTransaction]

@[simp] theorem core_applyTransaction (session : PumpSession)
    (tx : ApplicationTransaction) :
    (session.applyTransaction tx).core = session.core.applyTransaction tx := by
  unfold applyTransaction
  dsimp only
  rw [core_applyMapped, core_publish]
  rfl

theorem receiveLine_foldl (session : PumpSession) (txs : List ApplicationTransaction) :
    (txs.foldl applyTransaction session).receiveLine = session.receiveLine := by
  induction txs generalizing session with
  | nil => rfl
  | cons tx rest ih => rw [List.foldl_cons, ih, receiveLine_applyTransaction]

theorem core_foldl (session : PumpSession) (txs : List ApplicationTransaction) :
    (txs.foldl applyTransaction session).core =
      txs.foldl SessionCore.applyTransaction session.core := by
  induction txs generalizing session with
  | nil => rfl
  | cons tx rest ih => rw [List.foldl_cons, ih, core_applyTransaction, List.foldl_cons]

@[simp] theorem receiveLine_decodeAndApply (session : PumpSession)
    (frame : DartLineFrame) :
    (session.decodeAndApply frame).receiveLine = session.receiveLine :=
  receiveLine_foldl session _

@[simp] theorem core_decodeAndApply (session : PumpSession) (frame : DartLineFrame) :
    (session.decodeAndApply frame).core =
      session.core.decodeAndApply session.address frame :=
  core_foldl session _

/-! ## One response frame -/

end PumpSession

/-- What a session makes of a response frame. -/
inductive FrameVerdict where
  | ignored | responsive | repeated | accepted
deriving DecidableEq, Repr

namespace ReceiveLine

/-- The verdict on a frame; only the receive line is asked. -/
def verdict (line : ReceiveLine) (frame : DartLineFrame) : FrameVerdict :=
  if frame.address ≠ line.address then .ignored
  else
    match frame.controlType with
    | .EOT => .responsive
    | .DATA =>
        if frame.crcValid = some false then .ignored
        else if line.lastAccepted = some frame.sequence then .repeated
        else if frame.sequence ≠ line.expected then .ignored
        else .accepted
    | _ => .ignored

/-- The receive line after a frame. -/
def after (line : ReceiveLine) (frame : DartLineFrame) : ReceiveLine :=
  match line.verdict frame with
  | .accepted => { line with
      lastAccepted := some frame.sequence
      expected := nextSequence frame.sequence line.policy }
  | _ => line

/-- The ACK that answers a frame. -/
def ackFor (line : ReceiveLine) (frame : DartLineFrame) : Option (List Byte) :=
  match line.verdict frame with
  | .accepted | .repeated => some (ackWire line.address frame.sequence)
  | _ => none

end ReceiveLine

/-- The core after a frame with a given verdict. -/
def SessionCore.after (address : Byte) (core : SessionCore) (frame : DartLineFrame) :
    FrameVerdict → SessionCore
  | .accepted => core.acceptData address frame
  | .responsive => core.markResponsive
  | _ => core

namespace PumpSession

theorem repeatAck_spec (session : PumpSession) (frame : DartLineFrame) :
    (session.repeatAck frame).1.receiveLine = session.receiveLine ∧
      (session.repeatAck frame).1.core = session.core ∧
      (session.repeatAck frame).2 = some (ackWire session.address frame.sequence) := by
  unfold repeatAck
  rw [buildAck_eq_ok]
  exact ⟨rfl, rfl, rfl⟩

theorem acceptData_spec (session : PumpSession) (frame : DartLineFrame) :
    (session.acceptData frame).1.receiveLine =
        { session.receiveLine with
          lastAccepted := some frame.sequence
          expected := nextSequence frame.sequence session.sequencePolicy } ∧
      (session.acceptData frame).1.core =
        session.core.acceptData session.address frame ∧
      (session.acceptData frame).2 = some (ackWire session.address frame.sequence) := by
  unfold acceptData
  dsimp only
  rw [buildAck_eq_ok]
  generalize hcounted : ({ session with state := _ } : PumpSession) = counted
  have hline : counted.receiveLine = session.receiveLine := by
    rw [← hcounted]
    rfl
  have hcore : counted.core = session.core := by
    rw [← hcounted]
    rfl
  have hmarked : (counted.markResponsive.decodeAndApply frame).receiveLine =
      session.receiveLine := by
    rw [receiveLine_decodeAndApply, receiveLine_markResponsive, hline]
  have haddress : counted.markResponsive.address = session.address :=
    congrArg ReceiveLine.address
      ((receiveLine_markResponsive counted).trans hline)
  have hpolicy := congrArg ReceiveLine.policy hmarked
  have hkept := congrArg ReceiveLine.address hmarked
  refine ⟨?_, ?_, rfl⟩
  · simp only [receiveLine_notify]
    change ReceiveLine.mk _ _ _ _ = _
    change (counted.markResponsive.decodeAndApply frame).sequencePolicy =
      session.sequencePolicy at hpolicy
    change (counted.markResponsive.decodeAndApply frame).state.address =
      session.state.address at hkept
    dsimp only
    rw [hpolicy, hkept]
    rfl
  · simp only [core_notify]
    change (counted.markResponsive.decodeAndApply frame).core = _
    rw [core_decodeAndApply, core_markResponsive, hcore, haddress]
    rfl

/-- Which handler a response frame goes to, and its verdict. -/
theorem handleResponseFrame_cases (session : PumpSession) (frame : DartLineFrame) :
    let noted := session.noteFrame frame
    let handled := session.handleResponseFrame frame
    (session.receiveLine.verdict frame = .accepted ∧ handled = noted.acceptData frame) ∨
      (session.receiveLine.verdict frame = .repeated ∧ handled = noted.repeatAck frame) ∨
      (session.receiveLine.verdict frame = .responsive ∧ handled = noted.onEot) ∨
      (session.receiveLine.verdict frame = .ignored ∧
        (handled = noted.onNak frame ∨ handled = (noted.rejectCrc, none) ∨
          handled = (noted.rejectSequence frame, none) ∨
          ∃ error, handled = (noted.ignoreFrame error, none))) := by
  unfold handleResponseFrame ReceiveLine.verdict
  dsimp only
  by_cases haddress : frame.address = session.state.address
  · rw [if_neg (show ¬ frame.address ≠ (session.noteFrame frame).address
        from not_not.mpr haddress),
      if_neg (show ¬ frame.address ≠ session.receiveLine.address from not_not.mpr haddress)]
    cases frame.controlType with
    | EOT => exact Or.inr (Or.inr (Or.inl ⟨rfl, rfl⟩))
    | DATA =>
        dsimp only [onData]
        by_cases hcrc : frame.crcValid = some false
        · rw [if_pos hcrc, if_pos hcrc]
          exact Or.inr (Or.inr (Or.inr ⟨rfl, Or.inr (Or.inl rfl)⟩))
        · rw [if_neg hcrc, if_neg hcrc]
          by_cases hrepeated : session.state.lastAcceptedRxSequence = some frame.sequence
          · rw [if_pos (show (session.noteFrame frame).state.lastAcceptedRxSequence =
                some frame.sequence from hrepeated),
              if_pos (show session.receiveLine.lastAccepted = some frame.sequence
                from hrepeated)]
            exact Or.inr (Or.inl ⟨rfl, rfl⟩)
          · rw [if_neg (show ¬ (session.noteFrame frame).state.lastAcceptedRxSequence =
                some frame.sequence from hrepeated),
              if_neg (show ¬ session.receiveLine.lastAccepted = some frame.sequence
                from hrepeated)]
            by_cases hexpected : frame.sequence = session.state.expectedRxSequence
            · rw [if_neg (show ¬ frame.sequence ≠
                  (session.noteFrame frame).state.expectedRxSequence
                  from not_not.mpr hexpected),
                if_neg (show ¬ frame.sequence ≠ session.receiveLine.expected
                  from not_not.mpr hexpected)]
              exact Or.inl ⟨rfl, rfl⟩
            · rw [if_pos (show frame.sequence ≠
                  (session.noteFrame frame).state.expectedRxSequence from hexpected),
                if_pos (show frame.sequence ≠ session.receiveLine.expected
                  from hexpected)]
              exact Or.inr (Or.inr (Or.inr ⟨rfl, Or.inr (Or.inr (Or.inl rfl))⟩))
    | NAK => exact Or.inr (Or.inr (Or.inr ⟨rfl, Or.inl rfl⟩))
    | _ => exact Or.inr (Or.inr (Or.inr ⟨rfl, Or.inr (Or.inr (Or.inr ⟨_, rfl⟩))⟩))
  · rw [if_pos (show frame.address ≠ (session.noteFrame frame).address from haddress),
      if_pos (show frame.address ≠ session.receiveLine.address from haddress)]
    exact Or.inr (Or.inr (Or.inr ⟨rfl, Or.inr (Or.inr (Or.inr ⟨_, rfl⟩))⟩))

/-- Everything a response frame does, by its verdict. -/
theorem handleResponseFrame_spec (session : PumpSession) (frame : DartLineFrame) :
    (session.handleResponseFrame frame).1.receiveLine =
        session.receiveLine.after frame ∧
      (session.handleResponseFrame frame).1.core =
        session.core.after session.address frame (session.receiveLine.verdict frame) ∧
      (session.handleResponseFrame frame).2 = session.receiveLine.ackFor frame := by
  unfold ReceiveLine.after ReceiveLine.ackFor
  rcases handleResponseFrame_cases session frame with
    ⟨hverdict, hhandled⟩ | ⟨hverdict, hhandled⟩ | ⟨hverdict, hhandled⟩ | ⟨hverdict, hignored⟩
  · rw [hverdict, hhandled]
    exact acceptData_spec (session.noteFrame frame) frame
  · rw [hverdict, hhandled]
    exact repeatAck_spec (session.noteFrame frame) frame
  · rw [hverdict, hhandled]
    dsimp only [onEot]
    rw [receiveLine_notify, core_notify, receiveLine_markResponsive, core_markResponsive]
    exact ⟨rfl, rfl, rfl⟩
  · rw [hverdict]
    rcases hignored with hhandled | hhandled | hhandled | ⟨error, hhandled⟩
    · rw [hhandled]
      exact ⟨rfl, rfl, rfl⟩
    · rw [hhandled]
      exact ⟨rfl, rfl, rfl⟩
    · rw [hhandled]
      exact ⟨rfl, rfl, rfl⟩
    · rw [hhandled]
      exact ⟨rfl, rfl, rfl⟩

@[simp] theorem receiveLine_onTimeout (session : PumpSession) (maxConsecutive : Nat) :
    (session.onTimeout maxConsecutive).receiveLine = session.receiveLine := by
  unfold onTimeout
  dsimp only
  split
  · rw [receiveLine_applySm, receiveLine_setCommunication]
    rfl
  · split
    · rw [receiveLine_setCommunication]
      rfl
    · rfl

/-- A timeout leaves the core alone or takes the loss of communication in. -/
theorem core_onTimeout (session : PumpSession) (maxConsecutive : Nat) :
    (session.onTimeout maxConsecutive).core =
      if session.state.consecutiveTimeouts + 1 ≥ maxConsecutive then
        session.core.applySm .COMMUNICATION_LOST
      else session.core := by
  unfold onTimeout
  dsimp only
  split
  · rename_i hlost
    rw [if_pos (show session.state.consecutiveTimeouts + 1 ≥ maxConsecutive from hlost),
      core_applySm, core_setCommunication]
    rfl
  · rename_i hkept
    rw [if_neg (show ¬ session.state.consecutiveTimeouts + 1 ≥ maxConsecutive
      from hkept)]
    split
    · rw [core_setCommunication]
      rfl
    · rfl

end PumpSession
end Controller
end Intelipump
