import Mathlib.Tactic.Common
import Intelipump.Controller.SessionCore

namespace Intelipump
namespace Controller

open Domain
open Dart.Line
open Dart.Application
open StateMachine

/-!
# Reachable sessions

What holds of every session that was created and then saw response frames,
timeouts and polls.  The core of such a session is reached by single
transactions and communication events (`coreReachable_core`), so invariants of
the core are proved on those two kinds of step.
-/

/-- A session and its history of calls. -/
inductive PumpSession.Reachable : PumpSession → Prop
  | create (address : Byte) (pumpId : String) (policy : Simulator.SequencePolicy) :
      Reachable (PumpSession.create address pumpId policy)
  | response {session : PumpSession} {raw : List Byte} {frame : DartLineFrame}
      (hsession : Reachable session) (hparsed : parseFrame raw = .ok frame) :
      Reachable (session.handleResponseFrame frame).1
  | timeout {session : PumpSession} (hsession : Reachable session)
      (maxConsecutive : Nat) : Reachable (session.onTimeout maxConsecutive)
  | poll {session : PumpSession} (hsession : Reachable session) :
      Reachable session.buildPoll.1

/-- Cores reached by single transactions of parsed frames and by communication
events. -/
inductive SessionCore.Reachable (address : Byte) : SessionCore → Prop
  | initial (pumpId : String) :
      Reachable address ⟨{ pumpId := pumpId, dartAddress := address }, ∅⟩
  | event {core : SessionCore} {event : PumpEvent} (hcore : Reachable address core)
      (hevent : event = .COMMUNICATION_STARTED ∨ event = .COMMUNICATION_LOST) :
      Reachable address (core.applySm event)
  | transaction {core : SessionCore} {frame : DartLineFrame}
      {tx : ApplicationTransaction} (hcore : Reachable address core)
      (hparsed : parseFrame frame.rawFrame = .ok frame)
      (htx : tx ∈ SessionCore.frameTransactions address frame) :
      Reachable address (core.applyTransaction tx)

theorem SessionCore.Reachable.markResponsive {address : Byte} {core : SessionCore}
    (hcore : Reachable address core) : Reachable address core.markResponsive := by
  unfold SessionCore.markResponsive
  split
  · exact .event hcore (Or.inl rfl)
  · exact hcore

theorem SessionCore.Reachable.foldl {address : Byte} {core : SessionCore}
    {frame : DartLineFrame} (txs : List ApplicationTransaction)
    (hcore : Reachable address core) (hparsed : parseFrame frame.rawFrame = .ok frame)
    (htxs : ∀ tx ∈ txs, tx ∈ SessionCore.frameTransactions address frame) :
    Reachable address (txs.foldl SessionCore.applyTransaction core) := by
  induction txs generalizing core with
  | nil => exact hcore
  | cons tx rest ih =>
      obtain ⟨htx, hrest⟩ := List.forall_mem_cons.mp htxs
      exact ih (.transaction hcore hparsed htx) hrest

theorem SessionCore.Reachable.after {address : Byte} {core : SessionCore}
    {frame : DartLineFrame} (hcore : Reachable address core)
    (hparsed : parseFrame frame.rawFrame = .ok frame) (verdict : FrameVerdict) :
    Reachable address (core.after address frame verdict) := by
  cases verdict with
  | ignored => exact hcore
  | repeated => exact hcore
  | responsive => exact hcore.markResponsive
  | accepted => exact .foldl _ hcore.markResponsive hparsed fun tx htx => htx

/-- A frame that was parsed parses again from the wire image it carries. -/
theorem parseFrame_rawFrame {raw : List Byte} {frame : DartLineFrame}
    (hparsed : parseFrame raw = .ok frame) :
    parseFrame frame.rawFrame = .ok frame := by
  rw [rawFrame_of_parseFrame hparsed]
  exact hparsed

theorem address_handleResponseFrame (session : PumpSession) (frame : DartLineFrame) :
    (session.handleResponseFrame frame).1.address = session.address := by
  have hline := (session.handleResponseFrame_spec frame).1
  have haddress := congrArg ReceiveLine.address hline
  refine haddress.trans ?_
  unfold ReceiveLine.after
  split <;> rfl

theorem PumpSession.Reachable.coreReachable {session : PumpSession}
    (hsession : session.Reachable) :
    SessionCore.Reachable session.address session.core := by
  induction hsession with
  | create address pumpId policy => exact .initial pumpId
  | @response session raw frame hsession hparsed ih =>
      rw [address_handleResponseFrame, (session.handleResponseFrame_spec frame).2.1]
      exact ih.after (parseFrame_rawFrame hparsed) _
  | @timeout session hsession maxConsecutive ih =>
      have haddress : (session.onTimeout maxConsecutive).address = session.address :=
        congrArg ReceiveLine.address (PumpSession.receiveLine_onTimeout session _)
      rw [haddress, PumpSession.core_onTimeout]
      split
      · exact .event ih (Or.inr rfl)
      · exact ih
  | poll hsession ih => exact ih

/-! ## Runs of accepted frames -/

/-- Handle response frames one after another. -/
def PumpSession.handleFrames (session : PumpSession) (frames : List DartLineFrame) :
    PumpSession :=
  frames.foldl (fun session frame => (session.handleResponseFrame frame).1) session

/-- Parsed DATA frames, each of which the receive line takes: right address,
valid CRC, expected TX#. -/
def AcceptedInSequence : ReceiveLine → List DartLineFrame → Prop
  | _, [] => True
  | line, frame :: rest =>
      parseFrame frame.rawFrame = .ok frame ∧ line.verdict frame = .accepted ∧
        AcceptedInSequence (line.after frame) rest

instance decidableAcceptedInSequence : (line : ReceiveLine) →
    (frames : List DartLineFrame) → Decidable (AcceptedInSequence line frames)
  | _, [] => isTrue trivial
  | line, frame :: rest =>
      have := decidableAcceptedInSequence (line.after frame) rest
      inferInstanceAs (Decidable (_ ∧ _ ∧ _))

theorem parsed_of_acceptedInSequence {line : ReceiveLine} {frames : List DartLineFrame}
    (haccepted : AcceptedInSequence line frames) :
    ∀ frame ∈ frames, parseFrame frame.rawFrame = .ok frame := by
  induction frames generalizing line with
  | nil => simp
  | cons frame rest ih =>
      obtain ⟨hparsed, -, hrest⟩ := haccepted
      exact List.forall_mem_cons.mpr ⟨hparsed, ih hrest⟩

theorem acceptedInSequence_append {line : ReceiveLine} {left right : List DartLineFrame} :
    AcceptedInSequence line (left ++ right) ↔
      AcceptedInSequence line left ∧
        AcceptedInSequence (left.foldl ReceiveLine.after line) right := by
  induction left generalizing line with
  | nil => simp [AcceptedInSequence]
  | cons frame rest ih =>
      rw [List.cons_append, AcceptedInSequence, AcceptedInSequence, ih, List.foldl_cons]
      simp only [and_assoc]

/-- A run of accepted frames, on the core. -/
theorem PumpSession.core_handleFrames {session : PumpSession}
    {frames : List DartLineFrame}
    (haccepted : AcceptedInSequence session.receiveLine frames) :
    (session.handleFrames frames).core =
      frames.foldl (SessionCore.acceptData session.address) session.core := by
  induction frames generalizing session with
  | nil => rfl
  | cons frame rest ih =>
      obtain ⟨-, hverdict, hrest⟩ := haccepted
      obtain ⟨hline, hcore, -⟩ := session.handleResponseFrame_spec frame
      rw [← hline] at hrest
      rw [hverdict] at hcore
      have hrun := ih hrest
      rw [address_handleResponseFrame, hcore] at hrun
      exact hrun

theorem SessionCore.Reachable.run {address : Byte} {core : SessionCore}
    (hcore : Reachable address core) (frames : List DartLineFrame)
    (hparsed : ∀ frame ∈ frames, parseFrame frame.rawFrame = .ok frame) :
    Reachable address (frames.foldl (SessionCore.acceptData address) core) := by
  induction frames generalizing core with
  | nil => exact hcore
  | cons frame rest ih =>
      obtain ⟨hframe, hrest⟩ := List.forall_mem_cons.mp hparsed
      exact ih (hcore.after hframe .accepted) hrest

/-! ## Transactions of a frame -/

namespace SessionCore

/-- Every transaction of a frame names the frame's wire image. -/
theorem sourceFrame_of_mem {address : Byte} {frame : DartLineFrame}
    {tx : ApplicationTransaction} (htx : tx ∈ frameTransactions address frame) :
    tx.sourceFrameRawHex = some (bytesHex frame.rawFrame) := by
  obtain ⟨rawTx, -, rfl⟩ := List.mem_map.mp htx
  exact decodeRawTransaction_sourceFrameRawHex rawTx _

/-- The event a transaction is mapped to. -/
def eventOf (core : SessionCore) (tx : ApplicationTransaction) : PumpEvent :=
  (mapWayneObservation tx (core.mapperContext tx)).event

/-- The arguments the event goes to the machine with. -/
def argsOf (core : SessionCore) (tx : ApplicationTransaction) : ApplyArgs :=
  PumpSession.mappedArgs (mapWayneObservation tx (core.mapperContext tx))

/-- The branch the machine takes. -/
def outcomeOf (core : SessionCore) (tx : ApplicationTransaction) : Outcome :=
  outcome core.context (core.eventOf tx) (core.argsOf tx)

theorem sourceFrame_argsOf {address : Byte} {frame : DartLineFrame}
    {tx : ApplicationTransaction} (htx : tx ∈ frameTransactions address frame)
    (core : SessionCore) :
    (core.argsOf tx).sourceFrame = some (bytesHex frame.rawFrame) := by
  change (mapWayneObservation tx (core.mapperContext tx)).observation.sourceFrameRawHex = _
  rw [mapWayneObservation_sourceFrame, sourceFrame_of_mem htx]

/-- A transaction that is taken in leaves its frame as the last one. -/
theorem recordedSourceFrame_argsOf {address : Byte} {frame : DartLineFrame}
    {tx : ApplicationTransaction} (htx : tx ∈ frameTransactions address frame)
    (hparsed : parseFrame frame.rawFrame = .ok frame) (core : SessionCore)
    (context : PumpContext) :
    recordedSourceFrame context (core.argsOf tx) = some (bytesHex frame.rawFrame) := by
  have hne : bytesHex frame.rawFrame ≠ "" := bytesHex_ne_empty (parseFrame_ne_nil hparsed)
  unfold recordedSourceFrame
  rw [sourceFrame_argsOf htx]
  simp [hne]

/-- The completion key of a frame. -/
def frameCompletionKey (frame : DartLineFrame) : String :=
  completionKey { sourceFrameRawHex := some (bytesHex frame.rawFrame) }
    WaynePumpStatus.FILLING_COMPLETED.code

theorem frameCompletionKey_inj {left right : DartLineFrame}
    (heq : frameCompletionKey left = frameCompletionKey right) :
    left.rawFrame = right.rawFrame :=
  bytesHex_injective (completionKey_inj heq)

/-- Exactly a completion carries a key, and the session uses it as it is. -/
theorem completionKey_argsOf {address : Byte} {frame : DartLineFrame}
    {tx : ApplicationTransaction} (htx : tx ∈ frameTransactions address frame)
    (core : SessionCore) :
    (core.argsOf tx).completionEvidenceKey =
        (if core.eventOf tx = .FILLING_COMPLETED then some (frameCompletionKey frame)
          else none) ∧
      PumpSession.usableKey (mapWayneObservation tx (core.mapperContext tx)) =
        (core.argsOf tx).completionEvidenceKey := by
  have hne : frameCompletionKey frame ≠ "" := completionKey_ne_empty _ _
  unfold PumpSession.usableKey argsOf eventOf PumpSession.mappedArgs
  dsimp only
  rcases mapWayneObservation_completion tx (core.mapperContext tx) with
    ⟨hevent, hkey⟩ | ⟨hevent, hkey⟩
  · rw [SessionCore.sourceFrame_of_mem htx] at hkey
    change _ = some (frameCompletionKey frame) at hkey
    rw [hkey, if_pos hevent]
    exact ⟨rfl, by simp [hne]⟩
  · rw [hkey, if_neg hevent]
    exact ⟨rfl, rfl⟩

/-- A mapped observation, by its key. -/
theorem applyMapped_eq (core : SessionCore) (mapped : MappedWayneObservation) :
    core.applyMapped mapped =
      match PumpSession.usableKey mapped with
      | some key =>
          if key ∈ core.appliedKeys then core
          else
            { context := (apply core.context mapped.event
                (PumpSession.mappedArgs mapped)).context
              appliedKeys :=
                if (outcome core.context mapped.event
                    (PumpSession.mappedArgs mapped)).moves = true then
                  insert key core.appliedKeys
                else core.appliedKeys }
      | none =>
          { core with
            context := (apply core.context mapped.event
              (PumpSession.mappedArgs mapped)).context } := by
  have hmoves := accepted_and_not_noop_iff core.context mapped.event
    (PumpSession.mappedArgs mapped)
  unfold applyMapped
  cases PumpSession.usableKey mapped with
  | none => rw [if_neg (by simp)]
  | some key =>
      simp only [Option.mem_some_iff, exists_eq_left', hmoves]

/-- One transaction: dropped when it completes under a key the session has
applied, else given to the machine. -/
theorem applyTransaction_eq {address : Byte} {frame : DartLineFrame}
    {tx : ApplicationTransaction} (htx : tx ∈ frameTransactions address frame)
    (core : SessionCore) :
    core.applyTransaction tx =
      if core.eventOf tx = .FILLING_COMPLETED ∧
          frameCompletionKey frame ∈ core.appliedKeys then core
      else
        { context := contextAfter core.context (core.eventOf tx) (core.argsOf tx)
            (core.outcomeOf tx)
          appliedKeys :=
            if core.eventOf tx = .FILLING_COMPLETED ∧ (core.outcomeOf tx).moves = true then
              insert (frameCompletionKey frame) core.appliedKeys
            else core.appliedKeys } := by
  obtain ⟨hkey, husable⟩ := completionKey_argsOf htx core
  have hcontext := apply_context core.context (core.eventOf tx) (core.argsOf tx)
  have happly := applyMapped_eq core (mapWayneObservation tx (core.mapperContext tx))
  rw [husable] at happly
  rw [applyTransaction]
  by_cases hevent : core.eventOf tx = .FILLING_COMPLETED
  · rw [hkey, if_pos hevent] at happly
    rw [happly]
    dsimp only
    by_cases hseen : frameCompletionKey frame ∈ core.appliedKeys
    · rw [if_pos hseen, if_pos ⟨hevent, hseen⟩]
    · have hkept : ¬ (core.eventOf tx = .FILLING_COMPLETED ∧
          frameCompletionKey frame ∈ core.appliedKeys) := fun h => hseen h.2
      rw [if_neg hseen, if_neg hkept]
      refine congrArg₂ SessionCore.mk hcontext ?_
      simp only [hevent, true_and]
      rfl
  · have hkept : ¬ (core.eventOf tx = .FILLING_COMPLETED ∧
        frameCompletionKey frame ∈ core.appliedKeys) := fun h => hevent h.1
    have hnothing : ¬ (core.eventOf tx = .FILLING_COMPLETED ∧
        (core.outcomeOf tx).moves = true) := fun h => hevent h.1
    rw [hkey, if_neg hevent] at happly
    rw [happly, if_neg hkept, if_neg hnothing]
    exact congrArg₂ SessionCore.mk hcontext rfl

/-- The start of communication is a transition out of `DISCONNECTED`. -/
theorem context_markResponsive_eq (core : SessionCore) :
    core.markResponsive.context =
      if core.context.currentState = .DISCONNECTED then
        transitionContext core.context .COMMUNICATION_STARTED {} .DISCOVERING
      else core.context := by
  unfold markResponsive
  split
  · rename_i hdisconnected
    have hbranch : outcome core.context .COMMUNICATION_STARTED {} =
        .transition .DISCOVERING := by
      rw [outcome_eq_tableOutcome (not_isStale rfl) (fun h => h.1 rfl)
        (fun h => by cases h.1), hdisconnected]
      rfl
    change (apply core.context .COMMUNICATION_STARTED {}).context = _
    rw [apply_context, hbranch]
    rfl
  · rfl

/-- The communication event leaves the filters as they were. -/
theorem lastSourceFrameHex_markResponsive (core : SessionCore) :
    core.markResponsive.context.lastSourceFrameHex = core.context.lastSourceFrameHex := by
  rw [context_markResponsive_eq]
  split <;> rfl

theorem completedEvidenceKeys_markResponsive (core : SessionCore) :
    core.markResponsive.context.completedEvidenceKeys =
      core.context.completedEvidenceKeys := by
  rw [context_markResponsive_eq]
  split <;> rfl

theorem lastRawWayneStatus_markResponsive (core : SessionCore) :
    core.markResponsive.context.lastRawWayneStatus = core.context.lastRawWayneStatus := by
  rw [context_markResponsive_eq]
  split <;> rfl

theorem appliedKeys_markResponsive (core : SessionCore) :
    core.markResponsive.appliedKeys = core.appliedKeys := by
  unfold markResponsive
  split <;> rfl

/-- The first sign of a pump ends `DISCONNECTED`. -/
def respond (state : PumpState) : PumpState :=
  if state = .DISCONNECTED then .DISCOVERING else state

theorem currentState_markResponsive (core : SessionCore) :
    core.markResponsive.context.currentState = respond core.context.currentState := by
  rw [context_markResponsive_eq]
  unfold respond
  split <;> rfl

/-- The transaction a frame with a single DC1 carries. -/
def statusTransaction (address : Byte) (frame : DartLineFrame) (code : Byte) :
    ApplicationTransaction :=
  decodeAmbiguous01
    { transactionId := 0x01, length := 1, data := [code], raw := [0x01, 0x01, code]
      offset := 0 }
    (frameOrigin address frame)

/-- What the mapper is told about that transaction. -/
def statusObservation (frame : DartLineFrame) (code : Byte) : ObservationRef where
  sourceFrameRawHex := some (bytesHex frame.rawFrame)
  transactionId := some 0x01
  transactionType := some TransactionType.AMBIGUOUS_CD1_OR_DC1.value
  rawWayneStatus := some code

theorem frameTransactions_status {address : Byte} {frame : DartLineFrame} {code : Byte}
    (hpayload : frame.payload = [0x01, 0x01, code]) :
    frameTransactions address frame = [statusTransaction address frame code] := by
  unfold frameTransactions decodeDataPayload
  rw [hpayload, splitTransactions_unit 0x01 0x01 [code] rfl]
  rfl

/-- A lone DC1 is resolved as a pump status. -/
theorem mapWayneObservation_status (core : SessionCore) (address : Byte)
    (frame : DartLineFrame) (code : Byte) :
    mapWayneObservation (statusTransaction address frame code)
        (core.mapperContext (statusTransaction address frame code)) =
      statusCodeToEvent code (statusObservation frame code)
        core.context.lastRawWayneStatus (some core.context.currentState) := rfl

end SessionCore
end Controller
end Intelipump
