import Mathlib.Tactic.Common
import Intelipump.Controller.Health
import Intelipump.Services.RecoveryService
import Intelipump.StateMachine.Reconciliation

namespace Intelipump
namespace Services

open Controller
open Dart.Application
open Dart.Line
open Domain
open Foundation
open StateMachine

/-!
# Sessions after a restart

A session seeded with a recovered context meets live frames.  Its health agrees with the
machine's only once communication was lost and found again, and it follows the live pump
only where the transition table leads there; the pure reconciliation does both at once.
-/

/-- The session of an address after the recovered contexts were applied; with no context
for the address it is a new session. -/
def startedSession (contexts : List (String × PumpContext)) (address : Byte)
    (pumpId : String) (policy : Simulator.SequencePolicy) : PumpSession :=
  seedSession contexts (PumpSession.create address pumpId policy)

/-- Seeding touches neither the receive line nor the session's own health and keys. -/
theorem seedSession_keeps (contexts : List (String × PumpContext)) (session : PumpSession) :
    (seedSession contexts session).receiveLine = session.receiveLine ∧
      (seedSession contexts session).state.communication = session.state.communication ∧
      (seedSession contexts session).appliedCompletionKeys =
        session.appliedCompletionKeys := by
  unfold seedSession
  split <;> exact ⟨rfl, rfl, rfl⟩

theorem context_seedSession {contexts : List (String × PumpContext)} {session : PumpSession}
    {ctx : PumpContext} (hctx : (contexts.map (·.2)).reverse.find?
      (·.dartAddress = session.address) = some ctx) :
    (seedSession contexts session).context = { ctx with communicationHealthy := false } := by
  unfold seedSession
  rw [hctx]

/-! ## Health -/

/-- A session that has heard nothing agrees with its machine. -/
theorem healthAgrees_startedSession (contexts : List (String × PumpContext)) (address : Byte)
    (pumpId : String) (policy : Simulator.SequencePolicy) :
    HealthAgrees (startedSession contexts address pumpId policy) := by
  have hcommunication :
      (startedSession contexts address pumpId policy).state.communication = .UNKNOWN :=
    (seedSession_keeps contexts (PumpSession.create address pumpId policy)).2.1
  unfold HealthAgrees
  rw [hcommunication]
  refine ⟨fun hhealthy => ?_, fun hdisconnected => ?_⟩
  · cases hhealthy
  · cases hdisconnected

/-- In every state of a run from a new or a seeded session the two health flags agree
exactly when every frame is taken in `DISCONNECTED` or while the machine counts as
healthy. -/
theorem started_health_agrees_iff (contexts : List (String × PumpContext)) (address : Byte)
    (pumpId : String) (policy : Simulator.SequencePolicy) (inputs : List SessionInput) :
    (∀ earlier, earlier <+: inputs →
        HealthAgrees ((startedSession contexts address pumpId policy).run earlier)) ↔
      Runs.Along PumpSession.take TakenInHealth
        (startedSession contexts address pumpId policy) inputs :=
  healthAgrees_run_iff inputs (healthAgrees_startedSession contexts address pumpId policy)

/-- Without a recovered context the flags always agree. -/
theorem fresh_health_agrees (address : Byte) (pumpId : String)
    (policy : Simulator.SequencePolicy) (inputs : List SessionInput) :
    HealthAgrees ((PumpSession.create address pumpId policy).run inputs) :=
  healthAgrees_of_disconnected inputs
    (healthAgrees_startedSession [] address pumpId policy) rfl

/-- The frame of an idle pump. -/
def eotFrame : DartLineFrame where
  address := 0x01
  control := 0x70
  controlType := .EOT
  sequence := 0
  payload := []
  receivedCrc := none
  computedCrc := none
  crcValid := none
  rawFrame := [0x01, 0x70, 0xFA]
  unknownControl := false

/-- A pump that was READY before the restart and answers the first poll. -/
theorem seeded_health_disagrees :
    ¬ ∀ earlier, earlier <+: [SessionInput.response eotFrame] →
      HealthAgrees ((startedSession
        [("pump-1", { pumpId := "pump-1", dartAddress := 0x01, currentState := .READY })]
        0x01 "pump-1" .SPEC_F_TO_1).run earlier) := by
  intro hagrees
  have hlast := hagrees [SessionInput.response eotFrame] List.prefix_rfl
  revert hlast
  decide

/-! ## The live state -/

/-- The persisted states that the table leaves for the live state when it sees the status;
a FILLING counts by the status seen before it. -/
def leadsToLive (status : WaynePumpStatus) (previousWayneStatus : Option Byte) :
    List PumpState :=
  match status with
  | .PUMP_NOT_PROGRAMMED => [.DISCONNECTED, .DISCOVERING, .RESET]
  | .RESET =>
      [.DISCONNECTED, .DISCOVERING, .NOT_PROGRAMMED, .READY, .LIMIT_REACHED, .FILLING_COMPLETE]
  | .AUTHORIZED => [.NOZZLE_UP]
  | .FILLING =>
      if previousWayneStatus = some WaynePumpStatus.SUSPENDED.code then [.SUSPENDED]
      else if previousWayneStatus = some WaynePumpStatus.FILLING.code then []
      else [.AUTHORIZED]
  | .FILLING_COMPLETED => [.FILLING, .SUSPENDED, .LIMIT_REACHED]
  | .MAX_AMOUNT_VOLUME_REACHED => [.FILLING, .SUSPENDED]
  | .SUSPENDED => [.FILLING]
  | .SWITCHED_OFF => []

/-- The context has recorded the frame, or the completion that it carries. -/
def IsReplay (ctx : PumpContext) (status : WaynePumpStatus) (frame : DartLineFrame) : Prop :=
  ctx.lastSourceFrameHex = some (bytesHex frame.rawFrame) ∨
    status = .FILLING_COMPLETED ∧
      SessionCore.frameCompletionKey frame ∈ ctx.completedEvidenceKeys

instance (ctx : PumpContext) (status : WaynePumpStatus) (frame : DartLineFrame) :
    Decidable (IsReplay ctx status frame) :=
  inferInstanceAs (Decidable (_ ∨ _ ∧ _))

/-- The persisted state is the live one already, or the frame is new and the table leads to
the live state. -/
def FollowsLive (ctx : PumpContext) (status : WaynePumpStatus) (frame : DartLineFrame) : Prop :=
  liveStateOf status = some ctx.currentState ∨
    ¬ IsReplay ctx status frame ∧
      ctx.currentState ∈ leadsToLive status ctx.lastRawWayneStatus

instance (ctx : PumpContext) (status : WaynePumpStatus) (frame : DartLineFrame) :
    Decidable (FollowsLive ctx status frame) :=
  inferInstanceAs (Decidable (_ ∨ ¬ _ ∧ _))

/-- The state that an outcome leads to. -/
def stateFrom (state : PumpState) : Outcome → PumpState
  | .transition target => target
  | _ => state

/-- The event of a status, which no observation changes. -/
def statusEvent (status : WaynePumpStatus) (previousWayneStatus : Option Byte)
    (state : PumpState) : PumpEvent :=
  (statusCodeToEvent status.code { } previousWayneStatus (some state)).event

/-- Only FILLING is read in the light of the status before it. -/
theorem statusEvent_of_ne_filling {status : WaynePumpStatus} (hne : status ≠ .FILLING)
    (previousWayneStatus : Option Byte) (state : PumpState) :
    statusEvent status previousWayneStatus state = statusEvent status none state ∧
      leadsToLive status previousWayneStatus = leadsToLive status none := by
  cases status with
  | FILLING => exact absurd rfl hne
  | _ => exact ⟨rfl, rfl⟩

/-- A replay leaves the pump where its first answer put it. -/
theorem respond_eq_live_iff {status : WaynePumpStatus} {liveState state : PumpState}
    (hlive : liveStateOf status = some liveState) :
    SessionCore.respond state = liveState ↔ state = liveState := by
  unfold SessionCore.respond
  split
  · rename_i hdisconnected
    rw [hdisconnected]
    revert hlive
    cases status <;> cases liveState <;> decide
  · rfl

/-- A new frame leads to the live state exactly from that state and from those the table
leaves for it. -/
theorem stateFrom_tableOutcome_iff {status : WaynePumpStatus} {liveState : PumpState}
    (hlive : liveStateOf status = some liveState) (state : PumpState)
    (previousWayneStatus : Option Byte) :
    stateFrom (SessionCore.respond state)
        (tableOutcome (SessionCore.respond state)
          (statusEvent status previousWayneStatus (SessionCore.respond state)) false) =
        liveState ↔
      state = liveState ∨ state ∈ leadsToLive status previousWayneStatus := by
  by_cases hne : status = .FILLING
  · obtain rfl := hne
    cases hlive
    unfold statusEvent statusCodeToEvent leadsToLive
    by_cases hsuspended : previousWayneStatus = some WaynePumpStatus.SUSPENDED.code
    · rw [hsuspended]
      cases state <;> decide
    · by_cases hfilling : previousWayneStatus = some WaynePumpStatus.FILLING.code
      · rw [hfilling]
        cases state <;> decide
      · simp only [WaynePumpStatus.ofCode?_code, if_neg hsuspended, hfilling, or_false]
        cases state <;> decide
  · obtain ⟨hevent, hleads⟩ :=
      statusEvent_of_ne_filling hne previousWayneStatus (SessionCore.respond state)
    rw [hevent, hleads]
    cases status with
    | FILLING => exact absurd rfl hne
    | SWITCHED_OFF => cases hlive
    | _ =>
        cases hlive
        cases state <;> decide

section StatusTransaction

variable {core : SessionCore} {address : Byte} {frame : DartLineFrame}
  {status : WaynePumpStatus}

theorem eventOf_statusTransaction (core : SessionCore) (address : Byte) (frame : DartLineFrame)
    (status : WaynePumpStatus) :
    core.eventOf (SessionCore.statusTransaction address frame status.code) =
      statusEvent status core.context.lastRawWayneStatus core.context.currentState := by
  unfold SessionCore.eventOf
  rw [SessionCore.mapWayneObservation_status]
  exact congrArg MappedContent.event (content_statusCodeToEvent _ _ _ _ _)

/-- The completion event stands for its status alone. -/
theorem statusEvent_eq_completed_iff (previousWayneStatus : Option Byte) (state : PumpState) :
    statusEvent status previousWayneStatus state = .FILLING_COMPLETED ↔
      status = .FILLING_COMPLETED := by
  rcases statusCodeToEvent_completion status.code {} previousWayneStatus (some state) with
    ⟨hcode, hevent, -⟩ | ⟨hevent, -⟩
  · exact iff_of_true hevent (WaynePumpStatus.code_injective hcode)
  · refine iff_of_false hevent ?_
    rintro rfl
    exact hevent rfl

/-- The duplicate filters stop exactly the replays. -/
theorem duplicate_statusTransaction_iff (core : SessionCore) (address : Byte)
    (hpayload : frame.payload = [0x01, 0x01, status.code]) :
    (IsDuplicateFrame core.context
          (core.argsOf (SessionCore.statusTransaction address frame status.code)) ∨
        IsDuplicateCompletion core.context
          (core.eventOf (SessionCore.statusTransaction address frame status.code))
          (core.argsOf (SessionCore.statusTransaction address frame status.code))) ↔
      IsReplay core.context status frame := by
  have htx : SessionCore.statusTransaction address frame status.code ∈
      SessionCore.frameTransactions address frame := by
    rw [SessionCore.frameTransactions_status hpayload]
    exact List.mem_singleton_self _
  have hcompleted : core.eventOf (SessionCore.statusTransaction address frame status.code) =
      .FILLING_COMPLETED ↔ status = .FILLING_COMPLETED := by
    rw [eventOf_statusTransaction, statusEvent_eq_completed_iff]
  unfold IsDuplicateFrame IsDuplicateCompletion IsReplay
  rw [(SessionCore.completionKey_argsOf htx core).1, SessionCore.sourceFrame_argsOf htx]
  refine or_congr ?_ ?_
  · exact ⟨fun hframe => hframe.2.symm, fun hframe => ⟨Option.some_ne_none _, hframe.symm⟩⟩
  · rw [← hcompleted]
    refine and_congr_right fun hevent => ?_
    rw [if_pos hevent]
    simp

/-- The state after the status transaction of a frame: a replay changes nothing, a new
frame goes through the table. -/
theorem currentState_statusTransaction
    (hpayload : frame.payload = [0x01, 0x01, status.code]) (hkeys : core.appliedKeys = ∅) :
    (core.applyTransaction
        (SessionCore.statusTransaction address frame status.code)).context.currentState =
      if IsReplay core.context status frame then core.context.currentState
      else
        stateFrom core.context.currentState
          (tableOutcome core.context.currentState
            (statusEvent status core.context.lastRawWayneStatus core.context.currentState)
            false) := by
  have htx : SessionCore.statusTransaction address frame status.code ∈
      SessionCore.frameTransactions address frame := by
    rw [SessionCore.frameTransactions_status hpayload]
    exact List.mem_singleton_self _
  have hnew : SessionCore.frameCompletionKey frame ∉ core.appliedKeys := by
    rw [hkeys]
    exact Finset.notMem_empty _
  have hevent := eventOf_statusTransaction core address frame status
  have hiff : _ ↔ IsReplay core.context status frame :=
    duplicate_statusTransaction_iff core address hpayload
  generalize SessionCore.statusTransaction address frame status.code = tx at *
  have hstale : ¬ IsStale core.context (core.argsOf tx) := not_isStale rfl
  rw [SessionCore.applyTransaction_eq htx core, if_neg fun hseen => hnew hseen.2]
  dsimp only
  rw [contextAfter_currentState]
  by_cases hreplay : IsReplay core.context status frame
  · rw [if_pos hreplay]
    unfold SessionCore.outcomeOf
    rcases outcome_of_duplicate hstale (hiff.mpr hreplay) with hstopped | hstopped
    · rw [hstopped]
    · rw [hstopped]
  · obtain ⟨hframe, hcompletion⟩ := not_or.mp (mt hiff.mp hreplay)
    have hallow : (core.argsOf tx).allowImplicitAuthorizeToFilling = false :=
      mapWayneObservation_allowImplicit tx _
    rw [if_neg hreplay]
    unfold SessionCore.outcomeOf
    rw [outcome_eq_tableOutcome hstale hframe hcompletion, hallow, hevent]
    rfl

end StatusTransaction

/-- The session that was seeded with a recovered context, in the state of its first accepted
DC1. -/
theorem currentState_firstStatus {contexts : List (String × PumpContext)} {address : Byte}
    {pumpId : String} {policy : Simulator.SequencePolicy} {ctx : PumpContext}
    {frame : DartLineFrame} {status : WaynePumpStatus}
    (hctx : (contexts.map (·.2)).reverse.find? (·.dartAddress = address) = some ctx)
    (haccepted : (startedSession contexts address pumpId policy).receiveLine.verdict frame =
      .accepted)
    (hpayload : frame.payload = [0x01, 0x01, status.code]) :
    ((startedSession contexts address pumpId policy).take
        (.response frame)).context.currentState =
      if IsReplay ctx status frame then SessionCore.respond ctx.currentState
      else
        stateFrom (SessionCore.respond ctx.currentState)
          (tableOutcome (SessionCore.respond ctx.currentState)
            (statusEvent status ctx.lastRawWayneStatus
              (SessionCore.respond ctx.currentState)) false) := by
  obtain ⟨-, -, hkeys⟩ := seedSession_keeps contexts
    (PumpSession.create address pumpId policy)
  have hcontext : (seedSession contexts (PumpSession.create address pumpId policy)).context =
      { ctx with communicationHealthy := false } := context_seedSession hctx
  have hcore := ((startedSession contexts address pumpId policy).handleResponseFrame_spec
    frame).2.1
  rw [haccepted] at hcore
  unfold startedSession at hcore ⊢
  generalize seedSession contexts (PumpSession.create address pumpId policy) = session at *
  have hmarked : session.core.markResponsive.appliedKeys = ∅ := by
    rw [SessionCore.appliedKeys_markResponsive]
    exact hkeys
  have hstate : session.core.context.currentState = ctx.currentState := by
    change session.context.currentState = _
    rw [hcontext]
  have hraw : session.core.context.lastRawWayneStatus = ctx.lastRawWayneStatus := by
    change session.context.lastRawWayneStatus = _
    rw [hcontext]
  have hreplay : IsReplay session.core.markResponsive.context status frame ↔
      IsReplay ctx status frame := by
    unfold IsReplay
    rw [SessionCore.lastSourceFrameHex_markResponsive,
      SessionCore.completedEvidenceKeys_markResponsive]
    change session.context.lastSourceFrameHex = _ ∨
      _ ∧ _ ∈ session.context.completedEvidenceKeys ↔ _
    rw [hcontext]
  change (session.handleResponseFrame frame).1.core.context.currentState = _
  rw [hcore]
  unfold SessionCore.after SessionCore.acceptData SessionCore.decodeAndApply
  rw [SessionCore.frameTransactions_status hpayload, List.foldl_cons, List.foldl_nil,
    currentState_statusTransaction hpayload hmarked, SessionCore.currentState_markResponsive,
    SessionCore.lastRawWayneStatus_markResponsive, hstate, hraw]
  exact if_congr hreplay rfl rfl

/-- A seeded session follows the first live status to the state that the reconciliation
recovers exactly when that is the persisted state or the table leads there. -/
theorem recovery_paths_agree_iff {contexts : List (String × PumpContext)} {address : Byte}
    {pumpId : String} {policy : Simulator.SequencePolicy} {ctx : PumpContext}
    {frame : DartLineFrame} {status : WaynePumpStatus} (observedAt : Option Int)
    (selectedNozzle : Option Nat) (hadActiveTransactionPersisted : Option Bool)
    (pendingCommands : List PumpCommand)
    (hctx : (contexts.map (·.2)).reverse.find? (·.dartAddress = address) = some ctx)
    (haccepted : (startedSession contexts address pumpId policy).receiveLine.verdict frame =
      .accepted)
    (hpayload : frame.payload = [0x01, 0x01, status.code])
    (hmapped : liveStateOf status ≠ none) :
    ((startedSession contexts address pumpId policy).take
          (.response frame)).context.currentState =
        (reconcileAfterRestart ctx
          { communicationHealthy := true
            wayneStatus := some status.code
            observedAt := observedAt
            selectedNozzle := selectedNozzle }
          hadActiveTransactionPersisted pendingCommands).recoveredState ↔
      FollowsLive ctx status frame := by
  obtain ⟨liveState, hlive⟩ := Option.ne_none_iff_exists'.mp hmapped
  have hrecovered : (reconcileAfterRestart ctx
      { communicationHealthy := true
        wayneStatus := some status.code
        observedAt := observedAt
        selectedNozzle := selectedNozzle }
      hadActiveTransactionPersisted pendingCommands).recoveredState = liveState := by
    refine recoveredState_of_live ctx _ _ rfl ?_
    change (WaynePumpStatus.ofCode? status.code).bind liveStateOf = _
    rw [WaynePumpStatus.ofCode?_code]
    exact hlive
  have hsame : liveStateOf status = some ctx.currentState ↔ ctx.currentState = liveState := by
    rw [hlive, Option.some_inj]
    exact eq_comm
  rw [hrecovered, currentState_firstStatus hctx haccepted hpayload]
  unfold FollowsLive
  rw [hsame]
  by_cases hreplay : IsReplay ctx status frame
  · rw [if_pos hreplay, respond_eq_live_iff hlive]
    simp [hreplay]
  · rw [if_neg hreplay, stateFrom_tableOutcome_iff hlive]
    simp [hreplay]

/-- The frame of a pump that reports RESET. -/
def resetFrame : DartLineFrame where
  address := 0x01
  control := 0x30
  controlType := .DATA
  sequence := 0
  payload := [0x01, 0x01, 0x01]
  receivedCrc := some 0x50A3
  computedCrc := some 0x50A3
  crcValid := some true
  rawFrame := [0x01, 0x30, 0x01, 0x01, 0x01, 0xA3, 0x50, 0x03, 0xFA]
  unknownControl := false

/-- A pump that was READY before the restart and reports RESET: both paths say RESET. -/
theorem recovery_paths_agree_ready :
    ((startedSession
          [("pump-1", { pumpId := "pump-1", dartAddress := 0x01, currentState := .READY })]
          0x01 "pump-1" .SPEC_F_TO_1).take (.response resetFrame)).context.currentState =
      (reconcileAfterRestart
        { pumpId := "pump-1", dartAddress := 0x01, currentState := .READY }
        { communicationHealthy := true, wayneStatus := some WaynePumpStatus.RESET.code }
        none []).recoveredState :=
  (recovery_paths_agree_iff none none none [] rfl (by decide) rfl (by decide)).mpr (by decide)

/-- A pump that was FILLING before the restart and reports RESET: the frame is accepted, the
session stays FILLING, the reconciliation recovers RESET. -/
theorem recovery_paths_disagree_filling :
    (startedSession
          [("pump-1", { pumpId := "pump-1", dartAddress := 0x01, currentState := .FILLING })]
          0x01 "pump-1" .SPEC_F_TO_1).receiveLine.verdict resetFrame = .accepted ∧
      ¬ ((startedSession
            [("pump-1", { pumpId := "pump-1", dartAddress := 0x01, currentState := .FILLING })]
            0x01 "pump-1" .SPEC_F_TO_1).take (.response resetFrame)).context.currentState =
        (reconcileAfterRestart
          { pumpId := "pump-1", dartAddress := 0x01, currentState := .FILLING }
          { communicationHealthy := true, wayneStatus := some WaynePumpStatus.RESET.code }
          none []).recoveredState := by
  decide

end Services
end Intelipump
