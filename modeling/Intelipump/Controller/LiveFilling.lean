import Intelipump.Controller.Completion

namespace Intelipump
namespace Controller

open Domain
open Dart.Line
open Dart.Application
open StateMachine

/-!
# A live FILLING status

The mapper reads FILLING in the light of the status seen before it: behind
SUSPENDED it is a resumption, behind FILLING an update, else a start.  The
table takes a start in AUTHORIZED only and a resumption in SUSPENDED only.  In
AUTHORIZED the status before is never one of the two, so the start is taken.
In SUSPENDED another status, such as one without an event of its own, can have
come in between, and the start that is then read is refused.
-/

/-! ## What a transaction of a frame maps to -/

/-- A nozzle status carries no status byte. -/
theorem mapDc3_direct (tx : ApplicationTransaction) (obs : ObservationRef)
    (ctx : MapperContext) :
    (mapDc3 tx obs ctx).event ∈ directEvents ∧ (mapDc3 tx obs ctx).rawWayneStatus = none := by
  unfold mapDc3
  dsimp only
  split
  · simp [directEvents]
  · split
    · simp [directEvents]
    · split
      · split
        · simp [directEvents]
        · split <;> simp [directEvents]
      · simp [directEvents]

/-- Every type but a pump status is mapped without looking at a status byte. -/
theorem mapWayneObservation_direct {tx : ApplicationTransaction}
    (hambiguous : tx.transactionType ≠ .AMBIGUOUS_CD1_OR_DC1)
    (hstatus : tx.transactionType ≠ .DC1_PUMP_STATUS) (ctx : MapperContext) :
    (mapWayneObservation tx ctx).event ∈ directEvents ∧
      ((mapWayneObservation tx ctx).event = .UNKNOWN_OBSERVATION →
        (mapWayneObservation tx ctx).rawWayneStatus = none) := by
  unfold mapWayneObservation
  dsimp only
  cases htype : tx.transactionType with
  | AMBIGUOUS_CD1_OR_DC1 => exact absurd htype hambiguous
  | DC1_PUMP_STATUS => exact absurd htype hstatus
  | DC3_NOZZLE_STATUS_PRICE =>
      exact ⟨(mapDc3_direct _ _ _).1, fun _ => (mapDc3_direct _ _ _).2⟩
  | DC5_ALARM => exact ⟨by simp [directEvents], fun hunknown => by cases hunknown⟩
  | _ => exact ⟨by simp [directEvents], fun _ => rfl⟩

/-- TRANS=0x01 with one byte is the only unit that is decoded to a pump status. -/
theorem transactionType_decodeRawTransaction {rawTx : RawTransaction}
    (hother : ¬ (rawTx.transactionId = 0x01 ∧ rawTx.length = 1)) (origin : FrameOrigin) :
    (decodeRawTransaction rawTx origin).transactionType ≠ .AMBIGUOUS_CD1_OR_DC1 ∧
      (decodeRawTransaction rawTx origin).transactionType ≠ .DC1_PUMP_STATUS := by
  unfold decodeRawTransaction
  dsimp only
  rw [if_neg hother]
  split
  · unfold decodeDc2
    dsimp only
    split <;> exact ⟨TransactionType.noConfusion, TransactionType.noConfusion⟩
  split
  · unfold decodeDc3Preferred
    split <;> exact ⟨TransactionType.noConfusion, TransactionType.noConfusion⟩
  split
  · exact ⟨TransactionType.noConfusion, TransactionType.noConfusion⟩
  split
  · unfold decodeCd5
    split <;> exact ⟨TransactionType.noConfusion, TransactionType.noConfusion⟩
  split
  · exact ⟨TransactionType.noConfusion, TransactionType.noConfusion⟩
  split
  · unfold decodeDc101
    dsimp only
    split <;> exact ⟨TransactionType.noConfusion, TransactionType.noConfusion⟩
  · exact ⟨TransactionType.noConfusion, TransactionType.noConfusion⟩

theorem rawWayneStatus_statusCodeToEvent (statusCode : Byte) (obs : ObservationRef)
    (previousWayneStatus : Option Byte) (currentState : Option PumpState) :
    (statusCodeToEvent statusCode obs previousWayneStatus currentState).rawWayneStatus =
      some statusCode := by
  unfold statusCodeToEvent
  cases WaynePumpStatus.ofCode? statusCode with
  | none => rfl
  | some status =>
      cases status with
      | FILLING =>
          dsimp only
          split
          · rfl
          · split <;> rfl
      | _ => rfl

/-- The events of a FILLING status. -/
def fillingEvents : List PumpEvent := [.RESUMED_OBSERVED, .FILLING_UPDATED, .FILLING_STARTED]

theorem event_filling_mem (obs : ObservationRef) (previousWayneStatus : Option Byte)
    (currentState : Option PumpState) :
    (statusCodeToEvent WaynePumpStatus.FILLING.code obs previousWayneStatus
      currentState).event ∈ fillingEvents := by
  unfold statusCodeToEvent
  rw [WaynePumpStatus.ofCode?_code]
  dsimp only
  split
  · simp [fillingEvents]
  · split <;> simp [fillingEvents]

namespace SessionCore

/-- Through a status byte, or to an event without a status byte that leaves the
authorization alone. -/
theorem mapped_cases {address : Byte} {frame : DartLineFrame} {tx : ApplicationTransaction}
    (htx : tx ∈ frameTransactions address frame) (core : SessionCore) :
    (∃ code obs, mapWayneObservation tx (core.mapperContext tx) =
        statusCodeToEvent code obs core.context.lastRawWayneStatus
          (some core.context.currentState)) ∨
      (core.eventOf tx ∈ directEvents ∧
        (core.eventOf tx = .UNKNOWN_OBSERVATION → (core.argsOf tx).rawWayneStatus = none)) := by
  obtain ⟨rawTx, -, rfl⟩ := List.mem_map.mp htx
  by_cases hstatus : rawTx.transactionId = 0x01 ∧ rawTx.length = 1
  · -- the session resolves TRANS=0x01 as a pump status
    left
    refine ⟨rawTx.data.headD 0, {
      sourceFrameRawHex := (frameOrigin address frame).sourceFrameRawHex
      transactionId := some rawTx.transactionId
      transactionType := some TransactionType.AMBIGUOUS_CD1_OR_DC1.value
      rawWayneStatus := some (rawTx.data.headD 0) }, ?_⟩
    have hdecoded : decodeRawTransaction rawTx (frameOrigin address frame) =
        decodeAmbiguous01 rawTx (frameOrigin address frame) := if_pos hstatus
    have hid : (decodeAmbiguous01 rawTx (frameOrigin address frame)).transactionId =
        0x01 := hstatus.1
    rw [hdecoded]
    unfold mapperContext
    rw [hid]
    rfl
  · obtain ⟨hambiguous, hdc1⟩ :=
      transactionType_decodeRawTransaction hstatus (frameOrigin address frame)
    exact Or.inr (mapWayneObservation_direct hambiguous hdc1 _)

/-- Neither an unknown observation nor a confirmed authorization carries the status byte
of a filling or of a suspension, and a confirmed authorization carries one. -/
theorem rawWayneStatus_argsOf {address : Byte} {frame : DartLineFrame}
    {tx : ApplicationTransaction} (htx : tx ∈ frameTransactions address frame)
    (core : SessionCore)
    (hevent : core.eventOf tx = .UNKNOWN_OBSERVATION ∨
      core.eventOf tx = .AUTHORIZATION_CONFIRMED) :
    (core.argsOf tx).rawWayneStatus ≠ some WaynePumpStatus.FILLING.code ∧
      (core.argsOf tx).rawWayneStatus ≠ some WaynePumpStatus.SUSPENDED.code ∧
      (core.eventOf tx = .AUTHORIZATION_CONFIRMED →
        (core.argsOf tx).rawWayneStatus ≠ none) := by
  -- the transaction was mapped by its status code, or without one
  rcases mapped_cases htx core with ⟨code, obs, hmapped⟩ | ⟨hdirect, hraw⟩
  · have hraw : (core.argsOf tx).rawWayneStatus = some code := by
      unfold argsOf PumpSession.mappedArgs
      dsimp only
      rw [hmapped, rawWayneStatus_statusCodeToEvent]
    have hstatus : core.eventOf tx = (statusCodeToEvent code obs
        core.context.lastRawWayneStatus (some core.context.currentState)).event :=
      congrArg MappedWayneObservation.event hmapped
    rw [hraw]
    refine ⟨?_, ?_, by simp⟩
    · intro hfilling
      obtain rfl := Option.some.inj hfilling
      have hmem := event_filling_mem obs core.context.lastRawWayneStatus
        (some core.context.currentState)
      rw [← hstatus] at hmem
      rcases hevent with hevent | hevent <;> rw [hevent] at hmem <;> revert hmem <;> decide
    · intro hsuspended
      obtain rfl := Option.some.inj hsuspended
      have hobserved : core.eventOf tx = .SUSPENDED_OBSERVED := hstatus
      rw [hobserved] at hevent
      rcases hevent with hevent | hevent <;> cases hevent
  · have hunknown : core.eventOf tx = .UNKNOWN_OBSERVATION := by
      refine hevent.resolve_right fun hconfirmed => ?_
      rw [hconfirmed] at hdirect
      exact absurd hdirect (by decide)
    rw [hraw hunknown, hunknown]
    exact ⟨by simp, by simp, fun hconfirmed => by cases hconfirmed⟩

end SessionCore

/-! ## The invariant -/

/-- A parsed frame whose payload is a single DC1 status 4. -/
def IsFillingFrame (frame : DartLineFrame) : Prop :=
  parseFrame frame.rawFrame = .ok frame ∧
    frame.payload = [0x01, 0x01, WaynePumpStatus.FILLING.code]

/-- An authorized pump has shown neither a filling nor a suspension since, and a filling
frame that was taken in has led to FILLING. -/
structure LiveInvariant (core : SessionCore) : Prop where
  authorized : core.context.currentState = .AUTHORIZED →
    core.context.lastRawWayneStatus ≠ some WaynePumpStatus.FILLING.code ∧
      core.context.lastRawWayneStatus ≠ some WaynePumpStatus.SUSPENDED.code
  recorded : ∀ frame, IsFillingFrame frame →
    core.context.lastSourceFrameHex = some (bytesHex frame.rawFrame) →
      core.context.currentState ≠ .AUTHORIZED ∧ core.context.currentState ≠ .SUSPENDED

theorem LiveInvariant.initial (pumpId : String) (address : Byte) :
    LiveInvariant ⟨{ pumpId := pumpId, dartAddress := address }, ∅⟩ where
  authorized := fun hstate => by cases hstate
  recorded := by
    intro frame hframe hsource
    cases hsource

/-- A communication event leaves the state alone or leads to an end of the line. -/
theorem LiveInvariant.event {core : SessionCore} (hinv : LiveInvariant core)
    {event : PumpEvent}
    (hevent : event = .COMMUNICATION_STARTED ∨ event = .COMMUNICATION_LOST) :
    LiveInvariant (core.applySm event) := by
  have hcontext := apply_context core.context event {}
  -- the two events lead out of every delivery
  have htarget : ∀ target, outcome core.context event {} = .transition target →
      target = .DISCOVERING ∨ target = .DISCONNECTED := by
    intro target hbranch
    have hlookup := lookup_of_outcome hbranch
    generalize core.context.currentState = state at hlookup
    rcases hevent with rfl | rfl
    · cases state <;> cases hlookup
      exact Or.inl rfl
    · cases state <;> cases hlookup <;> exact Or.inr rfl
  constructor
  · change (apply core.context event {}).context.currentState = _ →
      (apply core.context event {}).context.lastRawWayneStatus ≠ _ ∧
        (apply core.context event {}).context.lastRawWayneStatus ≠ _
    rw [hcontext]
    cases hbranch : outcome core.context event {} with
    | transition target =>
        intro hstate
        have hended := htarget target hbranch
        change target = .AUTHORIZED at hstate
        rw [hstate] at hended
        rcases hended with hended | hended <;> cases hended
    | _ => exact hinv.authorized
  · intro frame hframe
    change (apply core.context event {}).context.lastSourceFrameHex = _ →
      (apply core.context event {}).context.currentState ≠ _ ∧
        (apply core.context event {}).context.currentState ≠ _
    rw [hcontext]
    cases hbranch : outcome core.context event {} with
    | transition target =>
        intro _
        change target ≠ .AUTHORIZED ∧ target ≠ .SUSPENDED
        rcases htarget target hbranch with rfl | rfl <;> decide
    | _ => exact hinv.recorded frame hframe

theorem contextAfter_lastRawWayneStatus (ctx : PumpContext) (event : PumpEvent)
    (args : ApplyArgs) (branch : Outcome) :
    (contextAfter ctx event args branch).lastRawWayneStatus =
      match branch with
      | .unknown | .sameState | .transition _ =>
          args.rawWayneStatus.or ctx.lastRawWayneStatus
      | _ => ctx.lastRawWayneStatus := by
  cases branch <;> rfl

theorem or_ne_some {raw last : Option Byte} {code : Byte} (hraw : raw ≠ some code)
    (hlast : raw = none → last ≠ some code) : raw.or last ≠ some code := by
  cases raw with
  | none => exact hlast rfl
  | some other => exact hraw

/-- Only a confirmed authorization leads to AUTHORIZED, or keeps it. -/
theorem authorized_event {state : PumpState} {event : PumpEvent}
    (hkept : lookupTransition state event = some .AUTHORIZED ∨
      state = .AUTHORIZED ∧ isSameStateNoop state event = true) :
    event = .AUTHORIZATION_CONFIRMED := by
  rcases hkept with hlookup | ⟨rfl, hnoop⟩
  · cases state <;> cases event <;> first | rfl | cases hlookup
  · revert hnoop
    cases event <;> simp [isSameStateNoop]

/-- A filling event that is taken in leads to FILLING. -/
theorem filling_target {state target : PumpState} {event : PumpEvent}
    (hevent : event ∈ fillingEvents) (hlookup : lookupTransition state event = some target) :
    target = .FILLING := by
  simp only [fillingEvents, List.mem_cons, List.not_mem_nil, or_false] at hevent
  rcases hevent with rfl | rfl | rfl <;> cases state <;> cases hlookup <;> rfl

theorem filling_noop {state : PumpState} {event : PumpEvent}
    (hevent : event ∈ fillingEvents) (hnoop : isSameStateNoop state event = true) :
    state = .FILLING := by
  simp only [fillingEvents, List.mem_cons, List.not_mem_nil, or_false] at hevent
  rcases hevent with rfl | rfl | rfl <;> cases state <;> first | rfl | cases hnoop

namespace LiveInvariant

variable {core : SessionCore} {address : Byte} {frame : DartLineFrame}
  {tx : ApplicationTransaction}

theorem authorized_transaction (hinv : LiveInvariant core)
    (htx : tx ∈ SessionCore.frameTransactions address frame)
    (hstate : (contextAfter core.context (core.eventOf tx) (core.argsOf tx)
      (core.outcomeOf tx)).currentState = .AUTHORIZED) :
    (contextAfter core.context (core.eventOf tx) (core.argsOf tx)
        (core.outcomeOf tx)).lastRawWayneStatus ≠ some WaynePumpStatus.FILLING.code ∧
      (contextAfter core.context (core.eventOf tx) (core.argsOf tx)
        (core.outcomeOf tx)).lastRawWayneStatus ≠ some WaynePumpStatus.SUSPENDED.code := by
  have hraw := SessionCore.rawWayneStatus_argsOf htx core
  -- a confirmation always names its own status, and that is neither of the two
  have hown : core.eventOf tx = .AUTHORIZATION_CONFIRMED →
      ((core.argsOf tx).rawWayneStatus.or core.context.lastRawWayneStatus ≠
          some WaynePumpStatus.FILLING.code ∧
        (core.argsOf tx).rawWayneStatus.or core.context.lastRawWayneStatus ≠
          some WaynePumpStatus.SUSPENDED.code) := by
    intro hconfirmed
    obtain ⟨hfilling, hsuspended, hpresent⟩ := hraw (.inr hconfirmed)
    exact ⟨or_ne_some hfilling fun hnone => absurd hnone (hpresent hconfirmed),
      or_ne_some hsuspended fun hnone => absurd hnone (hpresent hconfirmed)⟩
  rw [contextAfter_currentState] at hstate
  rw [contextAfter_lastRawWayneStatus]
  cases hbranch : core.outcomeOf tx with
  | transition target =>
      rw [hbranch] at hstate
      dsimp only at hstate ⊢
      have hlookup := lookup_of_outcome hbranch
      rw [hstate] at hlookup
      exact hown (authorized_event (.inl hlookup))
  | sameState =>
      rw [hbranch] at hstate
      dsimp only at hstate ⊢
      exact hown (authorized_event (.inr ⟨hstate, sameState_of_outcome hbranch⟩))
  -- an unknown observation stays in AUTHORIZED, where neither was the last status
  | unknown =>
      rw [hbranch] at hstate
      dsimp only at hstate ⊢
      obtain ⟨hfilling, hsuspended, -⟩ := hraw (.inl (unknown_of_outcome hbranch))
      obtain ⟨hlastFilling, hlastSuspended⟩ := hinv.authorized hstate
      exact ⟨or_ne_some hfilling fun _ => hlastFilling,
        or_ne_some hsuspended fun _ => hlastSuspended⟩
  | _ =>
      rw [hbranch] at hstate
      exact hinv.authorized hstate

/-- The one transaction of a filling frame is mapped to a filling event. -/
theorem event_of_isFillingFrame (hframe : IsFillingFrame frame)
    (htx : tx ∈ SessionCore.frameTransactions address frame) (core : SessionCore) :
    core.eventOf tx ∈ fillingEvents := by
  rw [SessionCore.frameTransactions_status hframe.2, List.mem_singleton] at htx
  rw [htx]
  exact event_filling_mem _ _ _

theorem recorded_transaction (hinv : LiveInvariant core)
    (hparsed : parseFrame frame.rawFrame = .ok frame)
    (htx : tx ∈ SessionCore.frameTransactions address frame) {other : DartLineFrame}
    (hother : IsFillingFrame other)
    (hsource : (contextAfter core.context (core.eventOf tx) (core.argsOf tx)
      (core.outcomeOf tx)).lastSourceFrameHex = some (bytesHex other.rawFrame)) :
    (contextAfter core.context (core.eventOf tx) (core.argsOf tx)
        (core.outcomeOf tx)).currentState ≠ .AUTHORIZED ∧
      (contextAfter core.context (core.eventOf tx) (core.argsOf tx)
        (core.outcomeOf tx)).currentState ≠ .SUSPENDED := by
  have hrecorded := SessionCore.recordedSourceFrame_argsOf htx hparsed core core.context
  -- a frame that was just recorded is the filling frame itself
  have hfills : some (bytesHex frame.rawFrame) = some (bytesHex other.rawFrame) →
      core.eventOf tx ∈ fillingEvents := by
    intro hsame
    have hraw := bytesHex_injective (Option.some.inj hsame)
    obtain rfl := eq_of_rawFrame_eq hparsed hother.1 hraw
    exact event_of_isFillingFrame hother htx core
  rw [contextAfter_lastSourceFrameHex] at hsource
  rw [contextAfter_currentState]
  cases hbranch : core.outcomeOf tx with
  | unknown =>
      rw [hbranch] at hsource
      have hevent := hfills (hrecorded.symm.trans hsource)
      rw [unknown_of_outcome hbranch] at hevent
      exact absurd hevent (by decide)
  | sameState =>
      rw [hbranch] at hsource
      have hevent := hfills (hrecorded.symm.trans hsource)
      dsimp only
      rw [filling_noop hevent (sameState_of_outcome hbranch)]
      decide
  | transition target =>
      rw [hbranch] at hsource
      have hevent := hfills (hrecorded.symm.trans hsource)
      dsimp only
      rw [filling_target hevent (lookup_of_outcome hbranch)]
      decide
  | _ =>
      rw [hbranch] at hsource
      exact hinv.recorded other hother hsource

theorem transaction (hinv : LiveInvariant core)
    (hparsed : parseFrame frame.rawFrame = .ok frame)
    (htx : tx ∈ SessionCore.frameTransactions address frame) :
    LiveInvariant (core.applyTransaction tx) := by
  rw [SessionCore.applyTransaction_eq htx core]
  split
  · exact hinv
  · exact {
      authorized := authorized_transaction hinv htx
      recorded := fun _ hother hsource => recorded_transaction hinv hparsed htx hother hsource }

end LiveInvariant

theorem SessionCore.Reachable.liveInvariant {address : Byte} {core : SessionCore}
    (hcore : core.Reachable address) : LiveInvariant core := by
  induction hcore with
  | initial pumpId => exact .initial pumpId address
  | event _ hevent ih => exact ih.event hevent
  | transaction _ hparsed htx ih => exact ih.transaction hparsed htx

/-! ## One filling frame -/

/-- The filling event of a core. -/
theorem eventOf_filling (core : SessionCore) (address : Byte) (frame : DartLineFrame) :
    core.eventOf (SessionCore.statusTransaction address frame WaynePumpStatus.FILLING.code) =
      if core.context.lastRawWayneStatus = some WaynePumpStatus.SUSPENDED.code then
        .RESUMED_OBSERVED
      else if core.context.currentState = .FILLING ∨
          core.context.lastRawWayneStatus = some WaynePumpStatus.FILLING.code then
        .FILLING_UPDATED
      else .FILLING_STARTED := by
  unfold SessionCore.eventOf
  rw [SessionCore.mapWayneObservation_status]
  unfold statusCodeToEvent
  rw [WaynePumpStatus.ofCode?_code]
  dsimp only
  split
  · rfl
  · simp only [Option.some.injEq]
    split <;> rfl

/-- A frame that was not recorded last goes through the table. -/
theorem currentState_filling {core : SessionCore} {frame : DartLineFrame}
    (address : Byte) (hpayload : frame.payload = [0x01, 0x01, WaynePumpStatus.FILLING.code])
    (hnew : core.context.lastSourceFrameHex ≠ some (bytesHex frame.rawFrame))
    (hstate : core.context.currentState = .AUTHORIZED ∨
      core.context.currentState = .SUSPENDED) :
    (core.acceptData address frame).context.currentState = .FILLING ↔
      lookupTransition core.context.currentState
        (core.eventOf (SessionCore.statusTransaction address frame
          WaynePumpStatus.FILLING.code)) = some .FILLING := by
  have htx : SessionCore.statusTransaction address frame WaynePumpStatus.FILLING.code ∈
      SessionCore.frameTransactions address frame := by
    rw [SessionCore.frameTransactions_status hpayload]
    exact List.mem_singleton_self _
  -- a core that is authorized or suspended is not disconnected
  have hresponsive : core.markResponsive = core := by
    unfold SessionCore.markResponsive
    rw [if_neg]
    intro hdisconnected
    rw [hdisconnected] at hstate
    rcases hstate with hstate | hstate <;> cases hstate
  have hevent : core.eventOf (SessionCore.statusTransaction address frame
      WaynePumpStatus.FILLING.code) ∈ fillingEvents := event_filling_mem _ _ _
  have hsource := SessionCore.sourceFrame_argsOf htx core
  have hallow : (core.argsOf (SessionCore.statusTransaction address frame
      WaynePumpStatus.FILLING.code)).allowImplicitAuthorizeToFilling = false :=
    mapWayneObservation_allowImplicit _ _
  unfold SessionCore.acceptData SessionCore.decodeAndApply
  rw [hresponsive, SessionCore.frameTransactions_status hpayload, List.foldl_cons,
    List.foldl_nil, SessionCore.applyTransaction_eq htx core]
  generalize SessionCore.statusTransaction address frame WaynePumpStatus.FILLING.code = tx at *
  have hcompleted : core.eventOf tx ≠ .FILLING_COMPLETED := by
    intro hcompleted
    rw [hcompleted] at hevent
    exact absurd hevent (by decide)
  have hframe : ¬ IsDuplicateFrame core.context (core.argsOf tx) := by
    rintro ⟨-, hduplicate⟩
    exact hnew (hduplicate.symm.trans hsource)
  have hbranch : core.outcomeOf tx =
      tableOutcome core.context.currentState (core.eventOf tx) false := by
    unfold SessionCore.outcomeOf
    rw [outcome_eq_tableOutcome (not_isStale rfl) hframe fun h => hcompleted h.1, hallow]
  rw [if_neg fun hseen => hcompleted hseen.1]
  dsimp only
  rw [contextAfter_currentState, hbranch]
  generalize core.eventOf tx = event at *
  generalize core.context.currentState = state at *
  -- what is left is the table, at two states and the events of a filling status
  rcases hstate with rfl | rfl <;> revert hevent <;> cases event <;> decide

/-- A live FILLING status moves an authorized or suspended pump to FILLING exactly when a
suspended one was last seen SUSPENDED. -/
theorem filling_taken_iff (session : PumpSession) (raw : List Byte) (frame : DartLineFrame)
    (hreachable : session.Reachable) (hparsed : parseFrame raw = .ok frame)
    (haccepted : session.receiveLine.verdict frame = .accepted)
    (hpayload : frame.payload = [0x01, 0x01, 0x04])
    (hstate : session.context.currentState = .AUTHORIZED ∨
      session.context.currentState = .SUSPENDED) :
    (session.handleResponseFrame frame).1.context.currentState = .FILLING ↔
      (session.context.currentState = .SUSPENDED →
        session.context.lastRawWayneStatus = some WaynePumpStatus.SUSPENDED.code) := by
  have hinv := hreachable.coreReachable.liveInvariant
  have hframe : IsFillingFrame frame := ⟨parseFrame_rawFrame hparsed, hpayload⟩
  have hcore := (session.handleResponseFrame_spec frame).2.1
  rw [haccepted] at hcore
  have hnew : session.core.context.lastSourceFrameHex ≠ some (bytesHex frame.rawFrame) := by
    intro hrecorded
    obtain ⟨hauthorized, hsuspended⟩ := hinv.recorded frame hframe hrecorded
    exact hstate.elim hauthorized hsuspended
  have hiff := currentState_filling session.address hpayload hnew hstate
  have hevent := eventOf_filling session.core session.address frame
  have hafter : (session.handleResponseFrame frame).1.context.currentState =
      (session.core.acceptData session.address frame).context.currentState :=
    congrArg (fun core => core.context.currentState) hcore
  have hcontext : session.core.context = session.context := rfl
  rw [hafter, hiff, hevent, hcontext]
  rcases hstate with hauthorized | hsuspended
  · obtain ⟨hfilling, hlast⟩ := hinv.authorized hauthorized
    rw [hcontext] at hfilling hlast
    rw [if_neg hlast, hauthorized, if_neg (by simp [hfilling])]
    exact iff_of_true rfl (fun hcontra => by cases hcontra)
  · rw [hsuspended]
    by_cases hlast : session.context.lastRawWayneStatus = some WaynePumpStatus.SUSPENDED.code
    · rw [if_pos hlast]
      exact iff_of_true rfl (fun _ => hlast)
    · -- an update and a start are both refused here
      rw [if_neg hlast]
      refine iff_of_false ?_ (fun hsame => hlast (hsame rfl))
      split <;> decide

/-- A delivery that is suspended and resumed. -/
def suspendedDelivery : List DartLineFrame := firstDelivery ++ [statusFrame 5 0x08]

theorem reachable_handleFrames {session : PumpSession} (hreachable : session.Reachable)
    (frames : List DartLineFrame)
    (hparsed : ∀ frame ∈ frames, parseFrame frame.rawFrame = .ok frame) :
    (session.handleFrames frames).Reachable := by
  induction frames generalizing session with
  | nil => exact hreachable
  | cons frame rest ih =>
      obtain ⟨hframe, hrest⟩ := List.forall_mem_cons.mp hparsed
      exact ih (.response hreachable hframe) hrest

theorem filling_taken_resumed :
    (((PumpSession.create 0x01 "pump-1" .SPEC_F_TO_1).handleFrames
      suspendedDelivery).handleResponseFrame (statusFrame 6 0x04)).1.context.currentState =
        .FILLING :=
  (filling_taken_iff _ (statusFrame 6 0x04).rawFrame (statusFrame 6 0x04)
    (reachable_handleFrames (.create 0x01 "pump-1" .SPEC_F_TO_1) suspendedDelivery
      (by decide +kernel))
    (by decide +kernel) (by decide +kernel) rfl (.inr (by decide +kernel))).mpr
    fun _ => by decide +kernel

/-- SWITCHED_OFF while the pump is suspended changes no state, but it is the status before
the FILLING that follows, which is then refused. -/
theorem filling_missed_after_switched_off :
    ¬ ∀ (session : PumpSession) (raw : List Byte) (frame : DartLineFrame),
      session.Reachable → parseFrame raw = .ok frame →
        session.receiveLine.verdict frame = .accepted →
          frame.payload = [0x01, 0x01, 0x04] →
            (session.context.currentState = .AUTHORIZED ∨
              session.context.currentState = .SUSPENDED) →
              (session.handleResponseFrame frame).1.context.currentState = .FILLING := by
  intro hall
  have htaken := hall
    ((PumpSession.create 0x01 "pump-1" .SPEC_F_TO_1).handleFrames
      (suspendedDelivery ++ [statusFrame 6 0x07]))
    (statusFrame 7 0x04).rawFrame (statusFrame 7 0x04)
    (reachable_handleFrames (.create 0x01 "pump-1" .SPEC_F_TO_1) _ (by decide +kernel))
    (by decide +kernel) (by decide +kernel) rfl (.inr (by decide +kernel))
  revert htaken
  decide +kernel

end Controller
end Intelipump
