import Mathlib.Tactic.Common
import Intelipump.Dart.Application.Decoder
import Intelipump.StateMachine.Machine

namespace Intelipump
namespace StateMachine

open Domain
open Dart.Line
open Dart.Application

/-!
# From Wayne observations to normalized events

The inference notes and warnings the mapper attaches are texts for a human
reader and are left out.
-/

/-- Caller context that resolves a direction without TRANS collisions. -/
structure MapperContext where
  currentState : Option PumpState := none
  previousWayneStatus : Option Byte := none
  resolveAsDc1 : Bool := false
  resolveAsCd1 : Bool := false
  resolveAsDc3 : Bool := false
  resolveAsCd3 : Bool := false
  outstandingRequestWasCd1Status : Bool := false
  busDirection : Option MessageDirection := none
deriving DecidableEq, Repr

structure MappedWayneObservation where
  event : PumpEvent
  observation : ObservationRef
  rawWayneStatus : Option Byte := none
  selectedNozzle : Option Nat := none
  completionEvidenceKey : Option String := none
  allowImplicitAuthorizeToFilling : Bool := false
deriving DecidableEq, Repr

def extractRawStatus (tx : ApplicationTransaction) : Option Byte :=
  match tx.decodedBody with
  | some (.ambiguous01 rawCode _ _) => some rawCode
  | _ => none

/-- The key that makes a completion unique: the frame it came in. -/
def completionKey (obs : ObservationRef) (statusCode : Byte) : String :=
  let sourceFrame := obs.sourceFrameRawHex.getD ""
  s!"complete:{sourceFrame}:{statusCode.toNat}"

def statusCodeToEvent (statusCode : Byte) (obs : ObservationRef)
    (previousWayneStatus : Option Byte) (currentState : Option PumpState) :
    MappedWayneObservation :=
  let mapped (event : PumpEvent) : MappedWayneObservation :=
    { event := event, observation := obs, rawWayneStatus := some statusCode }
  match WaynePumpStatus.ofCode? statusCode with
  | none => mapped .UNKNOWN_OBSERVATION
  | some .PUMP_NOT_PROGRAMMED => mapped .CONFIGURATION_MISSING
  | some .RESET => mapped .RESET_OBSERVED
  | some .AUTHORIZED => mapped .AUTHORIZATION_CONFIRMED
  | some .FILLING =>
      if previousWayneStatus = some WaynePumpStatus.SUSPENDED.code then
        mapped .RESUMED_OBSERVED
      else if currentState = some .FILLING ∨
          previousWayneStatus = some WaynePumpStatus.FILLING.code then
        mapped .FILLING_UPDATED
      else mapped .FILLING_STARTED
  | some .FILLING_COMPLETED =>
      { mapped .FILLING_COMPLETED with
        completionEvidenceKey := some (completionKey obs statusCode) }
  | some .MAX_AMOUNT_VOLUME_REACHED => mapped .LIMIT_REACHED
  | some .SWITCHED_OFF => mapped .UNKNOWN_OBSERVATION
  | some .SUSPENDED => mapped .SUSPENDED_OBSERVED

def mapAmbiguousCd1Dc1 (tx : ApplicationTransaction) (obs : ObservationRef)
    (ctx : MapperContext) : MappedWayneObservation :=
  let direction := ctx.busDirection.getD tx.direction
  let resolveDc1 := ctx.resolveAsDc1 ∨ ctx.outstandingRequestWasCd1Status ∨
    direction = .SLAVE_TO_MASTER
  let resolveCd1 := ctx.resolveAsCd1 ∨ direction = .MASTER_TO_SLAVE
  if resolveCd1 ∧ ¬ resolveDc1 then
    { event := .UNKNOWN_OBSERVATION, observation := obs
      rawWayneStatus := obs.rawWayneStatus }
  else if resolveDc1 ∧ ¬ resolveCd1 then
    match obs.rawWayneStatus with
    | none => { event := .UNKNOWN_OBSERVATION, observation := obs }
    | some code =>
        statusCodeToEvent code obs ctx.previousWayneStatus ctx.currentState
  else
    { event := .UNKNOWN_OBSERVATION, observation := obs
      rawWayneStatus := obs.rawWayneStatus }

def mapDc1 (obs : ObservationRef) (ctx : MapperContext) : MappedWayneObservation :=
  match obs.rawWayneStatus with
  | none => { event := .UNKNOWN_OBSERVATION, observation := obs }
  | some code => statusCodeToEvent code obs ctx.previousWayneStatus ctx.currentState

def mapDc3 (tx : ApplicationTransaction) (obs : ObservationRef)
    (ctx : MapperContext) : MappedWayneObservation :=
  let direction := ctx.busDirection.getD tx.direction
  if ctx.resolveAsCd3 then { event := .UNKNOWN_OBSERVATION, observation := obs }
  else if ¬ (ctx.resolveAsDc3 ∨
      (tx.decodeStatus = .DECODED ∧ direction = .SLAVE_TO_MASTER)) then
    { event := .UNKNOWN_OBSERVATION, observation := obs }
  else
    match tx.decodedBody with
    | some (.dc3 _ _ selectedLogicalNozzle nozzleOut) =>
        let mapped (event : PumpEvent) : MappedWayneObservation :=
          { event := event, observation := obs
            selectedNozzle := some selectedLogicalNozzle }
        if nozzleOut then mapped .NOZZLE_LIFTED
        else if ctx.currentState ∈
            [some PumpState.NOZZLE_UP, some .AUTHORIZED, some .FILLING, some .SUSPENDED] then
          mapped .NOZZLE_RETURNED
        else mapped .READY_OBSERVED
    | _ => { event := .UNKNOWN_OBSERVATION, observation := obs }

/-- Map one decoded application transaction to a normalized event. -/
def mapWayneObservation (tx : ApplicationTransaction) (ctx : MapperContext) :
    MappedWayneObservation :=
  let obs : ObservationRef := {
    sourceFrameRawHex := tx.sourceFrameRawHex
    transactionId := some tx.transactionId
    transactionType := some tx.transactionType.value
    rawWayneStatus := extractRawStatus tx }
  match tx.transactionType with
  | .AMBIGUOUS_CD1_OR_DC1 => mapAmbiguousCd1Dc1 tx obs ctx
  | .DC1_PUMP_STATUS => mapDc1 obs ctx
  | .DC3_NOZZLE_STATUS_PRICE => mapDc3 tx obs ctx
  | .DC2_FILLED_VOLUME_AMOUNT => { event := .FILLING_UPDATED, observation := obs }
  | .DC5_ALARM =>
      let faultCode :=
        match tx.decodedBody with
        | some (.dc5 alarmCode) => some alarmCode
        | _ => none
      { event := .FAULT_OBSERVED
        observation := { obs with rawWayneStatus := faultCode }
        rawWayneStatus := faultCode }
  | .DC9_PUMP_IDENTITY => { event := .PUMP_DISCOVERED, observation := obs }
  | _ => { event := .UNKNOWN_OBSERVATION, observation := obs }

@[simp] theorem statusCodeToEvent_observation (statusCode : Byte)
    (obs : ObservationRef) (previousWayneStatus : Option Byte)
    (currentState : Option PumpState) :
    (statusCodeToEvent statusCode obs previousWayneStatus currentState).observation =
      obs := by
  unfold statusCodeToEvent
  dsimp only
  split <;> try rfl
  split
  · rfl
  · split <;> rfl

/-- No status byte is evidence of an implicit authorization. -/
theorem statusCodeToEvent_allowImplicit (statusCode : Byte) (obs : ObservationRef)
    (previousWayneStatus : Option Byte) (currentState : Option PumpState) :
    (statusCodeToEvent statusCode obs previousWayneStatus
      currentState).allowImplicitAuthorizeToFilling = false := by
  unfold statusCodeToEvent
  dsimp only
  split <;> try rfl
  split
  · rfl
  · split <;> rfl

/-- Events that a status byte maps to. -/
def statusEvents : List PumpEvent :=
  [.UNKNOWN_OBSERVATION, .CONFIGURATION_MISSING, .RESET_OBSERVED, .AUTHORIZATION_CONFIRMED,
    .RESUMED_OBSERVED, .FILLING_UPDATED, .FILLING_STARTED, .FILLING_COMPLETED,
    .LIMIT_REACHED, .SUSPENDED_OBSERVED]

theorem statusCodeToEvent_event_mem (statusCode : Byte) (obs : ObservationRef)
    (previousWayneStatus : Option Byte) (currentState : Option PumpState) :
    (statusCodeToEvent statusCode obs previousWayneStatus currentState).event ∈
      statusEvents := by
  unfold statusCodeToEvent
  cases WaynePumpStatus.ofCode? statusCode with
  | none => simp [statusEvents]
  | some status =>
      cases status with
      | FILLING =>
          dsimp only
          split
          · simp [statusEvents]
          · split <;> simp [statusEvents]
      | _ => simp [statusEvents]

/-- Events that a transaction maps to without a status byte. -/
def directEvents : List PumpEvent :=
  [.UNKNOWN_OBSERVATION, .FILLING_UPDATED, .FAULT_OBSERVED, .PUMP_DISCOVERED,
    .NOZZLE_LIFTED, .NOZZLE_RETURNED, .READY_OBSERVED]

/-- A transaction maps through its status byte or to a direct event without a
key or an allowance; either way the observation names its frame. -/
theorem mapWayneObservation_cases (tx : ApplicationTransaction) (ctx : MapperContext) :
    (∃ code obs, obs.sourceFrameRawHex = tx.sourceFrameRawHex ∧
        mapWayneObservation tx ctx =
          statusCodeToEvent code obs ctx.previousWayneStatus ctx.currentState) ∨
      ((mapWayneObservation tx ctx).observation.sourceFrameRawHex =
          tx.sourceFrameRawHex ∧
        (mapWayneObservation tx ctx).completionEvidenceKey = none ∧
        (mapWayneObservation tx ctx).allowImplicitAuthorizeToFilling = false ∧
        (mapWayneObservation tx ctx).event ∈ directEvents) := by
  unfold mapWayneObservation
  dsimp only
  split
  · unfold mapAmbiguousCd1Dc1
    dsimp only
    split
    · simp [directEvents]
    · split
      · split
        · simp [directEvents]
        · exact Or.inl ⟨_, _, rfl, rfl⟩
      · simp [directEvents]
  · unfold mapDc1
    dsimp only
    split
    · simp [directEvents]
    · exact Or.inl ⟨_, _, rfl, rfl⟩
  · right
    unfold mapDc3
    dsimp only
    split
    · simp [directEvents]
    · split
      · simp [directEvents]
      · split
        · split
          · simp [directEvents]
          · split <;> simp [directEvents]
        · simp [directEvents]
  · simp [directEvents]
  · simp [directEvents]
  · simp [directEvents]
  · simp [directEvents]

/-- Every mapped observation names the frame of its transaction. -/
@[simp] theorem mapWayneObservation_sourceFrame (tx : ApplicationTransaction)
    (ctx : MapperContext) :
    (mapWayneObservation tx ctx).observation.sourceFrameRawHex =
      tx.sourceFrameRawHex := by
  rcases mapWayneObservation_cases tx ctx with ⟨code, obs, hsource, hmapped⟩ | ⟨hsource, -⟩
  · rw [hmapped, statusCodeToEvent_observation, hsource]
  · exact hsource

/-- Completion keys of two frames are equal only when the frames are. -/
theorem completionKey_inj {left right : ObservationRef} {statusCode : Byte}
    (heq : completionKey left statusCode = completionKey right statusCode) :
    left.sourceFrameRawHex.getD "" = right.sourceFrameRawHex.getD "" := by
  have hlist := congrArg String.toList heq
  apply String.toList_inj.mp
  simp only [completionKey, String.toList_append, List.append_assoc,
    List.append_cancel_left_eq, List.append_cancel_right_eq] at hlist
  exact hlist

theorem completionKey_ne_empty (obs : ObservationRef) (statusCode : Byte) :
    completionKey obs statusCode ≠ "" := by
  intro hempty
  have hlist := congrArg String.toList hempty
  simp [completionKey, String.toList_append] at hlist

/-- A status byte maps to a completion exactly when it is 5, and only then
carries a key. -/
theorem statusCodeToEvent_completion (statusCode : Byte) (obs : ObservationRef)
    (previousWayneStatus : Option Byte) (currentState : Option PumpState) :
    (statusCode = WaynePumpStatus.FILLING_COMPLETED.code ∧
        (statusCodeToEvent statusCode obs previousWayneStatus currentState).event =
          .FILLING_COMPLETED ∧
        (statusCodeToEvent statusCode obs previousWayneStatus
          currentState).completionEvidenceKey = some (completionKey obs statusCode)) ∨
      ((statusCodeToEvent statusCode obs previousWayneStatus currentState).event ≠
          .FILLING_COMPLETED ∧
        (statusCodeToEvent statusCode obs previousWayneStatus
          currentState).completionEvidenceKey = none) := by
  cases hstatus : WaynePumpStatus.ofCode? statusCode with
  | none =>
      right
      simp [statusCodeToEvent, hstatus]
  | some status =>
      obtain rfl := WaynePumpStatus.code_of_ofCode? hstatus
      unfold statusCodeToEvent
      rw [hstatus]
      cases status with
      | FILLING_COMPLETED => exact Or.inl ⟨rfl, rfl, rfl⟩
      | FILLING =>
          right
          dsimp only
          split
          · simp
          · split <;> simp
      | _ => right; simp

/-- The completion key goes with the completion event. -/
theorem mapWayneObservation_completion (tx : ApplicationTransaction)
    (ctx : MapperContext) :
    ((mapWayneObservation tx ctx).event = .FILLING_COMPLETED ∧
        (mapWayneObservation tx ctx).completionEvidenceKey =
          some (completionKey { sourceFrameRawHex := tx.sourceFrameRawHex }
            WaynePumpStatus.FILLING_COMPLETED.code)) ∨
      ((mapWayneObservation tx ctx).event ≠ .FILLING_COMPLETED ∧
        (mapWayneObservation tx ctx).completionEvidenceKey = none) := by
  rcases mapWayneObservation_cases tx ctx with
    ⟨code, obs, hsource, hmapped⟩ | ⟨-, hkey, -, hevent⟩
  · rw [hmapped]
    rcases statusCodeToEvent_completion code obs ctx.previousWayneStatus
      ctx.currentState with ⟨rfl, hevent, hkey⟩ | hother
    · refine Or.inl ⟨hevent, hkey.trans ?_⟩
      rw [completionKey, completionKey, hsource]
    · exact Or.inr hother
  · refine Or.inr ⟨fun hcompleted => ?_, hkey⟩
    rw [hcompleted] at hevent
    revert hevent
    decide

/-- The parts of a mapped observation that do not name its frame. -/
structure MappedContent where
  event : PumpEvent
  rawWayneStatus : Option Byte
  selectedNozzle : Option Nat
  allowImplicitAuthorizeToFilling : Bool
deriving DecidableEq, Repr

def MappedWayneObservation.content (mapped : MappedWayneObservation) :
    MappedContent where
  event := mapped.event
  rawWayneStatus := mapped.rawWayneStatus
  selectedNozzle := mapped.selectedNozzle
  allowImplicitAuthorizeToFilling := mapped.allowImplicitAuthorizeToFilling

theorem content_statusCodeToEvent (statusCode : Byte) (left right : ObservationRef)
    (previousWayneStatus : Option Byte) (currentState : Option PumpState) :
    (statusCodeToEvent statusCode left previousWayneStatus currentState).content =
      (statusCodeToEvent statusCode right previousWayneStatus currentState).content := by
  unfold statusCodeToEvent
  dsimp only
  split <;> try rfl
  split
  · rfl
  · split <;> rfl

/-- What a transaction maps to does not depend on where it was found. -/
theorem content_mapWayneObservation (tx : ApplicationTransaction) (ctx : MapperContext)
    (rawTransaction : List Byte) (offset : Nat) (pumpAddress : Option Byte)
    (lineSequence : Option (Fin 16)) (sourceFrameRawHex : Option String) :
    (mapWayneObservation
        { tx with
          rawTransaction := rawTransaction
          offset := offset
          pumpAddress := pumpAddress
          lineSequence := lineSequence
          sourceFrameRawHex := sourceFrameRawHex } ctx).content =
      (mapWayneObservation tx ctx).content := by
  obtain ⟨transactionId, transactionType, length, rawPayload, raw, decodedBody, address,
    sequence, direction, decodeStatus, source, place⟩ := tx
  -- the three mapped types read the decoded body, never the place of the transaction
  cases transactionType with
  | AMBIGUOUS_CD1_OR_DC1 =>
      unfold mapWayneObservation mapAmbiguousCd1Dc1 extractRawStatus
      dsimp only
      split
      · rfl
      · split
        · cases decodedBody with
          | none => rfl
          | some body =>
              cases body with
              | ambiguous01 => exact content_statusCodeToEvent _ _ _ _ _
              | _ => rfl
        · rfl
  | DC1_PUMP_STATUS =>
      unfold mapWayneObservation mapDc1 extractRawStatus
      dsimp only
      cases decodedBody with
      | none => rfl
      | some body =>
          cases body with
          | ambiguous01 => exact content_statusCodeToEvent _ _ _ _ _
          | _ => rfl
  | DC3_NOZZLE_STATUS_PRICE =>
      unfold mapWayneObservation mapDc3
      dsimp only
      split
      · rfl
      · split
        · rfl
        · cases decodedBody with
          | none => rfl
          | some body =>
              cases body with
              | dc3 =>
                  dsimp only
                  split
                  · rfl
                  · split <;> rfl
              | _ => rfl
  | _ => rfl

/-- No transaction is evidence of an implicit authorization. -/
theorem mapWayneObservation_allowImplicit (tx : ApplicationTransaction)
    (ctx : MapperContext) :
    (mapWayneObservation tx ctx).allowImplicitAuthorizeToFilling = false := by
  rcases mapWayneObservation_cases tx ctx with ⟨code, obs, -, hmapped⟩ | ⟨-, -, hallow, -⟩
  · rw [hmapped]
    exact statusCodeToEvent_allowImplicit code obs _ _
  · exact hallow

theorem mapWayneObservation_event_mem (tx : ApplicationTransaction) (ctx : MapperContext) :
    (mapWayneObservation tx ctx).event ∈ statusEvents ++ directEvents := by
  rcases mapWayneObservation_cases tx ctx with ⟨code, obs, -, hmapped⟩ | ⟨-, -, -, hevent⟩
  · rw [hmapped]
    exact List.mem_append_left _ (statusCodeToEvent_event_mem code obs _ _)
  · exact List.mem_append_right _ hevent

/-- No transaction maps to the loss of communication. -/
theorem mapWayneObservation_event_ne (tx : ApplicationTransaction) (ctx : MapperContext) :
    (mapWayneObservation tx ctx).event ≠ .COMMUNICATION_LOST := by
  intro hlost
  have hevent := mapWayneObservation_event_mem tx ctx
  rw [hlost] at hevent
  revert hevent
  decide

/-- No transaction maps to the start of communication. -/
theorem mapWayneObservation_event_ne_started (tx : ApplicationTransaction)
    (ctx : MapperContext) :
    (mapWayneObservation tx ctx).event ≠ .COMMUNICATION_STARTED := by
  intro hstarted
  have hevent := mapWayneObservation_event_mem tx ctx
  rw [hstarted] at hevent
  revert hevent
  decide

/-! ## The status AUTHORIZED -/

/-- The decoder reads no status AUTHORIZED in a payload. -/
def Unauthorizing (payload : List Byte) : Prop :=
  ∀ origin, ∀ tx ∈ (decodeDataPayload payload origin).transactions,
    extractRawStatus tx ≠ some WaynePumpStatus.AUTHORIZED.code

theorem statusCodeToEvent_ne_authorization {statusCode : Byte}
    (hother : statusCode ≠ WaynePumpStatus.AUTHORIZED.code) (obs : ObservationRef)
    (previousWayneStatus : Option Byte) (currentState : Option PumpState) :
    (statusCodeToEvent statusCode obs previousWayneStatus currentState).event ≠
      .AUTHORIZATION_CONFIRMED := by
  unfold statusCodeToEvent
  cases hknown : WaynePumpStatus.ofCode? statusCode with
  | none => simp
  | some status =>
      cases status with
      | AUTHORIZED => exact absurd (WaynePumpStatus.code_of_ofCode? hknown) hother
      | FILLING =>
          dsimp only
          split
          · simp
          · split <;> simp
      | _ => simp

/-- Only the status AUTHORIZED is mapped to a confirmed authorization. -/
theorem mapped_ne_authorization {tx : ApplicationTransaction}
    (hstatus : extractRawStatus tx ≠ some WaynePumpStatus.AUTHORIZED.code)
    (ctx : MapperContext) :
    (mapWayneObservation tx ctx).event ≠ .AUTHORIZATION_CONFIRMED := by
  have hread : ∀ {code : Byte}, extractRawStatus tx = some code →
      ∀ obs, (statusCodeToEvent code obs ctx.previousWayneStatus ctx.currentState).event ≠
        .AUTHORIZATION_CONFIRMED := fun hcode obs =>
    statusCodeToEvent_ne_authorization (fun hauthorized => hstatus (hauthorized ▸ hcode)) obs _ _
  unfold mapWayneObservation
  dsimp only
  split
  · unfold mapAmbiguousCd1Dc1
    dsimp only
    split
    · simp
    · split
      · split
        · simp
        · rename_i hcode
          exact hread hcode _
      · simp
  · unfold mapDc1
    dsimp only
    split
    · simp
    · rename_i hcode
      exact hread hcode _
  · unfold mapDc3
    dsimp only
    split
    · simp
    · split
      · simp
      · split
        · split
          · simp
          · split <;> simp
        · simp
  all_goals simp

end StateMachine
end Intelipump
