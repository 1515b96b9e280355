import Intelipump.Controller.SessionCore

namespace Intelipump
namespace Controller

open Domain
open Dart.Line
open Dart.Application
open StateMachine

/-!
# The session against the machine

The machine has its own way to apply a mapped observation, `apply_mapped`.  The
session spells out the argument list once more and leaves out the fault code, so
that the two differ where the machine takes one in.
-/

/-- The keyword arguments of `apply_mapped`. -/
structure MappedOverrides where
  observedAt : Option Int := none
  activeTransactionId : Option String := none
  priceVerified : Option Bool := none
  faultCode : Option Nat := none
  allowImplicitAuthorizeToFilling : Option Bool := none
deriving DecidableEq, Repr

/-- The arguments that `apply_mapped` passes on to `apply`: a mapped fault names its code
in the raw status. -/
def machineArgs (mapped : MappedWayneObservation) (overrides : MappedOverrides) :
    ApplyArgs where
  observation := some mapped.observation
  observedAt := overrides.observedAt
  selectedNozzle := mapped.selectedNozzle
  activeTransactionId := overrides.activeTransactionId
  rawWayneStatus := mapped.rawWayneStatus
  priceVerified := overrides.priceVerified
  faultCode :=
    match overrides.faultCode with
    | some code => some code
    | none =>
        if mapped.event = .FAULT_OBSERVED then mapped.rawWayneStatus.map (·.toNat) else none
  completionEvidenceKey := mapped.completionEvidenceKey
  allowImplicitAuthorizeToFilling :=
    overrides.allowImplicitAuthorizeToFilling.getD mapped.allowImplicitAuthorizeToFilling

/-- `PumpStateMachine.apply_mapped`. -/
def machineApplyMapped (ctx : PumpContext) (mapped : MappedWayneObservation)
    (overrides : MappedOverrides := {}) : TransitionResult :=
  apply ctx mapped.event (machineArgs mapped overrides)

/-! ## One more argument -/

/-- The exits of `apply` that take the fields of a call in. -/
def takesFields : Outcome → Bool
  | .sameState | .transition _ => true
  | _ => false

/-- A fault code in the call changes the context when an exit takes it in and the context
does not hold it. -/
theorem apply_faultCode_iff {ctx : PumpContext} {event : PumpEvent} {args : ApplyArgs}
    (hnone : args.faultCode = none) (hevent : event ≠ .FAULT_CLEARED) (code : Nat) :
    (apply ctx event args).context =
        (apply ctx event { args with faultCode := some code }).context ↔
      (takesFields (outcome ctx event args) = true → ctx.faultCode = some code) := by
  have hbranch : outcome ctx event { args with faultCode := some code } =
      outcome ctx event args := rfl
  rw [apply_context, apply_context, hbranch]
  cases outcome ctx event args with
  | sameState =>
      constructor
      · intro hsame _
        have hfault := congrArg PumpContext.faultCode hsame
        simpa [contextAfter, applyContextFields, hnone] using hfault
      · intro hfault
        have hheld := hfault rfl
        simp [contextAfter, applyContextFields, recordedSourceFrame, ApplyArgs.sourceFrame,
          hnone, hheld]
  | transition target =>
      constructor
      · intro hsame _
        have hfault := congrArg PumpContext.faultCode hsame
        simpa [contextAfter, transitionContext, hnone, hevent] using hfault
      · intro hfault
        have hheld := hfault rfl
        simp [contextAfter, transitionContext, recordedSourceFrame, ApplyArgs.sourceFrame,
          hnone, hheld]
  | stale => exact iff_of_true rfl Bool.noConfusion
  | duplicateFrame => exact iff_of_true rfl Bool.noConfusion
  | duplicateCompletion => exact iff_of_true rfl Bool.noConfusion
  | unknown => exact iff_of_true rfl Bool.noConfusion
  | unauthorized => exact iff_of_true rfl Bool.noConfusion
  | invalid => exact iff_of_true rfl Bool.noConfusion

/-- A fault is taken in by every connected pump, except from the frame that was taken in
last. -/
theorem takesFields_fault {ctx : PumpContext} {args : ApplyArgs}
    (htime : args.observedAt = none) :
    takesFields (outcome ctx .FAULT_OBSERVED args) = true ↔
      ¬ IsDuplicateFrame ctx args ∧ ctx.currentState ≠ .DISCONNECTED := by
  have hstale : ¬ IsStale ctx args := not_isStale htime
  have hcompletion : ¬ IsDuplicateCompletion ctx .FAULT_OBSERVED args := by
    rintro ⟨hevent, -⟩
    cases hevent
  by_cases hframe : IsDuplicateFrame ctx args
  · have houtcome : outcome ctx .FAULT_OBSERVED args = .duplicateFrame := by
      unfold outcome
      rw [if_neg hstale, if_pos hframe]
    rw [houtcome]
    exact iff_of_false Bool.false_ne_true fun h => h.1 hframe
  · rw [outcome_eq_tableOutcome hstale hframe hcompletion, and_iff_right hframe]
    cases ctx.currentState <;> cases args.allowImplicitAuthorizeToFilling <;> decide

/-! ## Mapped faults -/

/-- An alarm is the only transaction that maps to a fault. -/
theorem mapWayneObservation_fault_iff (tx : ApplicationTransaction) (ctx : MapperContext) :
    (mapWayneObservation tx ctx).event = .FAULT_OBSERVED ↔
      tx.transactionType = .DC5_ALARM := by
  have hstatus : ∀ code obs, (statusCodeToEvent code obs ctx.previousWayneStatus
      ctx.currentState).event ≠ .FAULT_OBSERVED := by
    intro code obs hfault
    have hmember := statusCodeToEvent_event_mem code obs ctx.previousWayneStatus
      ctx.currentState
    rw [hfault] at hmember
    revert hmember
    decide
  unfold mapWayneObservation
  dsimp only
  split
  · rename_i htype
    rw [htype]
    refine iff_of_false ?_ nofun
    unfold mapAmbiguousCd1Dc1
    dsimp only
    split
    · nofun
    · split
      · split
        · nofun
        · exact hstatus _ _
      · nofun
  · rename_i htype
    rw [htype]
    refine iff_of_false ?_ nofun
    unfold mapDc1
    split
    · nofun
    · exact hstatus _ _
  · rename_i htype
    rw [htype]
    refine iff_of_false ?_ nofun
    unfold mapDc3
    dsimp only
    split
    · nofun
    · split
      · nofun
      · split
        · split
          · nofun
          · split <;> nofun
        · nofun
  · rename_i htype
    rw [htype]
    exact iff_of_false nofun nofun
  · rename_i htype
    exact iff_of_true rfl htype
  · rename_i htype
    rw [htype]
    exact iff_of_false nofun nofun
  · rename_i hother _
    exact iff_of_false nofun hother

/-- The raw status of a mapped alarm is its code. -/
theorem mapWayneObservation_alarm {tx : ApplicationTransaction}
    (htype : tx.transactionType = .DC5_ALARM) (ctx : MapperContext) (code : Byte) :
    (mapWayneObservation tx ctx).rawWayneStatus = some code ↔
      tx.decodedBody = some (.dc5 code) := by
  unfold mapWayneObservation
  rw [htype]
  dsimp only
  split
  · rename_i alarmCode hbody
    rw [hbody, Option.some.injEq, Option.some.injEq, DecodedBody.dc5.injEq]
  · rename_i hbody
    exact iff_of_false nofun fun h => hbody code h

/-- The transaction is an alarm with a code that the context does not hold, it reaches a
connected pump, and in another frame than the one taken in last. -/
def BringsAlarm (ctx : PumpContext) (tx : ApplicationTransaction) : Prop :=
  tx.transactionType = .DC5_ALARM ∧
    (∃ code, tx.decodedBody = some (.dc5 code) ∧ ctx.faultCode ≠ some code.toNat) ∧
    ctx.currentState ≠ .DISCONNECTED ∧
    ¬ (tx.sourceFrameRawHex ≠ none ∧ tx.sourceFrameRawHex = ctx.lastSourceFrameHex)

/-- The session passes on what the machine does, without the fault code. -/
theorem mappedArgs_eq (mapped : MappedWayneObservation) :
    PumpSession.mappedArgs mapped = { machineArgs mapped {} with faultCode := none } := rfl

/-- A fault with a code: the machine passes the code on. -/
theorem machineArgs_of_code {mapped : MappedWayneObservation} {code : Byte}
    (hevent : mapped.event = .FAULT_OBSERVED) (hcode : mapped.rawWayneStatus = some code) :
    machineArgs mapped {} =
      { PumpSession.mappedArgs mapped with faultCode := some code.toNat } := by
  rw [mappedArgs_eq]
  unfold machineArgs
  rw [if_pos hevent, hcode]
  rfl

/-- Without one both pass the same arguments. -/
theorem machineArgs_of_no_code {mapped : MappedWayneObservation}
    (hcode : ¬ (mapped.event = .FAULT_OBSERVED ∧ mapped.rawWayneStatus ≠ none)) :
    machineArgs mapped {} = PumpSession.mappedArgs mapped := by
  have hnone : (if mapped.event = .FAULT_OBSERVED then
      mapped.rawWayneStatus.map (·.toNat) else none) = none := by
    split
    · rename_i hevent
      have hraw : mapped.rawWayneStatus = none := by_contra fun hraw => hcode ⟨hevent, hraw⟩
      rw [hraw]
      rfl
    · rfl
  rw [mappedArgs_eq]
  unfold machineArgs
  dsimp only
  rw [hnone]

/-- The frame of a mapped observation is the one of its transaction. -/
theorem isDuplicateFrame_mapped_iff (context : PumpContext) (tx : ApplicationTransaction)
    (ctx : MapperContext) :
    IsDuplicateFrame context (PumpSession.mappedArgs (mapWayneObservation tx ctx)) ↔
      tx.sourceFrameRawHex ≠ none ∧ tx.sourceFrameRawHex = context.lastSourceFrameHex := by
  have hsource : (PumpSession.mappedArgs (mapWayneObservation tx ctx)).sourceFrame =
      tx.sourceFrameRawHex := by
    rw [← mapWayneObservation_sourceFrame tx ctx]
    rfl
  rw [IsDuplicateFrame, hsource]

theorem context_applyMapped {session : PumpSession} {mapped : MappedWayneObservation}
    (hnew : ¬ ∃ key ∈ PumpSession.usableKey mapped, key ∈ session.appliedCompletionKeys) :
    (session.applyMapped mapped).context =
      (apply session.context mapped.event (PumpSession.mappedArgs mapped)).context := by
  have hcore : (session.applyMapped mapped).context =
      (session.core.applyMapped mapped).context :=
    congrArg SessionCore.context (PumpSession.core_applyMapped session mapped)
  have hnotSeen : ¬ ∃ key ∈ PumpSession.usableKey mapped, key ∈ session.core.appliedKeys := hnew
  rw [hcore]
  unfold SessionCore.applyMapped
  rw [if_neg hnotSeen]
  rfl

/-- The session leaves the context that the machine's own `apply_mapped` leaves, unless the
transaction brings an alarm. -/
theorem applyMapped_agrees_iff (session : PumpSession) (tx : ApplicationTransaction)
    (ctx : MapperContext)
    (hnew : ¬ ∃ key ∈ PumpSession.usableKey (mapWayneObservation tx ctx),
      key ∈ session.appliedCompletionKeys) :
    (session.applyMapped (mapWayneObservation tx ctx)).context =
        (machineApplyMapped session.context (mapWayneObservation tx ctx)).context ↔
      ¬ BringsAlarm session.context tx := by
  rw [context_applyMapped hnew]
  unfold machineApplyMapped
  generalize hmapped : mapWayneObservation tx ctx = mapped
  by_cases hcode : mapped.event = .FAULT_OBSERVED ∧ mapped.rawWayneStatus ≠ none
  · obtain ⟨hevent, hraw⟩ := hcode
    obtain ⟨code, hcode⟩ := Option.ne_none_iff_exists'.mp hraw
    have htype : tx.transactionType = .DC5_ALARM :=
      (mapWayneObservation_fault_iff tx ctx).mp (hmapped ▸ hevent)
    have hbody : tx.decodedBody = some (.dc5 code) :=
      (mapWayneObservation_alarm htype ctx code).mp (hmapped ▸ hcode)
    have hframe := isDuplicateFrame_mapped_iff session.context tx ctx
    rw [hmapped] at hframe
    rw [machineArgs_of_code hevent hcode, hevent]
    refine (apply_faultCode_iff rfl (by decide) code.toNat).trans ?_
    rw [takesFields_fault rfl, hframe]
    constructor
    · rintro hheld ⟨-, ⟨other, hother, hnot⟩, hconnected, hfresh⟩
      obtain rfl : code = other :=
        DecodedBody.dc5.inj (Option.some.inj (hbody.symm.trans hother))
      exact hnot (hheld ⟨hfresh, hconnected⟩)
    · rintro hquiet ⟨hfresh, hconnected⟩
      by_contra hnot
      exact hquiet ⟨htype, ⟨code, hbody, hnot⟩, hconnected, hfresh⟩
  · -- no code is mapped, so both pass the same arguments
    rw [machineArgs_of_no_code hcode]
    refine iff_of_true rfl ?_
    rintro ⟨htype, ⟨code, hbody, -⟩, -⟩
    refine hcode ⟨?_, ?_⟩
    · rw [← hmapped]
      exact (mapWayneObservation_fault_iff tx ctx).mpr htype
    · rw [← hmapped, (mapWayneObservation_alarm htype ctx code).mpr hbody]
      exact Option.some_ne_none code

/-- A session whose pump was discovered, and a decoded alarm with code 4. -/
def discoveringSession : PumpSession :=
  (PumpSession.create 0x50 "pump-1" .SPEC_F_TO_1).applySm .COMMUNICATION_STARTED

def alarmTransaction : ApplicationTransaction where
  transactionId := 0x05
  transactionType := .DC5_ALARM
  length := 1
  rawPayload := [0x04]
  rawTransaction := [0x05, 0x01, 0x04]
  decodedBody := some (.dc5 0x04)
  pumpAddress := some 0x50
  lineSequence := some 0
  direction := .SLAVE_TO_MASTER
  decodeStatus := .DECODED
  sourceFrameRawHex := some "50 30 05 01 04 df 5e 03 fa"
  offset := 0

theorem applyMapped_agrees_disconnected :
    ((PumpSession.create 0x50 "pump-1" .SPEC_F_TO_1).applyMapped
        (mapWayneObservation alarmTransaction {})).context =
      (machineApplyMapped (PumpSession.create 0x50 "pump-1" .SPEC_F_TO_1).context
        (mapWayneObservation alarmTransaction {})).context :=
  (applyMapped_agrees_iff (PumpSession.create 0x50 "pump-1" .SPEC_F_TO_1) alarmTransaction {}
    (by decide)).mpr fun hbrings => hbrings.2.2.1 rfl

/-- After the alarm both are in FAULTED, and the session's machine knows no fault code. -/
theorem applyMapped_loses_alarm_code :
    ¬ ∀ (session : PumpSession) (tx : ApplicationTransaction) (ctx : MapperContext),
      (¬ ∃ key ∈ PumpSession.usableKey (mapWayneObservation tx ctx),
        key ∈ session.appliedCompletionKeys) →
      (session.applyMapped (mapWayneObservation tx ctx)).context =
        (machineApplyMapped session.context (mapWayneObservation tx ctx)).context := by
  intro hall
  have hsame := hall discoveringSession alarmTransaction {} (by decide)
  have hfault : (none : Option Nat) = some 4 := congrArg PumpContext.faultCode hsame
  cases hfault

end Controller
end Intelipump
