import Mathlib.Tactic.Common
import Intelipump.Controller.Publications
import Intelipump.Controller.SessionCore
import Intelipump.StateMachine.MachineRuns

namespace Intelipump
namespace Controller

open Dart.Application
open Dart.Line
open Domain
open StateMachine

/-!
# The machine calls of a session

A session moves its machine through calls of `apply` only.  The calls of a run are listed
here in their order; the context of the session is the machine's after exactly these
calls, and none of them allows an implicit authorization.
-/

namespace SessionCore

/-- A mapped observation is given to the machine unless it completes under a key that was
applied before. -/
def mappedCalls (core : SessionCore) (mapped : MappedWayneObservation) : List ApplyCall :=
  if ∃ key ∈ PumpSession.usableKey mapped, key ∈ core.appliedKeys then []
  else [{ event := mapped.event, args := PumpSession.mappedArgs mapped }]

def transactionCalls (core : SessionCore) (tx : ApplicationTransaction) : List ApplyCall :=
  core.mappedCalls (mapWayneObservation tx (core.mapperContext tx))

/-- The calls for the transactions of a frame, each decided after the ones before. -/
def payloadCalls : SessionCore → List ApplicationTransaction → List ApplyCall
  | _, [] => []
  | core, tx :: rest => core.transactionCalls tx ++ payloadCalls (core.applyTransaction tx) rest

def responsiveCalls (core : SessionCore) : List ApplyCall :=
  if core.context.currentState = .DISCONNECTED then [{ event := .COMMUNICATION_STARTED }]
  else []

/-- The calls for a frame with a given verdict. -/
def frameCalls (address : Byte) (core : SessionCore) (frame : DartLineFrame) :
    FrameVerdict → List ApplyCall
  | .accepted =>
      core.responsiveCalls ++ payloadCalls core.markResponsive (frameTransactions address frame)
  | .responsive => core.responsiveCalls
  | _ => []

theorem context_applyMapped (core : SessionCore) (mapped : MappedWayneObservation) :
    (core.applyMapped mapped).context = afterCalls core.context (core.mappedCalls mapped) := by
  unfold applyMapped mappedCalls
  split
  · rfl
  · rfl

theorem context_foldl (core : SessionCore) (txs : List ApplicationTransaction) :
    (txs.foldl applyTransaction core).context =
      afterCalls core.context (core.payloadCalls txs) := by
  induction txs generalizing core with
  | nil => rfl
  | cons tx rest ih =>
      rw [List.foldl_cons, ih, payloadCalls, afterCalls_append]
      exact congrArg (fun context => afterCalls context _) (context_applyMapped core _)

theorem context_markResponsive (core : SessionCore) :
    core.markResponsive.context = afterCalls core.context core.responsiveCalls := by
  unfold markResponsive responsiveCalls
  split
  · rfl
  · rfl

theorem context_after (address : Byte) (core : SessionCore) (frame : DartLineFrame)
    (verdict : FrameVerdict) :
    (core.after address frame verdict).context =
      afterCalls core.context (core.frameCalls address frame verdict) := by
  cases verdict with
  | ignored => rfl
  | repeated => rfl
  | responsive => exact context_markResponsive core
  | accepted =>
      unfold frameCalls
      rw [afterCalls_append, ← context_markResponsive]
      exact context_foldl core.markResponsive _

/-- No call for a transaction allows an implicit authorization. -/
theorem explicit_transactionCalls {core : SessionCore} {tx : ApplicationTransaction}
    {call : ApplyCall} (hcall : call ∈ core.transactionCalls tx) :
    call.args.allowImplicitAuthorizeToFilling = false := by
  unfold transactionCalls mappedCalls at hcall
  split at hcall
  · cases hcall
  · rw [List.mem_singleton.mp hcall]
    exact mapWayneObservation_allowImplicit tx _

theorem explicit_payloadCalls {core : SessionCore} {txs : List ApplicationTransaction}
    {call : ApplyCall} (hcall : call ∈ core.payloadCalls txs) :
    call.args.allowImplicitAuthorizeToFilling = false := by
  induction txs generalizing core with
  | nil => cases hcall
  | cons tx rest ih =>
      rcases List.mem_append.mp hcall with hfirst | hlater
      · exact explicit_transactionCalls hfirst
      · exact ih hlater

theorem explicit_responsiveCalls {core : SessionCore} {call : ApplyCall}
    (hcall : call ∈ core.responsiveCalls) :
    call.args.allowImplicitAuthorizeToFilling = false := by
  unfold responsiveCalls at hcall
  split at hcall
  · rw [List.mem_singleton.mp hcall]
  · cases hcall

theorem explicit_frameCalls {address : Byte} {core : SessionCore} {frame : DartLineFrame}
    {verdict : FrameVerdict} {call : ApplyCall}
    (hcall : call ∈ core.frameCalls address frame verdict) :
    call.args.allowImplicitAuthorizeToFilling = false := by
  cases verdict with
  | ignored => cases hcall
  | repeated => cases hcall
  | responsive => exact explicit_responsiveCalls hcall
  | accepted =>
      rcases List.mem_append.mp hcall with hresponsive | hpayload
      · exact explicit_responsiveCalls hresponsive
      · exact explicit_payloadCalls hpayload

end SessionCore

namespace PumpSession

def timeoutCalls (session : PumpSession) (maxConsecutive : Nat) : List ApplyCall :=
  if session.state.consecutiveTimeouts + 1 ≥ maxConsecutive then
    [{ event := .COMMUNICATION_LOST }]
  else []

/-- The calls of the machine that one call of the session makes. -/
def inputCalls (session : PumpSession) : SessionInput → List ApplyCall
  | .poll => []
  | .timeout maxConsecutive => session.timeoutCalls maxConsecutive
  | .response frame =>
      session.core.frameCalls session.address frame (session.receiveLine.verdict frame)

/-- The calls of the machine in a run of the session. -/
def machineCalls : PumpSession → List SessionInput → List ApplyCall
  | _, [] => []
  | session, input :: rest => session.inputCalls input ++ machineCalls (session.take input) rest

theorem context_take (session : PumpSession) (input : SessionInput) :
    (session.take input).context = afterCalls session.context (session.inputCalls input) := by
  cases input with
  | poll => rfl
  | timeout maxConsecutive =>
      have hcore := congrArg SessionCore.context (core_onTimeout session maxConsecutive)
      refine hcore.trans ?_
      change _ = afterCalls session.context (session.timeoutCalls maxConsecutive)
      unfold timeoutCalls
      split
      · rfl
      · rfl
  | response frame =>
      have hcore := congrArg SessionCore.context (session.handleResponseFrame_spec frame).2.1
      exact hcore.trans (session.core.context_after session.address frame _)

/-- The context of a session is the machine's after the calls of its run. -/
theorem context_run (session : PumpSession) (inputs : List SessionInput) :
    (session.run inputs).context =
      afterCalls session.context (session.machineCalls inputs) := by
  induction inputs generalizing session with
  | nil => rfl
  | cons input rest ih =>
      rw [machineCalls, afterCalls_append, ← context_take]
      exact ih (session.take input)

theorem explicit_inputCalls {session : PumpSession} {input : SessionInput} {call : ApplyCall}
    (hcall : call ∈ session.inputCalls input) :
    call.args.allowImplicitAuthorizeToFilling = false := by
  cases input with
  | poll => cases hcall
  | timeout maxConsecutive =>
      change call ∈ session.timeoutCalls maxConsecutive at hcall
      unfold timeoutCalls at hcall
      split at hcall
      · rw [List.mem_singleton.mp hcall]
      · cases hcall
  | response frame => exact SessionCore.explicit_frameCalls hcall

theorem explicit_machineCalls {session : PumpSession} {inputs : List SessionInput}
    {call : ApplyCall} (hcall : call ∈ session.machineCalls inputs) :
    call.args.allowImplicitAuthorizeToFilling = false := by
  induction inputs generalizing session with
  | nil => cases hcall
  | cons input rest ih =>
      rcases List.mem_append.mp hcall with hfirst | hlater
      · exact explicit_inputCalls hfirst
      · exact ih hlater

end PumpSession

/-! ## Fuel flows only after an authorization -/

/-- A machine that starts disconnected and is never allowed an implicit authorization is
in a filling only since a confirmed one; the calls that a new session makes are such. -/
theorem filling_only_after_authorization :
    (∀ (ctx : PumpContext) (calls : List ApplyCall), ctx.currentState = .DISCONNECTED →
      (∀ call ∈ calls, call.args.allowImplicitAuthorizeToFilling = false) →
      (afterCalls ctx calls).currentState ∈ fillingStates → AuthorizedSince ctx calls) ∧
    ∀ (address : Byte) (pumpId : String) (policy : Simulator.SequencePolicy)
      (inputs : List SessionInput),
      let session := PumpSession.create address pumpId policy
      (session.run inputs).context =
          afterCalls session.context (session.machineCalls inputs) ∧
        ((session.run inputs).context.currentState ∈ fillingStates →
          AuthorizedSince session.context (session.machineCalls inputs)) := by
  refine ⟨fun ctx calls hinitial hexplicit hfilling =>
    authorizedSince_of_filling hinitial hexplicit hfilling, ?_⟩
  intro address pumpId policy inputs session
  have hcontext := session.context_run inputs
  refine ⟨hcontext, fun hfilling => ?_⟩
  rw [hcontext] at hfilling
  exact authorizedSince_of_filling rfl
    (fun call hcall => PumpSession.explicit_machineCalls hcall) hfilling

/-- A pump that is found ready, authorized with its nozzle up, and fills. -/
theorem filling_after_authorization :
    AuthorizedSince { pumpId := "pump-1", dartAddress := 1 }
      [{ event := .COMMUNICATION_STARTED }, { event := .READY_OBSERVED },
        { event := .NOZZLE_LIFTED, args := { selectedNozzle := some 1 } },
        { event := .AUTHORIZATION_CONFIRMED }, { event := .FILLING_STARTED }] :=
  filling_only_after_authorization.1 _ _ rfl (by decide) (by decide)

end Controller
end Intelipump
