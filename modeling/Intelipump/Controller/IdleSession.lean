import Mathlib.Tactic.Common
import Intelipump.Controller.Publications
import Intelipump.Controller.SessionCore
import Intelipump.StateMachine.MachineRuns

namespace Intelipump
namespace Controller

open Domain
open Dart.Line
open Dart.Application
open StateMachine

/-!
# A session that hears of no authorization

As long as no accepted block reports the status AUTHORIZED, the machine of the session stays
in the idle states, and the session publishes no other state
(`staysIdle_handleResponseFrame`).
-/

/-- The machine is idle, and every published state was. -/
def StaysIdle (session : PumpSession) : Prop :=
  session.context.currentState ∈ idleStates ∧
    ∀ payload ∈ session.events.filterMap stateChange, payload.normalizedState ∈ idleStates

namespace StaysIdle

variable {session : PumpSession}

theorem congr {after : PumpSession} (hidle : StaysIdle session)
    (hcontext : after.context = session.context) (hevents : after.events = session.events) :
    StaysIdle after := by
  unfold StaysIdle
  rw [hcontext, hevents]
  exact hidle

theorem publish (hidle : StaysIdle session) {event : ControllerEvent}
    (hevent : ∀ payload ∈ stateChange event, payload.normalizedState ∈ idleStates) :
    StaysIdle (session.publish event) := by
  refine ⟨hidle.1, fun payload hpayload => ?_⟩
  unfold PumpSession.publish at hpayload
  rw [List.filterMap_append, List.mem_append] at hpayload
  rcases hpayload with hold | hlast
  · exact hidle.2 payload hold
  · obtain ⟨published, hpublished, hchange⟩ := List.mem_filterMap.mp hlast
    rw [List.mem_singleton.mp hpublished] at hchange
    exact hevent payload hchange

theorem notify (hidle : StaysIdle session) (type : ControllerEventType) (detail : String) :
    StaysIdle (session.notify type detail) :=
  hidle.publish fun _ hpayload => by cases type <;> cases hpayload

/-- Any event but a confirmed authorization leaves an idle machine idle. -/
theorem adopt (hidle : StaysIdle session) {event : PumpEvent} {args : ApplyArgs}
    (hevent : event ≠ .AUTHORIZATION_CONFIRMED)
    (hexplicit : args.allowImplicitAuthorizeToFilling = false) (key : Option String) :
    StaysIdle (session.adoptResult event (apply session.context event args) key) := by
  have hnext : (apply session.context event args).context.currentState ∈ idleStates := by
    by_contra hfilling
    have hcalled := filling_afterCall
      (show (ApplyCall.mk event args).args.allowImplicitAuthorizeToFilling = false
        from hexplicit) hfilling
    rcases hcalled with hbefore | hconfirmed
    · exact hbefore hidle.1
    · exact hevent hconfirmed.1
  unfold PumpSession.adoptResult
  dsimp only
  split
  · have hadopted : StaysIdle { session with
        context := (apply session.context event args).context
        state := { session.state with
          lastState := (apply session.context event args).context.currentState } } :=
      ⟨hnext, hidle.2⟩
    refine hadopted.publish fun payload hpayload => ?_
    cases hpayload
    exact hnext
  · exact ⟨hnext, hidle.2⟩

theorem applySm (hidle : StaysIdle session) {event : PumpEvent}
    (hevent : event ≠ .AUTHORIZATION_CONFIRMED) : StaysIdle (session.applySm event) :=
  hidle.adopt hevent rfl none

theorem setCommunication (hidle : StaysIdle session) (health : CommunicationHealth) :
    StaysIdle (session.setCommunication health) := by
  unfold PumpSession.setCommunication
  dsimp only
  generalize hupdated : ({ session with
    state := { session.state with communication := health } } : PumpSession) = updated
  have hupdate : StaysIdle updated := hupdated ▸ hidle.congr rfl rfl
  split
  · exact hupdate
  · have hconnected : StaysIdle (if health = .HEALTHY ∧ session.state.communication ∈
        [.UNKNOWN, .DISCONNECTED, .DEGRADED] then updated.notify .PUMP_CONNECTED ""
        else updated) := by
      split
      · exact hupdate.notify _ _
      · exact hupdate
    split
    · exact hconnected.notify _ _
    · exact hconnected

theorem markResponsive (hidle : StaysIdle session) : StaysIdle session.markResponsive := by
  unfold PumpSession.markResponsive
  dsimp only
  split
  · exact (hidle.setCommunication _).applySm (by decide)
  · exact hidle.setCommunication _

/-- A transaction without the status AUTHORIZED. -/
theorem applyTransaction (hidle : StaysIdle session) {tx : ApplicationTransaction}
    (hstatus : extractRawStatus tx ≠ some WaynePumpStatus.AUTHORIZED.code) :
    StaysIdle (session.applyTransaction tx) := by
  unfold PumpSession.applyTransaction
  dsimp only
  generalize hpublished : session.publish _ = published
  have hnoted : StaysIdle published := by
    rw [← hpublished]
    exact hidle.publish fun _ hpayload => by cases hpayload
  have hevent := mapped_ne_authorization hstatus (published.mapperContext tx)
  have hexplicit := mapWayneObservation_allowImplicit tx (published.mapperContext tx)
  unfold PumpSession.applyMapped
  split
  · exact hnoted
  · dsimp only
    cases PumpSession.usableKey (mapWayneObservation tx (published.mapperContext tx)) with
    | none => exact hnoted.adopt hevent hexplicit _
    | some key =>
        dsimp only
        split
        · have hremembered : StaysIdle { published with
              appliedCompletionKeys := insert key published.appliedCompletionKeys } :=
            hnoted.congr rfl rfl
          exact hremembered.adopt hevent hexplicit _
        · exact hnoted.adopt hevent hexplicit _

theorem decodeAndApply (hidle : StaysIdle session) {frame : DartLineFrame}
    (hpayload : Unauthorizing frame.payload) : StaysIdle (session.decodeAndApply frame) := by
  unfold PumpSession.decodeAndApply
  have htransactions := hpayload (session.frameOrigin frame)
  generalize (decodeDataPayload frame.payload
    (session.frameOrigin frame)).transactions = txs at htransactions
  induction txs generalizing session with
  | nil => exact hidle
  | cons tx rest ih =>
      obtain ⟨hfirst, hrest⟩ := List.forall_mem_cons.mp htransactions
      exact ih (hidle.applyTransaction hfirst) hrest

theorem acceptData (hidle : StaysIdle session) {frame : DartLineFrame}
    (hpayload : Unauthorizing frame.payload) : StaysIdle (session.acceptData frame).1 := by
  unfold PumpSession.acceptData
  dsimp only
  generalize hcounted : ({ session with state := _ } : PumpSession) = counted
  have hstart : StaysIdle counted := hcounted ▸ hidle.congr rfl rfl
  have happlied := hstart.markResponsive.decodeAndApply hpayload
  exact notify (notify (happlied.congr rfl rfl) _ _) _ _

/-- A block that is accepted reports no authorization; any other frame may report what it
likes. -/
theorem handleResponseFrame (hidle : StaysIdle session) {frame : DartLineFrame}
    (hpayload : session.receiveLine.verdict frame = .accepted → Unauthorizing frame.payload) :
    StaysIdle (session.handleResponseFrame frame).1 := by
  have hnoted : StaysIdle (session.noteFrame frame) := by
    have hremembered : StaysIdle { session with
        state := { session.state with lastRawFrame := some frame.rawFrame } } :=
      hidle.congr rfl rfl
    exact hremembered.publish fun _ hpayload => by cases hpayload
  rcases PumpSession.handleResponseFrame_cases session frame with
    ⟨hverdict, hhandled⟩ | ⟨-, hhandled⟩ | ⟨-, hhandled⟩ | ⟨-, hignored⟩
  · rw [hhandled]
    exact hnoted.acceptData (hpayload hverdict)
  · rw [hhandled]
    exact (hnoted.congr rfl rfl).notify _ _
  · rw [hhandled]
    unfold PumpSession.onEot
    dsimp only
    generalize hcounted : ({ session.noteFrame frame with state := _ } : PumpSession) = counted
    have hstart : StaysIdle counted := hcounted ▸ hnoted.congr rfl rfl
    exact hstart.markResponsive.notify _ _
  · rcases hignored with hhandled | hhandled | hhandled | ⟨error, hhandled⟩
    · rw [hhandled]
      exact (hnoted.congr rfl rfl).notify _ _
    · rw [hhandled]
      exact (hnoted.congr rfl rfl).notify _ _
    · rw [hhandled]
      exact (hnoted.congr rfl rfl).notify _ _
    · rw [hhandled]
      exact hnoted.congr rfl rfl

theorem onTimeout (hidle : StaysIdle session) (maxConsecutive : Nat) :
    StaysIdle (session.onTimeout maxConsecutive) := by
  unfold PumpSession.onTimeout
  dsimp only
  generalize hnoted : PumpSession.notify _ .RESPONSE_TIMEOUT _ = noted
  have hcounted : StaysIdle noted := by
    rw [← hnoted]
    exact (hidle.congr rfl rfl).notify _ _
  split
  · exact (hcounted.setCommunication _).applySm (by decide)
  · split
    · exact hcounted.setCommunication _
    · exact hcounted

theorem buildPoll (hidle : StaysIdle session) : StaysIdle session.buildPoll.1 :=
  (hidle.congr rfl rfl).notify _ _

end StaysIdle

/-- A new session is idle. -/
theorem staysIdle_create (address : Byte) (pumpId : String) (policy : Simulator.SequencePolicy) :
    StaysIdle (PumpSession.create address pumpId policy) := by
  have hidle : PumpState.DISCONNECTED ∈ idleStates := by decide
  exact ⟨hidle, fun _ hpayload => absurd hpayload List.not_mem_nil⟩

end Controller
end Intelipump
