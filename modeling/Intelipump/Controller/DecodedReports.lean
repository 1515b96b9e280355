import Mathlib.Tactic.Common
import Intelipump.Controller.SessionCore

namespace Intelipump
namespace Controller

open Domain
open Dart.Line
open Dart.Application
open StateMachine

/-!
# What a session reports of the transactions it decodes

A session publishes one event for each transaction of a block that it accepts, and none for
any other frame (`reported_handleResponseFrame`).
-/

/-- The decoded transaction that an event reports. -/
def decodedReport (event : ControllerEvent) : Option TransactionDecodedPayload :=
  match event.type, event.payload with
  | .APPLICATION_TRANSACTION_DECODED, .transactionDecoded payload => some payload
  | _, _ => none

/-- A report without the frame it came in. -/
def TransactionDecodedPayload.content (payload : TransactionDecodedPayload) :
    TransactionDecodedPayload :=
  { payload with sourceFrameRef := none }

/-- The decoded transactions that events report, in their order. -/
def reports (events : List ControllerEvent) : List TransactionDecodedPayload :=
  (events.filterMap decodedReport).map (·.content)

/-- What there is to report of a data payload, in whatever frame it comes. -/
def payloadReports (payload : List Byte) : List TransactionDecodedPayload :=
  (decodeDataPayload payload ⟨none, none, none⟩).transactions.map
    PumpSession.transactionDecodedPayload

theorem reports_append (events more : List ControllerEvent) :
    reports (events ++ more) = reports events ++ reports more := by
  unfold reports
  rw [List.filterMap_append, List.map_append]

theorem reports_singleton {event : ControllerEvent} (hnone : decodedReport event = none) :
    reports [event] = [] := by
  unfold reports
  rw [List.filterMap_cons_none hnone]
  rfl

/-- The content of a report does not depend on the frame. -/
theorem content_transactionDecodedPayload (rawTx : RawTransaction) (origin : FrameOrigin) :
    (PumpSession.transactionDecodedPayload (decodeRawTransaction rawTx origin)).content =
      PumpSession.transactionDecodedPayload
        (decodeRawTransaction rawTx ⟨none, none, none⟩) := by
  rw [decodeRawTransaction_eq rawTx origin, decodeRawTransaction_eq rawTx ⟨none, none, none⟩]
  rfl

theorem payloadReports_eq (payload : List Byte) (origin : FrameOrigin) :
    (decodeDataPayload payload origin).transactions.map
        (fun tx => (PumpSession.transactionDecodedPayload tx).content) =
      payloadReports payload := by
  unfold payloadReports decodeDataPayload
  dsimp only
  rw [List.map_map, List.map_map]
  exact List.map_congr_left fun rawTx _ => content_transactionDecodedPayload rawTx origin

namespace PumpSession

/-- The second session published more, and these are the reports among it. -/
def Reported (listed : List TransactionDecodedPayload) (before after : PumpSession) : Prop :=
  ∃ new, after.events = before.events ++ new ∧ reports new = listed

variable {session middle after : PumpSession}

theorem reports_of_reported {listed : List TransactionDecodedPayload}
    (hreported : Reported listed session after) :
    reports after.events = reports session.events ++ listed := by
  obtain ⟨new, hevents, hlisted⟩ := hreported
  rw [hevents, reports_append, hlisted]

theorem reported_of_eq (hevents : after.events = session.events) :
    Reported [] session after :=
  ⟨[], by rw [hevents, List.append_nil], rfl⟩

theorem Reported.trans {first second : List TransactionDecodedPayload}
    (hfirst : Reported first session middle) (hsecond : Reported second middle after) :
    Reported (first ++ second) session after := by
  obtain ⟨new, hnew, hlisted⟩ := hfirst
  obtain ⟨more, hmore, hlisted'⟩ := hsecond
  refine ⟨new ++ more, ?_, ?_⟩
  · rw [hmore, hnew, List.append_assoc]
  · rw [reports_append, hlisted, hlisted']

/-- A step that reports nothing after others. -/
theorem Reported.quietly {listed : List TransactionDecodedPayload}
    (hfirst : Reported listed session middle) (hsecond : Reported [] middle after) :
    Reported listed session after := by
  have htrans := hfirst.trans hsecond
  rwa [List.append_nil] at htrans

theorem reported_publish (session : PumpSession) {event : ControllerEvent}
    (hnone : decodedReport event = none) : Reported [] session (session.publish event) :=
  ⟨[event], rfl, reports_singleton hnone⟩

theorem reported_notify (session : PumpSession) (type : ControllerEventType)
    (detail : String) : Reported [] session (session.notify type detail) :=
  reported_publish session (by cases type <;> rfl)

theorem reported_adoptResult (session : PumpSession) (event : PumpEvent)
    (result : TransitionResult) (key : Option String) :
    Reported [] session (session.adoptResult event result key) := by
  unfold adoptResult
  dsimp only
  split
  · exact (reported_of_eq rfl).quietly (reported_publish _ rfl)
  · exact reported_of_eq rfl

theorem reported_applyMapped (session : PumpSession) (mapped : MappedWayneObservation) :
    Reported [] session (session.applyMapped mapped) := by
  unfold applyMapped
  split
  · exact reported_of_eq rfl
  · dsimp only
    refine Reported.quietly (reported_of_eq ?_) (reported_adoptResult _ _ _ _)
    split
    · split <;> rfl
    · rfl

theorem reported_setCommunication (session : PumpSession) (health : CommunicationHealth) :
    Reported [] session (session.setCommunication health) := by
  unfold setCommunication
  dsimp only
  generalize hupdated : ({ session with
    state := { session.state with communication := health } } : PumpSession) = updated
  have hupdate : Reported [] session updated := hupdated ▸ reported_of_eq rfl
  split
  · exact hupdate
  · have hconnected : Reported [] session
        (if health = .HEALTHY ∧ session.state.communication ∈
          [.UNKNOWN, .DISCONNECTED, .DEGRADED] then updated.notify .PUMP_CONNECTED ""
          else updated) := by
      split
      · exact hupdate.quietly (reported_notify _ _ _)
      · exact hupdate
    split
    · exact hconnected.quietly (reported_notify _ _ _)
    · exact hconnected

theorem reported_markResponsive (session : PumpSession) :
    Reported [] session session.markResponsive := by
  unfold markResponsive
  dsimp only
  split
  · exact (reported_setCommunication session _).quietly (reported_adoptResult _ _ _ _)
  · exact reported_setCommunication session _

theorem reported_applyTransaction (session : PumpSession) (tx : ApplicationTransaction) :
    Reported [(transactionDecodedPayload tx).content] session (session.applyTransaction tx) := by
  have hpublished : Reported [(transactionDecodedPayload tx).content] session
      (session.publish {
        type := .APPLICATION_TRANSACTION_DECODED
        address := session.address
        detail := tx.transactionType.value
        payload := .transactionDecoded (transactionDecodedPayload tx) }) := ⟨_, rfl, rfl⟩
  exact hpublished.quietly (reported_applyMapped _ _)

/-- Every transaction of a block is reported, in its order. -/
theorem reported_decodeAndApply (session : PumpSession) (frame : DartLineFrame) :
    Reported (payloadReports frame.payload) session (session.decodeAndApply frame) := by
  unfold decodeAndApply
  rw [← payloadReports_eq frame.payload (session.frameOrigin frame)]
  generalize (decodeDataPayload frame.payload (session.frameOrigin frame)).transactions = txs
  induction txs generalizing session with
  | nil => exact reported_of_eq rfl
  | cons tx rest ih => exact (reported_applyTransaction session tx).trans (ih _)

theorem reported_acceptData (session : PumpSession) (frame : DartLineFrame) :
    Reported (payloadReports frame.payload) session (session.acceptData frame).1 := by
  unfold acceptData
  dsimp only
  generalize hcounted : ({ session with state := _ } : PumpSession) = counted
  have hstart : Reported [] session counted := hcounted ▸ reported_of_eq rfl
  have happlied : Reported (payloadReports frame.payload) session
      (counted.markResponsive.decodeAndApply frame) :=
    (hstart.quietly (reported_markResponsive _)).trans (reported_decodeAndApply _ _)
  refine Reported.quietly ?_ (reported_notify _ _ _)
  refine Reported.quietly ?_ (reported_notify _ _ _)
  exact happlied.quietly (reported_of_eq rfl)

/-- A frame is reported as its payload is read, when it is accepted; any other frame is
not reported. -/
theorem reported_handleResponseFrame (session : PumpSession) (frame : DartLineFrame) :
    Reported
      (if session.receiveLine.verdict frame = .accepted then payloadReports frame.payload
        else [])
      session (session.handleResponseFrame frame).1 := by
  have hnoted : Reported [] session (session.noteFrame frame) :=
    (reported_of_eq rfl).quietly (reported_publish _ rfl)
  rcases handleResponseFrame_cases session frame with
    ⟨hverdict, hhandled⟩ | ⟨hverdict, hhandled⟩ | ⟨hverdict, hhandled⟩ | ⟨hverdict, hignored⟩
  · rw [if_pos hverdict, hhandled]
    exact hnoted.trans (reported_acceptData _ frame)
  · rw [hverdict, if_neg (by decide), hhandled]
    exact (hnoted.quietly (reported_of_eq rfl)).quietly (reported_notify _ _ _)
  · rw [hverdict, if_neg (by decide), hhandled]
    refine Reported.quietly ?_ (reported_notify _ _ _)
    exact (hnoted.quietly (reported_of_eq rfl)).quietly (reported_markResponsive _)
  · rw [hverdict, if_neg (by decide)]
    rcases hignored with hhandled | hhandled | hhandled | ⟨error, hhandled⟩
    · rw [hhandled]
      exact (hnoted.quietly (reported_of_eq rfl)).quietly (reported_notify _ _ _)
    · rw [hhandled]
      exact (hnoted.quietly (reported_of_eq rfl)).quietly (reported_notify _ _ _)
    · rw [hhandled]
      exact (hnoted.quietly (reported_of_eq rfl)).quietly (reported_notify _ _ _)
    · rw [hhandled]
      exact hnoted.quietly (reported_of_eq rfl)

theorem reported_onTimeout (session : PumpSession) (maxConsecutive : Nat) :
    Reported [] session (session.onTimeout maxConsecutive) := by
  unfold onTimeout
  dsimp only
  generalize hnoted : PumpSession.notify _ .RESPONSE_TIMEOUT _ = noted
  have hquiet : Reported [] session noted :=
    hnoted ▸ (reported_of_eq rfl).quietly (reported_notify _ _ _)
  split
  · exact (hquiet.quietly (reported_setCommunication _ _)).quietly
      (reported_adoptResult _ _ _ _)
  · split
    · exact hquiet.quietly (reported_setCommunication _ _)
    · exact hquiet

theorem reported_buildPoll (session : PumpSession) :
    Reported [] session session.buildPoll.1 :=
  (reported_of_eq rfl).quietly (reported_notify _ _ _)

end PumpSession
end Controller
end Intelipump
