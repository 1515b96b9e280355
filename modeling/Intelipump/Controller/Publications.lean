import Mathlib.Tactic.Common
import Intelipump.Controller.PumpSession

namespace Intelipump
namespace Controller

open Domain
open Dart.Line
open Dart.Application
open StateMachine

/-!
# What a session publishes

A session is called with polls, timeouts and response frames.  `KeptBySession`
collects what has to be shown of a statement about the context and the
published events to have it for every run of such calls.
-/

/-- A call of a session. -/
inductive SessionInput where
  | poll
  | timeout (maxConsecutive : Nat)
  | response (frame : DartLineFrame)
deriving DecidableEq, Repr

namespace PumpSession

def take (session : PumpSession) : SessionInput → PumpSession
  | .poll => session.buildPoll.1
  | .timeout maxConsecutive => session.onTimeout maxConsecutive
  | .response frame => (session.handleResponseFrame frame).1

/-- The session after calls one after another. -/
def run (session : PumpSession) (inputs : List SessionInput) : PumpSession :=
  inputs.foldl take session

end PumpSession

/-- The changed state that an event reports. -/
def stateChange (event : ControllerEvent) : Option StateChangedPayload :=
  match event.type, event.payload with
  | .STATE_CHANGED, .stateChanged payload => some payload
  | _, _ => none

/-- A statement that reads only the context, the address and the published events,
and that the events of a session's own and results of the machine keep; the frames
that were sent are published by the loop. -/
structure KeptBySession (Good : PumpSession → Prop) : Prop where
  congr : ∀ {before after : PumpSession}, Good before → after.context = before.context →
    after.events = before.events → after.address = before.address → Good after
  publish : ∀ {session : PumpSession} {event : ControllerEvent}, stateChange event = none →
    event.type ≠ .FRAME_SENT → event.address = session.address → Good session →
      Good (session.publish event)
  adopt : ∀ {session : PumpSession} (event : PumpEvent) {args : ApplyArgs}
    (key : Option String), args.activeTransactionId = none → Good session →
      Good (session.adoptResult event (apply session.context event args) key)

namespace KeptBySession

variable {Good : PumpSession → Prop} (hkept : KeptBySession Good) {session : PumpSession}

include hkept

theorem notify {type : ControllerEventType} (detail : String) (hsession : type ≠ .FRAME_SENT)
    (hgood : Good session) : Good (session.notify type detail) :=
  hkept.publish (by cases type <;> rfl) hsession rfl hgood

theorem applySm (event : PumpEvent) (hgood : Good session) : Good (session.applySm event) :=
  hkept.adopt event none rfl hgood

theorem applyMapped (mapped : MappedWayneObservation) (hgood : Good session) :
    Good (session.applyMapped mapped) := by
  unfold PumpSession.applyMapped
  split
  · exact hgood
  · dsimp only
    cases PumpSession.usableKey mapped with
    | none => exact hkept.adopt _ _ (by rfl) hgood
    | some key =>
        dsimp only
        split
        · have hremembered : Good { session with
              appliedCompletionKeys := insert key session.appliedCompletionKeys } :=
            hkept.congr hgood rfl rfl rfl
          exact hkept.adopt mapped.event _ (by rfl) hremembered
        · exact hkept.adopt _ _ (by rfl) hgood

theorem setCommunication (health : CommunicationHealth) (hgood : Good session) :
    Good (session.setCommunication health) := by
  unfold PumpSession.setCommunication
  dsimp only
  generalize hupdated : ({ session with
    state := { session.state with communication := health } } : PumpSession) = updated
  have hgoodUpdated : Good updated := hupdated ▸ hkept.congr hgood rfl rfl rfl
  split
  · exact hgoodUpdated
  · have hconnected : Good (if health = .HEALTHY ∧ session.state.communication ∈
        [.UNKNOWN, .DISCONNECTED, .DEGRADED] then updated.notify .PUMP_CONNECTED ""
        else updated) := by
      split
      · exact hkept.notify _ (by decide) hgoodUpdated
      · exact hgoodUpdated
    split
    · exact hkept.notify _ (by decide) hconnected
    · exact hconnected

theorem markResponsive (hgood : Good session) : Good session.markResponsive := by
  unfold PumpSession.markResponsive
  dsimp only
  split
  · exact hkept.applySm _ (hkept.setCommunication _ hgood)
  · exact hkept.setCommunication _ hgood

theorem applyTransaction (tx : ApplicationTransaction) (hgood : Good session) :
    Good (session.applyTransaction tx) :=
  hkept.applyMapped _ (hkept.publish rfl (by simp) rfl hgood)

theorem decodeAndApply (frame : DartLineFrame) (hgood : Good session) :
    Good (session.decodeAndApply frame) := by
  unfold PumpSession.decodeAndApply
  generalize (decodeDataPayload frame.payload (session.frameOrigin frame)).transactions = txs
  induction txs generalizing session with
  | nil => exact hgood
  | cons tx rest ih => exact ih (hkept.applyTransaction tx hgood)

theorem acceptData (frame : DartLineFrame) (hgood : Good session) :
    Good (session.acceptData frame).1 := by
  unfold PumpSession.acceptData
  dsimp only
  refine hkept.notify _ (by decide) (hkept.notify _ (by decide) ?_)
  refine hkept.congr (hkept.decodeAndApply frame (hkept.markResponsive ?_)) rfl rfl rfl
  exact hkept.congr hgood rfl rfl rfl

theorem onData (frame : DartLineFrame) (hgood : Good session) :
    Good (session.onData frame).1 := by
  unfold PumpSession.onData
  split
  · exact hkept.notify _ (by decide) (hkept.congr hgood rfl rfl rfl)
  · split
    · exact hkept.notify _ (by decide) (hkept.congr hgood rfl rfl rfl)
    · split
      · exact hkept.notify _ (by decide) (hkept.congr hgood rfl rfl rfl)
      · exact hkept.acceptData frame hgood

theorem handleResponseFrame (frame : DartLineFrame) (hgood : Good session) :
    Good (session.handleResponseFrame frame).1 := by
  have hnoted : Good (session.noteFrame frame) :=
    hkept.publish rfl (by simp) rfl (hkept.congr hgood rfl rfl rfl)
  have hignored : ∀ error, Good ((session.noteFrame frame).ignoreFrame error) :=
    fun _ => hkept.congr hnoted rfl rfl rfl
  unfold PumpSession.handleResponseFrame
  dsimp only
  split
  · exact hignored _
  · split
    · exact hkept.notify _ (by decide) (hkept.markResponsive (hkept.congr hnoted rfl rfl rfl))
    · exact hkept.onData frame hnoted
    · exact hkept.notify _ (by decide) (hkept.congr hnoted rfl rfl rfl)
    · exact hignored _

theorem onTimeout (maxConsecutive : Nat) (hgood : Good session) :
    Good (session.onTimeout maxConsecutive) := by
  unfold PumpSession.onTimeout
  dsimp only
  generalize hnoted : PumpSession.notify _ .RESPONSE_TIMEOUT _ = noted
  have hgoodNoted : Good noted := hnoted ▸ hkept.notify _ (by decide) (hkept.congr hgood rfl rfl rfl)
  split
  · exact hkept.applySm _ (hkept.setCommunication _ hgoodNoted)
  · split
    · exact hkept.setCommunication _ hgoodNoted
    · exact hgoodNoted

theorem take (input : SessionInput) (hgood : Good session) : Good (session.take input) := by
  cases input with
  | poll => exact hkept.notify _ (by decide) (hkept.congr hgood rfl rfl rfl)
  | timeout maxConsecutive => exact hkept.onTimeout maxConsecutive hgood
  | response frame => exact hkept.handleResponseFrame frame hgood

/-- What every call keeps holds after every run. -/
theorem run (inputs : List SessionInput) (hgood : Good session) :
    Good (session.run inputs) := by
  induction inputs generalizing session with
  | nil => exact hgood
  | cons input rest ih => exact ih (hkept.take input hgood)

end KeptBySession

/-! ## Sales -/

/-- The machine is given no transaction, and has none to report. -/
theorem activeTransactionId_apply {ctx : PumpContext} {event : PumpEvent} {args : ApplyArgs}
    (hargs : args.activeTransactionId = none) (hctx : ctx.activeTransactionId = none) :
    (apply ctx event args).context.activeTransactionId = none := by
  rw [apply_context]
  cases outcome ctx event args with
  | transition target =>
      unfold contextAfter transitionContext
      dsimp only
      rw [hargs, hctx]
      split <;> rfl
  | sameState =>
      unfold contextAfter applyContextFields
      dsimp only
      rw [hargs, hctx]
      rfl
  | _ => exact hctx

/-- The session has no active transaction and has reported none. -/
def NamesNoSale (session : PumpSession) : Prop :=
  session.context.activeTransactionId = none ∧
    ∀ payload ∈ session.events.filterMap stateChange, payload.activeTransactionId = none

theorem keptBySession_namesNoSale : KeptBySession NamesNoSale where
  congr := by
    intro before after hgood hcontext hevents _
    unfold NamesNoSale
    rw [hcontext, hevents]
    exact hgood
  publish := by
    intro session event hevent _ _ hgood
    refine ⟨hgood.1, fun payload hpayload => hgood.2 payload ?_⟩
    have hsame : (session.publish event).events.filterMap stateChange =
        session.events.filterMap stateChange := by
      unfold PumpSession.publish
      rw [List.filterMap_append, List.filterMap_cons_none hevent, List.filterMap_nil,
        List.append_nil]
    exact hsame ▸ hpayload
  adopt := by
    intro session event args key hargs hgood
    have hnext : (apply session.context event args).context.activeTransactionId = none :=
      activeTransactionId_apply hargs hgood.1
    unfold PumpSession.adoptResult
    dsimp only
    split
    · refine ⟨hnext, fun payload hpayload => ?_⟩
      unfold PumpSession.publishStateChanged PumpSession.publish at hpayload
      dsimp only at hpayload
      rw [List.filterMap_append, List.mem_append] at hpayload
      rcases hpayload with hold | hlast
      · exact hgood.2 payload hold
      · cases List.mem_singleton.mp hlast
        exact hnext
    · exact ⟨hnext, hgood.2⟩

/-- The changed states that a session publishes in a run name no transaction. -/
theorem namesNoSale_run {session : PumpSession}
    (hsale : session.context.activeTransactionId = none) (hbus : session.events = [])
    (inputs : List SessionInput) : NamesNoSale (session.run inputs) := by
  refine keptBySession_namesNoSale.run inputs ⟨hsale, fun payload hpayload => ?_⟩
  rw [hbus] at hpayload
  cases hpayload

/-! ## Addresses -/

/-- The session is at an address and publishes for it only. -/
def PublishesFor (address : Byte) (session : PumpSession) : Prop :=
  session.address = address ∧ ∀ event ∈ session.events, event.address = address

theorem PublishesFor.publish {address : Byte} {session : PumpSession} {event : ControllerEvent}
    (hevent : event.address = session.address) (hgood : PublishesFor address session) :
    PublishesFor address (session.publish event) := by
  refine ⟨hgood.1, fun published hpublished => ?_⟩
  rcases List.mem_append.mp hpublished with hold | hlast
  · exact hgood.2 published hold
  · rw [List.mem_singleton.mp hlast]
    exact hevent.trans hgood.1

theorem keptBySession_publishesFor (address : Byte) :
    KeptBySession (PublishesFor address) where
  congr := by
    intro before after hgood _ hevents haddress
    exact ⟨haddress.trans hgood.1, hevents ▸ hgood.2⟩
  publish := fun _ _ hevent hgood => hgood.publish hevent
  adopt := by
    intro session event args key _ hgood
    unfold PumpSession.adoptResult
    dsimp only
    split
    · exact PublishesFor.publish rfl ⟨hgood.1, hgood.2⟩
    · exact ⟨hgood.1, hgood.2⟩

/-- The events that a session publishes in a run are at its address. -/
theorem address_of_mem_run {session : PumpSession} (hbus : session.events = [])
    (inputs : List SessionInput) {event : ControllerEvent}
    (hevent : event ∈ (session.run inputs).events) : event.address = session.address := by
  have hgood : PublishesFor session.address session := by
    refine ⟨rfl, fun published hpublished => ?_⟩
    rw [hbus] at hpublished
    cases hpublished
  exact ((keptBySession_publishesFor session.address).run inputs hgood).2 event hevent

/-! ## Frames that were sent -/

/-- How many frames went out under one of the notes. -/
def framesSent (session : PumpSession) (notes : List String) : Nat :=
  session.events.countP fun event =>
    decide (event.type = .FRAME_SENT) && decide (event.detail ∈ notes)

theorem framesSent_publish (session : PumpSession) (notes : List String)
    {event : ControllerEvent} (hother : event.type ≠ .FRAME_SENT) :
    framesSent (session.publish event) notes = framesSent session notes := by
  unfold framesSent PumpSession.publish
  rw [List.countP_append, List.countP_singleton, decide_eq_false hother, Bool.false_and]
  exact Nat.add_zero _

/-- A session's own calls send no frame. -/
theorem keptBySession_framesSent (notes : List String) (count : Nat) :
    KeptBySession fun session => framesSent session notes = count where
  congr := by
    intro before after hgood _ hevents _
    unfold framesSent at hgood ⊢
    rw [hevents]
    exact hgood
  publish := fun _ hother _ hgood => (framesSent_publish _ notes hother).trans hgood
  adopt := by
    intro session event args key _ hgood
    unfold PumpSession.adoptResult
    dsimp only
    split
    · exact (framesSent_publish _ notes (by simp)).trans hgood
    · exact hgood

end Controller
end Intelipump
