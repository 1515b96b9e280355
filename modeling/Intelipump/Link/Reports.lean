import Mathlib.Tactic.Common
import Intelipump.Controller.DecodedReports
import Intelipump.Link.Delivery

namespace Intelipump
namespace Link

open Dart.Line
open Controller
open Controller.PumpSession
open Simulator
open Foundation
open Foundation.Runs
open Foundation.StateEffect

/-!
# What a dialogue puts on the controller's event bus

The sessions of a run publish one after another.  Whatever happens in between, their
reports are the payloads that they decoded, read in order (`reports_publishedBy`).
-/

/-- The reports of payloads one after another. -/
def itemReports (items : List Item) : List TransactionDecodedPayload :=
  (payloads items).flatMap payloadReports

theorem itemReports_append (items more : List Item) :
    itemReports (items ++ more) = itemReports items ++ itemReports more := by
  unfold itemReports payloads
  rw [List.map_append, List.flatMap_append]

namespace LinkState

/-- The events that a step publishes; a new session has published nothing. -/
def newEvents (link : LinkState) (action : LinkAction) : List ControllerEvent :=
  (link.step action).session.events.drop link.session.events.length

/-- The events that the sessions of a run publish. -/
def publishedBy (link : LinkState) : List LinkAction → List ControllerEvent
  | [] => []
  | action :: rest => link.newEvents action ++ (link.step action).publishedBy rest

end LinkState

/-- What an action can do to the session and to what was decoded. -/
inductive SessionStep (link : LinkState) : LinkState → Prop where
  | kept {after : LinkState} (hsession : after.session = link.session)
      (hdecoded : after.decoded = link.decoded) : SessionStep link after
  | polled {after : LinkState} (hsession : after.session = link.session.buildPoll.1)
      (hdecoded : after.decoded = link.decoded) : SessionStep link after
  | timedOut {after : LinkState} (maxConsecutive : Nat)
      (hsession : after.session = link.session.onTimeout maxConsecutive)
      (hdecoded : after.decoded = link.decoded) : SessionStep link after
  | heard {after : LinkState} (frame : DartLineFrame) (number : Nat)
      (hheard : after = link.hear frame number) : SessionStep link after
  | restarted {after : LinkState}
      (hsession : after.session = PumpSession.create link.address
        link.session.state.pumpId link.session.sequencePolicy)
      (hdecoded : after.decoded = link.decoded) : SessionStep link after

theorem sessionStep_step (link : LinkState) (action : LinkAction) :
    SessionStep link (link.step action) := by
  have htransmit : ∀ (current : LinkState) (built : Except Raised (List Byte)),
      (current.transmit built).session = current.session ∧
        (current.transmit built).decoded = current.decoded := by
    intro current built
    unfold LinkState.transmit
    split <;> exact ⟨rfl, rfl⟩
  unfold LinkState.step
  cases action with
  | poll => exact .polled (htransmit _ _).1 (htransmit _ _).2
  | command sequence payload => exact .kept (htransmit _ _).1 (htransmit _ _).2
  | iap => exact .kept (htransmit _ _).1 (htransmit _ _).2
  | lose => exact .kept rfl rfl
  | pumpReceives uuid4 => dsimp only; split <;> exact .kept rfl rfl
  | controllerReceives =>
      dsimp only
      split
      · split
        · exact .heard _ _ rfl
        · exact .kept rfl rfl
      · exact .kept rfl rfl
  | corrupt frame =>
      dsimp only
      split
      · split
        · exact .heard _ _ rfl
        · exact .kept rfl rfl
      · exact .kept rfl rfl
  | timeout maxConsecutive => exact .timedOut maxConsecutive rfl rfl
  | operate uuid4 operation => exact .kept rfl rfl
  | advance milliseconds => exact .kept rfl rfl
  | restartController => exact .restarted rfl rfl

theorem address_step (link : LinkState) (action : LinkAction) :
    (link.step action).address = link.address := by
  have haddress : ∀ {after : LinkState} {session : PumpSession}, after.session = session →
      session.receiveLine.address = link.session.receiveLine.address →
      after.address = link.address := by
    rintro after _ rfl hline
    exact hline
  cases sessionStep_step link action with
  | kept hsession => exact haddress hsession rfl
  | polled hsession => exact haddress hsession rfl
  | timedOut maxConsecutive hsession =>
      exact haddress hsession (congrArg ReceiveLine.address
        (PumpSession.receiveLine_onTimeout link.session maxConsecutive))
  | heard frame number hheard =>
      refine haddress (congrArg LinkState.session hheard) ?_
      change (link.session.handleResponseFrame frame).1.receiveLine.address = _
      rw [(link.session.handleResponseFrame_spec frame).1]
      unfold ReceiveLine.after
      split <;> rfl
  | restarted hsession => exact haddress hsession rfl

/-- What was decoded more is what was reported more. -/
structure Tells (link after : LinkState) (items : List Item) : Prop where
  decoded : after.decoded = link.decoded ++ items
  reports : reports (after.session.events.drop link.session.events.length) = itemReports items

/-- The session of a link published on. -/
theorem tells_of_reported {link after : LinkState} {items : List Item}
    (hdecoded : after.decoded = link.decoded ++ items)
    (hreported : PumpSession.Reported (itemReports items) link.session after.session) :
    Tells link after items := by
  obtain ⟨new, hevents, hlisted⟩ := hreported
  refine ⟨hdecoded, ?_⟩
  rw [hevents, List.drop_left, hlisted]

theorem tells_of_quiet {link after : LinkState} (hdecoded : after.decoded = link.decoded)
    (hreported : PumpSession.Reported [] link.session after.session) : Tells link after [] :=
  tells_of_reported (by rw [hdecoded, List.append_nil]) hreported

theorem tells_hear (link : LinkState) (frame : DartLineFrame) (number : Nat) :
    Tells link (link.hear frame number)
      (if link.session.receiveLine.verdict frame = .accepted then [(frame.payload, number)]
        else []) := by
  have hreported := reported_handleResponseFrame link.session frame
  refine tells_of_reported rfl ?_
  split
  · rename_i haccepted
    rw [if_pos haccepted] at hreported
    have hsingle : itemReports [(frame.payload, number)] = payloadReports frame.payload :=
      List.append_nil _
    rw [hsingle]
    exact hreported
  · rename_i hother
    rw [if_neg hother] at hreported
    exact hreported

/-- A step reports what it decodes. -/
theorem tells_step (link : LinkState) (action : LinkAction) :
    ∃ items, Tells link (link.step action) items := by
  cases sessionStep_step link action with
  | kept hsession hdecoded =>
      exact ⟨[], tells_of_quiet hdecoded (hsession ▸ reported_of_eq rfl)⟩
  | polled hsession hdecoded =>
      exact ⟨[], tells_of_quiet hdecoded (hsession ▸ reported_buildPoll _)⟩
  | timedOut maxConsecutive hsession hdecoded =>
      exact ⟨[], tells_of_quiet hdecoded (hsession ▸ reported_onTimeout _ _)⟩
  | heard frame number hheard => exact ⟨_, hheard ▸ tells_hear link frame number⟩
  | restarted hsession hdecoded =>
      -- the new session has published nothing yet
      refine ⟨[], by rw [hdecoded, List.append_nil], ?_⟩
      rw [hsession]
      change reports (List.drop _ []) = _
      rw [List.drop_nil]
      rfl

/-- Over any run the reports are what the sessions decoded, in order. -/
theorem reports_publishedBy (link : LinkState) (actions : List LinkAction) :
    itemReports (link.run actions).decoded =
      itemReports link.decoded ++ reports (link.publishedBy actions) := by
  induction actions generalizing link with
  | nil => exact (List.append_nil _).symm
  | cons action rest ih =>
      obtain ⟨items, htells⟩ := tells_step link action
      change itemReports ((link.step action).run rest).decoded = _
      rw [ih, htells.decoded, itemReports_append, LinkState.publishedBy, reports_append,
        LinkState.newEvents, htells.reports, List.append_assoc]

/-- What was popped and is not decoded yet. -/
theorem DeliveryInvariant.behind {link : LinkState} (hinv : DeliveryInvariant link) :
    ∃ behind : List Item, behind.length ≤ 1 ∧ link.popped = link.decoded ++ behind := by
  obtain ⟨-, pump, -, honce⟩ := hinv
  obtain ⟨⟨behind, hbehind⟩, hlength⟩ := honce.delivered_prefix
  change link.decoded ++ behind = link.popped at hbehind
  change link.popped.length ≤ link.decoded.length + 1 at hlength
  have htotal := congrArg List.length hbehind
  rw [List.length_append] at htotal
  exact ⟨behind, by omega, hbehind.symm⟩

/-- Over any run without restart, IAP or disabled communication, the transactions on the
event bus are those of the blocks that the pump popped, each once and in order, and the
last block may be missing. -/
theorem published_once_in_order (config : SimulatorConfig) (address : Byte)
    (pumpId : String) (actions : List LinkAction)
    (haddress : address ∈ config.pumps.map (·.dartAddress))
    (hkeeps : ∀ action ∈ actions, action.KeepsDialogue) :
    ∃ behind : List Item, behind.length ≤ 1 ∧
      itemReports ((LinkState.start config address pumpId).run actions).popped =
        reports ((LinkState.start config address pumpId).publishedBy actions) ++
          itemReports behind := by
  obtain ⟨pump, hwell, hline⟩ := wellFormed_start config pumpId haddress
  have hinitial : DeliveryInvariant (LinkState.start config address pumpId) := by
    refine ⟨fun _ _ h => Bus.noConfusion h, pump, hwell, ?_⟩
    rw [hline]
    exact ⟨fun _ => ⟨rfl, fun h => absurd h (by decide), rfl⟩,
      fun _ h => absurd h (by simp), fun _ _ h => absurd h (by simp),
      fun _ h => absurd h (by simp)⟩
  have halong : Along LinkState.step (fun _ action => action.KeepsDialogue)
      (LinkState.start config address pumpId) actions :=
    along_of_forall fun action hmem _ => hkeeps action hmem
  have hrun : DeliveryInvariant ((LinkState.start config address pumpId).run actions) :=
    invariant_of_along (fun _ _ hlink hcondition => hlink.step hcondition) hinitial halong
  obtain ⟨behind, hlength, hpopped⟩ := hrun.behind
  refine ⟨behind, hlength, ?_⟩
  rw [hpopped, itemReports_append, reports_publishedBy]
  rfl

/-- Two blocks over a line that corrupts the first one and loses its ACK. -/
theorem published_once_in_order_lossy :
    reports (defaultLink.publishedBy lossyRun) ≠ [] ∧
      ∃ behind : List Item, behind.length ≤ 1 ∧
        itemReports (defaultLink.run lossyRun).popped =
          reports (defaultLink.publishedBy lossyRun) ++ itemReports behind :=
  ⟨by decide +kernel,
    published_once_in_order {} 0x01 "fp-1" lossyRun (by decide) (by decide)⟩

end Link
end Intelipump
