import Mathlib.Tactic.Common
import Intelipump.Foundation.FullDuplex
import Intelipump.Link.Reports

namespace Intelipump
namespace Link

open Dart.Line
open Controller
open Simulator
open Foundation
open Foundation.Runs
open Foundation.StopAndWait (Line Medium)

/-!
# The dialogue over a transport that buffers

A byte transport keeps what is written until it is read.  A controller that gives up
waiting and polls again does not take its POLL back, nor the answer that is under way, so
that late answers meet later polls.  Here each direction is a queue of frames; a frame may
be lost at any place of it, and a DATA frame may arrive with an invalid CRC.

The ends and their logs are those of `LinkState`.  An end that acts finds the frame it
handles on the bus, and what it sends is moved from there to the end of a queue.
-/

/-- Two ends and the frames between them, the oldest first. -/
structure DuplexLink where
  ends : LinkState
  toPump : List (List Byte)
  toController : List (List Byte × Nat)
deriving DecidableEq

inductive DuplexAction where
  /-- A poll, a command, a time-out, an operation at the pump, the passing of time. -/
  | act (action : LinkAction)
  | pumpReceives (uuid4 : String)
  | controllerReceives
  | corrupt (frame : DartLineFrame)
  | loseToPump (index : Nat)
  | loseToController (index : Nat)
deriving DecidableEq

namespace DuplexLink

def start (config : SimulatorConfig) (address : Byte) (pumpId : String) : DuplexLink where
  ends := LinkState.start config address pumpId
  toPump := []
  toController := []

/-- The frames for the pump on a bus. -/
def busToPump : Bus → List (List Byte)
  | .toPump wire => [wire]
  | _ => []

/-- The frames for the controller on a bus. -/
def busToController : Bus → List (List Byte × Nat)
  | .toController wire number => [(wire, number)]
  | _ => []

/-- What an end has put on the bus goes to the end of its queue. -/
def collect (ends : LinkState) (toPump : List (List Byte))
    (toController : List (List Byte × Nat)) : DuplexLink where
  ends := { ends with bus := .idle }
  toPump := toPump ++ busToPump ends.bus
  toController := toController ++ busToController ends.bus

/-- An end acts on a frame of the bus. -/
def handle (link : DuplexLink) (bus : Bus) (action : LinkAction)
    (toPump : List (List Byte)) (toController : List (List Byte × Nat)) : DuplexLink :=
  collect ({ link.ends with bus := bus }.step action) toPump toController

def step (link : DuplexLink) : DuplexAction → DuplexLink
  | .act action => link.handle .idle action link.toPump link.toController
  | .pumpReceives uuid4 =>
      match link.toPump with
      | [] => link
      | wire :: rest => link.handle (.toPump wire) (.pumpReceives uuid4) rest link.toController
  | .controllerReceives =>
      match link.toController with
      | [] => link
      | (wire, number) :: rest =>
          link.handle (.toController wire number) .controllerReceives link.toPump rest
  | .corrupt frame =>
      match link.toController with
      | [] => link
      | (wire, number) :: rest =>
          if frame.controlType = .DATA ∧ frame.crcValid = some false then
            link.handle (.toController wire number) (.corrupt frame) link.toPump rest
          else link
  | .loseToPump index => { link with toPump := link.toPump.eraseIdx index }
  | .loseToController index => { link with toController := link.toController.eraseIdx index }

def run (link : DuplexLink) (actions : List DuplexAction) : DuplexLink :=
  actions.foldl step link

/-- The events that a step publishes. -/
def newEvents (link : DuplexLink) (action : DuplexAction) : List ControllerEvent :=
  (link.step action).ends.session.events.drop link.ends.session.events.length

def publishedBy (link : DuplexLink) : List DuplexAction → List ControllerEvent
  | [] => []
  | action :: rest => link.newEvents action ++ (link.step action).publishedBy rest

/-- The blocks on their way to the controller. -/
def blocks (address : Byte) (toController : List (List Byte × Nat)) : List (Fin 16 × Item) :=
  toController.flatMap fun sent => (LinkState.medium address (.toController sent.1 sent.2)).blocks

/-- The ACKs on their way to the pump. -/
def acks (address : Byte) (toPump : List (List Byte)) : List (Fin 16) :=
  toPump.flatMap fun wire => (LinkState.medium address (.toPump wire)).acks

theorem blocks_append (address : Byte) (first second : List (List Byte × Nat)) :
    blocks address (first ++ second) = blocks address first ++ blocks address second :=
  List.flatMap_append

theorem acks_append (address : Byte) (first second : List (List Byte)) :
    acks address (first ++ second) = acks address first ++ acks address second :=
  List.flatMap_append

end DuplexLink

/-- Actions that end no dialogue. -/
def DuplexAction.KeepsDialogue : DuplexAction → Prop
  | .act action => action.KeepsDialogue
  | _ => True

instance (action : DuplexAction) : Decidable action.KeepsDialogue := by
  unfold DuplexAction.KeepsDialogue
  cases action <;> infer_instance

/-! ## The invariant -/

/-- A frame for the pump: its own, and no IAP. -/
def OwnFrame (address : Byte) (wire : List Byte) : Prop :=
  ∃ frame, parseFrame wire = .ok frame ∧ frame.address = address ∧ frame.controlType ≠ .IAP

/-- Both ends are well formed, and what is between them is ordered. -/
structure DuplexInvariant (link : DuplexLink) : Prop where
  idle : link.ends.bus = .idle
  own : ∀ wire ∈ link.toPump, OwnFrame link.ends.address wire
  line : ∃ pump, WellFormed link.ends pump ∧
    (link.ends.line pump).Ordered link.ends.next
      (DuplexLink.blocks link.ends.address link.toController)
      (DuplexLink.acks link.ends.address link.toPump)

theorem medium_blocks (address : Byte) (bus : Bus) :
    (LinkState.medium address bus).blocks =
      DuplexLink.blocks address (DuplexLink.busToController bus) := by
  cases bus with
  | idle => rfl
  | toController wire number => exact (List.append_nil _).symm
  | toPump wire =>
      change (LinkState.medium address (.toPump wire)).blocks = []
      unfold LinkState.medium
      dsimp only
      split
      · split <;> rfl
      · rfl

theorem medium_acks (address : Byte) (bus : Bus) :
    (LinkState.medium address bus).acks =
      DuplexLink.acks address (DuplexLink.busToPump bus) := by
  cases bus with
  | idle => rfl
  | toPump wire => exact (List.append_nil _).symm
  | toController wire number =>
      change (LinkState.medium address (.toController wire number)).acks = []
      unfold LinkState.medium
      dsimp only
      split
      · split <;> rfl
      · rfl

namespace DuplexInvariant

variable {link : DuplexLink}

/-- The step of an end keeps the invariant, if the frame that it finds on the bus was the
oldest one of its queue. -/
theorem handle (hinv : DuplexInvariant link) {bus : Bus} {action : LinkAction}
    {toPump : List (List Byte)} {toController : List (List Byte × Nat)}
    (htoPump : link.toPump = DuplexLink.busToPump bus ++ toPump)
    (htoController : link.toController = DuplexLink.busToController bus ++ toController)
    (hkeeps : action.KeepsDialogue)
    (hquiet : ∀ pump, WellFormed { link.ends with bus := bus } pump →
      LinkState.lineAction { link.ends with bus := bus } pump action = .keep ∨
          LinkState.lineAction { link.ends with bus := bus } pump action = .repeatBlock →
        LinkState.medium link.ends.address bus = .idle) :
    DuplexInvariant (link.handle bus action toPump toController) := by
  obtain ⟨hidle, hown, pump, hwell, hordered⟩ := hinv
  have hbusOwn : ∀ wire, bus = .toPump wire → OwnFrame link.ends.address wire := by
    rintro wire rfl
    exact hown wire (htoPump ▸ List.mem_cons_self)
  have hfront : WellFormed { link.ends with bus := bus } pump := by
    refine hwell.withBus bus fun wire hwire => ?_
    obtain ⟨frame, hparsed, haddress, -⟩ := hbusOwn wire hwire
    exact ⟨frame, hparsed, haddress⟩
  have hnone : NoIap { link.ends with bus := bus } := by
    intro wire frame hwire hparsed
    obtain ⟨sent, hsent, -, htype⟩ := hbusOwn wire hwire
    exact ne_iap_of_parseFrame hsent htype hparsed
  obtain ⟨after, hwell', hline⟩ := hfront.step_simulates action
  have haddress : LinkState.address ({ link.ends with bus := bus }.step action) =
      link.ends.address := address_step { link.ends with bus := bus } action
  have hnext : LinkState.next ({ link.ends with bus := bus }.step action) = link.ends.next :=
    next_step { link.ends with bus := bus } action
  -- the frame on the bus was the oldest one of its queue
  have hwaiting : (LinkState.line { link.ends with bus := bus } pump).Ordered link.ends.next
      ((LinkState.line { link.ends with bus := bus } pump).medium.blocks ++
        DuplexLink.blocks link.ends.address toController)
      ((LinkState.line { link.ends with bus := bus } pump).medium.acks ++
        DuplexLink.acks link.ends.address toPump) := by
    change Line.Ordered _ _ ((LinkState.medium link.ends.address bus).blocks ++ _)
      ((LinkState.medium link.ends.address bus).acks ++ _)
    rw [medium_blocks, medium_acks, ← DuplexLink.blocks_append, ← DuplexLink.acks_append,
      ← htoController, ← htoPump]
    exact hordered.onMedium _
  have hstepped := hwaiting.step (next_ne link.ends) 0
    (hfront.allowed_lineAction action) (lasting_lineAction hnone pump hkeeps)
    (hquiet pump hfront)
  have hsame : (LinkState.line { link.ends with bus := bus } pump).step link.ends.next 0
      (LinkState.lineAction { link.ends with bus := bus } pump action) =
        LinkState.line ({ link.ends with bus := bus }.step action) after := hline.symm
  rw [hsame] at hstepped
  refine ⟨rfl, ?_, after, hwell'.withBus .idle fun _ h => Bus.noConfusion h, ?_⟩
  · -- what goes out to the pump is a frame for it, and no IAP
    intro wire hwire
    change OwnFrame (LinkState.address ({ link.ends with bus := bus }.step action)) wire
    rw [haddress]
    rcases List.mem_append.mp hwire with hold | hnew
    · refine hown wire (htoPump ▸ List.mem_append_right _ hold)
    · cases hbus : ({ link.ends with bus := bus }.step action).bus with
      | idle => rw [hbus] at hnew; exact absurd hnew List.not_mem_nil
      | toController sent number => rw [hbus] at hnew; exact absurd hnew List.not_mem_nil
      | toPump sent =>
          rw [hbus] at hnew
          obtain rfl := List.mem_singleton.mp hnew
          obtain ⟨frame, hparsed, hto⟩ := hwell'.toPump wire hbus
          exact ⟨frame, hparsed, hto.trans haddress,
            noIap_step hnone hkeeps wire frame hbus hparsed⟩
  · change Line.Ordered (LinkState.next ({ link.ends with bus := bus }.step action)) _
      (DuplexLink.blocks (LinkState.address ({ link.ends with bus := bus }.step action)) _)
      (DuplexLink.acks (LinkState.address ({ link.ends with bus := bus }.step action)) _)
    have hsent : (LinkState.line ({ link.ends with bus := bus }.step action) after).medium =
        LinkState.medium link.ends.address ({ link.ends with bus := bus }.step action).bus :=
      congrArg (LinkState.medium · _) haddress
    rw [hsent, medium_blocks, medium_acks, ← DuplexLink.blocks_append,
      ← DuplexLink.acks_append] at hstepped
    rw [hnext, haddress]
    exact hstepped.onMedium .idle

/-- Frames are lost from the queues. -/
theorem lose (hinv : DuplexInvariant link) {toPump : List (List Byte)}
    {toController : List (List Byte × Nat)} (htoPump : toPump.Sublist link.toPump)
    (htoController : toController.Sublist link.toController) :
    DuplexInvariant { link with toPump := toPump, toController := toController } := by
  obtain ⟨hidle, hown, pump, hwell, hordered⟩ := hinv
  refine ⟨hidle, fun wire hwire => hown wire (htoPump.subset hwire), pump, hwell, ?_⟩
  exact hordered.lose (htoController.flatMap _) (htoPump.flatMap _)

theorem step (hinv : DuplexInvariant link) {action : DuplexAction}
    (hkeeps : action.KeepsDialogue) : DuplexInvariant (link.step action) := by
  unfold DuplexLink.step
  cases action with
  | act action => exact hinv.handle rfl rfl hkeeps fun _ _ _ => rfl
  | pumpReceives uuid4 =>
      dsimp only
      split
      · exact hinv
      · rename_i wire rest hfront
        refine hinv.handle hfront rfl trivial fun pump hwell hquiet => ?_
        obtain ⟨frame, hparsed, -⟩ := hwell.toPump wire rfl
        rw [medium_toPump _ hparsed]
        refine if_neg fun hack => ?_
        -- an ACK is one for the line too, or it is not heard at all
        unfold LinkState.lineAction LinkState.frameAction at hquiet
        dsimp only at hquiet
        rw [hparsed] at hquiet
        dsimp only at hquiet
        rw [hack] at hquiet
        split at hquiet
        · rcases hquiet with hkeep | hrepeat
          · cases hkeep
          · cases hrepeat
        · rcases hquiet with hkeep | hrepeat
          · cases hkeep
          · cases hrepeat
  | controllerReceives =>
      dsimp only
      split
      · exact hinv
      · rename_i wire number rest hfront
        refine hinv.handle rfl hfront trivial fun pump _ hquiet => ?_
        -- what the controller reads is received
        rcases hquiet with hkeep | hrepeat
        · exact absurd hkeep (by unfold LinkState.lineAction; simp)
        · exact absurd hrepeat (by unfold LinkState.lineAction; simp)
  | corrupt frame =>
      dsimp only
      split
      · exact hinv
      · split
        · rename_i wire number rest hfront hcorrupt
          refine hinv.handle rfl hfront trivial fun pump _ hquiet => ?_
          have hlose : LinkState.lineAction
              { link.ends with bus := .toController wire number } pump (.corrupt frame) =
                .lose := if_pos hcorrupt
          rw [hlose] at hquiet
          rcases hquiet with hkeep | hrepeat
          · cases hkeep
          · cases hrepeat
        · exact hinv
  | loseToPump index => exact hinv.lose (List.eraseIdx_sublist _ _) (List.Sublist.refl _)
  | loseToController index => exact hinv.lose (List.Sublist.refl _) (List.eraseIdx_sublist _ _)

end DuplexInvariant

theorem duplexInvariant_start (config : SimulatorConfig) {address : Byte} (pumpId : String)
    (haddress : address ∈ config.pumps.map (·.dartAddress)) :
    DuplexInvariant (DuplexLink.start config address pumpId) := by
  obtain ⟨pump, hwell, hline⟩ := wellFormed_start config pumpId haddress
  refine ⟨rfl, fun _ h => absurd h List.not_mem_nil, pump, hwell, ?_⟩
  change (LinkState.line (LinkState.start config address pumpId) pump).Ordered _ _ _
  rw [hline]
  refine ⟨.resting rfl rfl (Option.some_ne_none _).symm rfl ?_ ?_, ?_⟩
  · exact fun _ h => absurd h List.not_mem_nil
  · exact fun _ h => absurd h List.not_mem_nil
  · exact fun _ h => absurd h List.not_mem_nil

/-! ## Whole runs -/

/-- A step reports what it decodes. -/
theorem tells_duplexStep (link : DuplexLink) (action : DuplexAction) :
    ∃ items, Tells link.ends (link.step action).ends items := by
  have hhandle : ∀ (bus : Bus) (action : LinkAction) (toPump : List (List Byte))
      (toController : List (List Byte × Nat)),
      ∃ items, Tells link.ends (link.handle bus action toPump toController).ends items := by
    intro bus action toPump toController
    obtain ⟨items, hdecoded, hreports⟩ := tells_step { link.ends with bus := bus } action
    exact ⟨items, hdecoded, hreports⟩
  have hkept : ∃ items, Tells link.ends link.ends items :=
    ⟨[], tells_of_quiet rfl (PumpSession.reported_of_eq rfl)⟩
  unfold DuplexLink.step
  cases action with
  | act action => exact hhandle _ _ _ _
  | pumpReceives uuid4 =>
      dsimp only
      split
      · exact hkept
      · exact hhandle _ _ _ _
  | controllerReceives =>
      dsimp only
      split
      · exact hkept
      · exact hhandle _ _ _ _
  | corrupt frame =>
      dsimp only
      split
      · exact hkept
      · split
        · exact hhandle _ _ _ _
        · exact hkept
  | loseToPump index => exact hkept
  | loseToController index => exact hkept

theorem reports_duplexPublishedBy (link : DuplexLink) (actions : List DuplexAction) :
    itemReports (link.run actions).ends.decoded =
      itemReports link.ends.decoded ++ reports (link.publishedBy actions) := by
  induction actions generalizing link with
  | nil => exact (List.append_nil _).symm
  | cons action rest ih =>
      obtain ⟨items, htells⟩ := tells_duplexStep link action
      change itemReports ((link.step action).run rest).ends.decoded = _
      rw [ih, htells.decoded, itemReports_append, DuplexLink.publishedBy, reports_append,
        DuplexLink.newEvents, htells.reports, List.append_assoc]

/-- However late the frames are and wherever they are lost, over any run without restart,
IAP or disabled communication the transactions on the event bus are those of the blocks
that the pump popped, each once and in order, and the last block may be missing.  What the
controller acknowledged it has decoded. -/
theorem late_frames_published_once (config : SimulatorConfig) (address : Byte)
    (pumpId : String) (actions : List DuplexAction)
    (haddress : address ∈ config.pumps.map (·.dartAddress))
    (hkeeps : ∀ action ∈ actions, action.KeepsDialogue) :
    (∃ behind : List Item, behind.length ≤ 1 ∧
      itemReports ((DuplexLink.start config address pumpId).run actions).ends.popped =
        reports ((DuplexLink.start config address pumpId).publishedBy actions) ++
          itemReports behind) ∧
      ∀ item ∈ ((DuplexLink.start config address pumpId).run actions).ends.acknowledged,
        item ∈ ((DuplexLink.start config address pumpId).run actions).ends.decoded := by
  have hinitial := duplexInvariant_start config pumpId haddress
  have halong : Along DuplexLink.step (fun _ action => action.KeepsDialogue)
      (DuplexLink.start config address pumpId) actions :=
    along_of_forall fun action hmem _ => hkeeps action hmem
  have hrun : DuplexInvariant ((DuplexLink.start config address pumpId).run actions) :=
    invariant_of_along (fun _ _ hlink hcondition => hlink.step hcondition) hinitial halong
  obtain ⟨-, -, pump, -, hordered⟩ := hrun
  refine ⟨?_, hordered.acked⟩
  obtain ⟨⟨behind, hbehind⟩, hlength⟩ := hordered.delivered_prefix
  have hpopped : ((DuplexLink.start config address pumpId).run actions).ends.popped =
      ((DuplexLink.start config address pumpId).run actions).ends.decoded ++ behind :=
    hbehind.symm
  refine ⟨behind, ?_, ?_⟩
  · have htotal := congrArg List.length hpopped
    change ((DuplexLink.start config address pumpId).run actions).ends.popped.length ≤
      ((DuplexLink.start config address pumpId).run actions).ends.decoded.length + 1 at hlength
    rw [List.length_append] at htotal
    omega
  · rw [hpopped, itemReports_append, reports_duplexPublishedBy]
    rfl

/-- Two polls before the first answer is read: the block comes twice, its second ACK is
stale, and the next block follows. -/
def lateRun : List DuplexAction :=
  [.act (.operate "" .coldStartToReady), .act .poll, .act .poll, .pumpReceives "",
    .pumpReceives "", .controllerReceives, .act .poll, .pumpReceives "", .pumpReceives "",
    .controllerReceives, .controllerReceives, .pumpReceives "", .pumpReceives ""]

theorem late_frames_published_once_polled_twice :
    ((DuplexLink.start {} 0x01 "fp-1").run lateRun).ends.decoded.length = 2 ∧
      (∃ behind : List Item, behind.length ≤ 1 ∧
        itemReports ((DuplexLink.start {} 0x01 "fp-1").run lateRun).ends.popped =
          reports ((DuplexLink.start {} 0x01 "fp-1").publishedBy lateRun) ++
            itemReports behind) ∧
      ∀ item ∈ ((DuplexLink.start {} 0x01 "fp-1").run lateRun).ends.acknowledged,
        item ∈ ((DuplexLink.start {} 0x01 "fp-1").run lateRun).ends.decoded :=
  ⟨by decide +kernel, late_frames_published_once {} 0x01 "fp-1" lateRun (by decide) (by decide)⟩

end Link
end Intelipump
