import Mathlib.Tactic.Common
import Intelipump.Link.DialogueLine

namespace Intelipump
namespace Link

open Dart.Line
open Controller
open Simulator
open Foundation
open Foundation.Runs
open Foundation.StateEffect
open Foundation.StopAndWait (Line Medium)
open Simulator.SimulatorSession

/-!
# What the dialogue guarantees

Every run of a dialogue starts from a simulator configuration and a new
session.  Without resets the controller decodes what the pump popped, once and
in order, up to the item on its way (`decoded_prefix_popped`).  With restarts
on either side two guarantees depend on the numbers the ends are left with
(`acknowledged_decoded`, `outstanding_answered`).
-/

/-! ## The start of a dialogue -/

/-- A simulator has a new pump at every configured address. -/
theorem getPump_create (config : SimulatorConfig) {address : Byte}
    (haddress : address ∈ config.pumps.map (·.dartAddress)) :
    ∃ pumpConfig : PumpConfig, pumpConfig.dartAddress = address ∧
      (SimulatorSession.create config).getPump address =
        some (SimulatedPump.create pumpConfig) := by
  change ∃ pumpConfig : PumpConfig, pumpConfig.dartAddress = address ∧
    (config.pumps.foldl addPump []).lookup address = _
  generalize config.pumps = configs at haddress
  induction configs using List.reverseRecOn with
  | nil => cases haddress
  | append_singleton configs last ih =>
      rw [List.foldl_append, List.foldl_cons, List.foldl_nil]
      by_cases hlast : address = last.dartAddress
      · refine ⟨last, hlast.symm, ?_⟩
        rw [lookup_addPump, if_pos hlast]
      · rw [lookup_addPump, if_neg hlast]
        refine ih ?_
        rw [List.map_append, List.mem_append] at haddress
        rcases haddress with hold | hnew
        · exact hold
        · exact absurd (List.mem_singleton.mp hnew) hlast

theorem wellFormed_start (config : SimulatorConfig) {address : Byte} (pumpId : String)
    (haddress : address ∈ config.pumps.map (·.dartAddress)) :
    ∃ pump, WellFormed (LinkState.start config address pumpId) pump ∧
      (LinkState.start config address pumpId).line pump =
        ⟨0, none, 0, none, .idle, [], [], []⟩ := by
  obtain ⟨pumpConfig, rfl, hgetPump⟩ := getPump_create config haddress
  exact ⟨_, ⟨hgetPump, rfl, rfl, fun _ h => absurd h List.not_mem_nil,
    fun _ h => (nomatch h), fun _ h => (nomatch h)⟩, rfl⟩

/-! ## The policy stays -/

theorem sequencePolicy_step (link : LinkState) (action : LinkAction) :
    (link.step action).session.sequencePolicy = link.session.sequencePolicy := by
  have hhear : ∀ frame number,
      (link.hear frame number).session.sequencePolicy = link.session.sequencePolicy := by
    intro frame number
    have h := congrArg ReceiveLine.policy (link.session.handleResponseFrame_spec frame).1
    unfold ReceiveLine.after at h
    split at h <;> exact h
  have htransmit : ∀ (current : LinkState) (built : Except Raised (List Byte)),
      (current.transmit built).session = current.session := by
    intro current built
    unfold LinkState.transmit
    split <;> rfl
  unfold LinkState.step
  cases action with
  | poll => exact congrArg (·.sequencePolicy) (htransmit _ _)
  | command sequence payload => exact congrArg (·.sequencePolicy) (htransmit _ _)
  | iap => exact congrArg (·.sequencePolicy) (htransmit _ _)
  | pumpReceives uuid4 => cases link.bus <;> rfl
  | controllerReceives =>
      dsimp only
      split
      · split
        · exact hhear _ _
        · rfl
      · rfl
  | corrupt frame =>
      dsimp only
      split
      · split
        · exact hhear _ _
        · rfl
      · rfl
  | timeout maxConsecutive =>
      exact congrArg ReceiveLine.policy
        (PumpSession.receiveLine_onTimeout link.session maxConsecutive)
  | _ => rfl

theorem next_step (link : LinkState) (action : LinkAction) :
    (link.step action).next = link.next := by
  unfold LinkState.next
  rw [sequencePolicy_step]

theorem next_ne (link : LinkState) (sequence : Fin 16) :
    link.next sequence ≠ sequence :=
  nextSequence_ne_self sequence _

/-! ## Exactly once, in order -/

/-- Actions that end no dialogue. -/
def LinkAction.KeepsDialogue : LinkAction → Prop
  | .iap | .restartController => False
  | .operate _ operation => operation.KeepsDialogue
  | _ => True

instance (action : LinkAction) : Decidable action.KeepsDialogue := by
  unfold LinkAction.KeepsDialogue
  cases action <;> infer_instance

/-- No IAP is on the bus. -/
def NoIap (link : LinkState) : Prop :=
  ∀ wire frame, link.bus = .toPump wire → parseFrame wire = .ok frame →
    frame.controlType ≠ .IAP

/-- Bytes that are one frame are no other. -/
theorem ne_iap_of_parseFrame {wire : List Byte} {sent frame : DartLineFrame}
    (hsent : parseFrame wire = .ok sent) (htype : sent.controlType ≠ .IAP)
    (hframe : parseFrame wire = .ok frame) : frame.controlType ≠ .IAP := by
  rw [hsent] at hframe
  exact Except.ok.inj hframe ▸ htype

/-- A controller that heard a frame puts an ACK on the line, if anything. -/
theorem noIap_hear (link : LinkState) (frame : DartLineFrame) (number : Nat) :
    NoIap (link.hear frame number) := by
  intro wire other hbus hparsed
  unfold LinkState.hear at hbus
  dsimp only at hbus
  rw [(link.session.handleResponseFrame_spec frame).2.2] at hbus
  unfold ReceiveLine.ackFor at hbus
  have hack : wire = ackWire link.session.receiveLine.address frame.sequence := by
    split at hbus
    · rename_i ack hsome
      split at hsome <;> cases hsome <;> cases hbus <;> rfl
    · cases hbus
  subst hack
  exact ne_iap_of_parseFrame (parseFrame_ackWire _ _)
    (show ControlType.ACK ≠ .IAP by decide) hparsed

theorem noIap_step {link : LinkState} (hnone : NoIap link) {action : LinkAction}
    (hkeeps : action.KeepsDialogue) : NoIap (link.step action) := by
  unfold LinkState.step
  cases action with
  | poll =>
      intro wire frame hbus hparsed
      have hbuildable : Buildable .POLL 0 := ⟨by decide, composable_poll⟩
      have hsent := transmit_control { link with session := link.session.buildPoll.1 }
        hbuildable
      have hwire := congrArg (·.bus) hsent
      dsimp only at hwire
      replace hbus := hwire.symm.trans hbus
      cases hbus
      exact ne_iap_of_parseFrame (parseFrame_controlFrame _ hbuildable)
        (show ControlType.POLL ≠ .IAP by decide) hparsed
  | command sequence payload =>
      dsimp only
      intro wire frame hbus hparsed
      unfold LinkState.transmit at hbus
      cases hwire : buildDataFrame link.address sequence payload with
      | ok built =>
          rw [hwire] at hbus
          cases hbus
          have hlength := length_le_of_buildDataFrame hwire
          rw [buildDataFrame_eq_ok _ _ hlength] at hwire
          cases hwire
          exact ne_iap_of_parseFrame (parseFrame_dataFrame link.address sequence hlength)
            (show ControlType.DATA ≠ .IAP by decide) hparsed
      -- a payload that is too long is not sent
      | error error =>
          rw [hwire] at hbus
          exact hnone wire frame hbus hparsed
  | iap => exact hkeeps.elim
  | restartController => exact hkeeps.elim
  | lose => exact fun _ _ h => (nomatch h)
  | pumpReceives uuid4 =>
      dsimp only
      cases hbus : link.bus with
      | toPump wire =>
          intro other frame hother
          unfold LinkState.deliver at hother
          dsimp only at hother
          split at hother <;> cases hother
      | idle => exact hnone
      | toController wire number => exact hnone
  | controllerReceives =>
      dsimp only
      split
      · split
        · exact noIap_hear link _ _
        · exact fun _ _ h => (nomatch h)
      · exact hnone
  | corrupt frame =>
      dsimp only
      split
      · split
        · exact noIap_hear link _ _
        · exact hnone
      · exact hnone
  | timeout maxConsecutive => exact hnone
  | operate uuid4 operation => exact hnone
  | advance milliseconds => exact hnone

/-- Such actions do not reset the line either. -/
theorem lasting_lineAction {link : LinkState} (hnone : NoIap link)
    (pump : SimulatedPump) {action : LinkAction} (hkeeps : action.KeepsDialogue) :
    Line.Lasting (link.lineAction pump action) := by
  unfold LinkState.lineAction
  cases action with
  | pumpReceives uuid4 =>
      dsimp only
      cases hbus : link.bus with
      | idle => trivial
      | toController wire number => trivial
      | toPump wire =>
          dsimp only
          cases hparsed : parseFrame wire with
          | error error => trivial
          | ok frame =>
              have htype := hnone wire frame hbus hparsed
              dsimp only
              split
              · unfold LinkState.frameAction
                split
                · split <;> trivial
                · trivial
                · rename_i hiap
                  exact absurd hiap htype
                · trivial
              · trivial
  | command sequence payload => dsimp only; split <;> trivial
  | controllerReceives => dsimp only; split <;> trivial
  | corrupt frame =>
      dsimp only
      split
      · split <;> trivial
      · trivial
  | operate uuid4 operation =>
      cases operation with
      | disableCommunication => exact hkeeps.elim
      | restartPump preserveTotals => exact hkeeps.elim
      | _ => trivial
  | iap => exact hkeeps.elim
  | restartController => exact hkeeps.elim
  | _ => trivial

/-- A pump sends a new item only when it waits for nothing. -/
theorem WellFormed.allowed_lineAction {link : LinkState} {pump : SimulatedPump}
    (hwell : WellFormed link pump) (action : LinkAction) :
    (link.line pump).Allowed (link.lineAction pump action) := by
  have hidle : repeatedBlock pump = none → (link.line pump).waiting = none := by
    intro hrepeated
    change pump.awaitingAckSequence.bind _ = none
    cases hawaiting : pump.awaitingAckSequence with
    | none => rfl
    | some sequence =>
        obtain ⟨-, payload, -, -, hwire⟩ := hwell.awaiting sequence hawaiting
        unfold repeatedBlock at hrepeated
        rw [hawaiting, hwire] at hrepeated
        cases hrepeated
  have hframe : ∀ frame, (link.line pump).Allowed (link.frameAction pump frame) := by
    intro frame
    unfold LinkState.frameAction
    split
    · split
      · trivial
      · trivial
      · rename_i hrepeated _
        exact hidle hrepeated
    · trivial
    · trivial
    · trivial
  unfold LinkState.lineAction
  cases action with
  | pumpReceives uuid4 =>
      dsimp only
      split
      · split
        · split
          · exact hframe _
          · trivial
        · trivial
      · trivial
  | command sequence payload => dsimp only; split <;> trivial
  | controllerReceives => dsimp only; split <;> trivial
  | corrupt frame =>
      dsimp only
      split
      · split <;> trivial
      · trivial
  | operate uuid4 operation => cases operation <;> trivial
  | _ => trivial

/-- The payloads of a log. -/
def payloads (items : List Item) : List (List Byte) := items.map (·.1)

structure DeliveryInvariant (link : LinkState) : Prop where
  noIap : NoIap link
  line : ∃ pump, WellFormed link pump ∧ (link.line pump).ExactlyOnce link.next

theorem DeliveryInvariant.step {link : LinkState} (hinv : DeliveryInvariant link)
    {action : LinkAction} (hkeeps : action.KeepsDialogue) :
    DeliveryInvariant (link.step action) := by
  obtain ⟨hnone, pump, hwell, honce⟩ := hinv
  obtain ⟨after, hwell', hline⟩ := hwell.step_simulates action
  refine ⟨noIap_step hnone hkeeps, after, hwell', ?_⟩
  rw [next_step, hline]
  exact honce.step (next_ne link) 0 (hwell.allowed_lineAction action)
    (lasting_lineAction hnone pump hkeeps)

/-- Over any run without restart, IAP or disabled communication, whatever is
lost or corrupted, the controller decodes what the pump popped, once and in
order, and is at most one item behind. -/
theorem decoded_prefix_popped (config : SimulatorConfig) (address : Byte)
    (pumpId : String) (actions : List LinkAction)
    (haddress : address ∈ config.pumps.map (·.dartAddress))
    (hkeeps : ∀ action ∈ actions, action.KeepsDialogue) :
    payloads ((LinkState.start config address pumpId).run actions).decoded <+:
        payloads ((LinkState.start config address pumpId).run actions).popped ∧
      (payloads ((LinkState.start config address pumpId).run actions).popped).length ≤
        (payloads ((LinkState.start config address pumpId).run actions).decoded).length +
          1 := by
  obtain ⟨pump, hwell, hline⟩ := wellFormed_start config pumpId haddress
  have hinitial : DeliveryInvariant (LinkState.start config address pumpId) := by
    refine ⟨fun _ _ h => (nomatch h), pump, hwell, ?_⟩
    rw [hline]
    exact ⟨fun _ => ⟨rfl, fun h => (nomatch h), rfl⟩, fun _ h => (nomatch h),
      fun _ _ h => (nomatch h), fun _ h => (nomatch h)⟩
  have halong : Along LinkState.step (fun _ action => action.KeepsDialogue)
      (LinkState.start config address pumpId) actions :=
    along_of_forall fun action hmem _ => hkeeps action hmem
  have hrun : DeliveryInvariant ((LinkState.start config address pumpId).run actions) :=
    invariant_of_along (fun _ _ hlink hcondition => hlink.step hcondition) hinitial halong
  obtain ⟨-, last, -, honce⟩ := hrun
  obtain ⟨hfront, hlength⟩ := honce.delivered_prefix
  refine ⟨hfront.map _, ?_⟩
  unfold payloads
  rw [List.length_map, List.length_map]
  exact hlength

/-- The default simulator with its first pump. -/
def defaultLink : LinkState := LinkState.start {} 0x01 "fp-1"

/-- One exchange without a loss. -/
def exchange : List LinkAction :=
  [.poll, .pumpReceives "", .controllerReceives, .pumpReceives ""]

/-- Two blocks; the first one arrives corrupted, and its first ACK is lost. -/
def lossyRun : List LinkAction :=
  [.operate "" .coldStartToReady, .poll, .pumpReceives "",
    .corrupt { dataFrame 0x01 0 [0x01, 0x01, 0x41] with crcValid := some false },
    .timeout 3, .poll, .pumpReceives "", .controllerReceives, .lose] ++
    exchange ++ exchange

theorem decoded_prefix_popped_lossy :
    payloads (defaultLink.run lossyRun).decoded <+:
        payloads (defaultLink.run lossyRun).popped ∧
      (payloads (defaultLink.run lossyRun).popped).length ≤
        (payloads (defaultLink.run lossyRun).decoded).length + 1 :=
  decoded_prefix_popped {} 0x01 "fp-1" lossyRun (by decide) (by decide)

/-! ## What an ACK says -/

/-- If the step takes a new item from the pump's queue, its TX# is not the one
the session accepted last. -/
def PopsFresh (link : LinkState) (action : LinkAction) : Prop :=
  match link.simulator.getPump link.address with
  | some pump => (link.line pump).FreshNumber (link.lineAction pump action)
  | none => True

instance (link : LinkState) (action : LinkAction) : Decidable (PopsFresh link action) := by
  unfold PopsFresh
  split <;> infer_instance

structure AckInvariant (link : LinkState) : Prop where
  line : ∃ pump, WellFormed link pump ∧ (link.line pump).AckedDelivered ∧
    (link.line pump).Sourced

theorem AckInvariant.step {link : LinkState} (hinv : AckInvariant link)
    {action : LinkAction} (hfresh : PopsFresh link action) :
    AckInvariant (link.step action) := by
  obtain ⟨pump, hwell, hacked, hsourced⟩ := hinv
  obtain ⟨after, hwell', hline⟩ := hwell.step_simulates action
  unfold PopsFresh at hfresh
  rw [hwell.getPump] at hfresh
  refine ⟨after, hwell', ?_, ?_⟩
  · rw [hline]
    exact hacked.step link.next 0 hfresh
  · rw [hline]
    exact hsourced.step link.next 0 _

/-- As long as no item is popped under the TX# that the session accepted last,
every item the controller acknowledged is an item the pump popped and the
controller decoded, whatever is lost and however often the pump restarts. -/
theorem acknowledged_decoded (config : SimulatorConfig) (address : Byte)
    (pumpId : String) (actions : List LinkAction)
    (haddress : address ∈ config.pumps.map (·.dartAddress))
    (hfresh : Along LinkState.step PopsFresh (LinkState.start config address pumpId)
      actions) :
    ∀ item ∈ ((LinkState.start config address pumpId).run actions).acknowledged,
      item ∈ ((LinkState.start config address pumpId).run actions).popped ∧
        item ∈ ((LinkState.start config address pumpId).run actions).decoded := by
  obtain ⟨pump, hwell, hline⟩ := wellFormed_start config pumpId haddress
  have hinitial : AckInvariant (LinkState.start config address pumpId) := by
    refine ⟨pump, hwell, ?_, ?_⟩
    · rw [hline]
      exact ⟨fun _ h => absurd h List.not_mem_nil, fun _ h => (nomatch h),
        fun _ _ h => (nomatch h), fun _ _ _ h => (nomatch h)⟩
    · rw [hline]
      exact ⟨fun _ h => (nomatch h), fun _ _ h => (nomatch h),
        fun _ h => absurd h List.not_mem_nil, fun _ h => absurd h List.not_mem_nil⟩
  have hrun : AckInvariant ((LinkState.start config address pumpId).run actions) :=
    invariant_of_along (fun _ _ hlink hcondition => hlink.step hcondition) hinitial hfresh
  obtain ⟨last, -, hacked, hsourced⟩ := hrun.line
  exact fun item hitem => ⟨hsourced.acked item hitem, hacked.acked item hitem⟩

/-- A restart after two blocks: the next block goes out under another TX# than
the last accepted one. -/
def restartedRun : List LinkAction :=
  [.operate "" .coldStartToReady] ++ exchange ++ exchange ++
    [.operate "" (.restartPump true), .operate "" .returnNozzle] ++ exchange

theorem acknowledged_decoded_restarted :
    (defaultLink.run restartedRun).acknowledged ≠ [] ∧
      ∀ item ∈ (defaultLink.run restartedRun).acknowledged,
        item ∈ (defaultLink.run restartedRun).popped ∧
          item ∈ (defaultLink.run restartedRun).decoded :=
  ⟨by decide +kernel,
    acknowledged_decoded {} 0x01 "fp-1" restartedRun (by decide) (by decide +kernel)⟩

/-- A restart after one block: the fill data goes out under TX# 0 again, and is
acknowledged as a repetition of the block before the restart. -/
theorem acknowledged_not_always_decoded :
    ¬ ∀ actions : List LinkAction, ∀ item ∈ (defaultLink.run actions).acknowledged,
      item ∈ (defaultLink.run actions).decoded := by
  intro hall
  have hdecoded := hall ([.operate "" .coldStartToReady] ++ exchange ++
    [.operate "" (.restartPump true),
      .operate "" (.handleApplicationPayload [0x01, 0x01, 0x04])] ++ exchange)
    ([0x02, 0x08, 0, 0, 0, 0, 0, 0, 0, 0], 2) (by decide +kernel)
  revert hdecoded
  decide +kernel

/-! ## A dialogue that goes on -/

/-- If the step resets one end, the other end's numbers fit, and the frame on
the bus does not change that. -/
def ResetFits (link : LinkState) (action : LinkAction) : Prop :=
  match link.simulator.getPump link.address with
  | some pump => (link.line pump).ResetAgrees link.next 0 (link.lineAction pump action)
  | none => True

instance (link : LinkState) (action : LinkAction) : Decidable (ResetFits link action) := by
  unfold ResetFits
  split <;> infer_instance

/-- A pump that waits for an ACK gets it when the session hears the block. -/
def OutstandingAnswered (link : LinkState) : Prop :=
  ∀ pump ∈ link.simulator.getPump link.address, ∀ sequence ∈ pump.awaitingAckSequence,
    ∃ wire ∈ pump.lastOutboundWire, ∃ frame ∈ (parseFrame wire).toOption,
      (link.session.handleResponseFrame frame).2 = some (ackWire link.address sequence)

instance (link : LinkState) : Decidable (OutstandingAnswered link) := by
  unfold OutstandingAnswered
  infer_instance

structure StepInvariant (link : LinkState) : Prop where
  line : ∃ pump, WellFormed link pump ∧ (link.line pump).InStep link.next

theorem StepInvariant.step {link : LinkState} (hinv : StepInvariant link)
    {action : LinkAction} (hfits : ResetFits link action) :
    StepInvariant (link.step action) := by
  obtain ⟨pump, hwell, hstep⟩ := hinv
  obtain ⟨after, hwell', hline⟩ := hwell.step_simulates action
  unfold ResetFits at hfits
  rw [hwell.getPump] at hfits
  refine ⟨after, hwell', ?_⟩
  rw [next_step, hline]
  exact hstep.step hfits

theorem StepInvariant.outstandingAnswered {link : LinkState}
    (hinv : StepInvariant link) : OutstandingAnswered link := by
  obtain ⟨pump, hwell, hstep⟩ := hinv
  intro other hother sequence hawaiting
  rw [hwell.getPump] at hother
  obtain rfl := Option.mem_some_iff.mp hother
  obtain ⟨rfl, payload, hshort, -, hwire⟩ := hwell.awaiting sequence hawaiting
  have hlength : payload.length + 5 ≤ MAX_BUFFER_SIZE := by
    unfold MAX_BUFFER_SIZE
    omega
  have hparsed := parseFrame_dataFrame link.address pump.txSequence hlength
  refine ⟨_, hwire, dataFrame link.address pump.txSequence payload, ?_, ?_⟩
  · rw [hparsed]
    rfl
  have hverdict := verdict_of_block link.session.receiveLine
    (show (dataFrame link.address pump.txSequence payload).address = link.address ∧
      (dataFrame link.address pump.txSequence payload).controlType = .DATA ∧
      (dataFrame link.address pump.txSequence payload).crcValid ≠ some false from
        ⟨rfl, rfl, by simp [dataFrame]⟩)
  rw [(link.session.handleResponseFrame_spec _).2.2]
  unfold ReceiveLine.ackFor
  rw [hverdict]
  by_cases hlast : link.session.receiveLine.lastAccepted = some pump.txSequence
  · rw [if_pos (show link.session.receiveLine.lastAccepted =
      some (dataFrame link.address pump.txSequence payload).sequence from hlast)]
    rfl
  · have hexpected : pump.txSequence = link.session.receiveLine.expected :=
      (hstep.agree.resolve_right hlast).symm
    rw [if_neg (show ¬ link.session.receiveLine.lastAccepted =
      some (dataFrame link.address pump.txSequence payload).sequence from hlast),
      if_pos (show (dataFrame link.address pump.txSequence payload).sequence = _ from
        hexpected)]
    rfl

/-- As long as resets leave numbers that fit, the pump's outstanding block is
always answered with its ACK. -/
theorem outstanding_answered (config : SimulatorConfig) (address : Byte)
    (pumpId : String) (actions : List LinkAction)
    (haddress : address ∈ config.pumps.map (·.dartAddress))
    (hfits : Along LinkState.step ResetFits (LinkState.start config address pumpId)
      actions) :
    OutstandingAnswered ((LinkState.start config address pumpId).run actions) := by
  obtain ⟨pump, hwell, hline⟩ := wellFormed_start config pumpId haddress
  have hinitial : StepInvariant (LinkState.start config address pumpId) := by
    refine ⟨pump, hwell, ?_⟩
    rw [hline]
    exact ⟨fun _ h => (nomatch h), Or.inl rfl, trivial, fun _ h => (nomatch h)⟩
  have hrun : StepInvariant ((LinkState.start config address pumpId).run actions) :=
    invariant_of_along (fun _ _ hlink hcondition => hlink.step hcondition) hinitial hfits
  exact hrun.outstandingAnswered

/-- The pump restarts after its last block was accepted under TX# 0. -/
theorem outstanding_answered_restarted :
    OutstandingAnswered (defaultLink.run ([.operate "" .coldStartToReady] ++ exchange ++
      [.operate "" (.restartPump true), .operate "" .returnNozzle, .poll,
        .pumpReceives ""])) :=
  outstanding_answered {} 0x01 "fp-1" _ (by decide) (by decide +kernel)

/-- A controller that restarts alone expects TX# 0 from a pump at TX# 1: the
pump's block is refused each time it is repeated. -/
theorem outstanding_not_always_answered :
    ¬ ∀ actions : List LinkAction, OutstandingAnswered (defaultLink.run actions) := by
  intro hall
  have hanswered := hall ([.operate "" .coldStartToReady] ++ exchange ++
    [.restartController, .poll, .pumpReceives ""])
  revert hanswered
  decide +kernel

end Link
end Intelipump
