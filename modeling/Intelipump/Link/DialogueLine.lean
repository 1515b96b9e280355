import Mathlib.Tactic.Common
import Intelipump.Foundation.StopAndWait
import Intelipump.Link.Dialogue

namespace Intelipump
namespace Link

open Dart.Line
open Controller
open Simulator
open Foundation
open Foundation.StateEffect
open Foundation.StopAndWait (Line Medium)
open Simulator.SimulatorSession

/-!
# The dialogue is a stop-and-wait line

`LinkState.line` reads a stop-and-wait line off the two ends and the bus, with
the pump as the sender.  `step_simulates` is the simulation: every action on
the link is one action on that line (`LinkState.lineAction`), and the pump's
side stays well formed.
-/

namespace LinkState

/-- The frame on the bus, as far as the transfer from the pump goes. -/
def medium (address : Byte) : Bus → Medium (Fin 16) Item
  | .idle => .idle
  | .toPump wire =>
      match parseFrame wire with
      | .ok frame => if frame.controlType = .ACK then .ack frame.sequence else .idle
      | .error _ => .idle
  | .toController wire number =>
      match parseFrame wire with
      | .ok frame =>
          if frame.address = address ∧ frame.controlType = .DATA ∧
              frame.crcValid ≠ some false then
            .block frame.sequence (frame.payload, number)
          else .idle
      | .error _ => .idle

/-- The line of the dialogue with a pump. -/
def line (link : LinkState) (pump : SimulatedPump) : Line (Fin 16) Item where
  tx := pump.txSequence
  waiting := pump.awaitingAckSequence.bind fun _ => link.popped.getLast?
  expected := link.session.state.expectedRxSequence
  last := link.session.state.lastAcceptedRxSequence
  medium := medium link.address link.bus
  sent := link.popped
  delivered := link.decoded
  acked := link.acknowledged

/-- The successor of a TX#. -/
def next (link : LinkState) (sequence : Fin 16) : Fin 16 :=
  nextSequence sequence link.session.sequencePolicy

/-- What a heard frame makes of the line. -/
def frameAction (link : LinkState) (pump : SimulatedPump) (frame : DartLineFrame) :
    StopAndWait.Action Item :=
  match frame.controlType with
  | .POLL =>
      match repeatedBlock pump, pump.pendingOutbound with
      | some _, _ => .repeatBlock
      | none, [] => .lose
      | none, item :: _ => .send (item.payload, link.popped.length + 1)
  | .ACK => .acknowledge
  | .IAP => .resetSender
  | _ => .lose

/-- What an operation makes of the line. -/
def operationAction : PumpOperation → StopAndWait.Action Item
  | .disableCommunication => .forget
  | .restartPump _ => .resetSender
  | _ => .keep

/-- What an action makes of the line. -/
def lineAction (link : LinkState) (pump : SimulatedPump) :
    LinkAction → StopAndWait.Action Item
  | .poll | .iap | .lose => .lose
  | .command _ payload => if payload.length + 5 ≤ MAX_BUFFER_SIZE then .lose else .keep
  | .pumpReceives _ =>
      match link.bus with
      | .toPump wire =>
          match parseFrame wire with
          | .ok frame =>
              if pump.communicationEnabled then link.frameAction pump frame else .lose
          | .error _ => .lose
      | _ => .keep
  | .controllerReceives =>
      match link.bus with
      | .toController _ _ => .receive
      | _ => .keep
  | .corrupt frame =>
      match link.bus with
      | .toController _ _ =>
          if frame.controlType = .DATA ∧ frame.crcValid = some false then .lose else .keep
      | _ => .keep
  | .timeout _ | .advance _ => .keep
  | .operate _ operation => operationAction operation
  | .restartController => .resetReceiver

end LinkState

/-- The pump's side of a dialogue is in order. -/
structure WellFormed (link : LinkState) (pump : SimulatedPump) : Prop where
  getPump : link.simulator.getPump link.address = some pump
  address : pump.config.dartAddress = link.address
  policy : link.simulator.config.sequencePolicy = link.session.sequencePolicy
  pending : ∀ item ∈ pump.pendingOutbound, item.payload.length ≤ 18
  toPump : ∀ wire, link.bus = .toPump wire →
    ∃ frame, parseFrame wire = .ok frame ∧ frame.address = link.address
  awaiting : ∀ sequence, pump.awaitingAckSequence = some sequence →
    sequence = pump.txSequence ∧ ∃ payload, payload.length ≤ 18 ∧
      link.popped.getLast? = some (payload, link.popped.length) ∧
      pump.lastOutboundWire =
        some (dataFrame link.address pump.txSequence payload).rawFrame

/-! ## Built frames on the bus -/

section

variable (address : Byte)

theorem medium_toPump {wire : List Byte} {frame : DartLineFrame}
    (hparsed : parseFrame wire = .ok frame) :
    LinkState.medium address (.toPump wire) =
      if frame.controlType = .ACK then .ack frame.sequence else .idle := by
  unfold LinkState.medium
  dsimp only
  rw [hparsed]

theorem medium_toController {wire : List Byte} {frame : DartLineFrame}
    (hparsed : parseFrame wire = .ok frame) (number : Nat) :
    LinkState.medium address (.toController wire number) =
      if frame.address = address ∧ frame.controlType = .DATA ∧
          frame.crcValid ≠ some false then
        .block frame.sequence (frame.payload, number)
      else .idle := by
  unfold LinkState.medium
  dsimp only
  rw [hparsed]

/-- A control frame is no block. -/
theorem medium_toController_control {controlType : ControlType} {sequence : Fin 16}
    (hbuildable : Buildable controlType sequence) (number : Nat) :
    LinkState.medium address
        (.toController (controlFrame address controlType sequence).rawFrame number) =
      .idle := by
  rw [medium_toController address (parseFrame_controlFrame address hbuildable)]
  exact if_neg fun h => hbuildable.1 h.2.1

theorem medium_toController_data {payload : List Byte} (hshort : payload.length ≤ 18)
    (sequence : Fin 16) (number : Nat) :
    LinkState.medium address
        (.toController (dataFrame address sequence payload).rawFrame number) =
      .block sequence (payload, number) := by
  have hlength : payload.length + 5 ≤ MAX_BUFFER_SIZE := by
    unfold MAX_BUFFER_SIZE
    omega
  rw [medium_toController address (parseFrame_dataFrame address sequence hlength)]
  exact if_pos ⟨rfl, rfl, by simp [dataFrame]⟩

end

/-! ## The controller's actions -/

/-- A control frame of the controller goes on the bus. -/
theorem transmit_control (link : LinkState) {controlType : ControlType}
    {sequence : Fin 16} (hbuildable : Buildable controlType sequence) :
    link.transmit (buildControlFrame link.address controlType sequence) =
      { link with
        bus := .toPump (controlFrame link.address controlType sequence).rawFrame } := by
  unfold LinkState.transmit
  rw [buildControlFrame_eq_ok link.address hbuildable]
  rfl

section

variable {link : LinkState} {pump : SimulatedPump}

theorem line_withBus (link : LinkState) (pump : SimulatedPump) (bus : Bus) :
    LinkState.line { link with bus := bus } pump =
      { link.line pump with medium := LinkState.medium link.address bus } := rfl

theorem WellFormed.withBus (hwell : WellFormed link pump) (bus : Bus)
    (htoPump : ∀ wire, bus = .toPump wire →
      ∃ frame, parseFrame wire = .ok frame ∧ frame.address = link.address) :
    WellFormed { link with bus := bus } pump :=
  ⟨hwell.getPump, hwell.address, hwell.policy, hwell.pending, htoPump, hwell.awaiting⟩

/-- A frame for the pump that is not an ACK ends what was on the bus. -/
theorem WellFormed.sendToPump (hwell : WellFormed link pump) {wire : List Byte}
    {frame : DartLineFrame} (hparsed : parseFrame wire = .ok frame)
    (haddress : frame.address = link.address) (hack : frame.controlType ≠ .ACK) :
    WellFormed { link with bus := .toPump wire } pump ∧
      LinkState.line { link with bus := .toPump wire } pump =
        { link.line pump with medium := .idle } := by
  constructor
  · refine hwell.withBus _ fun other hother => ?_
    cases hother
    exact ⟨frame, hparsed, haddress⟩
  · rw [line_withBus, medium_toPump link.address hparsed, if_neg hack]

theorem WellFormed.command (hwell : WellFormed link pump) (sequence : Fin 16)
    (payload : List Byte) :
    WellFormed (link.step (.command sequence payload)) pump ∧
      (link.step (.command sequence payload)).line pump =
        (link.line pump).step link.next 0
          (link.lineAction pump (.command sequence payload)) := by
  unfold LinkState.step LinkState.lineAction LinkState.transmit
  dsimp only
  by_cases hlength : payload.length + 5 ≤ MAX_BUFFER_SIZE
  · rw [if_pos hlength, buildDataFrame_eq_ok link.address sequence hlength]
    exact hwell.sendToPump (parseFrame_dataFrame link.address sequence hlength) rfl
      (show ControlType.DATA ≠ .ACK by decide)
  · rw [if_neg hlength]
    cases hbuilt : buildDataFrame link.address sequence payload with
    | ok wire => exact absurd (length_le_of_buildDataFrame hbuilt) hlength
    | error error => exact ⟨hwell, rfl⟩

/-- The pump's side only asks for the session's address and policy. -/
theorem WellFormed.withSession (hwell : WellFormed link pump) {session : PumpSession}
    (haddress : session.address = link.address)
    (hpolicy : session.sequencePolicy = link.session.sequencePolicy)
    (decoded acknowledged : List Item) :
    WellFormed { link with
      session := session, decoded := decoded, acknowledged := acknowledged } pump := by
  have hlinkAddress : LinkState.address { link with
      session := session, decoded := decoded, acknowledged := acknowledged } =
        link.address := haddress
  refine ⟨?_, ?_, hwell.policy.trans hpolicy.symm, hwell.pending, ?_, ?_⟩
  · rw [hlinkAddress]
    exact hwell.getPump
  · rw [hlinkAddress]
    exact hwell.address
  · rw [hlinkAddress]
    exact hwell.toPump
  · rw [hlinkAddress]
    exact hwell.awaiting

/-! ## The controller's side -/

/-- A session that stays on its receive line is not seen on the line. -/
theorem WellFormed.sessionKept (hwell : WellFormed link pump) {session : PumpSession}
    (hline : session.receiveLine = link.session.receiveLine) :
    WellFormed { link with session := session } pump ∧
      LinkState.line { link with session := session } pump = link.line pump := by
  have haddress : session.address = link.address := congrArg ReceiveLine.address hline
  have hexpected : session.state.expectedRxSequence =
      link.session.state.expectedRxSequence := congrArg ReceiveLine.expected hline
  have hlast : session.state.lastAcceptedRxSequence =
      link.session.state.lastAcceptedRxSequence := congrArg ReceiveLine.lastAccepted hline
  refine ⟨hwell.withSession haddress (congrArg ReceiveLine.policy hline) _ _, ?_⟩
  unfold LinkState.line LinkState.address
  dsimp only
  rw [hexpected, hlast, haddress]
  rfl

/-- The verdict on a block. -/
theorem verdict_of_block (line : ReceiveLine) {frame : DartLineFrame}
    (hblock : frame.address = line.address ∧ frame.controlType = .DATA ∧
      frame.crcValid ≠ some false) :
    line.verdict frame =
      if line.lastAccepted = some frame.sequence then .repeated
      else if frame.sequence = line.expected then .accepted
      else .ignored := by
  obtain ⟨haddress, htype, hcrc⟩ := hblock
  unfold ReceiveLine.verdict
  rw [if_neg (not_not.mpr haddress), htype]
  dsimp only
  rw [if_neg hcrc]
  split
  · rfl
  · exact ite_not _ _ _

/-- No other frame is accepted or acknowledged. -/
theorem verdict_of_not_block (line : ReceiveLine) {frame : DartLineFrame}
    (hblock : ¬ (frame.address = line.address ∧ frame.controlType = .DATA ∧
      frame.crcValid ≠ some false)) :
    line.verdict frame = .ignored ∨ line.verdict frame = .responsive := by
  unfold ReceiveLine.verdict
  split
  · exact Or.inl rfl
  · rename_i haddress
    cases htype : frame.controlType with
    | EOT => exact Or.inr rfl
    | DATA =>
        refine Or.inl (if_pos ?_)
        by_contra hcrc
        exact hblock ⟨not_not.mp haddress, htype, hcrc⟩
    | _ => exact Or.inl rfl

/-- Whatever goes out after a heard frame is an ACK of it, if anything. -/
theorem WellFormed.heard (hwell : WellFormed link pump) {session : PumpSession}
    (haddress : session.address = link.address)
    (hpolicy : session.sequencePolicy = link.session.sequencePolicy) {bus : Bus}
    (decoded acknowledged : List Item) {frame : DartLineFrame}
    (hbus : ∀ wire, bus = Bus.toPump wire → wire = ackWire link.address frame.sequence) :
    WellFormed { link with
      session := session, bus := bus, decoded := decoded
      acknowledged := acknowledged } pump := by
  refine (hwell.withSession haddress hpolicy decoded acknowledged).withBus bus ?_
  intro wire hwire
  obtain rfl := hbus wire hwire
  exact ⟨_, parseFrame_ackWire link.address frame.sequence, haddress.symm⟩

theorem line_heard (pump : SimulatedPump) {session : PumpSession}
    (haddress : session.address = link.address) {bus : Bus} {decoded acknowledged : List Item} :
    LinkState.line { link with
      session := session, bus := bus, decoded := decoded
      acknowledged := acknowledged } pump =
      { link.line pump with
        expected := session.receiveLine.expected
        last := session.receiveLine.lastAccepted
        medium := LinkState.medium link.address bus
        delivered := decoded
        acked := acknowledged } := by
  rw [← haddress]
  rfl

/-- A frame that the session hears. -/
theorem WellFormed.hear (hwell : WellFormed link pump) (frame : DartLineFrame)
    (number : Nat) :
    WellFormed (link.hear frame number) pump ∧
      (link.hear frame number).line pump =
        if frame.address = link.address ∧ frame.controlType = .DATA ∧
            frame.crcValid ≠ some false then
          (link.line pump).takeBlock link.next frame.sequence (frame.payload, number)
        else { link.line pump with medium := .idle } := by
  obtain ⟨hline, -, hack⟩ := link.session.handleResponseFrame_spec frame
  unfold LinkState.hear
  dsimp only
  rw [hack]
  generalize (link.session.handleResponseFrame frame).1 = session at hline
  have haddress : session.address = link.address := by
    have h := congrArg ReceiveLine.address hline
    unfold ReceiveLine.after at h
    split at h <;> exact h
  have hpolicy : session.sequencePolicy = link.session.sequencePolicy := by
    have h := congrArg ReceiveLine.policy hline
    unfold ReceiveLine.after at h
    split at h <;> exact h
  have hkept : ∀ bus decoded acknowledged,
      (∀ wire, bus = Bus.toPump wire → wire = ackWire link.address frame.sequence) →
      WellFormed { link with
        session := session, bus := bus, decoded := decoded
        acknowledged := acknowledged } pump :=
    fun _ decoded acknowledged => hwell.heard haddress hpolicy decoded acknowledged
  have hackWire : LinkState.medium link.address
      (.toPump (ackWire link.address frame.sequence)) = .ack frame.sequence := by
    exact medium_toPump link.address (parseFrame_ackWire link.address frame.sequence)
  have hown : link.session.receiveLine.address = link.address := rfl
  unfold ReceiveLine.after at hline
  unfold ReceiveLine.ackFor
  rw [hown]
  -- a block: the receiving side of the dialogue decides what to do with it
  by_cases hblock : frame.address = link.address ∧ frame.controlType = .DATA ∧
      frame.crcValid ≠ some false
  · have hverdict := verdict_of_block link.session.receiveLine hblock
    rw [if_pos hblock]
    unfold Line.takeBlock
    by_cases hrepeated : link.session.receiveLine.lastAccepted = some frame.sequence
    · -- a repeat is acknowledged again, and not decoded again
      rw [if_pos hrepeated] at hverdict
      rw [hverdict] at hline ⊢
      refine ⟨hkept _ _ _ fun wire hwire => (Bus.toPump.inj hwire).symm, ?_⟩
      rw [if_pos (show (link.line pump).last = some frame.sequence from hrepeated),
        line_heard pump haddress]
      dsimp only at hline ⊢
      rw [hline, hackWire, if_neg (by decide), List.append_nil]
      rfl
    · rw [if_neg hrepeated] at hverdict
      rw [if_neg (show ¬ (link.line pump).last = some frame.sequence from hrepeated)]
      by_cases hexpected : frame.sequence = link.session.receiveLine.expected
      · -- the block in turn is decoded and acknowledged
        rw [if_pos hexpected] at hverdict
        rw [hverdict] at hline ⊢
        refine ⟨hkept _ _ _ fun wire hwire => (Bus.toPump.inj hwire).symm, ?_⟩
        rw [if_pos (show frame.sequence = (link.line pump).expected from hexpected),
          line_heard pump haddress]
        dsimp only at hline ⊢
        rw [hline, hackWire, if_pos rfl]
        rfl
      · -- a block out of turn gets no answer
        rw [if_neg hexpected] at hverdict
        rw [hverdict] at hline ⊢
        refine ⟨hkept _ _ _ fun _ hwire => (nomatch hwire), ?_⟩
        rw [if_neg (show ¬ frame.sequence = (link.line pump).expected from hexpected),
          line_heard pump haddress]
        dsimp only at hline ⊢
        rw [hline, if_neg (by decide), if_neg (by decide), List.append_nil, List.append_nil]
        rfl
  · -- everything else only empties the bus
    have hverdict := verdict_of_not_block link.session.receiveLine hblock
    rw [if_neg hblock]
    rcases hverdict with hverdict | hverdict
    all_goals
      rw [hverdict] at hline ⊢
      refine ⟨hkept _ _ _ fun _ hwire => (nomatch hwire), ?_⟩
      rw [line_heard pump haddress]
      dsimp only at hline ⊢
      rw [hline, if_neg (by decide), if_neg (by decide), List.append_nil, List.append_nil]
      rfl

/-! ## The pump's side -/

theorem leftQueue_append (queue added : List OutboundApplicationTransaction) :
    leftQueue queue (queue ++ added) = [] := by
  unfold leftQueue
  rw [List.length_append, Nat.sub_eq_zero_of_le (Nat.le_add_right _ _), List.take_zero,
    List.map_nil]

theorem leftQueue_self (queue : List OutboundApplicationTransaction) :
    leftQueue queue queue = [] := by
  have hnone := leftQueue_append queue []
  rwa [List.append_nil] at hnone

/-- The bus after the first response of a pump. -/
def responseBus (responses : List (List Byte)) (number : Nat) : Bus :=
  match responses with
  | response :: _ => .toController response number
  | [] => .idle

/-- A delivered frame, by what the pump makes of it. -/
theorem WellFormed.deliver_eq (hwell : WellFormed link pump) {uuid4 : String}
    {wire : List Byte} {pumps : Byte → Option SimulatedPump} {after : SimulatedPump}
    {responses : List (List Byte)}
    (hanswers : Answers link.simulator
      (finalState (SimulatorSession.receive uuid4 wire) link.simulator)
      (returned (SimulatorSession.receive uuid4 wire) link.simulator) pumps responses)
    (hafter : pumps link.address = some after) :
    ∃ simulator : SimulatorSession, simulator.getPump link.address = some after ∧
      simulator.config = link.simulator.config ∧
      link.deliver uuid4 wire =
        let popped := link.popped ++ (leftQueue pump.pendingOutbound
          after.pendingOutbound).zipIdx (link.popped.length + 1)
        { link with
          simulator := simulator
          popped := popped
          bus := responseBus responses popped.length } := by
  have hgetPump := (hanswers.getPump link.address).trans hafter
  have hresponses := hanswers.responses
  have hconfig := hanswers.config
  unfold LinkState.deliver
  dsimp only
  rw [hresponses]
  generalize finalState (SimulatorSession.receive uuid4 wire) link.simulator = simulator at *
  have hbefore : LinkState.pendingOutbound link.simulator link.address =
      pump.pendingOutbound := by
    unfold LinkState.pendingOutbound
    rw [hwell.getPump]
    rfl
  have hpending : LinkState.pendingOutbound simulator link.address =
      after.pendingOutbound := by
    unfold LinkState.pendingOutbound
    rw [hgetPump]
    rfl
  rw [hbefore, hpending]
  exact ⟨simulator, hgetPump, hconfig, rfl⟩

/-- A pump that keeps its line is the same sender. -/
theorem WellFormed.pumpKept (hwell : WellFormed link pump) {simulator : SimulatorSession}
    {kept : SimulatedPump} (hgetPump : simulator.getPump link.address = some kept)
    (hconfig : simulator.config = link.simulator.config) (hkept : LineKept pump kept) :
    WellFormed { link with simulator := simulator } kept ∧
      LinkState.line { link with simulator := simulator } kept = link.line pump := by
  obtain ⟨added, hadded, hshort⟩ := hkept.pendingOutbound
  refine ⟨⟨hgetPump, hkept.config ▸ hwell.address, hconfig ▸ hwell.policy, ?_, hwell.toPump,
    ?_⟩, ?_⟩
  · intro item hitem
    rw [hadded] at hitem
    rcases List.mem_append.mp hitem with hold | hnew
    · exact hwell.pending item hold
    · exact hshort item hnew
  · rw [hkept.awaitingAckSequence, hkept.txSequence, hkept.lastOutboundWire]
    exact hwell.awaiting
  · unfold LinkState.line
    rw [hkept.awaitingAckSequence, hkept.txSequence]
    rfl

/-- Responses that carry no block. -/
def Blockless (address : Byte) (responses : List (List Byte)) : Prop :=
  responses = [] ∨ ∃ controlType sequence, Buildable controlType sequence ∧
    responses = [(controlFrame address controlType sequence).rawFrame]

theorem medium_responseBus {address : Byte} {responses : List (List Byte)}
    (hblockless : Blockless address responses) (number : Nat) :
    LinkState.medium address (responseBus responses number) = .idle := by
  rcases hblockless with rfl | ⟨controlType, sequence, hbuildable, rfl⟩
  · rfl
  · exact medium_toController_control address hbuildable number

/-- A frame the pump keeps its line at, and answers with no block. -/
theorem WellFormed.deliver_kept (hwell : WellFormed link pump) {uuid4 : String}
    {wire : List Byte} {pumps : Byte → Option SimulatedPump} {after : SimulatedPump}
    {responses : List (List Byte)}
    (hanswers : Answers link.simulator
      (finalState (SimulatorSession.receive uuid4 wire) link.simulator)
      (returned (SimulatorSession.receive uuid4 wire) link.simulator) pumps responses)
    (hafter : pumps link.address = some after) (hkept : LineKept pump after)
    (hblockless : Blockless link.address responses) :
    WellFormed (link.deliver uuid4 wire) after ∧
      (link.deliver uuid4 wire).line after = { link.line pump with medium := .idle } := by
  obtain ⟨simulator, hgetPump, hconfig, heq⟩ := hwell.deliver_eq hanswers hafter
  obtain ⟨added, hadded, -⟩ := hkept.pendingOutbound
  obtain ⟨hwell', hline⟩ := hwell.pumpKept hgetPump hconfig hkept
  rw [heq]
  dsimp only
  rw [hadded, leftQueue_append, List.zipIdx_nil, List.append_nil]
  constructor
  · refine hwell'.withBus _ fun other hother => ?_
    unfold responseBus at hother
    split at hother <;> cases hother
  · have hbus := line_withBus { link with simulator := simulator } after
      (responseBus responses link.popped.length)
    rw [hline] at hbus
    refine hbus.trans ?_
    exact congrArg (fun medium => { link.line pump with medium := medium })
      (medium_responseBus hblockless _)

/-- A new item goes out. -/
theorem WellFormed.deliver_send (hwell : WellFormed link pump) {uuid4 : String}
    {wire block : List Byte} {pumps : Byte → Option SimulatedPump} {now : Nat}
    {item : OutboundApplicationTransaction} {rest : List OutboundApplicationTransaction}
    (hpending : pump.pendingOutbound = item :: rest)
    (hblock : block = (dataFrame link.address pump.txSequence item.payload).rawFrame)
    (hanswers : Answers link.simulator
      (finalState (SimulatorSession.receive uuid4 wire) link.simulator)
      (returned (SimulatorSession.receive uuid4 wire) link.simulator) pumps [block])
    (hafter : pumps link.address = some (afterSend pump now rest block)) :
    WellFormed (link.deliver uuid4 wire) (afterSend pump now rest block) ∧
      (link.deliver uuid4 wire).line (afterSend pump now rest block) =
        (link.line pump).step link.next 0
          (.send (item.payload, link.popped.length + 1)) := by
  obtain ⟨simulator, hgetPump, hconfig, heq⟩ := hwell.deliver_eq hanswers hafter
  have hitem : item.payload.length ≤ 18 :=
    hwell.pending item (hpending ▸ List.mem_cons_self ..)
  have hleft : leftQueue pump.pendingOutbound (afterSend pump now rest block).pendingOutbound
      = [item.payload] := by
    unfold leftQueue afterSend
    rw [hpending, List.length_cons, Nat.add_sub_cancel_left]
    rfl
  have hlast : (link.popped ++ [(item.payload, link.popped.length + 1)]).getLast? =
      some (item.payload, link.popped.length + 1) := List.getLast?_concat
  rw [heq]
  dsimp only
  rw [hleft, List.zipIdx_singleton, List.length_append, List.length_singleton]
  constructor
  · refine ⟨hgetPump, hwell.address, hconfig ▸ hwell.policy, ?_, fun _ h => (nomatch h), ?_⟩
    · intro other hother
      refine hwell.pending other ?_
      rw [hpending]
      exact List.mem_cons_of_mem _ hother
    · intro sequence hsequence
      refine ⟨(Option.some.inj hsequence).symm, item.payload, hitem, ?_, ?_⟩
      · rw [List.length_append, List.length_singleton]
        exact hlast
      · exact congrArg some hblock
  · have hmedium := medium_toController_data link.address hitem pump.txSequence
      (link.popped.length + 1)
    rw [← hblock] at hmedium
    unfold LinkState.line LinkState.address responseBus afterSend
    dsimp only [Option.bind_some]
    rw [hlast]
    exact congrArg (fun medium => Line.mk _ _ _ _ medium _ _ _) hmedium

theorem WellFormed.deliver_poll (hwell : WellFormed link pump)
    (henabled : pump.communicationEnabled = true) {uuid4 : String} {wire : List Byte}
    {frame : DartLineFrame} (hparsed : parseFrame wire = .ok frame)
    (haddress : frame.address = link.address) (hpoll : frame.controlType = .POLL) :
    ∃ after, WellFormed (link.deliver uuid4 wire) after ∧
      (link.deliver uuid4 wire).line after =
        (link.line pump).step link.next 0 (link.frameAction pump frame) := by
  have hspec := receive_spec hparsed (haddress.symm ▸ hwell.getPump) henabled uuid4
  unfold pumpAnswer at hspec
  unfold LinkState.frameAction
  rw [hpoll] at hspec ⊢
  dsimp only at hspec ⊢
  cases hrepeated : repeatedBlock pump with
  | some block =>
      -- the block that waits for its ACK goes out again, under the sequence it had
      obtain ⟨hfinal, hresponses⟩ := onPoll_repeat hrepeated link.simulator.clockMs
      rw [hfinal, hresponses] at hspec
      obtain ⟨awaiting, hawaiting, hblock⟩ := Option.bind_eq_some_iff.mp hrepeated
      obtain ⟨-, payload, hshort, hlast, hwire⟩ := hwell.awaiting awaiting hawaiting
      rw [hblock] at hwire
      obtain ⟨simulator, hgetPump, hconfig, heq⟩ :=
        hwell.deliver_eq hspec (if_pos haddress.symm)
      have hkept := hwell.pumpKept hgetPump hconfig (refl_of LineKept pump)
      rw [heq]
      dsimp only
      rw [leftQueue_self, List.zipIdx_nil, List.append_nil]
      refine ⟨pump, hkept.1.withBus _ fun _ h => (nomatch h), ?_⟩
      have hmedium := medium_toController_data link.address hshort pump.txSequence
        link.popped.length
      rw [← Option.some.inj hwire] at hmedium
      have hwaiting : (link.line pump).waiting = some (payload, link.popped.length) := by
        unfold LinkState.line
        rw [hawaiting]
        exact hlast
      change _ = (link.line pump).offerAgain
      rw [Line.offerAgain_eq hwaiting]
      have hbus := line_withBus { link with simulator := simulator } pump
        (.toController block link.popped.length)
      rw [hkept.2] at hbus
      refine hbus.trans ?_
      exact congrArg (fun medium => { link.line pump with medium := medium }) hmedium
  | none =>
      -- nothing waits: the pump answers from its queue
      have hqueue := onPoll_of_idle hrepeated link.simulator.clockMs
      unfold finalState returned at hspec
      rw [hqueue] at hspec
      change Answers _ _ _ (link.simulator.updatedPumps frame.address
        (finalState (answerFromQueue link.simulator.clockMs) pump))
        (responsesOf (returned (answerFromQueue link.simulator.clockMs) pump)) at hspec
      cases hpending : pump.pendingOutbound with
      | nil =>
          obtain ⟨hfinal, hresponses⟩ :=
            answerFromQueue_nil hpending link.simulator.clockMs
          rw [hfinal, hresponses, hwell.address] at hspec
          refine ⟨pump, hwell.deliver_kept hspec (if_pos haddress.symm)
            (refl_of LineKept pump) (Or.inr ⟨.EOT, pump.txSequence, ?_, rfl⟩)⟩
          exact ⟨by decide, composable_eot _⟩
      | cons item rest =>
          -- a queued payload fits into a frame, so that building the block cannot fail
          have hitem : item.payload.length ≤ 18 :=
            hwell.pending item (hpending ▸ List.mem_cons_self ..)
          have hlength : item.payload.length + 5 ≤ MAX_BUFFER_SIZE := by
            unfold MAX_BUFFER_SIZE
            omega
          have hsent := answerFromQueue_cons hpending link.simulator.clockMs
          rw [hwell.address, buildDataFrame_eq_ok _ _ hlength] at hsent
          dsimp only at hsent
          rw [hsent.1, hsent.2] at hspec
          exact ⟨_, hwell.deliver_send hpending rfl hspec (if_pos haddress.symm)⟩

theorem WellFormed.deliver_ack (hwell : WellFormed link pump)
    (henabled : pump.communicationEnabled = true) {uuid4 : String} {wire : List Byte}
    {frame : DartLineFrame} (hbus : link.bus = .toPump wire)
    (hparsed : parseFrame wire = .ok frame)
    (haddress : frame.address = link.address) (hack : frame.controlType = .ACK) :
    ∃ after, WellFormed (link.deliver uuid4 wire) after ∧
      (link.deliver uuid4 wire).line after =
        (link.line pump).step link.next 0 (link.frameAction pump frame) := by
  have hspec := receive_spec hparsed (haddress.symm ▸ hwell.getPump) henabled uuid4
  unfold pumpAnswer at hspec
  unfold LinkState.frameAction
  rw [hack] at hspec ⊢
  dsimp only at hspec ⊢
  obtain ⟨hfinal, hresponses⟩ := onAck_spec pump link.simulator.clockMs
    link.simulator.config.sequencePolicy frame
  rw [hfinal, hresponses] at hspec
  have hmedium : (link.line pump).medium = .ack frame.sequence := by
    change LinkState.medium link.address link.bus = _
    rw [hbus, medium_toPump link.address hparsed, if_pos hack]
  have hstep : (link.line pump).step link.next 0 .acknowledge =
      (link.line pump).takeAck link.next frame.sequence := by
    unfold Line.step
    dsimp only
    rw [hmedium]
  rw [hstep]
  unfold Line.takeAck
  by_cases hawaiting : pump.awaitingAckSequence = some frame.sequence
  · -- the ACK for the block that waits: the pump drops it and advances its sequence
    rw [if_pos hawaiting] at hspec
    obtain ⟨htx, payload, -, hlast, -⟩ := hwell.awaiting _ hawaiting
    have hwaiting : (link.line pump).waiting ≠ none ∧
        frame.sequence = (link.line pump).tx := by
      refine ⟨?_, htx⟩
      unfold LinkState.line
      rw [hawaiting, Option.bind_some, hlast]
      exact Option.some_ne_none _
    obtain ⟨simulator, hgetPump, hconfig, heq⟩ :=
      hwell.deliver_eq hspec (if_pos haddress.symm)
    have hleft : leftQueue pump.pendingOutbound
        (afterAck pump link.simulator.config.sequencePolicy).pendingOutbound = [] :=
      leftQueue_self pump.pendingOutbound
    rw [if_pos hwaiting, heq]
    dsimp only
    rw [hleft, List.zipIdx_nil, List.append_nil]
    refine ⟨afterAck pump link.simulator.config.sequencePolicy, ⟨hgetPump, hwell.address,
      hconfig ▸ hwell.policy, hwell.pending, fun _ h => (nomatch h), fun _ h => (nomatch h)⟩,
      ?_⟩
    unfold LinkState.line LinkState.next afterAck
    rw [hwell.policy]
    rfl
  · -- an ACK for anything else changes nothing
    rw [if_neg hawaiting] at hspec
    have hother : ¬ ((link.line pump).waiting ≠ none ∧
        frame.sequence = (link.line pump).tx) := by
      rintro ⟨hwaits, htx⟩
      obtain ⟨item, hitem⟩ := Option.ne_none_iff_exists'.mp hwaits
      obtain ⟨awaiting, hsome, -⟩ := Option.bind_eq_some_iff.mp hitem
      obtain ⟨hsame, -⟩ := hwell.awaiting awaiting hsome
      refine hawaiting (hsome.trans (congrArg some ?_))
      exact hsame.trans htx.symm
    rw [if_neg hother]
    exact ⟨pump, hwell.deliver_kept hspec (if_pos haddress.symm) (refl_of LineKept pump)
      (Or.inl rfl)⟩

theorem WellFormed.deliver_iap (hwell : WellFormed link pump)
    (henabled : pump.communicationEnabled = true) {uuid4 : String} {wire : List Byte}
    {frame : DartLineFrame} (hbus : link.bus = .toPump wire)
    (hparsed : parseFrame wire = .ok frame)
    (haddress : frame.address = link.address) (hiap : frame.controlType = .IAP) :
    ∃ after, WellFormed (link.deliver uuid4 wire) after ∧
      (link.deliver uuid4 wire).line after =
        (link.line pump).step link.next 0 (link.frameAction pump frame) := by
  have hspec := receive_spec hparsed (haddress.symm ▸ hwell.getPump) henabled uuid4
  unfold pumpAnswer at hspec
  unfold LinkState.frameAction
  rw [hiap] at hspec ⊢
  dsimp only at hspec ⊢
  rw [finalState_bind, returned_bind] at hspec
  simp only [returned_modify, finalState_modify, Option.bind_some] at hspec
  obtain ⟨simulator, hgetPump, hconfig, heq⟩ :=
    hwell.deliver_eq hspec (if_pos haddress.symm)
  have hleft : leftQueue pump.pendingOutbound
      pump.resetProtocolSequences.pendingOutbound = [] := leftQueue_self pump.pendingOutbound
  have hmedium : LinkState.medium link.address link.bus = .idle := by
    rw [hbus, medium_toPump link.address hparsed, hiap]
    exact if_neg (by decide)
  rw [heq]
  dsimp only [finalState_pure]
  rw [hleft, List.zipIdx_nil, List.append_nil]
  refine ⟨pump.resetProtocolSequences, ⟨hgetPump, hwell.address, hconfig ▸ hwell.policy,
    hwell.pending, fun _ h => (nomatch h), fun _ h => (nomatch h)⟩, ?_⟩
  unfold LinkState.line Line.step
  dsimp only
  rw [hmedium]
  rfl

/-- The answer to a DATA frame of the controller carries no block. -/
theorem blockless_onData (env : PumpEnv) (policy : SequencePolicy)
    (hwell : WellFormed link pump) (frame : DartLineFrame) :
    Blockless link.address (responsesOf (returned (onData env policy frame) pump)) := by
  have hack : Blockless link.address [ackWire pump.config.dartAddress frame.sequence] :=
    Or.inr ⟨.ACK, frame.sequence, ⟨by decide, composable_ack _⟩, by rw [hwell.address]; rfl⟩
  have hnak : Blockless link.address [nakWire pump.config.dartAddress frame.sequence] :=
    Or.inr ⟨.NAK, frame.sequence, ⟨by decide, composable_nak _⟩, by rw [hwell.address]; rfl⟩
  by_cases hcrc : frame.crcValid = some false
  · rw [(onData_corrupt env policy hcrc).2]
    exact Or.inl rfl
  by_cases hduplicate : pump.lastAcceptedControllerSequence = some frame.sequence
  · rw [(onData_duplicate env policy hcrc hduplicate).2]
    exact hack
  by_cases hsequence : frame.sequence = pump.expectedControllerSequence
  · have hspec := onData_expected env policy hcrc hduplicate hsequence
    split at hspec
    · rw [hspec.2]
      exact hack
    · rw [hspec.2]
      exact Or.inl rfl
  · rw [(onData_unexpected env policy hcrc hduplicate hsequence).2]
    exact hnak

/-- A delivered frame is one action on the line. -/
theorem WellFormed.deliver (hwell : WellFormed link pump) {wire : List Byte}
    (hbus : link.bus = .toPump wire) (uuid4 : String) :
    ∃ after, WellFormed (link.deliver uuid4 wire) after ∧
      (link.deliver uuid4 wire).line after =
        (link.line pump).step link.next 0
          (link.lineAction pump (.pumpReceives uuid4)) := by
  obtain ⟨frame, hparsed, haddress⟩ := hwell.toPump wire hbus
  unfold LinkState.lineAction
  dsimp only
  rw [hbus]
  dsimp only
  rw [hparsed]
  dsimp only
  -- a pump that does not communicate loses every frame; otherwise the case is the frame's type
  by_cases henabled : pump.communicationEnabled = true
  · rw [if_pos henabled]
    have hspec := receive_spec hparsed (haddress.symm ▸ hwell.getPump) henabled uuid4
    have hsilent : pumpAnswer ⟨link.simulator.clockMs, uuid4⟩
          link.simulator.config.sequencePolicy frame = pure {} →
        link.frameAction pump frame = .lose →
        ∃ after, WellFormed (link.deliver uuid4 wire) after ∧
          (link.deliver uuid4 wire).line after =
            (link.line pump).step link.next 0 (link.frameAction pump frame) := by
      intro hnothing hlose
      rw [hnothing] at hspec
      rw [hlose]
      exact ⟨pump, hwell.deliver_kept hspec (if_pos haddress.symm)
        (refl_of LineKept pump) (Or.inl rfl)⟩
    cases htype : frame.controlType with
    | POLL => exact hwell.deliver_poll henabled hparsed haddress htype
    | ACK => exact hwell.deliver_ack henabled hbus hparsed haddress htype
    | IAP => exact hwell.deliver_iap henabled hbus hparsed haddress htype
    | DATA =>
        unfold pumpAnswer at hspec
        rw [htype] at hspec
        dsimp only at hspec
        have hlose : link.frameAction pump frame = .lose := by
          unfold LinkState.frameAction
          rw [htype]
        rw [hlose]
        exact ⟨_, hwell.deliver_kept hspec (if_pos haddress.symm)
          (keeps_onData _ _ frame pump) (blockless_onData _ _ hwell frame)⟩
    | NAK =>
        exact hsilent (by unfold pumpAnswer; rw [htype])
          (by unfold LinkState.frameAction; rw [htype])
    | EOT =>
        exact hsilent (by unfold pumpAnswer; rw [htype])
          (by unfold LinkState.frameAction; rw [htype])
    | ACKPOLL =>
        exact hsilent (by unfold pumpAnswer; rw [htype])
          (by unfold LinkState.frameAction; rw [htype])
    | UNKNOWN =>
        exact hsilent (by unfold pumpAnswer; rw [htype])
          (by unfold LinkState.frameAction; rw [htype])
  · rw [if_neg henabled]
    have hunheard : link.simulator.Unheard wire := by
      intro other deaf hother hpump
      rw [hparsed] at hother
      obtain rfl := Except.ok.inj hother
      rw [haddress, hwell.getPump] at hpump
      obtain rfl := Option.some.inj hpump
      simpa using henabled
    exact ⟨pump, hwell.deliver_kept (receive_silent hunheard uuid4) hwell.getPump
      (refl_of LineKept pump) (Or.inl rfl)⟩

/-! ## Every action -/

/-- A pump operation is at most the end of the dialogue. -/
theorem WellFormed.operate (hwell : WellFormed link pump) (uuid4 : String)
    (operation : PumpOperation) :
    ∃ after, WellFormed (link.step (.operate uuid4 operation)) after ∧
      (link.step (.operate uuid4 operation)).line after =
        (link.line pump).step link.next 0 (LinkState.operationAction operation) := by
  have hsession : ∀ {after : SimulatedPump},
      finalState (operation.run ⟨link.simulator.clockMs, uuid4⟩) pump = after →
      SimulatorSession.getPump (finalState (onPump link.address
        (operation.run ⟨link.simulator.clockMs, uuid4⟩)) link.simulator) link.address =
          some after ∧
      (finalState (onPump link.address
        (operation.run ⟨link.simulator.clockMs, uuid4⟩)) link.simulator).config =
          link.simulator.config := by
    rintro after rfl
    rw [(onPump_spec hwell.getPump _).1, getPump_setPump link.simulator hwell.getPump]
    exact ⟨if_pos rfl, rfl⟩
  by_cases hkeeps : operation.KeepsDialogue
  · have hkept := PumpOperation.keeps_run ⟨link.simulator.clockMs, uuid4⟩ hkeeps pump
    obtain ⟨hgetPump, hconfig⟩ := hsession rfl
    have haction : LinkState.operationAction operation = .keep := by
      cases operation <;> first | rfl | exact hkeeps.elim
    rw [haction]
    exact ⟨_, hwell.pumpKept hgetPump hconfig hkept⟩
  · cases operation with
    | disableCommunication =>
        obtain ⟨hgetPump, hconfig⟩ := hsession rfl
        refine ⟨pump.disableCommunication, ⟨hgetPump, hwell.address,
          hconfig ▸ hwell.policy, fun _ h => absurd h List.not_mem_nil, hwell.toPump,
          fun _ h => (nomatch h)⟩, rfl⟩
    | restartPump preserveTotals =>
        obtain ⟨hgetPump, hconfig⟩ := hsession rfl
        obtain ⟨hpumpConfig, htx, hawaiting, hpending⟩ :=
          restartPump_line pump preserveTotals
        refine ⟨pump.restartPump preserveTotals, ⟨hgetPump, hpumpConfig ▸ hwell.address,
          hconfig ▸ hwell.policy, ?_, hwell.toPump, ?_⟩, ?_⟩
        · rw [hpending]
          exact fun _ h => absurd h List.not_mem_nil
        · rw [hawaiting]
          exact fun _ h => (nomatch h)
        · unfold LinkState.line
          rw [htx, hawaiting]
          rfl
    | _ => exact absurd trivial hkeeps

/-- A POLL or an IAP displaces what is on the bus. -/
theorem WellFormed.poll (hwell : WellFormed link pump) :
    WellFormed (link.step .poll) pump ∧
      (link.step .poll).line pump = (link.line pump).step link.next 0 .lose := by
  have hkept := hwell.sessionKept
    (show link.session.buildPoll.1.receiveLine = link.session.receiveLine from rfl)
  have hbuildable : Buildable .POLL 0 := ⟨by decide, composable_poll⟩
  have hstep : link.step .poll = { link with
      session := link.session.buildPoll.1
      bus := .toPump (controlFrame link.address .POLL 0).rawFrame } :=
    transmit_control { link with session := link.session.buildPoll.1 } hbuildable
  have hline := hkept.1.sendToPump
    (parseFrame_controlFrame link.address hbuildable) rfl
    (show ControlType.POLL ≠ .ACK by decide)
  rw [hkept.2] at hline
  rw [hstep]
  exact hline

theorem WellFormed.iap (hwell : WellFormed link pump) :
    WellFormed (link.step .iap) pump ∧
      (link.step .iap).line pump = (link.line pump).step link.next 0 .lose := by
  have hbuildable : Buildable .IAP 0 := by decide
  have hstep : link.step .iap = { link with
      bus := .toPump (controlFrame link.address .IAP 0).rawFrame } :=
    transmit_control link hbuildable
  rw [hstep]
  exact hwell.sendToPump (parseFrame_controlFrame link.address hbuildable) rfl
    (show ControlType.IAP ≠ .ACK by decide)

/-- The controller takes from the line what its frame parser takes from the wire. -/
theorem WellFormed.controllerReceives (hwell : WellFormed link pump) {wire : List Byte}
    {number : Nat} (hbus : link.bus = .toController wire number) :
    WellFormed (link.step .controllerReceives) pump ∧
      (link.step .controllerReceives).line pump =
        (link.line pump).step link.next 0 (link.lineAction pump .controllerReceives) := by
  have hmedium : (link.line pump).medium =
      LinkState.medium link.address (.toController wire number) :=
    congrArg (LinkState.medium link.address) hbus
  unfold LinkState.step LinkState.lineAction
  dsimp only
  rw [hbus]
  unfold Line.step
  dsimp only
  cases hparsed : parseFrame wire with
  | error error =>
      -- what does not parse is not a block on the line either
      have hidle : (link.line pump).medium = .idle := by
        rw [hmedium]
        unfold LinkState.medium
        dsimp only
        rw [hparsed]
      rw [hidle]
      exact ⟨hwell.withBus .idle fun _ h => (nomatch h), rfl⟩
  | ok frame =>
      obtain ⟨hwell', hline⟩ := hwell.hear frame number
      rw [medium_toController link.address hparsed] at hmedium
      refine ⟨hwell', hline.trans ?_⟩
      by_cases hblock : frame.address = link.address ∧
          frame.controlType = .DATA ∧ frame.crcValid ≠ some false
      · rw [if_pos hblock] at hmedium ⊢
        rw [hmedium]
      · rw [if_neg hblock] at hmedium ⊢
        rw [hmedium]

/-- The simulation: an action on the link is one action on the line. -/
theorem WellFormed.step_simulates (hwell : WellFormed link pump) (action : LinkAction) :
    ∃ after, WellFormed (link.step action) after ∧
      (link.step action).line after =
        (link.line pump).step link.next 0 (link.lineAction pump action) := by
  cases action with
  | poll => exact ⟨pump, hwell.poll⟩
  | command sequence payload => exact ⟨pump, hwell.command sequence payload⟩
  | iap => exact ⟨pump, hwell.iap⟩
  | lose => exact ⟨pump, hwell.withBus .idle fun _ h => (nomatch h), rfl⟩
  | pumpReceives uuid4 =>
      unfold LinkState.step
      dsimp only
      cases hbus : link.bus with
      | toPump wire => exact hwell.deliver hbus uuid4
      | idle =>
          unfold LinkState.lineAction
          dsimp only
          rw [hbus]
          exact ⟨pump, hwell, rfl⟩
      | toController wire number =>
          unfold LinkState.lineAction
          dsimp only
          rw [hbus]
          exact ⟨pump, hwell, rfl⟩
  | controllerReceives =>
      cases hbus : link.bus with
      | toController wire number => exact ⟨pump, hwell.controllerReceives hbus⟩
      | idle =>
          unfold LinkState.step LinkState.lineAction
          dsimp only
          rw [hbus]
          exact ⟨pump, hwell, rfl⟩
      | toPump wire =>
          unfold LinkState.step LinkState.lineAction
          dsimp only
          rw [hbus]
          exact ⟨pump, hwell, rfl⟩
  | corrupt frame =>
      unfold LinkState.step LinkState.lineAction
      dsimp only
      cases hbus : link.bus with
      | idle => exact ⟨pump, hwell, rfl⟩
      | toPump wire => exact ⟨pump, hwell, rfl⟩
      | toController wire number =>
          dsimp only
          split
          · -- a frame with a bad CRC is heard, but never as a block
            rename_i hcorrupt
            obtain ⟨hwell', hline⟩ := hwell.hear frame number
            rw [if_neg fun h => h.2.2 hcorrupt.2] at hline
            exact ⟨pump, hwell', hline⟩
          · exact ⟨pump, hwell, rfl⟩
  | timeout maxConsecutive =>
      exact ⟨pump, hwell.sessionKept
        (PumpSession.receiveLine_onTimeout link.session maxConsecutive)⟩
  | operate uuid4 operation => exact hwell.operate uuid4 operation
  | advance milliseconds =>
      have hkept := pumpKept_advance link.address milliseconds link.simulator
      obtain ⟨after, hgetPump, hline⟩ := hkept.pump pump hwell.getPump
      exact ⟨after, hwell.pumpKept hgetPump hkept.config hline⟩
  | restartController =>
      -- a new session starts the dialogue over on the controller's side alone
      have hnew : (PumpSession.create link.address link.session.state.pumpId
          link.session.sequencePolicy).address = link.address := rfl
      exact ⟨pump, hwell.withSession hnew rfl link.decoded link.acknowledged, rfl⟩

end

end Link
end Intelipump
