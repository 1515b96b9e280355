import Mathlib.Tactic.Common
import Intelipump.Controller.Observation
import Intelipump.Link.DialogueLine

namespace Intelipump
namespace Link

open Domain
open Dart.Line
open Controller
open Simulator
open Foundation.StateEffect
open Simulator.SimulatorSession
open SessionCore (respond)

/-!
# Polling a pump until it has nothing to say

Polls without a loss: the pump answers each one with a block, which the
controller takes and acknowledges, until the queue is empty and the answer is
EOT (`pollUntilEot_spec`).
-/

/-- The frame on the bus is an EOT for the controller. -/
def Bus.isEot : Bus → Bool
  | .toController wire _ =>
      match parseFrame wire with
      | .ok frame => decide (frame.controlType = .EOT)
      | .error _ => false
  | _ => false

namespace LinkState

/-- A poll, and what the pump answers. -/
def pollPump (link : LinkState) : LinkState := link.run [.poll, .pumpReceives ""]

/-- The controller hears the answer, and the pump its ACK. -/
def hearAnswer (link : LinkState) : LinkState :=
  link.run [.controllerReceives, .pumpReceives ""]

/-- Poll until the answer is EOT, at most the given number of times. -/
def pollUntilEot : Nat → LinkState → Option LinkState
  | 0, _ => none
  | polls + 1, link =>
      if link.pollPump.bus.isEot then some link.pollPump.hearAnswer
      else pollUntilEot polls link.pollPump.hearAnswer

end LinkState

/-- Nothing is on its way between the two ends, and they agree on the next
block. -/
structure Quiet (link : LinkState) (pump : SimulatedPump) : Prop where
  getPump : link.simulator.getPump link.address = some pump
  address : pump.config.dartAddress = link.address
  policy : link.simulator.config.sequencePolicy = link.session.sequencePolicy
  listens : pump.communicationEnabled = true
  idle : pump.awaitingAckSequence = none
  expected : link.session.receiveLine.expected = pump.txSequence
  fresh : link.session.receiveLine.lastAccepted ≠ some pump.txSequence
  pending : ∀ item ∈ pump.pendingOutbound, item.payload.length ≤ 18

/-- What a delivered frame leaves on the link. -/
structure Delivered (before after : LinkState) (pump : SimulatedPump)
    (responses : List (List Byte)) : Prop where
  getPump : after.simulator.getPump before.address = some pump
  config : after.simulator.config = before.simulator.config
  session : after.session = before.session
  bus : ∃ number, after.bus = responseBus responses number

section

variable {link : LinkState} {pump : SimulatedPump}

/-- A frame for a pump that listens. -/
theorem delivered_deliver (hgetPump : link.simulator.getPump link.address = some pump)
    (hlistens : pump.communicationEnabled = true) {wire : List Byte}
    {frame : DartLineFrame} (hparsed : parseFrame wire = .ok frame)
    (haddress : frame.address = link.address) (uuid4 : String) :
    Delivered link (link.deliver uuid4 wire)
      (finalState (pumpAnswer ⟨link.simulator.clockMs, uuid4⟩
        link.simulator.config.sequencePolicy frame) pump)
      (responsesOf (returned (pumpAnswer ⟨link.simulator.clockMs, uuid4⟩
        link.simulator.config.sequencePolicy frame) pump)) := by
  have hspec := receive_spec hparsed (haddress.symm ▸ hgetPump) hlistens uuid4
  refine ⟨(hspec.getPump link.address).trans (if_pos haddress.symm), hspec.config, rfl, ?_⟩
  rw [← hspec.responses]
  exact ⟨_, rfl⟩

/-- A link on which a poll is on its way. -/
def LinkState.polled (link : LinkState) : LinkState :=
  { link with
    session := link.session.buildPoll.1
    bus := .toPump (controlFrame link.address .POLL 0).rawFrame }

/-- A poll reaches the pump, and the queue answers. -/
theorem Quiet.delivered_poll (hquiet : Quiet link pump) :
    Delivered link.polled link.pollPump
      (finalState (answerFromQueue link.simulator.clockMs) pump)
      (responsesOf (returned (answerFromQueue link.simulator.clockMs) pump)) := by
  have hbuildable : Buildable .POLL 0 := ⟨by decide, composable_poll⟩
  have hidle : repeatedBlock pump = none := by
    unfold repeatedBlock
    rw [hquiet.idle]
    rfl
  have hqueue := onPoll_of_idle hidle link.simulator.clockMs
  have hpoll : link.step .poll = link.polled :=
    transmit_control { link with session := link.session.buildPoll.1 } hbuildable
  have hpump : link.pollPump = link.polled.deliver ""
      (controlFrame link.address .POLL 0).rawFrame := by
    change (link.step .poll).step (.pumpReceives "") = _
    rw [hpoll]
    rfl
  have hgetPump : link.polled.simulator.getPump link.polled.address = some pump :=
    hquiet.getPump
  have hdelivered := delivered_deliver hgetPump hquiet.listens
    (parseFrame_controlFrame link.address hbuildable) rfl ""
  rw [hpump]
  unfold finalState returned at hdelivered ⊢
  rw [← hqueue]
  exact hdelivered

/-- The controller hears the frame on the bus. -/
theorem hearAnswer_eq {frame : DartLineFrame} {number : Nat}
    (hbus : link.bus = .toController frame.rawFrame number)
    (hparsed : parseFrame frame.rawFrame = .ok frame) :
    link.hearAnswer = (link.hear frame number).step (.pumpReceives "") := by
  have hheard : link.step .controllerReceives = link.hear frame number := by
    unfold LinkState.step
    dsimp only
    rw [hbus]
    dsimp only
    rw [hparsed]
  change (link.step .controllerReceives).step (.pumpReceives "") = _
  rw [hheard]

/-- The pump sends the first payload of its queue. -/
theorem Quiet.pollPump_block (hquiet : Quiet link pump)
    {item : OutboundApplicationTransaction} {rest : List OutboundApplicationTransaction}
    (hpending : pump.pendingOutbound = item :: rest) {block : DartLineFrame}
    (hblock : block = dataFrame link.address pump.txSequence item.payload) :
    parseFrame block.rawFrame = .ok block ∧
      Delivered link.polled link.pollPump
        (afterSend pump link.simulator.clockMs rest block.rawFrame) [block.rawFrame] := by
  have hanswer := hquiet.delivered_poll
  have hshort : item.payload.length + 5 ≤ MAX_BUFFER_SIZE := by
    have hitem := hquiet.pending item (hpending ▸ List.mem_cons_self ..)
    unfold MAX_BUFFER_SIZE
    omega
  have hsent := answerFromQueue_cons hpending link.simulator.clockMs
  rw [hquiet.address, buildDataFrame_eq_ok _ _ hshort] at hsent
  dsimp only at hsent
  rw [hsent.1, hsent.2] at hanswer
  subst hblock
  exact ⟨parseFrame_dataFrame link.address pump.txSequence hshort, hanswer⟩

/-- The pump's ACK has come. -/
theorem delivered_ack (hgetPump : link.simulator.getPump link.address = some pump)
    (hlistens : pump.communicationEnabled = true) {sequence : Fin 16}
    (hawaiting : pump.awaitingAckSequence = some sequence) :
    Delivered link (link.deliver "" (ackWire link.address sequence))
      (afterAck pump link.simulator.config.sequencePolicy) [] := by
  have hdelivered := delivered_deliver hgetPump hlistens
    (parseFrame_ackWire link.address sequence) rfl ""
  obtain ⟨hfinal, hresponses⟩ := onAck_spec pump link.simulator.clockMs
    link.simulator.config.sequencePolicy (controlFrame link.address .ACK sequence)
  have hsame : pump.awaitingAckSequence =
      some (controlFrame link.address .ACK sequence).sequence := hawaiting
  rw [if_pos hsame] at hfinal
  change Delivered _ _ (finalState (onAck _ _ _) pump)
    (responsesOf (returned (onAck _ _ _) pump)) at hdelivered
  rw [hfinal, hresponses] at hdelivered
  exact hdelivered

/-- The session takes a block, and its ACK goes on the bus. -/
theorem hear_accepted {block : DartLineFrame} (number : Nat)
    (hverdict : link.session.receiveLine.verdict block = .accepted) :
    (link.hear block number).bus = .toPump (ackWire link.address block.sequence) ∧
      (link.hear block number).session.receiveLine = { link.session.receiveLine with
        lastAccepted := some block.sequence
        expected := nextSequence block.sequence link.session.sequencePolicy } ∧
      (link.hear block number).session.core =
        link.session.core.acceptData link.address block := by
  obtain ⟨hline, hcore, hack⟩ := link.session.handleResponseFrame_spec block
  unfold ReceiveLine.after at hline
  unfold ReceiveLine.ackFor at hack
  rw [hverdict] at hline hcore hack
  refine ⟨?_, hline, hcore⟩
  unfold LinkState.hear
  dsimp only
  rw [hack]
  rfl

/-- The pump has something to say: it is taken and acknowledged. -/
theorem Quiet.poll_block (hquiet : Quiet link pump)
    {item : OutboundApplicationTransaction} {rest : List OutboundApplicationTransaction}
    (hpending : pump.pendingOutbound = item :: rest) :
    link.pollPump.bus.isEot = false ∧
      ∃ after : SimulatedPump, Quiet link.pollPump.hearAnswer after ∧
        after.context = pump.context ∧ after.pendingOutbound = rest ∧
        link.pollPump.hearAnswer.address = link.address ∧
        link.pollPump.hearAnswer.session.core =
          link.session.core.acceptData link.address
            (dataFrame link.address pump.txSequence item.payload) := by
  generalize hblock : dataFrame link.address pump.txSequence item.payload = block
  obtain ⟨hparsed, hsent⟩ := hquiet.pollPump_block hpending hblock.symm
  have hsequence : block.sequence = pump.txSequence := hblock ▸ rfl
  have heot : block.controlType ≠ .EOT := by
    rw [← hblock]
    exact (nomatch ·)
  generalize link.pollPump = sent at hsent ⊢
  obtain ⟨number, hbus⟩ := hsent.bus
  have hsession : sent.session.receiveLine = link.session.receiveLine := by
    rw [hsent.session]
    rfl
  have hcore : sent.session.core = link.session.core := by
    rw [hsent.session]
    rfl
  have hsentAddress : sent.address = link.address := congrArg ReceiveLine.address hsession
  -- the block is the one the session waits for
  have hverdict : sent.session.receiveLine.verdict block = .accepted := by
    have hfresh : link.session.receiveLine.lastAccepted ≠ some block.sequence := by
      rw [hsequence]
      exact hquiet.fresh
    rw [hsession, verdict_of_block _ (hblock ▸ ⟨rfl, rfl, by simp [dataFrame]⟩),
      if_neg hfresh, if_pos (hsequence.trans hquiet.expected.symm)]
  obtain ⟨hack, hheard, htaken⟩ := hear_accepted number hverdict
  have hheardAddress : (sent.hear block number).address = link.address :=
    (congrArg ReceiveLine.address hheard).trans hsentAddress
  -- the ACK goes back to the pump in the same turn
  have hstep : sent.hearAnswer = (sent.hear block number).deliver ""
      (ackWire (sent.hear block number).address block.sequence) := by
    rw [hearAnswer_eq hbus hparsed]
    unfold LinkState.step
    dsimp only
    rw [hack, hheardAddress, hsentAddress]
  have hreceived : (sent.hear block number).simulator.getPump
      (sent.hear block number).address =
        some (afterSend pump link.simulator.clockMs rest block.rawFrame) := by
    rw [hheardAddress]
    exact hsent.getPump
  have hfinal := delivered_ack hreceived hquiet.listens
    (show _ = some block.sequence from congrArg some hsequence.symm)
  have hpolicy : (sent.hear block number).simulator.config.sequencePolicy =
      link.session.sequencePolicy := by
    rw [← hquiet.policy]
    exact congrArg (·.sequencePolicy) hsent.config
  rw [← hstep, hpolicy] at hfinal
  refine ⟨?_, ?_⟩
  · rw [hbus]
    unfold responseBus Bus.isEot
    dsimp only
    rw [hparsed]
    exact decide_eq_false heot
  generalize sent.hearAnswer = final at hfinal
  -- the session has moved on to the next number
  have hfinalLine : final.session.receiveLine = { link.session.receiveLine with
      lastAccepted := some pump.txSequence
      expected := nextSequence pump.txSequence link.session.sequencePolicy } := by
    have hkept : sent.session.sequencePolicy = link.session.sequencePolicy :=
      congrArg ReceiveLine.policy hsession
    rw [hfinal.session, hheard, hsession, hsequence, hkept]
  have hfinalAddress : final.address = link.address :=
    congrArg ReceiveLine.address hfinalLine
  -- after the ACK the line is quiet again, with one block less
  refine ⟨afterAck (afterSend pump link.simulator.clockMs rest block.rawFrame)
    link.session.sequencePolicy,
    ⟨?_, hquiet.address.trans hfinalAddress.symm, ?_, hquiet.listens, rfl, ?_, ?_, ?_⟩,
    rfl, rfl, hfinalAddress, ?_⟩
  · rw [hfinalAddress, ← hheardAddress]
    exact hfinal.getPump
  · rw [hfinal.config, hpolicy]
    exact (congrArg ReceiveLine.policy hfinalLine).symm
  · rw [hfinalLine]
    rfl
  · rw [hfinalLine]
    exact fun hsame => nextSequence_ne_self pump.txSequence _ (Option.some.inj hsame).symm
  · intro other hother
    exact hquiet.pending other (hpending ▸ List.mem_cons_of_mem _ hother)
  · rw [hfinal.session, htaken, hcore, hsentAddress]

/-- The pump has nothing to say. -/
theorem Quiet.poll_eot (hquiet : Quiet link pump) (hempty : pump.pendingOutbound = []) :
    link.pollPump.bus.isEot = true ∧
      link.pollPump.hearAnswer.simulator.getPump link.address = some pump ∧
      link.pollPump.hearAnswer.address = link.address ∧
      link.pollPump.hearAnswer.session.core = link.session.core.markResponsive := by
  have hanswer := hquiet.delivered_poll
  obtain ⟨hfinal, hresponses⟩ := answerFromQueue_nil hempty link.simulator.clockMs
  rw [hfinal, hresponses, hquiet.address] at hanswer
  have hbuildable : Buildable .EOT pump.txSequence := ⟨by decide, composable_eot _⟩
  have hparsed := parseFrame_controlFrame link.address hbuildable
  generalize link.pollPump = sent at hanswer
  obtain ⟨number, hbus⟩ := hanswer.bus
  have hsession : sent.session.receiveLine = link.session.receiveLine := by
    rw [hanswer.session]
    rfl
  -- an EOT shows that the pump is there, and no more
  have hverdict : sent.session.receiveLine.verdict
      (controlFrame link.address .EOT pump.txSequence) = .responsive := by
    have haddress : (controlFrame link.address .EOT pump.txSequence).address =
        link.session.receiveLine.address := rfl
    rw [hsession]
    unfold ReceiveLine.verdict
    rw [if_neg (not_not.mpr haddress)]
    rfl
  obtain ⟨hline', hcore', hack⟩ :=
    sent.session.handleResponseFrame_spec (controlFrame link.address .EOT pump.txSequence)
  unfold ReceiveLine.after at hline'
  unfold ReceiveLine.ackFor at hack
  rw [hverdict] at hline' hcore' hack
  dsimp only at hline' hack
  -- the session answers nothing
  have hheard : (sent.hear (controlFrame link.address .EOT pump.txSequence)
      number).bus = .idle := by
    unfold LinkState.hear
    dsimp only
    rw [hack]
  have hstep : (sent.hear (controlFrame link.address .EOT pump.txSequence) number).step
      (.pumpReceives "") = sent.hear (controlFrame link.address .EOT pump.txSequence)
        number := by
    unfold LinkState.step
    dsimp only
    rw [hheard]
  refine ⟨?_, ?_⟩
  · rw [hbus]
    unfold responseBus Bus.isEot
    dsimp only
    rw [show eotWire link.address pump.txSequence =
      (controlFrame link.address .EOT pump.txSequence).rawFrame from rfl, hparsed]
    rfl
  · rw [hearAnswer_eq hbus hparsed, hstep]
    refine ⟨?_, (congrArg ReceiveLine.address (hline'.trans hsession)), ?_⟩
    · exact hanswer.getPump
    · refine hcore'.trans ?_
      rw [hanswer.session]
      rfl

end

/-- The payloads of a queue are reports. -/
def Reported (queue : List OutboundApplicationTransaction) (reports : List IdleReport) :
    Prop :=
  List.Forall₂ (fun item report => IdleReport.encode report = .ok item.payload) queue
    reports

/-- The controller's state after the reports of an idle pump. -/
def observeAll (state : PumpState) (reports : List IdleReport) : PumpState :=
  reports.foldl (fun state report => report.sighting.observe state) state

/-- Polling ends with the queue empty, the pump as it was, and the controller
in the state that the reports lead to. -/
theorem pollUntilEot_spec {link : LinkState} {pump : SimulatedPump}
    (hquiet : Quiet link pump) {reports : List IdleReport}
    (hreported : Reported pump.pendingOutbound reports)
    (hsettled : link.session.core.Settled) :
    ∃ drained after, link.pollUntilEot (pump.pendingOutbound.length + 1) = some drained ∧
      drained.address = link.address ∧
      drained.simulator.getPump link.address = some after ∧
      after.pendingOutbound = [] ∧ after.context = pump.context ∧
      drained.session.context.currentState =
        respond (observeAll link.session.context.currentState reports) := by
  generalize hqueue : pump.pendingOutbound = queue at hreported ⊢
  induction hreported generalizing link pump with
  | nil =>
      obtain ⟨heot, hgetPump, haddress, hcore⟩ := hquiet.poll_eot hqueue
      refine ⟨link.pollPump.hearAnswer, pump, if_pos heot, haddress, hgetPump, hqueue, rfl, ?_⟩
      have hstate : link.pollPump.hearAnswer.session.core.context.currentState =
          respond link.session.core.context.currentState := by
        rw [hcore]
        exact SessionCore.currentState_markResponsive link.session.core
      exact hstate
  | @cons item report rest reports hencoded hrest ih =>
      obtain ⟨hblock, after, hquiet', hcontext, hpending, haddress, hcore⟩ :=
        hquiet.poll_block hqueue
      have hshort : item.payload.length + 5 ≤ MAX_BUFFER_SIZE := by
        have hitem := hquiet.pending item (hqueue ▸ List.mem_cons_self ..)
        unfold MAX_BUFFER_SIZE
        omega
      have hparsed := parseFrame_dataFrame link.address pump.txSequence hshort
      obtain ⟨hstate, hsettled'⟩ := SessionCore.currentState_acceptData link.address hparsed
        (show report.encode = .ok (dataFrame link.address pump.txSequence
          item.payload).payload from hencoded) hsettled
      rw [← hcore] at hstate hsettled'
      have hstate' : link.pollPump.hearAnswer.session.context.currentState =
          report.sighting.observe link.session.context.currentState := hstate
      obtain ⟨drained, last, hpolled, hdrained, hgetPump, hempty, hlast, hfinal⟩ :=
        ih hquiet' hsettled' hpending
      rw [haddress] at hdrained hgetPump
      refine ⟨drained, last, ?_, hdrained, hgetPump, hempty, hlast.trans hcontext, ?_⟩
      · rw [List.length_cons, LinkState.pollUntilEot, hblock, if_neg Bool.false_ne_true]
        exact hpolled
      · rw [hfinal, hstate']
        rfl

end Link
end Intelipump
