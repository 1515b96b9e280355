import Mathlib.Data.List.Count
import Mathlib.Tactic.Common
import Intelipump.Controller.Outbound
import Intelipump.Controller.PumpSession
import Intelipump.Foundation.Runs
import Intelipump.Simulator.Operations
import Intelipump.Simulator.Receive

namespace Intelipump
namespace Link

open Domain
open Dart.Line
open Controller
open Simulator
open Foundation.Runs
open Foundation.StateEffect
open Simulator.SimulatorSession

/-!
# The controller's outbound items

An item is popped, sent once and forgotten.  The controller moves its TX# only
when it sees the ACK, the pump moves its expected TX# when it takes the block;
after a lost ACK the next item meets the pump's duplicate rule.
-/

/-- What the line does to one exchange. -/
inductive Loss where
  | nothing | dataOut | response
deriving DecidableEq, Repr

/-- One popped item, the payloads the pump handled in its exchange, and whether
the controller saw the item's ACK. -/
structure ExchangeRecord where
  item : OutboundDataItem
  handled : List (List Byte)
  acknowledged : Bool
deriving DecidableEq, Repr

structure OutboundLink where
  outbound : OutboundQueue
  session : PumpSession
  simulator : SimulatorSession
  enqueued : List OutboundDataItem
  records : List ExchangeRecord
deriving DecidableEq

inductive OutboundAction where
  | enqueue (now : Int) (item : OutboundDataItem) (safety : ControllerSafetyContext)
  | sendOutbound (now : Int) (uuid4 : String) (loss : Loss)
  | operate (uuid4 : String) (operation : PumpOperation)
  | advance (milliseconds : Nat)
deriving DecidableEq

/-- The payloads that reach `handleApplicationPayload` with a frame. -/
def handledPayloads (simulator : SimulatorSession) (wire : List Byte) :
    List (List Byte) :=
  match parseFrame wire with
  | .error _ => []
  | .ok frame =>
      match simulator.getPump frame.address with
      | none => []
      | some pump =>
          if pump.communicationEnabled = true ∧ frame.controlType = .DATA ∧
              frame.crcValid ≠ some false ∧
              pump.lastAcceptedControllerSequence ≠ some frame.sequence ∧
              frame.sequence = pump.expectedControllerSequence then
            [frame.payload]
          else []

namespace OutboundLink

/-- No response within the timeout. -/
def countTimeout (session : PumpSession) : PumpSession :=
  { session with
    state := { session.state with
      stats := { session.state.stats with
        timeoutCount := session.state.stats.timeoutCount + 1 } } }

/-- The exchange's ACK was seen. -/
def seesAck (session : PumpSession) (response : Option DartLineFrame) : Bool :=
  response.any fun frame =>
    frame.controlType = .ACK && frame.sequence = session.state.txSequence

/-- What the controller does with the response to its block. -/
def readResponse (session : PumpSession) : Option DartLineFrame → PumpSession
  | none => countTimeout session
  | some frame =>
      if frame.controlType = .ACK ∧ frame.sequence = session.state.txSequence then
        { session with
          state := { session.state with
            txSequence := nextSequence session.state.txSequence session.sequencePolicy } }
      else if frame.controlType = .NAK then
        { session with
          state := { session.state with
            stats := { session.state.stats with
              nakCount := session.state.stats.nakCount + 1 } } }
      else session

/-- The response that reaches the controller. -/
def heardResponse (loss : Loss) (responses : List (List Byte)) : Option DartLineFrame :=
  match loss, responses with
  | .nothing, response :: _ => (parseFrame response).toOption
  | _, _ => none

/-- The frame of an item is on the line. -/
def exchange (link : OutboundLink) (uuid4 : String) (loss : Loss)
    (item : OutboundDataItem) (wire : List Byte) : OutboundLink :=
  let written := link.session.publish {
    type := .FRAME_SENT
    address := link.session.address
    detail := "DATA_OUT"
    payload := .rawHex (bytesHex wire) }
  if loss = .dataOut then
    { link with
      session := readResponse written none
      records := link.records ++ [⟨item, [], false⟩] }
  else
    let responses :=
      responsesOf (returned (SimulatorSession.receive uuid4 wire) link.simulator)
    let response := heardResponse loss responses
    { link with
      session := readResponse written response
      simulator := finalState (SimulatorSession.receive uuid4 wire) link.simulator
      records := link.records ++
        [⟨item, handledPayloads link.simulator wire, seesAck written response⟩] }

/-- Pop an item for the session's address and send it.  An item that does not
fit a frame raises, and is gone as well. -/
def maybeSendOutbound (link : OutboundLink) (now : Int) (uuid4 : String) (loss : Loss) :
    OutboundLink :=
  let popped := link.outbound.popForAddress now link.session.address
  let link := { link with outbound := popped.2 }
  match popped.1 with
  | none => link
  | some item =>
      match buildDataFrame link.session.address link.session.state.txSequence
          item.applicationPayload with
      | .error _ => { link with records := link.records ++ [⟨item, [], false⟩] }
      | .ok wire => link.exchange uuid4 loss item wire

def step (link : OutboundLink) : OutboundAction → OutboundLink
  | .enqueue now item safety =>
      match link.outbound.enqueue now item safety with
      | .ok outbound =>
          { link with outbound := outbound, enqueued := link.enqueued ++ [item] }
      | .error _ => link
  | .sendOutbound now uuid4 loss => link.maybeSendOutbound now uuid4 loss
  | .operate uuid4 operation =>
      { link with
        simulator := finalState (onPump link.session.address
          (operation.run ⟨link.simulator.clockMs, uuid4⟩)) link.simulator }
  | .advance milliseconds =>
      { link with
        simulator := finalState (SimulatorSession.advance milliseconds) link.simulator }

def run (link : OutboundLink) (actions : List OutboundAction) : OutboundLink :=
  actions.foldl step link

/-- An empty queue of a given size, a new session and a new simulator. -/
def start (maxSize : Int) (config : SimulatorConfig) (address : Byte)
    (pumpId : String) : OutboundLink where
  outbound := { maxSize := maxSize, items := [] }
  session := PumpSession.create address pumpId config.sequencePolicy
  simulator := SimulatorSession.create config
  enqueued := []
  records := []

end OutboundLink

/-- An ACK that was seen stands for a handled payload. -/
def ExchangeRecord.Honest (record : ExchangeRecord) : Prop :=
  record.acknowledged = true → record.handled = [record.item.applicationPayload]

instance (record : ExchangeRecord) : Decidable record.Honest :=
  inferInstanceAs (Decidable (_ → _))

/-- The pump's last accepted TX# is not the controller's, unless the exchange
loses a frame, the item does not fit a frame or the pump does not listen. -/
def SequenceFresh (link : OutboundLink) : OutboundAction → Prop
  | .sendOutbound now _ loss =>
      ∀ item ∈ (link.outbound.popForAddress now link.session.address).1,
        ∀ pump ∈ link.simulator.getPump link.session.address,
          item.applicationPayload.length + 5 ≤ MAX_BUFFER_SIZE → loss = .nothing →
            pump.communicationEnabled = true →
              pump.lastAcceptedControllerSequence ≠ some link.session.state.txSequence
  | _ => True

instance (link : OutboundLink) (action : OutboundAction) :
    Decidable (SequenceFresh link action) := by
  unfold SequenceFresh
  cases action <;> infer_instance

/-! ## One exchange -/

section

variable {item : OutboundDataItem} {wire : List Byte}

/-- What a heard DATA frame with a valid CRC does: handled, repeated or
refused. -/
theorem onData_cases (env : PumpEnv) (policy : SequencePolicy) (pump : SimulatedPump)
    {frame : DartLineFrame} (hcrc : frame.crcValid ≠ some false) :
    (pump.lastAcceptedControllerSequence ≠ some frame.sequence ∧
        frame.sequence = pump.expectedControllerSequence) ∨
      (pump.lastAcceptedControllerSequence = some frame.sequence ∧
        responsesOf (returned (onData env policy frame) pump) =
          [ackWire pump.config.dartAddress frame.sequence]) ∨
      (pump.lastAcceptedControllerSequence ≠ some frame.sequence ∧
        frame.sequence ≠ pump.expectedControllerSequence ∧
        responsesOf (returned (onData env policy frame) pump) =
          [nakWire pump.config.dartAddress frame.sequence]) := by
  by_cases hrepeated : pump.lastAcceptedControllerSequence = some frame.sequence
  · exact Or.inr (Or.inl ⟨hrepeated, (onData_duplicate env policy hcrc hrepeated).2⟩)
  · by_cases hexpected : frame.sequence = pump.expectedControllerSequence
    · exact Or.inl ⟨hrepeated, hexpected⟩
    · exact Or.inr (Or.inr ⟨hrepeated, hexpected,
        (onData_unexpected env policy hcrc hrepeated hexpected).2⟩)

/-- At most the item's payload is handled with its frame. -/
theorem handledPayloads_dataFrame (simulator : SimulatorSession) (address : Byte)
    (sequence : Fin 16) {payload : List Byte}
    (hlength : payload.length + 5 ≤ MAX_BUFFER_SIZE) :
    handledPayloads simulator (dataFrame address sequence payload).rawFrame =
      if ∃ pump ∈ simulator.getPump address, pump.communicationEnabled = true ∧
          pump.lastAcceptedControllerSequence ≠ some sequence ∧
          sequence = pump.expectedControllerSequence then [payload]
      else [] := by
  have hcrc : (dataFrame address sequence payload).crcValid ≠ some false := by
    simp [dataFrame]
  unfold handledPayloads
  rw [parseFrame_dataFrame address sequence hlength]
  dsimp only
  change (match simulator.getPump address with | none => _ | some _ => _) = _
  cases simulator.getPump address with
  | none => rfl
  | some pump =>
      dsimp only
      simp only [Option.mem_some_iff, exists_eq_left']
      refine if_congr ⟨fun h => ⟨h.1, h.2.2.2.1, h.2.2.2.2⟩, fun h => ?_⟩ rfl rfl
      exact ⟨h.1, rfl, hcrc, h.2.1, h.2.2⟩

/-- The pump's ACK is seen, its NAK is not an ACK. -/
theorem seesAck_control (session : PumpSession) (address : Byte) :
    OutboundLink.seesAck session (OutboundLink.heardResponse .nothing
        [ackWire address session.state.txSequence]) = true ∧
      OutboundLink.seesAck session (OutboundLink.heardResponse .nothing
        [nakWire address session.state.txSequence]) = false := by
  have hack := parseFrame_ackWire address session.state.txSequence
  have hnak : parseFrame (nakWire address session.state.txSequence) =
      .ok (controlFrame address .NAK session.state.txSequence) :=
    parseFrame_controlFrame address ⟨by decide, composable_nak _⟩
  unfold OutboundLink.heardResponse OutboundLink.seesAck
  dsimp only
  rw [hack, hnak]
  simp [Except.toOption, controlFrame]

/-- The record of an exchange is honest exactly when a full exchange did not
meet the duplicate rule. -/
theorem exchange_honest_iff (link : OutboundLink) (uuid4 : String) (loss : Loss)
    (hlength : item.applicationPayload.length + 5 ≤ MAX_BUFFER_SIZE)
    (hwire : wire = (dataFrame link.session.address link.session.state.txSequence
      item.applicationPayload).rawFrame) :
    ∃ record, (link.exchange uuid4 loss item wire).records = link.records ++ [record] ∧
      record.item = item ∧
      (record.handled = [] ∨ record.handled = [item.applicationPayload]) ∧
      (record.Honest ↔ ∀ pump ∈ link.simulator.getPump link.session.address,
        loss = .nothing → pump.communicationEnabled = true →
          pump.lastAcceptedControllerSequence ≠ some link.session.state.txSequence) := by
  -- what the sender does not see acknowledged makes no promise
  have hunseen : ∀ handled : List (List Byte),
      (ExchangeRecord.mk item handled false).Honest := fun _ h => (nomatch h)
  have hhandled := handledPayloads_dataFrame link.simulator link.session.address
    link.session.state.txSequence hlength
  rw [← hwire] at hhandled
  have honce : handledPayloads link.simulator wire = [] ∨
      handledPayloads link.simulator wire = [item.applicationPayload] := by
    rw [hhandled]
    split
    · exact Or.inr rfl
    · exact Or.inl rfl
  unfold OutboundLink.exchange
  dsimp only
  cases loss with
  | dataOut =>
      exact ⟨_, rfl, rfl, Or.inl rfl, iff_of_true (hunseen _) fun _ _ h => (nomatch h)⟩
  | response =>
      exact ⟨_, rfl, rfl, honce, iff_of_true (hunseen _) fun _ _ h => (nomatch h)⟩
  | nothing =>
      refine ⟨_, rfl, rfl, honce, ?_⟩
      have hparsed := parseFrame_dataFrame link.session.address
        link.session.state.txSequence hlength
      rw [← hwire] at hparsed
      -- only a pump that listens answers, and it answers in one of three ways
      by_cases hheard : ∃ pump, link.simulator.getPump link.session.address = some pump ∧
          pump.communicationEnabled = true
      · obtain ⟨pump, hpump, henabled⟩ := hheard
        have hcrc : (dataFrame link.session.address link.session.state.txSequence
            item.applicationPayload).crcValid ≠ some false := by simp [dataFrame]
        have hanswer := (receive_spec hparsed hpump henabled uuid4).responses
        change _ = responsesOf (returned (onData _ _ _) pump) at hanswer
        have hiff : (∀ other ∈ link.simulator.getPump link.session.address,
            Loss.nothing = .nothing → other.communicationEnabled = true →
              other.lastAcceptedControllerSequence ≠
                some link.session.state.txSequence) ↔
            pump.lastAcceptedControllerSequence ≠
              some link.session.state.txSequence := by
          constructor
          · exact fun hall => hall pump hpump rfl henabled
          · intro hpumpFresh other hother _ _
            rw [hpump] at hother
            obtain rfl := Option.mem_some_iff.mp hother
            exact hpumpFresh
        rw [hiff]
        rcases onData_cases ⟨link.simulator.clockMs, uuid4⟩
            link.simulator.config.sequencePolicy pump hcrc with
          ⟨hfresh, hexpected⟩ | ⟨hrepeated, hack⟩ | ⟨hfresh, -, hnak⟩
        · -- a fresh block is taken
          have htaken : handledPayloads link.simulator wire = [item.applicationPayload] := by
            rw [hhandled, if_pos ⟨pump, hpump, henabled, hfresh, hexpected⟩]
          exact iff_of_true (fun _ => htaken) hfresh
        · -- a block with the last number is acknowledged unread
          rw [hanswer, hack]
          refine iff_of_false ?_ (not_not.mpr hrepeated)
          have hlost : handledPayloads link.simulator wire = [] := by
            rw [hhandled, if_neg]
            rintro ⟨other, hother, -, hfresh, -⟩
            rw [hpump] at hother
            obtain rfl := Option.mem_some_iff.mp hother
            exact hfresh hrepeated
          intro honest
          have htaken := honest (seesAck_control link.session _).1
          dsimp only at htaken
          rw [hlost] at htaken
          cases htaken
        · -- a number out of turn is refused
          rw [hanswer, hnak]
          refine iff_of_true (fun hseen => ?_) hfresh
          exact absurd (hseen.symm.trans (seesAck_control link.session _).2) (by decide)
      · rw [(receive_silent ((unheard_iff hparsed).mpr hheard) uuid4).responses]
        refine iff_of_true (hunseen _) fun pump hpump _ henabled => ?_
        exact absurd ⟨pump, hpump, henabled⟩ hheard

end

/-! ## Runs -/

/-- What a step adds to the records, and how it stands with the condition. -/
theorem records_step (link : OutboundLink) (action : OutboundAction) :
    ((link.step action).records = link.records ∧ SequenceFresh link action) ∨
      ∃ record, (link.step action).records = link.records ++ [record] ∧
        (record.handled = [] ∨ record.handled = [record.item.applicationPayload]) ∧
        (record.Honest ↔ SequenceFresh link action) := by
  cases action with
  | enqueue now item safety =>
      refine Or.inl ⟨?_, trivial⟩
      unfold OutboundLink.step
      dsimp only
      split <;> rfl
  | operate uuid4 operation => exact Or.inl ⟨rfl, trivial⟩
  | advance milliseconds => exact Or.inl ⟨rfl, trivial⟩
  | sendOutbound now uuid4 loss =>
      unfold OutboundLink.step SequenceFresh OutboundLink.maybeSendOutbound
      dsimp only
      cases hpopped : (link.outbound.popForAddress now link.session.address).1 with
      | none => exact Or.inl ⟨rfl, fun item hitem => (nomatch hitem)⟩
      | some item =>
          refine Or.inr ?_
          dsimp only
          simp only [Option.mem_some_iff, forall_eq']
          by_cases hlength : item.applicationPayload.length + 5 ≤ MAX_BUFFER_SIZE
          · rw [buildDataFrame_eq_ok _ _ hlength]
            dsimp only
            obtain ⟨record, hrecords, hitem, honce, honest⟩ := exchange_honest_iff
              { link with
                outbound := (link.outbound.popForAddress now link.session.address).2 }
              uuid4 loss hlength rfl
            refine ⟨record, hrecords, hitem ▸ honce, honest.trans ?_⟩
            exact ⟨fun h pump hpump _ => h pump hpump, fun h pump hpump => h pump hpump hlength⟩
          · cases hbuilt : buildDataFrame link.session.address
                link.session.state.txSequence item.applicationPayload with
            | ok wire => exact absurd (length_le_of_buildDataFrame hbuilt) hlength
            | error error =>
                exact ⟨_, rfl, Or.inl rfl, iff_of_true (fun h => (nomatch h))
                  fun _ _ h => absurd h hlength⟩

/-- All records of a run are honest exactly when its exchanges meet the
condition. -/
theorem records_honest_iff (link : OutboundLink) (actions : List OutboundAction) :
    (∀ record ∈ (link.run actions).records, record.Honest) ↔
      (∀ record ∈ link.records, record.Honest) ∧
        Along OutboundLink.step SequenceFresh link actions := by
  induction actions generalizing link with
  | nil => exact (and_iff_left trivial).symm
  | cons action rest ih =>
      have hstep : (∀ record ∈ (link.step action).records, record.Honest) ↔
          (∀ record ∈ link.records, record.Honest) ∧ SequenceFresh link action := by
        rcases records_step link action with ⟨hrecords, hfresh⟩ | ⟨record, hrecords, -, honest⟩
        · rw [hrecords, and_iff_left hfresh]
        · rw [hrecords, List.forall_mem_append, List.forall_mem_singleton, honest]
      change (∀ record ∈ ((link.step action).run rest).records, record.Honest) ↔ _
      rw [ih, hstep, and_assoc]
      rfl

theorem items_enqueue {queue outbound : OutboundQueue} {now : Int}
    {item : OutboundDataItem} {safety : ControllerSafetyContext}
    (hqueue : queue.enqueue now item safety = .ok outbound) :
    outbound.items = queue.items ++ [item] := by
  obtain ⟨-, -, -, rfl⟩ := OutboundQueue.enqueue_ok hqueue
  rfl

/-- A popped item gets one record. -/
theorem items_maybeSendOutbound (link : OutboundLink) (now : Int) (uuid4 : String)
    (loss : Loss) :
    (link.maybeSendOutbound now uuid4 loss).records.map (·.item) =
        link.records.map (·.item) ++
          (link.outbound.popForAddress now link.session.address).1.toList ∧
      (link.maybeSendOutbound now uuid4 loss).outbound =
        (link.outbound.popForAddress now link.session.address).2 ∧
      (link.maybeSendOutbound now uuid4 loss).enqueued = link.enqueued := by
  unfold OutboundLink.maybeSendOutbound
  dsimp only
  cases (link.outbound.popForAddress now link.session.address).1 with
  | none => exact ⟨(List.append_nil _).symm, rfl, rfl⟩
  | some item =>
      dsimp only
      split
      · exact ⟨List.map_append, rfl, rfl⟩
      · unfold OutboundLink.exchange
        dsimp only
        split
        · exact ⟨List.map_append, rfl, rfl⟩
        · exact ⟨List.map_append, rfl, rfl⟩

/-- Every item is in at most as many exchanges as it was enqueued, and an
exchange handles at most its item's payload. -/
structure RecordsInvariant (link : OutboundLink) : Prop where
  handled : ∀ record ∈ link.records,
    record.handled = [] ∨ record.handled = [record.item.applicationPayload]
  count : ∀ item, (link.records.map (·.item)).count item +
    link.outbound.items.count item ≤ link.enqueued.count item

theorem RecordsInvariant.step {link : OutboundLink} (hinv : RecordsInvariant link)
    (action : OutboundAction) : RecordsInvariant (link.step action) := by
  constructor
  · rcases records_step link action with ⟨hrecords, -⟩ | ⟨record, hrecords, honce, -⟩
    · rw [hrecords]
      exact hinv.handled
    · rw [hrecords, List.forall_mem_append, List.forall_mem_singleton]
      exact ⟨hinv.handled, honce⟩
  · intro item
    have hcount := hinv.count item
    cases action with
    | enqueue now added safety =>
        unfold OutboundLink.step
        dsimp only
        cases hqueue : link.outbound.enqueue now added safety with
        | error error => exact hcount
        | ok outbound =>
            dsimp only
            rw [items_enqueue hqueue, List.count_append, List.count_append]
            omega
    | operate uuid4 operation => exact hcount
    | advance milliseconds => exact hcount
    | sendOutbound now uuid4 loss =>
        obtain ⟨hitems, houtbound, henqueued⟩ :=
          items_maybeSendOutbound link now uuid4 loss
        have hpop := OutboundQueue.count_popLoop link.session.address now none
          link.outbound.items item
        change (((link.maybeSendOutbound now uuid4 loss).records.map (·.item)).count item) +
          (link.maybeSendOutbound now uuid4 loss).outbound.items.count item ≤
            (link.maybeSendOutbound now uuid4 loss).enqueued.count item
        rw [hitems, houtbound, henqueued, List.count_append]
        simp only [Option.toList_none, List.count_nil, Nat.zero_add] at hpop
        change ((link.outbound.popForAddress now link.session.address).1.toList.count item) +
          (link.outbound.popForAddress now link.session.address).2.items.count item ≤ _
            at hpop
        omega

/-- In every run the ACKs that the controller sees stand for handled payloads
exactly when no full exchange starts with the two ends' TX# equal; and each
item takes part in at most as many exchanges as it was enqueued, its payload
being handled at most once in each. -/
theorem acknowledged_handled_iff (maxSize : Int) (config : SimulatorConfig)
    (address : Byte) (pumpId : String) (actions : List OutboundAction) :
    ((∀ record ∈ ((OutboundLink.start maxSize config address pumpId).run actions).records,
        record.Honest) ↔
      Along OutboundLink.step SequenceFresh
        (OutboundLink.start maxSize config address pumpId) actions) ∧
    ∀ record ∈ ((OutboundLink.start maxSize config address pumpId).run actions).records,
      (record.handled = [] ∨ record.handled = [record.item.applicationPayload]) ∧
        (((OutboundLink.start maxSize config address pumpId).run actions).records.map
          (·.item)).count record.item ≤
            ((OutboundLink.start maxSize config address pumpId).run
              actions).enqueued.count record.item := by
  constructor
  · rw [records_honest_iff]
    exact and_iff_right fun _ h => absurd h List.not_mem_nil
  · have hinitial : RecordsInvariant (OutboundLink.start maxSize config address pumpId) :=
      ⟨fun _ h => absurd h List.not_mem_nil, fun _ => Nat.le_refl _⟩
    have hrun : RecordsInvariant
        ((OutboundLink.start maxSize config address pumpId).run actions) :=
      invariant_of_along (fun _ action hlink _ => hlink.step action) hinitial
        (along_of_forall fun _ _ _ => trivial)
    intro record hrecord
    have hcount := hrun.count record.item
    exact ⟨hrun.handled record hrecord, by omega⟩

/-- Two reads and a command for pump 1. -/
def readItem : OutboundDataItem :=
  OutboundDataItem.create "item-1" 0 0x01 [0x01, 0x01, 0x00] .READ_STATUS true .IDEMPOTENT

def totalsItem : OutboundDataItem :=
  OutboundDataItem.create "item-2" 0 0x01 [0x65, 0x01, 0x01] .READ_TOTALS true .IDEMPOTENT

/-- A LAB setting in which reads pass the safety gates. -/
def labSafety : ControllerSafetyContext where
  environment := "LAB"
  mode := .LISTEN_ONLY
  activeCommandsEnabled := false
  requirePhysicalControlEnable := true

/-- The response to the first item is lost; the second item goes out under the
same TX#, is acknowledged as a repetition and never handled. -/
theorem acknowledged_not_always_handled :
    ¬ ∀ actions : List OutboundAction,
      ∀ record ∈ ((OutboundLink.start 32 {} 0x01 "fp-1").run actions).records,
        record.Honest := by
  intro hall
  have honest := hall [.operate "" .coldStartToReady, .enqueue 0 readItem labSafety,
    .enqueue 0 totalsItem labSafety, .sendOutbound 1 "" .response,
    .sendOutbound 2 "" .nothing] ⟨totalsItem, [], true⟩ (by decide +kernel)
  revert honest
  decide +kernel

end Link
end Intelipump
