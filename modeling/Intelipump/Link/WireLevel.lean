import Mathlib.Tactic.Common
import Intelipump.Controller.ReadLoop
import Intelipump.Dart.Line.InTransit
import Intelipump.Dart.Transport.Memory
import Intelipump.Link.FullDuplex
import Intelipump.Link.OutboundExchange
import Intelipump.Simulator.SerialBridge

namespace Intelipump
namespace Link

open Dart.Line
open Dart.Transport
open Controller
open Controller.PumpSession
open Simulator
open Foundation
open Foundation.StateEffect

/-!
# The dialogue as bytes

The controller and the serial bridge of the simulator are two tasks on one event loop, and
between them there are bytes only.  Their steps between two suspensions come in any order:
what the loop does in turn (poll, wait, time out, poll again, send an item and wait for
the response) is one order of many.  A read brings at most as many bytes as asked for,
whatever frames they begin or end in.

`Carries` reads the frames that are under way off the bytes, which makes this a refinement
of `DuplexLink`.  Two logs stand beside the state: the payloads popped from the pump's
queue, and the frames written on either side.
-/

structure WireLink where
  session : PumpSession
  readLoop : ReadLoop
  bridge : SimulatorSerialBridge
  toPump : Pipe
  toController : Pipe
  popped : List (List Byte)
  written : List (List Byte)

inductive WireAction where
  /-- `POLL` or `POLL_RETRY`. -/
  | poll (note : String)
  /-- The payload of an outbound item. -/
  | command (payload : List Byte)
  /-- A read after a poll. -/
  | readAnswer (maxBytes : Nat) (retried : Bool)
  /-- A read after an outbound item. -/
  | readResponse (maxBytes : Nat)
  | timeout (maxConsecutive : Nat)
  | responseTimeout
  /-- A turn of the bridge, with the identifiers that its frames may draw. -/
  | bridge (uuid4s : Nat → String) (maxBytes stepMs : Nat)
  | operate (uuid4 : String) (operation : PumpOperation)

namespace WireLink

def start (config : SimulatorConfig) (address : Byte) (pumpId : String) : WireLink where
  session := PumpSession.create address pumpId config.sequencePolicy
  readLoop := ReadLoop.create
  bridge := SimulatorSerialBridge.create config
  toPump := {}
  toController := {}
  popped := []
  written := []

def address (link : WireLink) : Byte := link.session.address

/-- `_write_frame`. -/
def writeFrame (link : WireLink) (data : List Byte) (note : String) : WireLink :=
  { link with
    toPump := link.toPump.write data
    session := link.session.publish {
      type := .FRAME_SENT
      address := link.session.address
      detail := note
      payload := .rawHex (bytesHex data) }
    written := link.written ++ [data] }

/-- One read of `_read_one_frame`, and the frame that it returns. -/
def readOneFrame (link : WireLink) (maxBytes : Nat) : Option DartLineFrame × WireLink :=
  let read := link.toController.read maxBytes
  let heard := link.readLoop.readOneFrame [read.1]
  (heard.1, { link with toController := read.2, readLoop := heard.2.1 })

/-- The answer to a poll. -/
def handleAnswer (link : WireLink) (retried : Bool) (frame : DartLineFrame) : WireLink :=
  if frame.address ≠ link.session.address then
    if retried then link
    else { link with
      session := link.session.ignoreFrame s!"response_address_{frame.address.toNat}" }
  else
    let result := link.session.handleResponseFrame frame
    let handled := { link with session := result.1 }
    match result.2 with
    | some ack => handled.writeFrame ack "ACK"
    | none => handled

/-- The bridge handles a frame, if it still runs. -/
def bridgeFrame (link : WireLink) (uuid4 : String) (raw : List Byte) : WireLink :=
  if link.bridge.running then
    let (bridge, responses) := link.bridge.handleFrame uuid4 raw
    { link with
      bridge := bridge
      toController := responses.foldl Pipe.write link.toController
      popped := link.popped ++
        leftQueue (LinkState.pendingOutbound link.bridge.simulator link.address)
          (LinkState.pendingOutbound bridge.simulator link.address)
      written := link.written ++ responses }
  else link

def bridgeEvents (uuid4s : Nat → String) : WireLink → Nat → List AssemblerEvent → WireLink
  | link, _, [] => link
  | link, index, event :: events =>
      if event.kind = .FRAME ∧ event.frame.isSome then
        bridgeEvents uuid4s (link.bridgeFrame (uuid4s index) event.raw) (index + 1) events
      else bridgeEvents uuid4s link index events

/-- The bridge reads once, handles the frames, and time passes. -/
def bridgeTurn (link : WireLink) (uuid4s : Nat → String) (maxBytes stepMs : Nat) : WireLink :=
  let read := link.toPump.read maxBytes
  let fed := link.bridge.assembler.feed read.1
  let handled := bridgeEvents uuid4s
    { link with toPump := read.2, bridge := { link.bridge with assembler := fed.1 } } 0 fed.2
  if handled.bridge.running then { handled with bridge := handled.bridge.advance stepMs }
  else handled

def step (link : WireLink) : WireAction → WireLink
  | .poll note =>
      let counted := { link with session := link.session.buildPoll.1 }
      match link.session.buildPoll.2 with
      | .ok wire => counted.writeFrame wire note
      | .error _ => counted
  | .command payload =>
      match buildDataFrame link.session.address link.session.state.txSequence payload with
      | .ok wire => link.writeFrame wire "DATA_OUT"
      | .error _ => link
  | .readAnswer maxBytes retried =>
      let read := link.readOneFrame maxBytes
      match read.1 with
      | some frame => read.2.handleAnswer retried frame
      | none => read.2
  | .readResponse maxBytes =>
      let read := link.readOneFrame maxBytes
      match read.1 with
      | some frame =>
          { read.2 with session := OutboundLink.readResponse read.2.session (some frame) }
      | none => read.2
  | .timeout maxConsecutive =>
      { link with session := link.session.onTimeout maxConsecutive }
  | .responseTimeout => { link with session := OutboundLink.readResponse link.session none }
  | .bridge uuid4s maxBytes stepMs =>
      if link.bridge.running then link.bridgeTurn uuid4s maxBytes stepMs else link
  | .operate uuid4 operation =>
      { link with
        bridge := { link.bridge with
          simulator := finalState
            (SimulatorSession.onPump link.address
              (operation.run ⟨link.bridge.simulator.clockMs, uuid4⟩))
            link.bridge.simulator } }

def run (link : WireLink) (actions : List WireAction) : WireLink := actions.foldl step link

end WireLink

/-- Actions that end no dialogue. -/
def WireAction.KeepsDialogue : WireAction → Prop
  | .operate _ operation => operation.KeepsDialogue
  | _ => True

instance (action : WireAction) : Decidable action.KeepsDialogue := by
  unfold WireAction.KeepsDialogue
  cases action <;> infer_instance

/-! ## What the pump writes -/

theorem sound_control (address : Byte) {controlType : ControlType} {sequence : Fin 16}
    (hbuildable : Buildable controlType sequence) :
    ∃ frame : OutgoingFrame,
      frame.build = .ok (controlFrame address controlType sequence).rawFrame :=
  ⟨.control address controlType sequence, buildControlFrame_eq_ok address hbuildable⟩

theorem sound_data (address : Byte) (sequence : Fin 16) {payload : List Byte}
    (hshort : payload.length ≤ 18) :
    ∃ frame : OutgoingFrame, frame.build = .ok (dataFrame address sequence payload).rawFrame := by
  refine ⟨.data address sequence payload, buildDataFrame_eq_ok address sequence ?_⟩
  unfold MAX_BUFFER_SIZE
  omega

/-- A frame is answered with one built frame at most. -/
theorem WellFormed.responses_built {link : LinkState} {pump : SimulatedPump}
    (hwell : WellFormed link pump) {wire : List Byte} {frame : DartLineFrame}
    (hparsed : parseFrame wire = .ok frame) (haddress : frame.address = link.address)
    (uuid4 : String) :
    SimulatorSession.responsesOf
        (returned (SimulatorSession.receive uuid4 wire) link.simulator) = [] ∨
      ∃ response, SimulatorSession.responsesOf
          (returned (SimulatorSession.receive uuid4 wire) link.simulator) = [response] ∧
        ∃ sent : OutgoingFrame, sent.build = .ok response := by
  by_cases henabled : pump.communicationEnabled = true
  · have hspec := (SimulatorSession.receive_spec hparsed (haddress.symm ▸ hwell.getPump)
      henabled uuid4).responses
    rw [hspec]
    unfold SimulatorSession.pumpAnswer
    cases htype : frame.controlType with
    | POLL =>
        dsimp only
        cases hrepeated : SimulatorSession.repeatedBlock pump with
        | some block =>
            obtain ⟨awaiting, hawaiting, hblock⟩ := Option.bind_eq_some_iff.mp hrepeated
            obtain ⟨-, payload, hshort, -, hwire⟩ := hwell.awaiting awaiting hawaiting
            obtain rfl := Option.some.inj (hblock.symm.trans hwire)
            exact Or.inr ⟨_, (SimulatorSession.onPoll_repeat hrepeated _).2,
              sound_data _ _ hshort⟩
        | none =>
            rw [returned_congr (SimulatorSession.onPoll_of_idle hrepeated _)]
            cases hpending : pump.pendingOutbound with
            | nil =>
                exact Or.inr ⟨_, (SimulatorSession.answerFromQueue_nil hpending _).2,
                  sound_control _ ⟨by decide, composable_eot _⟩⟩
            | cons item rest =>
                have hitem : item.payload.length ≤ 18 :=
                  hwell.pending item (hpending ▸ List.mem_cons_self ..)
                have hlength : item.payload.length + 5 ≤ MAX_BUFFER_SIZE := by
                  unfold MAX_BUFFER_SIZE
                  omega
                have hsent := SimulatorSession.answerFromQueue_cons hpending
                  link.simulator.clockMs
                rw [buildDataFrame_eq_ok _ _ hlength] at hsent
                exact Or.inr ⟨_, hsent.2, sound_data _ _ hitem⟩
    | ACK => exact Or.inl (SimulatorSession.onAck_spec pump _ _ frame).2
    | DATA =>
        rcases blockless_onData ⟨link.simulator.clockMs, uuid4⟩
          link.simulator.config.sequencePolicy hwell frame with hnone | hcontrol
        · exact Or.inl hnone
        · obtain ⟨controlType, sequence, hbuildable, hone⟩ := hcontrol
          exact Or.inr ⟨_, hone, sound_control _ hbuildable⟩
    | _ => exact Or.inl rfl
  · have hunheard : link.simulator.Unheard wire := by
      intro other deaf hother hpump
      rw [hparsed] at hother
      obtain rfl := Except.ok.inj hother
      rw [haddress, hwell.getPump] at hpump
      obtain rfl := Option.some.inj hpump
      exact Bool.eq_false_of_not_eq_true henabled
    exact Or.inl (SimulatorSession.receive_silent hunheard uuid4).responses

/-! ## The frames under way -/

/-- The ends and the logs of a wire are those of a link of frames. -/
structure Carries (wire : WireLink) (link : DuplexLink) : Prop where
  invariant : DuplexInvariant link
  session : link.ends.session = wire.session
  simulator : link.ends.simulator = wire.bridge.simulator
  popped : payloads link.ends.popped = wire.popped
  reported : itemReports link.ends.decoded = reports wire.session.events
  soundToPump : ∀ sent ∈ link.toPump, Sound sent
  soundToController : ∀ sent ∈ link.toController, Sound sent.1

/-- And the bytes between them are its frames. -/
structure Refines (wire : WireLink) (link : DuplexLink) : Prop extends Carries wire link where
  toPump : Partway id wire.bridge.assembler link.toPump wire.toPump.bytes
  toController : Partway Prod.fst wire.readLoop.assembler link.toController
    wire.toController.bytes

theorem DuplexInvariant.withSession {link : DuplexLink} (hinv : DuplexInvariant link)
    {session : PumpSession} (hline : session.receiveLine = link.ends.session.receiveLine) :
    DuplexInvariant { link with ends := { link.ends with session := session } } := by
  obtain ⟨hidle, hown, pump, hwell, hordered⟩ := hinv
  obtain ⟨hwell', hsame⟩ := hwell.sessionKept hline
  have haddress : session.address = link.ends.address := congrArg ReceiveLine.address hline
  have hpolicy : session.sequencePolicy = link.ends.session.sequencePolicy :=
    congrArg ReceiveLine.policy hline
  refine ⟨hidle, fun sent hsent => ?_, pump, hwell', ?_⟩
  · change OwnFrame session.address sent
    rw [haddress]
    exact hown sent hsent
  · rw [hsame]
    change StopAndWait.Line.Ordered
      (fun sequence => nextSequence sequence session.sequencePolicy) _
      (DuplexLink.blocks session.address _) (DuplexLink.acks session.address _)
    rw [haddress, hpolicy]
    exact hordered

namespace Carries

variable {wire : WireLink} {link : DuplexLink}

/-- The session does something that concerns neither its receive line nor the reports. -/
theorem withSession (hcarries : Carries wire link) {session : PumpSession}
    (hline : session.receiveLine = wire.session.receiveLine)
    (hquiet : PumpSession.Reported [] wire.session session) :
    Carries { wire with session := session }
      { link with ends := { link.ends with session := session } } where
  invariant := hcarries.invariant.withSession (hline.trans (congrArg _ hcarries.session).symm)
  session := rfl
  simulator := hcarries.simulator
  popped := hcarries.popped
  reported := by
    change _ = reports session.events
    rw [reports_of_reported hquiet, List.append_nil]
    exact hcarries.reported
  soundToPump := hcarries.soundToPump
  soundToController := hcarries.soundToController

theorem lose (hcarries : Carries wire link) {toPump : List (List Byte)}
    {toController : List (List Byte × Nat)} (htoPump : toPump.Sublist link.toPump)
    (htoController : toController.Sublist link.toController) :
    Carries wire { link with toPump := toPump, toController := toController } where
  invariant := hcarries.invariant.lose htoPump htoController
  session := hcarries.session
  simulator := hcarries.simulator
  popped := hcarries.popped
  reported := hcarries.reported
  soundToPump := fun sent hsent => hcarries.soundToPump sent (htoPump.subset hsent)
  soundToController := fun sent hsent =>
    hcarries.soundToController sent (htoController.subset hsent)

/-- The controller writes a frame that belongs on the line. -/
theorem writeFrame (hcarries : Carries wire link) {data : List Byte} (hsound : Sound data)
    (hline : DuplexInvariant { link with toPump := link.toPump ++ [data] }) (note : String) :
    Carries (wire.writeFrame data note)
      { link with
        ends := { link.ends with session := (wire.writeFrame data note).session }
        toPump := link.toPump ++ [data] } where
  invariant := by
    refine hline.withSession ?_
    change wire.session.receiveLine = link.ends.session.receiveLine
    rw [hcarries.session]
  session := rfl
  simulator := hcarries.simulator
  popped := hcarries.popped
  reported := by
    have hquiet : PumpSession.Reported [] wire.session (wire.writeFrame data note).session :=
      reported_publish wire.session rfl
    rw [reports_of_reported hquiet, List.append_nil]
    exact hcarries.reported
  soundToPump := by
    intro sent hsent
    rcases List.mem_append.mp hsent with hold | hnew
    · exact hcarries.soundToPump sent hold
    · rw [List.mem_singleton.mp hnew]
      exact hsound
  soundToController := hcarries.soundToController

end Carries

/-! ## Steps of a link of frames -/

namespace DuplexLink

variable {link : DuplexLink}

theorem step_poll {data : List Byte} (hbuilt : link.ends.session.buildPoll.2 = .ok data) :
    link.step (.act .poll) =
      { ends := { link.ends with session := link.ends.session.buildPoll.1, bus := .idle }
        toPump := link.toPump ++ [data]
        toController := link.toController } := by
  have htransmit : LinkState.step { link.ends with bus := .idle } .poll =
      { link.ends with session := link.ends.session.buildPoll.1, bus := .toPump data } := by
    change LinkState.transmit _ link.ends.session.buildPoll.2 = _
    rw [hbuilt]
    rfl
  unfold step handle collect
  dsimp only
  rw [htransmit]
  exact congrArg (DuplexLink.mk _ _) (List.append_nil _)

theorem step_command {sequence : Fin 16} {payload data : List Byte}
    (hbuilt : buildDataFrame link.ends.address sequence payload = .ok data) :
    link.step (.act (.command sequence payload)) =
      { ends := { link.ends with bus := .idle }
        toPump := link.toPump ++ [data]
        toController := link.toController } := by
  have htransmit : LinkState.step { link.ends with bus := .idle } (.command sequence payload) =
      { link.ends with bus := .toPump data } := by
    change LinkState.transmit _ (buildDataFrame link.ends.address sequence payload) = _
    rw [hbuilt]
    rfl
  unfold step handle collect
  dsimp only
  rw [htransmit]
  exact congrArg (DuplexLink.mk _ _) (List.append_nil _)

theorem withBus_idle {ends : LinkState} (hidle : ends.bus = .idle) :
    { ends with bus := .idle } = ends := by
  cases ends
  cases hidle
  rfl

/-- An action that sends nothing. -/
theorem step_act_silent {action : LinkAction}
    (hsilent : (LinkState.step { link.ends with bus := .idle } action).bus = .idle) :
    link.step (.act action) =
      { link with ends := LinkState.step { link.ends with bus := .idle } action } := by
  unfold step handle collect
  dsimp only
  rw [hsilent, withBus_idle hsilent]
  exact congrArg₂ (DuplexLink.mk _) (List.append_nil _) (List.append_nil _)

/-- The controller hears the frame in front. -/
theorem step_controllerReceives {data : List Byte} {number : Nat}
    {rest : List (List Byte × Nat)} {frame : DartLineFrame}
    (hfront : link.toController = (data, number) :: rest)
    (hparsed : parseFrame data = .ok frame) :
    link.step .controllerReceives =
      { ends := { link.ends.hear frame number with bus := .idle }
        toPump := link.toPump ++ (link.ends.session.handleResponseFrame frame).2.toList
        toController := rest } := by
  have hheard : LinkState.step { link.ends with bus := .toController data number }
      .controllerReceives = link.ends.hear frame number := by
    unfold LinkState.step
    dsimp only
    rw [hparsed]
    rfl
  unfold step
  dsimp only
  rw [hfront]
  unfold handle collect
  dsimp only
  rw [hheard]
  unfold LinkState.hear
  dsimp only
  cases (link.ends.session.handleResponseFrame frame).2 with
  | none => exact congrArg (DuplexLink.mk _ _) (List.append_nil _)
  | some ack => exact congrArg (DuplexLink.mk _ _) (List.append_nil _)

/-- The pump gets the frame in front, and its responses, one at most, go back. -/
theorem step_pumpReceives {data : List Byte} {rest : List (List Byte)} (uuid4 : String)
    (hfront : link.toPump = data :: rest)
    (hone : (SimulatorSession.responsesOf
      (returned (SimulatorSession.receive uuid4 data) link.ends.simulator)).length ≤ 1) :
    link.step (.pumpReceives uuid4) =
      { ends := { link.ends.deliver uuid4 data with bus := .idle }
        toPump := rest
        toController := link.toController ++
          (SimulatorSession.responsesOf
            (returned (SimulatorSession.receive uuid4 data) link.ends.simulator)).map
              fun response => (response, (link.ends.deliver uuid4 data).popped.length) } := by
  have hdelivered : LinkState.step { link.ends with bus := .toPump data } (.pumpReceives uuid4) =
      link.ends.deliver uuid4 data := rfl
  unfold step
  dsimp only
  rw [hfront]
  unfold handle collect
  dsimp only
  rw [hdelivered]
  have hbus : (link.ends.deliver uuid4 data).bus =
      responseBus (SimulatorSession.responsesOf
        (returned (SimulatorSession.receive uuid4 data) link.ends.simulator))
        (link.ends.deliver uuid4 data).popped.length := rfl
  rw [hbus]
  generalize SimulatorSession.responsesOf
    (returned (SimulatorSession.receive uuid4 data) link.ends.simulator) = responses at *
  cases responses with
  | nil => exact congrArg (DuplexLink.mk _ · _) (List.append_nil _)
  | cons response others =>
      obtain rfl : others = [] := by
        rw [List.length_cons] at hone
        exact List.eq_nil_of_length_eq_zero (by omega)
      exact congrArg (DuplexLink.mk _ · _) (List.append_nil _)

end DuplexLink

/-! ## Steps of the bytes -/

/-- The walk through the events ends with the first frame that came out. -/
theorem walkEvents_of_emits {α : Type} {wireOf : α → List Byte} {sent rest : List α}
    {events : List AssemblerEvent} (hemits : Emits wireOf sent events rest)
    (hsound : ∀ frame ∈ sent, Sound (wireOf frame)) :
    ((ReadLoop.walkEvents events).1 = none ∧ rest.Sublist sent) ∨
      ∃ frame first middle, (ReadLoop.walkEvents events).1 = some frame ∧
        parseFrame (wireOf first) = .ok frame ∧ (first :: middle).Sublist sent ∧
        rest.Sublist middle := by
  induction hemits with
  | none sent => exact Or.inl ⟨rfl, List.Sublist.refl sent⟩
  | @frame first sent rest events hrest ih =>
      obtain ⟨frame, hparsed, hkind, hframe, -⟩ :=
        (hsound first List.mem_cons_self).candidateEvent
      refine Or.inr ⟨frame, first, sent, ?_, hparsed, List.Sublist.refl _, hrest.sublist⟩
      have hdelivered : deliveredFrame
          (FrameStreamAssembler.candidateEvent (wireOf first)) = some frame := by
        unfold deliveredFrame
        rw [if_pos hkind, hframe]
      unfold ReadLoop.walkEvents
      rw [hdelivered]
  | lost hrest ih =>
      rcases ih fun frame hframe => hsound frame (List.mem_cons_of_mem _ hframe) with
        ⟨hnone, hless⟩ | ⟨frame, first, middle, hsome, hparsed, hmiddle, hless⟩
      · exact Or.inl ⟨hnone, hless.cons _⟩
      · exact Or.inr ⟨frame, first, middle, hsome, hparsed, hmiddle.cons _, hless⟩
  | @noise event sent rest events hevent hrest ih =>
      have hskipped : (ReadLoop.walkEvents (event :: events)).1 =
          (ReadLoop.walkEvents events).1 := by
        have hnone : deliveredFrame event = none := if_neg hevent
        conv_lhs => unfold ReadLoop.walkEvents
        rw [hnone]
      rw [hskipped]
      exact ih hsound

theorem readOneFrame_singleton (loop : ReadLoop) (chunk : List Byte) :
    (loop.readOneFrame [chunk]).1 =
        (ReadLoop.walkEvents (loop.assembler.feed chunk).2).1 ∧
      (loop.readOneFrame [chunk]).2.1.assembler = (loop.assembler.feed chunk).1 := by
  unfold ReadLoop.readOneFrame
  split
  · rename_i hpause
    subst hpause
    exact ⟨rfl, rfl⟩
  · dsimp only
    split
    · rename_i frame hframe
      exact ⟨hframe.symm, rfl⟩
    · rename_i hnone
      exact ⟨hnone.symm, rfl⟩

/-- An ACK is a built frame. -/
theorem built_ack {session : PumpSession} {frame : DartLineFrame} {ack : List Byte}
    (hack : (session.handleResponseFrame frame).2 = some ack) :
    ∃ sent : OutgoingFrame, sent.build = .ok ack := by
  rw [(session.handleResponseFrame_spec frame).2.2] at hack
  unfold ReceiveLine.ackFor at hack
  have hwire : ack = ackWire session.receiveLine.address frame.sequence := by
    split at hack <;> cases hack <;> rfl
  exact ⟨.control session.receiveLine.address .ACK frame.sequence,
    hwire ▸ buildControlFrame_eq_ok _ ⟨by decide, composable_ack _⟩⟩

namespace Refines

variable {wire : WireLink} {link : DuplexLink}

/-- A read brings the frame in front of those that come out whole, or none. -/
theorem readOneFrame (hrefines : Refines wire link) (maxBytes : Nat) :
    ∃ rest, Partway Prod.fst (wire.readOneFrame maxBytes).2.readLoop.assembler rest
        (wire.readOneFrame maxBytes).2.toController.bytes ∧
      (((wire.readOneFrame maxBytes).1 = none ∧ rest.Sublist link.toController) ∨
        ∃ frame first middle, (wire.readOneFrame maxBytes).1 = some frame ∧
          parseFrame first.1 = .ok frame ∧ (first :: middle).Sublist link.toController ∧
          rest.Sublist middle) := by
  have hpartway := hrefines.toController
  rw [← wire.toController.bytes_read maxBytes] at hpartway
  obtain ⟨rest, hemits, hrest⟩ := hpartway.feed hrefines.soundToController
  obtain ⟨hframe, hassembler⟩ :=
    readOneFrame_singleton wire.readLoop (wire.toController.read maxBytes).1
  refine ⟨rest, ?_, ?_⟩
  · change Partway Prod.fst (wire.readLoop.readOneFrame
      [(wire.toController.read maxBytes).1]).2.1.assembler _ _
    rw [hassembler]
    exact hrest
  · change ((wire.readLoop.readOneFrame [(wire.toController.read maxBytes).1]).1 = none ∧ _) ∨
      ∃ frame first middle, (wire.readLoop.readOneFrame
        [(wire.toController.read maxBytes).1]).1 = some frame ∧ _
    rw [hframe]
    exact walkEvents_of_emits hemits hrefines.soundToController

end Refines

/-- The session handles a frame. -/
theorem Carries.hear {wire : WireLink} {link : DuplexLink} (hcarries : Carries wire link)
    {data : List Byte} {number : Nat} {rest : List (List Byte × Nat)} {frame : DartLineFrame}
    (hfront : link.toController = (data, number) :: rest)
    (hparsed : parseFrame data = .ok frame) :
    Carries { wire with session := (wire.session.handleResponseFrame frame).1 }
        { ends := { link.ends.hear frame number with bus := .idle }
          toPump := link.toPump
          toController := rest } ∧
      ∀ ack ∈ (wire.session.handleResponseFrame frame).2,
        DuplexInvariant
          { ends := { link.ends.hear frame number with bus := .idle }
            toPump := link.toPump ++ [ack]
            toController := rest } := by
  have hstep : DuplexInvariant (link.step .controllerReceives) :=
    hcarries.invariant.step trivial
  rw [DuplexLink.step_controllerReceives hfront hparsed, hcarries.session] at hstep
  have hreported := reports_of_reported (reported_handleResponseFrame wire.session frame)
  refine ⟨⟨?_, ?_, hcarries.simulator, hcarries.popped, ?_, hcarries.soundToPump, ?_⟩, ?_⟩
  · exact hstep.lose (List.sublist_append_left _ _) (List.Sublist.refl _)
  · exact congrArg (fun session => (PumpSession.handleResponseFrame session frame).1)
      hcarries.session
  · rw [hreported, ← hcarries.reported, ← hcarries.session]
    change itemReports (link.ends.decoded ++ _) = _
    rw [itemReports_append]
    congr 1
    split
    · exact List.append_nil _
    · rfl
  · intro sent hsent
    exact hcarries.soundToController sent (hfront ▸ List.mem_cons_of_mem _ hsent)
  · intro ack hack
    rw [Option.mem_def.mp hack] at hstep
    exact hstep

/-- The response to an item, or none, says nothing to the receive line. -/
theorem response_kept (session : PumpSession) (response : Option DartLineFrame) :
    (OutboundLink.readResponse session response).receiveLine = session.receiveLine ∧
      (OutboundLink.readResponse session response).events = session.events := by
  unfold OutboundLink.readResponse
  split
  · exact ⟨rfl, rfl⟩
  · split
    · exact ⟨rfl, rfl⟩
    · split <;> exact ⟨rfl, rfl⟩

namespace Refines

variable {wire : WireLink} {link : DuplexLink}

theorem withSession (hrefines : Refines wire link) {session : PumpSession}
    (hline : session.receiveLine = wire.session.receiveLine)
    (hquiet : PumpSession.Reported [] wire.session session) :
    Refines { wire with session := session }
      { link with ends := { link.ends with session := session } } :=
  ⟨hrefines.toCarries.withSession hline hquiet, hrefines.toPump, hrefines.toController⟩

/-- A written frame is behind the others. -/
theorem writeFrame (hrefines : Refines wire link) {data : List Byte} (hsound : Sound data)
    (hline : DuplexInvariant { link with toPump := link.toPump ++ [data] }) (note : String) :
    ∃ after, Refines (wire.writeFrame data note) after := by
  refine ⟨_, hrefines.toCarries.writeFrame hsound hline note, ?_, hrefines.toController⟩
  have hbytes : (wire.writeFrame data note).toPump.bytes = wire.toPump.bytes ++
      [data].flatMap id := by
    change (wire.toPump.write data).bytes = _
    rw [Pipe.bytes_write, List.flatMap_singleton]
    rfl
  rw [hbytes]
  exact hrefines.toPump.write [data]

theorem poll (hrefines : Refines wire link) (note : String)
    (hclean : ∀ data ∈ (wire.step (.poll note)).written, PassesClean data) :
    ∃ after, Refines (wire.step (.poll note)) after := by
  have hcounted := hrefines.withSession
    (show wire.session.buildPoll.1.receiveLine = wire.session.receiveLine from rfl)
    (reported_buildPoll wire.session)
  unfold WireLink.step at hclean ⊢
  dsimp only at hclean ⊢
  cases hbuilt : wire.session.buildPoll.2 with
  | error error => exact ⟨_, hcounted⟩
  | ok data =>
      rw [hbuilt] at hclean
      have hstep : DuplexInvariant (link.step (.act .poll)) := hrefines.invariant.step trivial
      rw [DuplexLink.step_poll (hrefines.session ▸ hbuilt), hrefines.session] at hstep
      rw [hrefines.invariant.idle.symm] at hstep
      have hsound : Sound data :=
        ⟨⟨.control wire.session.address .POLL 0, hbuilt⟩,
          hclean data (List.mem_append_right _ (List.mem_singleton_self data))⟩
      exact hcounted.writeFrame hsound hstep note

theorem command (hrefines : Refines wire link) (payload : List Byte)
    (hclean : ∀ data ∈ (wire.step (.command payload)).written, PassesClean data) :
    ∃ after, Refines (wire.step (.command payload)) after := by
  unfold WireLink.step at hclean ⊢
  dsimp only at hclean ⊢
  cases hbuilt : buildDataFrame wire.session.address wire.session.state.txSequence payload with
  | error error => exact ⟨link, hrefines⟩
  | ok data =>
      rw [hbuilt] at hclean
      have haddress : link.ends.address = wire.session.address :=
        congrArg PumpSession.address hrefines.session
      have hstep : DuplexInvariant
          (link.step (.act (.command wire.session.state.txSequence payload))) :=
        hrefines.invariant.step trivial
      rw [DuplexLink.step_command (haddress ▸ hbuilt)] at hstep
      rw [DuplexLink.withBus_idle hrefines.invariant.idle] at hstep
      have hsound : Sound data :=
        ⟨⟨.data wire.session.address wire.session.state.txSequence payload, hbuilt⟩,
          hclean data (List.mem_append_right _ (List.mem_singleton_self data))⟩
      exact hrefines.writeFrame hsound hstep "DATA_OUT"

/-- A read that brought a frame which the session does not handle, or none. -/
theorem unheard (hrefines : Refines wire link) {maxBytes : Nat}
    {rest : List (List Byte × Nat)} (hless : rest.Sublist link.toController)
    (hpartway : Partway Prod.fst (wire.readOneFrame maxBytes).2.readLoop.assembler rest
      (wire.readOneFrame maxBytes).2.toController.bytes) :
    Refines (wire.readOneFrame maxBytes).2 { link with toController := rest } := by
  obtain ⟨hinv, hsession, hsimulator, hpopped, hreported, hsound, hsent⟩ :=
    hrefines.toCarries.lose (List.Sublist.refl _) hless
  exact ⟨⟨hinv, hsession, hsimulator, hpopped, hreported, hsound, hsent⟩, hrefines.toPump,
    hpartway⟩

theorem readAnswer (hrefines : Refines wire link) (maxBytes : Nat) (retried : Bool)
    (hclean : ∀ data ∈ (wire.step (.readAnswer maxBytes retried)).written, PassesClean data) :
    ∃ after, Refines (wire.step (.readAnswer maxBytes retried)) after := by
  obtain ⟨rest, hpartway, hread⟩ := hrefines.readOneFrame maxBytes
  unfold WireLink.step at hclean ⊢
  dsimp only at hclean ⊢
  rcases hread with ⟨hnone, hless⟩ | ⟨frame, first, middle, hsome, hparsed, hmiddle, hless⟩
  · rw [hnone]
    exact ⟨_, hrefines.unheard hless hpartway⟩
  rw [hsome] at hclean ⊢
  unfold WireLink.handleAnswer at hclean ⊢
  dsimp only at hclean ⊢
  have hless' : rest.Sublist link.toController :=
    hless.trans ((List.sublist_cons_self _ _).trans hmiddle)
  by_cases haddress : frame.address ≠ (wire.readOneFrame maxBytes).2.session.address
  · -- a frame of another pump is as good as lost
    rw [if_pos haddress]
    have hunheard := hrefines.unheard hless' hpartway
    by_cases hretried : retried = true
    · rw [if_pos hretried]
      exact ⟨_, hunheard⟩
    · rw [if_neg hretried]
      exact ⟨_, hunheard.withSession rfl (reported_of_eq rfl)⟩
  · rw [if_neg haddress] at hclean ⊢
    obtain ⟨hheard, hacked⟩ :=
      (hrefines.toCarries.lose (List.Sublist.refl _) hmiddle).hear rfl hparsed
    obtain ⟨hinv, hsession, hsimulator, hpopped, hreported, hsound, hsent⟩ :=
      hheard.lose (List.Sublist.refl _) hless
    have hsilent : Refines
        { (wire.readOneFrame maxBytes).2 with
          session := (wire.session.handleResponseFrame frame).1 } _ :=
      ⟨⟨hinv, hsession, hsimulator, hpopped, hreported, hsound, hsent⟩, hrefines.toPump,
        hpartway⟩
    cases hack : ((wire.readOneFrame maxBytes).2.session.handleResponseFrame frame).2 with
    | none => exact ⟨_, hsilent⟩
    | some ack =>
        rw [hack] at hclean
        have hline := (hacked ack hack).lose (List.Sublist.refl _) hless
        exact hsilent.writeFrame ⟨built_ack hack, hclean ack
          (List.mem_append_right _ (List.mem_singleton_self ack))⟩ hline "ACK"

theorem readResponse (hrefines : Refines wire link) (maxBytes : Nat) :
    ∃ after, Refines (wire.step (.readResponse maxBytes)) after := by
  obtain ⟨rest, hpartway, hread⟩ := hrefines.readOneFrame maxBytes
  unfold WireLink.step
  dsimp only
  rcases hread with ⟨hnone, hless⟩ | ⟨frame, first, middle, hsome, -, hmiddle, hless⟩
  · rw [hnone]
    exact ⟨_, hrefines.unheard hless hpartway⟩
  · rw [hsome]
    have hunheard := hrefines.unheard
      (hless.trans ((List.sublist_cons_self _ _).trans hmiddle)) hpartway
    obtain ⟨hline, hevents⟩ := response_kept wire.session (some frame)
    exact ⟨_, hunheard.withSession hline (reported_of_eq hevents)⟩

end Refines

/-! ## A frame at the bridge -/

theorem bytes_foldl_write (pipe : Pipe) (responses : List (List Byte)) :
    (responses.foldl Pipe.write pipe).bytes = pipe.bytes ++ responses.flatten := by
  induction responses generalizing pipe with
  | nil => exact (List.append_nil _).symm
  | cons response rest ih =>
      rw [List.foldl_cons, ih, Pipe.bytes_write, List.append_assoc, List.flatten_cons]

/-- A frame that the pump receives leaves the payloads of what left its queue. -/
theorem payloads_deliver (ends : LinkState) (uuid4 : String) (data : List Byte) :
    payloads (ends.deliver uuid4 data).popped = payloads ends.popped ++
      leftQueue (LinkState.pendingOutbound ends.simulator ends.address)
        (LinkState.pendingOutbound
          (finalState (SimulatorSession.receive uuid4 data) ends.simulator) ends.address) := by
  unfold LinkState.deliver payloads
  dsimp only
  rw [List.map_append, List.zipIdx_map_fst]

/-- The frames and the bytes from the bridge. -/
structure Answering (wire : WireLink) (link : DuplexLink) : Prop extends Carries wire link where
  toController : Partway Prod.fst wire.readLoop.assembler link.toController
    wire.toController.bytes

namespace Answering

variable {wire : WireLink} {link : DuplexLink}

/-- The bridge passes the frame in front on to the simulator, or it has ended and loses
the frame. -/
theorem bridgeFrame (hanswering : Answering wire link) {data : List Byte}
    {rest : List (List Byte)} (hfront : link.toPump = data :: rest) (uuid4 : String)
    (hclean : ∀ sent ∈ (wire.bridgeFrame uuid4 data).written, PassesClean sent) :
    ∃ after, Answering (wire.bridgeFrame uuid4 data) after ∧ after.toPump = rest := by
  have hless : rest.Sublist link.toPump := hfront ▸ List.sublist_cons_self _ _
  unfold WireLink.bridgeFrame at hclean ⊢
  by_cases hrunning : wire.bridge.running = true
  · rw [if_pos hrunning] at hclean ⊢
    obtain ⟨pump, hwell, -⟩ := hanswering.invariant.line
    obtain ⟨frame, hparsed, haddress, -⟩ := hanswering.invariant.own data
      (hfront ▸ List.mem_cons_self)
    have hanswer := hwell.responses_built hparsed haddress uuid4
    have hone : (SimulatorSession.responsesOf (returned (SimulatorSession.receive uuid4 data)
        link.ends.simulator)).length ≤ 1 := by
      rcases hanswer with hnone | ⟨response, hresponse, -⟩
      · rw [hnone]
        exact Nat.zero_le 1
      · rw [hresponse]
        exact Nat.le_refl 1
    have hbuilt : ∀ response ∈ SimulatorSession.responsesOf (returned
        (SimulatorSession.receive uuid4 data) link.ends.simulator),
        ∃ sent : OutgoingFrame, sent.build = .ok response := by
      intro response hmem
      rcases hanswer with hnone | ⟨only, honly, hsent⟩
      · rw [hnone] at hmem
        exact absurd hmem List.not_mem_nil
      · rw [honly] at hmem
        rw [List.mem_singleton.mp hmem]
        exact hsent
    have hstep : DuplexInvariant (link.step (.pumpReceives uuid4)) :=
      hanswering.invariant.step trivial
    rw [DuplexLink.step_pumpReceives uuid4 hfront hone] at hstep
    have haddress' : link.ends.address = wire.address :=
      congrArg PumpSession.address hanswering.session
    have hpopped := payloads_deliver link.ends uuid4 data
    unfold SimulatorSerialBridge.handleFrame at hclean ⊢
    dsimp only at hclean ⊢
    rw [← hanswering.simulator] at hclean ⊢
    generalize SimulatorSession.responsesOf (returned (SimulatorSession.receive uuid4 data)
      link.ends.simulator) = responses at *
    refine ⟨_, ⟨⟨hstep, hanswering.session, rfl, ?_, hanswering.reported, ?_, ?_⟩, ?_⟩, rfl⟩
    · refine hpopped.trans ?_
      rw [hanswering.popped, haddress']
    · exact fun sent hsent => hanswering.soundToPump sent (hless.subset hsent)
    · intro sent hsent
      rcases List.mem_append.mp hsent with hold | hnew
      · exact hanswering.soundToController sent hold
      · obtain ⟨response, hresponse, rfl⟩ := List.mem_map.mp hnew
        exact ⟨hbuilt response hresponse, hclean response (List.mem_append_right _ hresponse)⟩
    · have hwritten := hanswering.toController.write (responses.map fun response =>
        (response, (link.ends.deliver uuid4 data).popped.length))
      rw [List.flatMap_map] at hwritten
      change Partway Prod.fst wire.readLoop.assembler _
        (responses.foldl Pipe.write wire.toController).bytes
      rw [bytes_foldl_write, ← List.flatMap_id]
      exact hwritten
  · rw [if_neg hrunning]
    exact ⟨_, ⟨hanswering.toCarries.lose hless (List.Sublist.refl _),
      hanswering.toController⟩, rfl⟩

end Answering

/-! ## What is written stays written -/

namespace WireLink

theorem written_bridgeFrame (wire : WireLink) (uuid4 : String) (raw : List Byte) :
    wire.written <+: (wire.bridgeFrame uuid4 raw).written := by
  unfold bridgeFrame
  split
  · exact List.prefix_append _ _
  · exact List.prefix_refl _

theorem written_bridgeEvents (uuid4s : Nat → String) (wire : WireLink) (index : Nat)
    (events : List AssemblerEvent) :
    wire.written <+: (bridgeEvents uuid4s wire index events).written := by
  induction events generalizing wire index with
  | nil => exact List.prefix_refl _
  | cons event events ih =>
      unfold bridgeEvents
      split
      · exact (wire.written_bridgeFrame _ _).trans (ih _ _)
      · exact ih _ _

theorem written_step (wire : WireLink) (action : WireAction) :
    wire.written <+: (wire.step action).written := by
  unfold step
  cases action with
  | poll note =>
      dsimp only
      split
      · exact List.prefix_append _ _
      · exact List.prefix_refl _
  | command payload =>
      dsimp only
      split
      · exact List.prefix_append _ _
      · exact List.prefix_refl _
  | readAnswer maxBytes retried =>
      dsimp only
      split
      · unfold handleAnswer
        split
        · split <;> exact List.prefix_refl _
        · dsimp only
          split
          · exact List.prefix_append _ _
          · exact List.prefix_refl _
      · exact List.prefix_refl _
  | readResponse maxBytes =>
      dsimp only
      split <;> exact List.prefix_refl _
  | timeout maxConsecutive => exact List.prefix_refl _
  | responseTimeout => exact List.prefix_refl _
  | bridge uuid4s maxBytes stepMs =>
      dsimp only
      split
      · unfold bridgeTurn
        dsimp only
        have hgrown := written_bridgeEvents uuid4s
          { wire with
            toPump := (wire.toPump.read maxBytes).2
            bridge := { wire.bridge with
              assembler := (wire.bridge.assembler.feed (wire.toPump.read maxBytes).1).1 } } 0
          (wire.bridge.assembler.feed (wire.toPump.read maxBytes).1).2
        split <;> exact hgrown
      · exact List.prefix_refl _
  | operate uuid4 operation => exact List.prefix_refl _

end WireLink

/-! ## The events of a read -/

namespace Answering

variable {wire : WireLink} {link : DuplexLink}

/-- The events of a read are the frames that came out and noise. -/
theorem bridgeEvents (uuid4s : Nat → String) {sent rest : List (List Byte)}
    {events : List AssemblerEvent} (hemits : Emits id sent events rest)
    (hanswering : Answering wire link) (hsent : link.toPump = sent) (index : Nat)
    (hclean : ∀ data ∈ (WireLink.bridgeEvents uuid4s wire index events).written,
      PassesClean data) :
    ∃ after, Answering (WireLink.bridgeEvents uuid4s wire index events) after ∧
      after.toPump = rest := by
  induction hemits generalizing wire link index with
  | none sent => exact ⟨link, hanswering, hsent⟩
  | @frame first sent rest events hrest ih =>
      obtain ⟨frame, -, hkind, hframe, hraw⟩ := (hanswering.soundToPump first
        (hsent ▸ List.mem_cons_self)).candidateEvent
      have htaken : (FrameStreamAssembler.candidateEvent (id first)).kind = .FRAME ∧
          (FrameStreamAssembler.candidateEvent (id first)).frame.isSome :=
        ⟨hkind, hframe ▸ rfl⟩
      unfold WireLink.bridgeEvents at hclean ⊢
      rw [if_pos htaken] at hclean ⊢
      change ∀ data ∈ (WireLink.bridgeEvents uuid4s (wire.bridgeFrame (uuid4s index)
        (FrameStreamAssembler.candidateEvent first).raw) (index + 1) events).written,
          PassesClean data at hclean
      change ∃ after, Answering (WireLink.bridgeEvents uuid4s (wire.bridgeFrame (uuid4s index)
        (FrameStreamAssembler.candidateEvent first).raw) (index + 1) events) after ∧ _
      rw [hraw] at hclean ⊢
      obtain ⟨middle, hmiddle, hfront⟩ := hanswering.bridgeFrame hsent (uuid4s index)
        fun data hdata => hclean data
          ((WireLink.written_bridgeEvents uuid4s _ (index + 1) events).subset hdata)
      exact ih hmiddle hfront (index + 1) hclean
  | @lost first sent rest events hrest ih =>
      have hless : sent.Sublist link.toPump := hsent ▸ List.sublist_cons_self _ _
      exact ih ⟨hanswering.toCarries.lose hless (List.Sublist.refl _),
        hanswering.toController⟩ rfl index hclean
  | @noise event sent rest events hevent hrest ih =>
      have hskipped : ¬ (event.kind = .FRAME ∧ event.frame.isSome) := fun h => hevent h.1
      unfold WireLink.bridgeEvents at hclean ⊢
      rw [if_neg hskipped] at hclean ⊢
      exact ih hanswering hsent index hclean

end Answering

/-- The frames touch neither the bytes to the pump nor the assembler. -/
theorem WireLink.bridgeEvents_reading (uuid4s : Nat → String) (wire : WireLink) (index : Nat)
    (events : List AssemblerEvent) :
    (bridgeEvents uuid4s wire index events).toPump = wire.toPump ∧
      (bridgeEvents uuid4s wire index events).bridge.assembler = wire.bridge.assembler := by
  have hframe : ∀ (current : WireLink) (uuid4 : String) (raw : List Byte),
      (current.bridgeFrame uuid4 raw).toPump = current.toPump ∧
        (current.bridgeFrame uuid4 raw).bridge.assembler = current.bridge.assembler := by
    intro current uuid4 raw
    unfold bridgeFrame
    split <;> exact ⟨rfl, rfl⟩
  induction events generalizing wire index with
  | nil => exact ⟨rfl, rfl⟩
  | cons event events ih =>
      unfold bridgeEvents
      split
      · obtain ⟨htoPump, hassembler⟩ := hframe wire (uuid4s index) event.raw
        rw [← htoPump, ← hassembler]
        exact ih _ _
      · exact ih _ _

namespace Refines

variable {wire : WireLink} {link : DuplexLink}

/-- Something changes at the pump that the line does not see. -/
theorem atPump (hrefines : Refines wire link) {ends : LinkState}
    (hinv : DuplexInvariant { link with ends := ends })
    (hsession : ends.session = link.ends.session) (hpopped : ends.popped = link.ends.popped)
    (hdecoded : ends.decoded = link.ends.decoded) {bridge : SimulatorSerialBridge}
    (hsimulator : ends.simulator = bridge.simulator)
    (hassembler : bridge.assembler = wire.bridge.assembler) :
    Refines { wire with bridge := bridge } { link with ends := ends } where
  invariant := hinv
  session := hsession.trans hrefines.session
  simulator := hsimulator
  popped := (congrArg payloads hpopped).trans hrefines.popped
  reported := (congrArg itemReports hdecoded).trans hrefines.reported
  soundToPump := hrefines.soundToPump
  soundToController := hrefines.soundToController
  toPump := by
    rw [hassembler]
    exact hrefines.toPump
  toController := hrefines.toController

theorem operate (hrefines : Refines wire link) (uuid4 : String) (operation : PumpOperation)
    (hkeeps : operation.KeepsDialogue) :
    ∃ after, Refines (wire.step (.operate uuid4 operation)) after := by
  have hstep : DuplexInvariant (link.step (.act (.operate uuid4 operation))) :=
    hrefines.invariant.step hkeeps
  rw [DuplexLink.step_act_silent rfl] at hstep
  refine ⟨_, hrefines.atPump hstep rfl rfl rfl ?_ rfl⟩
  have haddress : link.ends.address = wire.address :=
    congrArg PumpSession.address hrefines.session
  change finalState (SimulatorSession.onPump link.ends.address
    (operation.run ⟨link.ends.simulator.clockMs, uuid4⟩)) link.ends.simulator = _
  rw [haddress, hrefines.simulator]

theorem bridgeTurn (hrefines : Refines wire link) (uuid4s : Nat → String)
    (maxBytes stepMs : Nat)
    (hclean : ∀ data ∈ (wire.bridgeTurn uuid4s maxBytes stepMs).written, PassesClean data) :
    ∃ after, Refines (wire.bridgeTurn uuid4s maxBytes stepMs) after := by
  have hpartway := hrefines.toPump
  rw [← wire.toPump.bytes_read maxBytes] at hpartway
  obtain ⟨rest, hemits, hrest⟩ := hpartway.feed hrefines.soundToPump
  obtain ⟨hinv, hsession, hsimulator, hpopped, hreported, hsound, hsent⟩ := hrefines.toCarries
  have hanswering : Answering
      { wire with
        toPump := (wire.toPump.read maxBytes).2
        bridge := { wire.bridge with
          assembler := (wire.bridge.assembler.feed (wire.toPump.read maxBytes).1).1 } } link :=
    ⟨⟨hinv, hsession, hsimulator, hpopped, hreported, hsound, hsent⟩, hrefines.toController⟩
  unfold WireLink.bridgeTurn at hclean ⊢
  dsimp only at hclean ⊢
  have hwritten : ∀ data ∈ (WireLink.bridgeEvents uuid4s
      { wire with
        toPump := (wire.toPump.read maxBytes).2
        bridge := { wire.bridge with
          assembler := (wire.bridge.assembler.feed (wire.toPump.read maxBytes).1).1 } } 0
      (wire.bridge.assembler.feed (wire.toPump.read maxBytes).1).2).written,
      PassesClean data := by
    intro data hdata
    refine hclean data ?_
    split <;> exact hdata
  obtain ⟨middle, hhandled, hfront⟩ :=
    Answering.bridgeEvents uuid4s hemits hanswering rfl 0 hwritten
  obtain ⟨hreading, hassembler⟩ := WireLink.bridgeEvents_reading uuid4s
    { wire with
      toPump := (wire.toPump.read maxBytes).2
      bridge := { wire.bridge with
        assembler := (wire.bridge.assembler.feed (wire.toPump.read maxBytes).1).1 } } 0
    (wire.bridge.assembler.feed (wire.toPump.read maxBytes).1).2
  generalize WireLink.bridgeEvents uuid4s
    { wire with
      toPump := (wire.toPump.read maxBytes).2
      bridge := { wire.bridge with
        assembler := (wire.bridge.assembler.feed (wire.toPump.read maxBytes).1).1 } } 0
    (wire.bridge.assembler.feed (wire.toPump.read maxBytes).1).2 = handled at *
  have hrefined : Refines handled middle := by
    refine ⟨hhandled.toCarries, ?_, hhandled.toController⟩
    rw [hreading, hassembler, hfront]
    exact hrest
  split
  · -- the time step
    have hstep : DuplexInvariant (middle.step (.act (.advance stepMs))) :=
      hrefined.invariant.step trivial
    rw [DuplexLink.step_act_silent rfl] at hstep
    refine ⟨_, hrefined.atPump hstep rfl rfl rfl ?_ rfl⟩
    exact congrArg (finalState (SimulatorSession.advance stepMs)) hrefined.simulator
  · exact ⟨middle, hrefined⟩

/-- Every step of the bytes is one of the frames. -/
theorem step (hrefines : Refines wire link) {action : WireAction}
    (hkeeps : action.KeepsDialogue)
    (hclean : ∀ data ∈ (wire.step action).written, PassesClean data) :
    ∃ after, Refines (wire.step action) after := by
  cases action with
  | poll note => exact hrefines.poll note hclean
  | command payload => exact hrefines.command payload hclean
  | readAnswer maxBytes retried => exact hrefines.readAnswer maxBytes retried hclean
  | readResponse maxBytes => exact hrefines.readResponse maxBytes
  | timeout maxConsecutive =>
      exact ⟨_, hrefines.withSession (PumpSession.receiveLine_onTimeout _ _)
        (reported_onTimeout _ _)⟩
  | responseTimeout =>
      obtain ⟨hline, hevents⟩ := response_kept wire.session none
      exact ⟨_, hrefines.withSession hline (reported_of_eq hevents)⟩
  | bridge uuid4s maxBytes stepMs =>
      unfold WireLink.step at hclean ⊢
      dsimp only at hclean ⊢
      split
      · rename_i hrunning
        rw [if_pos hrunning] at hclean
        exact hrefines.bridgeTurn uuid4s maxBytes stepMs hclean
      · exact ⟨link, hrefines⟩
  | operate uuid4 operation => exact hrefines.operate uuid4 operation hkeeps

end Refines

/-! ## Whole runs -/

theorem WireLink.written_run (wire : WireLink) (actions : List WireAction) :
    wire.written <+: (wire.run actions).written := by
  induction actions generalizing wire with
  | nil => exact List.prefix_refl _
  | cons action rest ih => exact (wire.written_step action).trans (ih (wire.step action))

theorem refines_start (config : SimulatorConfig) {address : Byte} (pumpId : String)
    (haddress : address ∈ config.pumps.map (·.dartAddress)) :
    Refines (WireLink.start config address pumpId) (DuplexLink.start config address pumpId) where
  invariant := duplexInvariant_start config pumpId haddress
  session := rfl
  simulator := rfl
  popped := rfl
  reported := rfl
  soundToPump := fun _ hsent => absurd hsent List.not_mem_nil
  soundToController := fun _ hsent => absurd hsent List.not_mem_nil
  toPump := .between []
  toController := .between []

theorem Refines.run {wire : WireLink} {link : DuplexLink} (hrefines : Refines wire link)
    {actions : List WireAction} (hkeeps : ∀ action ∈ actions, action.KeepsDialogue)
    (hclean : ∀ data ∈ (wire.run actions).written, PassesClean data) :
    ∃ after, Refines (wire.run actions) after := by
  induction actions generalizing wire link with
  | nil => exact ⟨link, hrefines⟩
  | cons action rest ih =>
      rw [List.forall_mem_cons] at hkeeps
      obtain ⟨middle, hmiddle⟩ := hrefines.step hkeeps.1 fun data hdata =>
        hclean data (((wire.step action).written_run rest).subset hdata)
      exact ih hmiddle hkeeps.2 hclean

/-- Bytes in pieces of any sizes, late answers, reads given up: if no part of a written
DATA frame is taken for a frame, then over any run without restart, IAP or disabled
communication the transactions on the event bus are those of the blocks that the pump
popped, each once and in order, and the last block may be missing. -/
theorem bytes_published_once (config : SimulatorConfig) (address : Byte) (pumpId : String)
    (actions : List WireAction) (haddress : address ∈ config.pumps.map (·.dartAddress))
    (hkeeps : ∀ action ∈ actions, action.KeepsDialogue)
    (hclean : ∀ data ∈ ((WireLink.start config address pumpId).run actions).written,
      3 < data.length → PassesClean data) :
    ∃ behind : List (List Byte), behind.length ≤ 1 ∧
      ((WireLink.start config address pumpId).run actions).popped.flatMap payloadReports =
        reports ((WireLink.start config address pumpId).run actions).session.events ++
          behind.flatMap payloadReports := by
  have hall : ∀ data ∈ ((WireLink.start config address pumpId).run actions).written,
      PassesClean data := by
    intro data hdata
    by_cases hlength : 3 < data.length
    · exact hclean data hdata hlength
    · exact passesClean_of_control (Nat.le_of_not_lt hlength)
  obtain ⟨link, hrefines⟩ := (refines_start config pumpId haddress).run hkeeps hall
  obtain ⟨pump, -, hordered⟩ := hrefines.invariant.line
  obtain ⟨⟨behind, hbehind⟩, hlength⟩ := hordered.delivered_prefix
  have hpopped : link.ends.popped = link.ends.decoded ++ behind := hbehind.symm
  refine ⟨payloads behind, ?_, ?_⟩
  · have htotal := congrArg List.length hpopped
    change link.ends.popped.length ≤ link.ends.decoded.length + 1 at hlength
    rw [List.length_append] at htotal
    unfold payloads
    rw [List.length_map]
    omega
  · rw [← hrefines.popped, ← hrefines.reported, hpopped]
    exact itemReports_append link.ends.decoded behind

/-- The first answer comes too late for its poll, and the reads bring five bytes. -/
def chunkedRun : List WireAction :=
  [.operate "" .coldStartToReady, .poll "POLL", .timeout 3, .poll "POLL_RETRY",
    .bridge (fun _ => "") 2 50, .bridge (fun _ => "") 256 50, .bridge (fun _ => "") 256 50,
    .readAnswer 5 false, .readAnswer 5 false, .readAnswer 5 false, .readAnswer 5 false,
    .readAnswer 5 false, .readAnswer 5 false, .readAnswer 5 false, .poll "POLL",
    .bridge (fun _ => "") 256 50, .bridge (fun _ => "") 256 50, .bridge (fun _ => "") 256 50,
    .readAnswer 256 false, .readAnswer 256 false, .readAnswer 256 true]

theorem bytes_published_once_in_pieces :
    (reports ((WireLink.start {} 0x01 "fp-1").run chunkedRun).session.events).length = 2 ∧
      ∃ behind : List (List Byte), behind.length ≤ 1 ∧
        ((WireLink.start {} 0x01 "fp-1").run chunkedRun).popped.flatMap payloadReports =
          reports ((WireLink.start {} 0x01 "fp-1").run chunkedRun).session.events ++
            behind.flatMap payloadReports :=
  ⟨by decide +kernel, bytes_published_once {} 0x01 "fp-1" chunkedRun (by decide)
    (by decide +kernel) (by decide +kernel)⟩

end Link
end Intelipump
