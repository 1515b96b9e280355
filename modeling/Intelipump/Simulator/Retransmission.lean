import Mathlib.Tactic.Common
import Intelipump.Simulator.Handling
import Intelipump.Simulator.Receive

namespace Intelipump
namespace Simulator

open Dart.Line
open Dart.Application
open Foundation.StateEffect

/-!
# A retransmitted frame

A DATA frame changes a pump when its block is the expected one.  The pump
remembers the block after its last unit: a block that raises before is neither
remembered nor acknowledged, and its first units are handled again when the
controller sends it again.  `all_or_nothing_iff` says for which frames this
cannot happen, in every session that can be reached.
-/

/-- What happens to a session from outside. -/
inductive SessionAction where
  | receive (uuid4 : String) (wire : List Byte)
  | advance (milliseconds : Nat)
  | operate (address : Byte) (uuid4 : String) (operation : PumpOperation)
deriving DecidableEq, Repr

namespace SimulatorSession

def step (session : SimulatorSession) : SessionAction → SimulatorSession
  | .receive uuid4 wire => finalState (receive uuid4 wire) session
  | .advance milliseconds => finalState (advance milliseconds) session
  | .operate address uuid4 operation =>
      finalState (onPump address (operation.run ⟨session.clockMs, uuid4⟩)) session

def run (session : SimulatorSession) (actions : List SessionAction) : SimulatorSession :=
  actions.foldl step session

/-- The bytes of a DATA frame. -/
def IsData (wire : List Byte) : Prop :=
  ∃ frame, parseFrame wire = .ok frame ∧ frame.controlType = .DATA

/-- A response is an ACK. -/
def Acknowledged (responses : List (List Byte)) : Prop :=
  ∃ response ∈ responses, ∃ frame, parseFrame response = .ok frame ∧
    frame.controlType = .ACK

/-- Every pump is as it was. -/
def SamePumps (before after : SimulatorSession) : Prop :=
  ∀ address, after.getPump address = before.getPump address

/-- A frame is received in full or not at all. -/
structure AllOrNothing (session : SimulatorSession) (uuid4 : String) (wire : List Byte) :
    Prop where
  returns : Returns (receive uuid4 wire) session
  unchanged : IsData wire →
    ¬ Acknowledged (responsesOf (returned (receive uuid4 wire) session)) →
      SamePumps session (finalState (receive uuid4 wire) session)
  once : IsData wire → ∀ again : String,
    SamePumps (finalState (receive uuid4 wire) session)
      (finalState (receive again wire) (finalState (receive uuid4 wire) session))

/-- The frame carries the block that the pump waits for. -/
def Expects (pump : SimulatedPump) (frame : DartLineFrame) : Prop :=
  frame.crcValid ≠ some false ∧
    pump.lastAcceptedControllerSequence ≠ some frame.sequence ∧
    frame.sequence = pump.expectedControllerSequence

/-- When the frame is handed to its pump, the pump can handle every unit of it. -/
def CanHandleFrame (session : SimulatorSession) (uuid4 : String) (wire : List Byte) :
    Prop :=
  ∀ frame pump, parseFrame wire = .ok frame →
    session.getPump frame.address = some pump → pump.communicationEnabled = true →
      frame.controlType = .DATA → Expects pump frame →
        CanHandleAll ⟨session.clockMs, uuid4⟩ pump frame.payload

/-! ## When a frame returns -/

theorem returns_onPump_iff {α : Type} {session : SimulatorSession} {address : Byte}
    {pump : SimulatedPump} (hpump : session.getPump address = some pump)
    (action : PumpM α) :
    Returns (onPump address action) session ↔ Returns action pump := by
  unfold Returns
  rw [(onPump_spec hpump action).2]

theorem returns_handleOnPump_iff {session : SimulatorSession} {address : Byte}
    {pump : SimulatedPump} (hpump : session.getPump address = some pump)
    (action : PumpM FrameExchangeResult) :
    Returns (handleOnPump address action) session ↔ Returns action pump := by
  refine (returns_bind_iff_left fun _ => ?_).trans (returns_onPump_iff hpump action)
  exact rfl

/-- A frame that nobody hears is noted. -/
theorem returns_receive_of_unheard {session : SimulatorSession} {wire : List Byte}
    (hunheard : session.Unheard wire) (uuid4 : String) :
    Returns (receive uuid4 wire) session := by
  unfold receive
  rw [returns_get_bind]
  cases hparsed : parseFrame wire with
  | error parsed => exact rfl
  | ok frame =>
      dsimp only
      cases hpump : session.getPump frame.address with
      | none => exact rfl
      | some pump =>
          dsimp only
          rw [if_pos (hunheard frame pump hparsed hpump)]
          exact rfl

/-- A frame that is heard returns when its pump does. -/
theorem returns_receive_iff {session : SimulatorSession} {wire : List Byte}
    {frame : DartLineFrame} {pump : SimulatedPump}
    (hparsed : parseFrame wire = .ok frame)
    (hpump : session.getPump frame.address = some pump)
    (henabled : pump.communicationEnabled = true) (uuid4 : String) :
    Returns (receive uuid4 wire) session ↔
      Returns (pumpAnswer ⟨session.clockMs, uuid4⟩ session.config.sequencePolicy frame)
        pump := by
  have hdispatch : Returns (receive uuid4 wire) session ↔
      Returns (dispatch uuid4 frame) session := by
    unfold receive
    rw [returns_get_bind, hparsed]
    dsimp only
    rw [hpump]
    dsimp only
    rw [if_neg (by rw [henabled]; exact Bool.noConfusion)]
  rw [hdispatch]
  unfold dispatch pumpAnswer
  rw [returns_get_bind]
  cases frame.controlType with
  | POLL => exact returns_handleOnPump_iff hpump _
  | DATA => exact returns_handleOnPump_iff hpump _
  | ACK => exact returns_handleOnPump_iff hpump _
  | IAP =>
      refine (returns_bind_iff_left fun _ => ?_).trans (returns_onPump_iff hpump _)
      exact rfl
  | _ => exact iff_of_true rfl rfl

/-- A payload in the queue that fits a frame. -/
def ShortQueue (pump : SimulatedPump) : Prop :=
  ∀ item ∈ pump.pendingOutbound, item.payload.length ≤ 18

theorem returns_onPoll {pump : SimulatedPump} (hshort : ShortQueue pump) (now : Nat) :
    Returns (onPoll now) pump := by
  have hqueue : Returns (answerFromQueue now) pump := by
    unfold answerFromQueue
    rw [returns_get_bind]
    split
    · rw [returns_bind_pure_iff, returns_fromExcept_iff]
      exact ⟨_, buildEot_eq_ok _ _⟩
    · rename_i item rest hpending
      have hitem : item.payload.length + 5 ≤ MAX_BUFFER_SIZE := by
        have hlength := hshort item (hpending ▸ List.mem_cons_self ..)
        have hlimit : 18 + 5 ≤ MAX_BUFFER_SIZE := by decide
        omega
      unfold sendBlock
      rw [returns_modify_bind, returns_get_bind]
      refine (returns_bind_iff_left fun _ => ?_).mpr ?_
      · exact rfl
      · exact (returns_fromExcept_iff _ _).mpr ⟨_, buildDataFrame_eq_ok _ _ hitem⟩
  unfold onPoll
  rw [returns_get_bind]
  split
  · exact rfl
  · exact hqueue

theorem returns_onAck (now : Nat) (policy : SequencePolicy) (frame : DartLineFrame)
    (pump : SimulatedPump) : Returns (onAck now policy frame) pump := by
  unfold onAck
  rw [returns_get_bind]
  split
  · exact rfl
  · split <;> exact rfl

/-- A DATA frame raises only in the units of the expected block. -/
theorem returns_onData_iff (env : PumpEnv) (policy : SequencePolicy)
    (frame : DartLineFrame) (pump : SimulatedPump) :
    Returns (onData env policy frame) pump ↔
      (Expects pump frame → CanHandleAll env pump frame.payload) := by
  unfold onData
  rw [returns_get_bind]
  by_cases hcrc : frame.crcValid = some false
  · rw [if_pos hcrc]
    exact iff_of_true rfl fun h => absurd hcrc h.1
  rw [if_neg hcrc]
  by_cases hduplicate : pump.lastAcceptedControllerSequence = some frame.sequence
  · rw [if_pos hduplicate, returns_bind_pure_iff, returns_fromExcept_iff]
    exact iff_of_true ⟨_, buildAck_eq_ok _ _⟩ fun h => absurd hduplicate h.2.1
  rw [if_neg hduplicate]
  by_cases hsequence : frame.sequence = pump.expectedControllerSequence
  · rw [if_neg (not_not.mpr hsequence), returns_bind_iff (P := True), and_true,
      returns_handleApplicationPayload_iff]
    · exact ⟨fun h _ => h, fun h => h ⟨hcrc, hduplicate, hsequence⟩⟩
    · intro _ _
      rw [returns_modify_bind, returns_bind_pure_iff, returns_fromExcept_iff]
      exact iff_of_true ⟨_, buildAck_eq_ok _ _⟩ trivial
  · rw [if_pos hsequence, returns_bind_pure_iff, returns_fromExcept_iff]
    exact iff_of_true ⟨_, buildNak_eq_ok _ _⟩ fun h => absurd h.2.2 hsequence

/-! ## What holds of every pump of a session -/

/-- A property of all pumps. -/
def AllPumps (P : SimulatedPump → Prop) (session : SimulatorSession) : Prop :=
  ∀ address pump, session.getPump address = some pump → P pump

section

variable {P : SimulatedPump → Prop} {session : SimulatorSession}

theorem allPumps_create (hnew : ∀ config, P (SimulatedPump.create config))
    (config : SimulatorConfig) : AllPumps P (create config) := by
  intro address pump hpump
  change (config.pumps.foldl addPump []).lookup address = some pump at hpump
  generalize config.pumps = configs at hpump
  induction configs using List.reverseRecOn with
  | nil => cases hpump
  | append_singleton configs last ih =>
      rw [List.foldl_append, List.foldl_cons, List.foldl_nil, lookup_addPump] at hpump
      split at hpump
      · exact Option.some.inj hpump ▸ hnew last
      · exact ih hpump

theorem AllPumps.updated (hall : AllPumps P session) {after : SimulatorSession}
    {address : Byte} {pump : SimulatedPump} (hpump : P pump)
    (hafter : ∀ other, after.getPump other = session.updatedPumps address pump other) :
    AllPumps P after := by
  intro other found hfound
  rw [hafter, updatedPumps] at hfound
  split at hfound
  · exact Option.some.inj hfound ▸ hpump
  · exact hall other found hfound

theorem AllPumps.onPump (hall : AllPumps P session) {α : Type} {action : PumpM α}
    (haction : ∀ pump, P pump → P (finalState action pump)) (address : Byte) :
    AllPumps P (finalState (onPump address action) session) := by
  cases hpump : session.getPump address with
  | none =>
      have hsame : finalState (SimulatorSession.onPump address action) session = session := by
        unfold finalState SimulatorSession.onPump
        rw [hpump]
      rw [hsame]
      exact hall
  | some pump =>
      rw [(onPump_spec hpump action).1]
      exact hall.updated (haction pump (hall address pump hpump))
        fun other => getPump_setPump session hpump _ other

theorem AllPumps.checkResponseTimeout (hall : AllPumps P session)
    (hwaits : ∀ pump since, P pump → P { pump with dataPendingSinceMs := since })
    (address : Byte) : AllPumps P (session.checkResponseTimeout address) := by
  unfold SimulatorSession.checkResponseTimeout
  cases hpump : session.getPump address with
  | none => exact hall
  | some pump =>
      dsimp only
      split
      · split
        · exact hall.updated (hwaits pump _ (hall address pump hpump))
            fun other => getPump_setPump session hpump _ other
        · exact hall
      · exact hall

theorem AllPumps.advance (hall : AllPumps P session)
    (hfills : ∀ env pump, P pump → P (finalState (SimulatedPump.onTimeAdvance env) pump))
    (hwaits : ∀ pump since, P pump → P { pump with dataPendingSinceMs := since })
    (milliseconds : Nat) :
    AllPumps P (finalState (SimulatorSession.advance milliseconds) session) := by
  have hpumps : ∀ (env : PumpEnv) (addresses : List Byte) (current : SimulatorSession),
      AllPumps P current → AllPumps P (finalState (advancePumps env addresses) current) := by
    intro env addresses
    induction addresses with
    | nil => exact fun current hcurrent => hcurrent
    | cons address rest ih =>
        intro current hcurrent
        have hfilled := hcurrent.onPump (hfills env) address
        unfold advancePumps
        rw [finalState_bind]
        -- a filling engine that raises ends the loop
        cases returned (SimulatorSession.onPump address (SimulatedPump.onTimeAdvance env))
          current with
        | none => exact hfilled
        | some _ =>
            dsimp only
            rw [finalState_modify_bind]
            exact ih _ (hfilled.checkResponseTimeout hwaits address)
  unfold SimulatorSession.advance
  rw [finalState_modify_bind, finalState_get_bind]
  exact hpumps _ _ _ hall

theorem AllPumps.receive (hall : AllPumps P session)
    (hanswers : ∀ env policy frame pump, P pump →
      P (finalState (pumpAnswer env policy frame) pump))
    (uuid4 : String) (wire : List Byte) :
    AllPumps P (finalState (SimulatorSession.receive uuid4 wire) session) := by
  by_cases hunheard : session.Unheard wire
  · intro address pump hpump
    rw [(receive_silent hunheard uuid4).getPump] at hpump
    exact hall address pump hpump
  · obtain ⟨frame, pump, hparsed, hpump, henabled⟩ := heard_of_not_unheard hunheard
    exact hall.updated (hanswers _ _ _ pump (hall _ pump hpump))
      (receive_spec hparsed hpump henabled uuid4).getPump

end

/-! ## The queue stays short -/

theorem ShortQueue.of_lineKept {before after : SimulatedPump} (hshort : ShortQueue before)
    (hkept : LineKept before after) : ShortQueue after := by
  obtain ⟨added, hadded, hlengths⟩ := hkept.pendingOutbound
  intro item hitem
  rw [hadded, List.mem_append] at hitem
  rcases hitem with hold | hnew
  · exact hshort item hold
  · exact hlengths item hnew

theorem ShortQueue.onPoll {pump : SimulatedPump} (hshort : ShortQueue pump) (now : Nat) :
    ShortQueue (finalState (onPoll now) pump) := by
  cases hrepeated : repeatedBlock pump with
  | some wire =>
      rw [(onPoll_repeat hrepeated now).1]
      exact hshort
  | none =>
      have heq : finalState (SimulatorSession.onPoll now) pump =
          finalState (answerFromQueue now) pump := by
        unfold finalState
        rw [onPoll_of_idle hrepeated]
      rw [heq]
      cases hpending : pump.pendingOutbound with
      | nil =>
          rw [(answerFromQueue_nil hpending now).1]
          exact hshort
      | cons item rest =>
          have hrest : ∀ later ∈ rest, later.payload.length ≤ 18 := fun later hlater =>
            hshort later (hpending ▸ List.mem_cons_of_mem item hlater)
          have hanswer := answerFromQueue_cons hpending now
          split at hanswer
          · rw [hanswer.1]
            exact hrest
          · rw [hanswer.1]
            exact hrest

theorem ShortQueue.pumpAnswer {pump : SimulatedPump} (hshort : ShortQueue pump)
    (env : PumpEnv) (policy : SequencePolicy) (frame : DartLineFrame) :
    ShortQueue (finalState (pumpAnswer env policy frame) pump) := by
  unfold SimulatorSession.pumpAnswer
  cases frame.controlType with
  | POLL => exact hshort.onPoll env.now
  | DATA => exact hshort.of_lineKept (keeps_onData env policy frame pump)
  | ACK =>
      dsimp only
      rw [(onAck_spec pump env.now policy frame).1]
      split
      · exact hshort
      · exact hshort
  | _ => exact hshort

theorem ShortQueue.operate {pump : SimulatedPump} (hshort : ShortQueue pump)
    (env : PumpEnv) (operation : PumpOperation) :
    ShortQueue (finalState (operation.run env) pump) := by
  by_cases hkeeps : operation.KeepsDialogue
  · exact hshort.of_lineKept (PumpOperation.keeps_run env hkeeps pump)
  · cases operation with
    | disableCommunication => exact fun _ h => absurd h List.not_mem_nil
    | restartPump preserveTotals =>
        intro item hitem
        change item ∈ (pump.restartPump preserveTotals).pendingOutbound at hitem
        rw [(restartPump_line pump preserveTotals).2.2.2] at hitem
        cases hitem
    | _ => exact absurd trivial hkeeps

/-- No step makes a queue long. -/
theorem shortQueues_step {session : SimulatorSession}
    (hshort : AllPumps ShortQueue session) (action : SessionAction) :
    AllPumps ShortQueue (session.step action) := by
  cases action with
  | receive uuid4 wire =>
      exact hshort.receive (fun env policy frame _ h => h.pumpAnswer env policy frame)
        uuid4 wire
  | advance milliseconds =>
      exact hshort.advance
        (fun env _ h => h.of_lineKept (SimulatedPump.keeps_onTimeAdvance env _))
        (fun _ _ h => h) milliseconds
  | operate address uuid4 operation =>
      exact hshort.onPump (fun _ h => h.operate _ operation) address

theorem shortQueues_run (config : SimulatorConfig) (actions : List SessionAction) :
    AllPumps ShortQueue ((create config).run actions) := by
  have hstart : AllPumps ShortQueue (create config) :=
    allPumps_create (fun _ _ h => absurd h List.not_mem_nil) config
  unfold run
  induction actions using List.reverseRecOn with
  | nil => exact hstart
  | append_singleton actions last ih =>
      rw [List.foldl_append]
      exact shortQueues_step ih last

/-! ## All or nothing -/

section

variable {session : SimulatorSession} {wire : List Byte} {frame : DartLineFrame}

/-- Every frame but a DATA frame of the expected block returns, in whatever state. -/
theorem returns_receive_iff_canHandle (hshort : AllPumps ShortQueue session)
    (uuid4 : String) :
    Returns (receive uuid4 wire) session ↔ CanHandleFrame session uuid4 wire := by
  by_cases hunheard : session.Unheard wire
  · refine iff_of_true (returns_receive_of_unheard hunheard uuid4) ?_
    intro frame pump hparsed hpump henabled
    rw [hunheard frame pump hparsed hpump] at henabled
    cases henabled
  · obtain ⟨frame, pump, hparsed, hpump, henabled⟩ := heard_of_not_unheard hunheard
    -- the frame and the pump are the only ones of this wire
    have hframe : CanHandleFrame session uuid4 wire ↔ (frame.controlType = .DATA →
        Expects pump frame → CanHandleAll ⟨session.clockMs, uuid4⟩ pump frame.payload) := by
      constructor
      · intro h
        exact h frame pump hparsed hpump henabled
      · intro h other found hother hfound _
        obtain rfl := Except.ok.inj (hparsed.symm.trans hother)
        obtain rfl := Option.some.inj (hpump.symm.trans hfound)
        exact h
    rw [returns_receive_iff hparsed hpump henabled, hframe]
    unfold pumpAnswer
    cases hcontrol : frame.controlType with
    | DATA =>
        dsimp only
        rw [returns_onData_iff]
        exact ⟨fun h _ => h, fun h => h rfl⟩
    | POLL =>
        exact iff_of_true (returns_onPoll (hshort _ pump hpump) _)
          fun h => ControlType.noConfusion h
    | ACK => exact iff_of_true (returns_onAck _ _ _ _) fun h => ControlType.noConfusion h
    | _ => exact iff_of_true rfl fun h => ControlType.noConfusion h

/-- A DATA frame whose block is not expected changes nothing. -/
theorem onData_of_not_expects {pump : SimulatedPump} (hother : ¬ Expects pump frame)
    (env : PumpEnv) (policy : SequencePolicy) :
    finalState (onData env policy frame) pump = pump := by
  by_cases hcrc : frame.crcValid = some false
  · exact (onData_corrupt env policy hcrc).1
  · by_cases hduplicate : pump.lastAcceptedControllerSequence = some frame.sequence
    · exact (onData_duplicate env policy hcrc hduplicate).1
    · exact (onData_unexpected env policy hcrc hduplicate
        fun hsequence => hother ⟨hcrc, hduplicate, hsequence⟩).1

/-- A DATA frame changes nothing when no pump that listens expects its block. -/
theorem samePumps_receive (hparsed : parseFrame wire = .ok frame)
    (hdata : frame.controlType = .DATA)
    (hother : ∀ pump, session.getPump frame.address = some pump →
      pump.communicationEnabled = true → ¬ Expects pump frame) (uuid4 : String) :
    SamePumps session (finalState (receive uuid4 wire) session) := by
  by_cases hunheard : session.Unheard wire
  · exact (receive_silent hunheard uuid4).getPump
  · obtain ⟨found, pump, hfound, hpump, henabled⟩ := heard_of_not_unheard hunheard
    obtain rfl := Except.ok.inj (hparsed.symm.trans hfound)
    have hunchanged : finalState (pumpAnswer ⟨session.clockMs, uuid4⟩
        session.config.sequencePolicy frame) pump = pump := by
      unfold pumpAnswer
      rw [hdata]
      exact onData_of_not_expects (hother pump hpump henabled) _ _
    intro address
    rw [(receive_spec hparsed hpump henabled uuid4).getPump, hunchanged, updatedPumps]
    split
    · rename_i haddress
      rw [haddress, hpump]
    · rfl

/-- A block that was handled to its end is acknowledged, and its pump remembers it. -/
theorem receive_handled (hparsed : parseFrame wire = .ok frame)
    (hdata : frame.controlType = .DATA) {pump : SimulatedPump}
    (hpump : session.getPump frame.address = some pump)
    (henabled : pump.communicationEnabled = true) (hexpects : Expects pump frame)
    {uuid4 : String} (hreturns : Returns (receive uuid4 wire) session) :
    Acknowledged (responsesOf (returned (receive uuid4 wire) session)) ∧
      ∃ after, (finalState (receive uuid4 wire) session).getPump frame.address =
          some after ∧
        after.lastAcceptedControllerSequence = some frame.sequence := by
  have hanswers := receive_spec hparsed hpump henabled uuid4
  have hpayload : Returns (SimulatedPump.handleApplicationPayload
      ⟨session.clockMs, uuid4⟩ frame.payload) pump := by
    rw [returns_receive_iff hparsed hpump henabled] at hreturns
    unfold pumpAnswer at hreturns
    rw [hdata] at hreturns
    exact (returns_handleApplicationPayload_iff _ _ _).mpr
      ((returns_onData_iff _ _ _ _).mp hreturns hexpects)
  obtain ⟨faults, hfaults⟩ := hpayload.exists
  have hdone := onData_expected ⟨session.clockMs, uuid4⟩ session.config.sequencePolicy
    hexpects.1 hexpects.2.1 hexpects.2.2
  rw [hfaults] at hdone
  unfold pumpAnswer at hanswers
  rw [hdata] at hanswers
  constructor
  · rw [hanswers.responses]
    exact ⟨_, hdone.2 ▸ List.mem_singleton_self _, _, parseFrame_ackWire _ _, rfl⟩
  · refine ⟨_, (hanswers.getPump frame.address).trans (if_pos rfl), ?_⟩
    dsimp only
    rw [hdone.1]
    rfl

end

/-- In every session that can be reached, a frame is received in full or not at all
exactly when its pump can handle every unit of a block that it hands over. -/
theorem all_or_nothing_iff (config : SimulatorConfig) (actions : List SessionAction)
    (uuid4 : String) (wire : List Byte) :
    AllOrNothing ((create config).run actions) uuid4 wire ↔
      CanHandleFrame ((create config).run actions) uuid4 wire := by
  have hshort := shortQueues_run config actions
  generalize (create config).run actions = session at *
  rw [← returns_receive_iff_canHandle hshort uuid4]
  refine ⟨fun h => h.returns, fun hreturns => ⟨hreturns, ?_, ?_⟩⟩
  · rintro ⟨frame, hparsed, hdata⟩ hsilent
    -- an expected block would have been acknowledged
    refine samePumps_receive hparsed hdata (fun pump hpump henabled hexpects => ?_) uuid4
    exact hsilent (receive_handled hparsed hdata hpump henabled hexpects hreturns).1
  · rintro ⟨frame, hparsed, hdata⟩ again
    by_cases hother : ∀ pump, session.getPump frame.address = some pump →
        pump.communicationEnabled = true → ¬ Expects pump frame
    · have hsame := samePumps_receive hparsed hdata hother uuid4
      refine samePumps_receive hparsed hdata (fun pump hpump => ?_) again
      rw [hsame] at hpump
      exact hother pump hpump
    · push Not at hother
      obtain ⟨pump, hpump, henabled, hexpects⟩ := hother
      obtain ⟨-, after, hafter, haccepted⟩ :=
        receive_handled hparsed hdata hpump henabled hexpects hreturns
      -- the pump knows the block by its number
      refine samePumps_receive hparsed hdata (fun found hfound _ hexpected => ?_) again
      obtain rfl := Option.some.inj (hafter.symm.trans hfound)
      exact hexpected.2.1 haccepted

/-- A new price and a preset that is no BCD in one block: the price is set, the frame
raises, and nothing is acknowledged. -/
theorem not_all_or_nothing_bad_preset :
    (((create {}).run [.operate 0x01 "" .coldStartToReady]).getPump 0x01).map (·.pricesRaw) =
        some [(1, 1175), (2, 1175)] ∧
      ((finalState (receive "" [0x01, 0x30, 0x05, 0x03, 0x00, 0x12, 0x34, 0x03, 0x04, 0xFF,
          0xFF, 0xFF, 0xFF, 0xA6, 0x73, 0x03, 0xFA])
        ((create {}).run [.operate 0x01 "" .coldStartToReady])).getPump 0x01).map
          (·.pricesRaw) = some [(1, 1234), (2, 1175)] ∧
      ¬ AllOrNothing ((create {}).run [.operate 0x01 "" .coldStartToReady]) ""
        [0x01, 0x30, 0x05, 0x03, 0x00, 0x12, 0x34, 0x03, 0x04, 0xFF, 0xFF, 0xFF, 0xFF, 0xA6,
          0x73, 0x03, 0xFA] := by
  refine ⟨by decide +kernel, by decide +kernel, fun hframe => ?_⟩
  exact absurd hframe.returns (by decide +kernel)

end SimulatorSession
end Simulator
end Intelipump
