import Mathlib.Tactic.Common
import Intelipump.Simulator.Session

namespace Intelipump
namespace Simulator

open Domain
open Dart.Line
open Foundation.StateEffect

/-!
# A session answers for its pumps

A frame reaches at most the pump at its address.  `pumpAnswer` is what that
pump makes of the frame; `receive_spec` says that the session does exactly
this to exactly this pump, and `receive_silent` that every other frame is lost
on the session.
-/

namespace SimulatorSession

theorem lookup_map_replace (pumps : List (Byte × SimulatedPump)) (address other : Byte)
    (pump : SimulatedPump) :
    (pumps.map fun entry => if entry.1 = address then (entry.1, pump) else entry).lookup
        other =
      if other = address then (pumps.lookup address).map fun _ => pump
      else pumps.lookup other := by
  induction pumps with
  | nil => split <;> rfl
  | cons entry rest ih =>
      obtain ⟨key, kept⟩ := entry
      rw [List.map_cons]
      by_cases hkey : key = address
      · subst hkey
        rw [if_pos rfl, List.lookup_cons, List.lookup_cons, List.lookup_cons, ih]
        by_cases hother : other = key
        · subst hother
          simp
        · have hne : (other == key) = false := beq_false_of_ne hother
          simp [hother, hne]
      · rw [if_neg hkey, List.lookup_cons, List.lookup_cons, List.lookup_cons, ih]
        by_cases hother : other = address
        · subst hother
          have hne : (other == key) = false := beq_false_of_ne (Ne.symm hkey)
          simp [hne]
        · simp [hother]

/-- A configured pump is found at its address. -/
theorem lookup_addPump (pumps : List (Byte × SimulatedPump)) (config : PumpConfig)
    (address : Byte) :
    (addPump pumps config).lookup address =
      if address = config.dartAddress then some (SimulatedPump.create config)
      else pumps.lookup address := by
  unfold addPump
  dsimp only
  split
  · rename_i hknown
    rw [lookup_map_replace]
    obtain ⟨old, hold⟩ := Option.isSome_iff_exists.mp hknown
    rw [hold]
    rfl
  · rename_i hnew
    have hnone : pumps.lookup config.dartAddress = none :=
      Option.not_isSome_iff_eq_none.mp hnew
    rw [List.lookup_append]
    by_cases haddress : address = config.dartAddress
    · subst haddress
      rw [hnone, if_pos rfl]
      simp
    · have hne : (address == config.dartAddress) = false := beq_false_of_ne haddress
      rw [if_neg haddress, List.lookup_cons, hne]
      simp

/-- Writing a pump back is seen at its address only. -/
theorem getPump_setPump (session : SimulatorSession) {address : Byte}
    {old : SimulatedPump} (hold : session.getPump address = some old)
    (pump : SimulatedPump) (other : Byte) :
    (session.setPump address pump).getPump other =
      if other = address then some pump else session.getPump other := by
  unfold getPump setPump at *
  rw [lookup_map_replace, hold]
  rfl

/-- What a pump makes of a frame addressed to it. -/
def pumpAnswer (env : PumpEnv) (policy : SequencePolicy) (frame : DartLineFrame) :
    PumpM FrameExchangeResult :=
  match frame.controlType with
  | .POLL => onPoll env.now
  | .DATA => onData env policy frame
  | .ACK => onAck env.now policy frame
  | .IAP => do
      modify (·.resetProtocolSequences)
      return {}
  | _ => return {}

/-- The responses of an exchange, when it did not raise. -/
def responsesOf (result : Option FrameExchangeResult) : List (List Byte) :=
  (result.map (·.responses)).getD []

/-- An action on one pump. -/
theorem onPump_spec {α : Type} {session : SimulatorSession} {address : Byte}
    {pump : SimulatedPump} (hpump : session.getPump address = some pump)
    (action : PumpM α) :
    finalState (onPump address action) session =
        session.setPump address (finalState action pump) ∧
      returned (onPump address action) session = returned action pump := by
  unfold finalState returned onPump
  rw [hpump]
  dsimp only
  cases action pump <;> exact ⟨rfl, rfl⟩

/-- Frames that meet no pump that is there and listens. -/
def Unheard (session : SimulatorSession) (wire : List Byte) : Prop :=
  ∀ frame pump, parseFrame wire = .ok frame →
    session.getPump frame.address = some pump → pump.communicationEnabled = false

/-- A frame that is not unheard meets a pump that is there and listens. -/
theorem heard_of_not_unheard {session : SimulatorSession} {wire : List Byte}
    (hheard : ¬ session.Unheard wire) :
    ∃ frame pump, parseFrame wire = .ok frame ∧
      session.getPump frame.address = some pump ∧ pump.communicationEnabled = true := by
  unfold Unheard at hheard
  push Not at hheard
  obtain ⟨frame, pump, hparsed, hpump, henabled⟩ := hheard
  exact ⟨frame, pump, hparsed, hpump, Bool.eq_true_of_not_eq_false henabled⟩

/-- Whether a frame is heard depends on the pump it is addressed to. -/
theorem unheard_iff {session : SimulatorSession} {wire : List Byte} {frame : DartLineFrame}
    (hparsed : parseFrame wire = .ok frame) :
    session.Unheard wire ↔ ¬ ∃ pump, session.getPump frame.address = some pump ∧
      pump.communicationEnabled = true := by
  constructor
  · rintro hunheard ⟨pump, hpump, henabled⟩
    rw [hunheard frame pump hparsed hpump] at henabled
    cases henabled
  · intro hnobody other pump hother hpump
    obtain rfl := Except.ok.inj (hparsed.symm.trans hother)
    exact Bool.eq_false_iff.mpr fun henabled => hnobody ⟨pump, hpump, henabled⟩

/-- What a session shows of its pumps after an action. -/
structure Answers (session after : SimulatorSession)
    (result : Option FrameExchangeResult) (pumps : Byte → Option SimulatedPump)
    (responses : List (List Byte)) : Prop where
  getPump : ∀ address, after.getPump address = pumps address
  responses : responsesOf result = responses
  config : after.config = session.config
  clockMs : after.clockMs = session.clockMs

theorem answers_answerNothing (session : SimulatorSession) (note : String) :
    Answers session (finalState (answerNothing note) session)
      (returned (answerNothing note) session) session.getPump [] :=
  ⟨fun _ => rfl, rfl, rfl, rfl⟩

theorem answers_refuse (session : SimulatorSession) (fault : ProtocolFault) :
    Answers session (finalState (refuse fault) session)
      (returned (refuse fault) session) session.getPump [] :=
  ⟨fun _ => rfl, rfl, rfl, rfl⟩

/-- A frame that nobody hears changes no pump and gets no response. -/
theorem receive_silent {session : SimulatorSession} {wire : List Byte}
    (hunheard : session.Unheard wire) (uuid4 : String) :
    Answers session (finalState (receive uuid4 wire) session)
      (returned (receive uuid4 wire) session) session.getPump [] := by
  have hget : ∀ action : SimulatorSession → SessionM FrameExchangeResult,
      finalState (get >>= action) session = finalState (action session) session ∧
        returned (get >>= action) session = returned (action session) session :=
    fun action => ⟨finalState_bind _ _ _, returned_bind _ _ _⟩
  unfold receive
  rw [(hget _).1, (hget _).2]
  cases hparsed : parseFrame wire with
  | error parsed => exact answers_refuse session _
  | ok frame =>
      dsimp only
      cases hpump : session.getPump frame.address with
      | none => exact answers_refuse session _
      | some pump =>
          dsimp only
          rw [if_pos (hunheard frame pump hparsed hpump)]
          exact answers_answerNothing session _

/-- The pumps after one of them changed. -/
def updatedPumps (session : SimulatorSession) (address : Byte) (pump : SimulatedPump) :
    Byte → Option SimulatedPump := fun other =>
  if other = address then some pump else session.getPump other

theorem answers_handleOnPump {session : SimulatorSession} {address : Byte}
    {pump : SimulatedPump} (hpump : session.getPump address = some pump)
    (action : PumpM FrameExchangeResult) :
    Answers session (finalState (handleOnPump address action) session)
      (returned (handleOnPump address action) session)
      (session.updatedPumps address (finalState action pump))
      (responsesOf (returned action pump)) := by
  obtain ⟨hfinal, hreturned⟩ := onPump_spec hpump action
  unfold handleOnPump
  rw [finalState_bind, returned_bind, hfinal, hreturned]
  cases returned action pump with
  | none =>
      exact ⟨fun other => getPump_setPump session hpump _ other, rfl, rfl, rfl⟩
  | some result =>
      exact ⟨fun other => getPump_setPump session hpump _ other, rfl, rfl, rfl⟩

/-- A frame for a pump that listens: the session does to this pump what the
pump makes of the frame, and nothing else. -/
theorem receive_spec {session : SimulatorSession} {wire : List Byte}
    {frame : DartLineFrame} {pump : SimulatedPump}
    (hparsed : parseFrame wire = .ok frame)
    (hpump : session.getPump frame.address = some pump)
    (henabled : pump.communicationEnabled = true) (uuid4 : String) :
    Answers session (finalState (receive uuid4 wire) session)
      (returned (receive uuid4 wire) session)
      (session.updatedPumps frame.address
        (finalState (pumpAnswer ⟨session.clockMs, uuid4⟩ session.config.sequencePolicy
          frame) pump))
      (responsesOf (returned (pumpAnswer ⟨session.clockMs, uuid4⟩
        session.config.sequencePolicy frame) pump)) := by
  -- a pump that listens gets the frame
  have hdispatch : finalState (receive uuid4 wire) session =
        finalState (dispatch uuid4 frame) session ∧
      returned (receive uuid4 wire) session =
        returned (dispatch uuid4 frame) session := by
    unfold receive
    rw [finalState_bind, returned_bind, finalState_get, returned_get, Option.bind_some]
    dsimp only
    rw [hparsed]
    dsimp only
    rw [hpump]
    dsimp only
    rw [if_neg (by rw [henabled]; exact Bool.noConfusion)]
    exact ⟨rfl, rfl⟩
  -- control frames without a handler are noted
  have hunmoved : ∀ note : String,
      Answers session (finalState (answerNothing note) session)
        (returned (answerNothing note) session)
        (session.updatedPumps frame.address pump) [] := by
    intro note
    refine ⟨fun other => ?_, rfl, rfl, rfl⟩
    unfold updatedPumps
    split
    · rename_i hother
      rw [hother, ← hpump]
      rfl
    · rfl
  rw [hdispatch.1, hdispatch.2]
  unfold dispatch pumpAnswer
  rw [finalState_bind, returned_bind]
  dsimp only [finalState_get]
  cases frame.controlType with
  | POLL => exact answers_handleOnPump hpump _
  | DATA => exact answers_handleOnPump hpump _
  | ACK => exact answers_handleOnPump hpump _
  | IAP =>
      dsimp only
      obtain ⟨hfinal, hreturned⟩ :=
        onPump_spec hpump (modify (·.resetProtocolSequences) : PumpM PUnit)
      rw [finalState_bind, returned_bind, hfinal, hreturned]
      exact ⟨fun other => getPump_setPump session hpump _ other, rfl, rfl, rfl⟩
  | NAK => exact hunmoved _
  | EOT => exact hunmoved _
  | ACKPOLL => exact hunmoved _
  | UNKNOWN => exact hunmoved _

/-! ## The handlers of one pump -/

/-- The block a pump repeats until its ACK comes. -/
def repeatedBlock (pump : SimulatedPump) : Option (List Byte) :=
  pump.awaitingAckSequence.bind fun _ => pump.lastOutboundWire

/-- A pump that has sent a block and waits for its ACK. -/
def afterSend (pump : SimulatedPump) (now : Nat)
    (rest : List OutboundApplicationTransaction) (wire : List Byte) : SimulatedPump :=
  { pump with
    pendingOutbound := rest
    awaitingAckSequence := some pump.txSequence
    dataPendingSinceMs := some now
    lastOutboundWire := some wire }

/-- A pump whose block was acknowledged. -/
def afterAck (pump : SimulatedPump) (policy : SequencePolicy) : SimulatedPump :=
  { pump with
    txSequence := nextSequence pump.txSequence policy
    awaitingAckSequence := none
    dataPendingSinceMs := none
    lastOutboundWire := none }

/-- A POLL to a pump that waits for an ACK gets the block again. -/
theorem onPoll_repeat {pump : SimulatedPump} {wire : List Byte}
    (hrepeated : repeatedBlock pump = some wire) (now : Nat) :
    finalState (onPoll now) pump = pump ∧
      responsesOf (returned (onPoll now) pump) = [wire] := by
  obtain ⟨awaiting, hawaiting, hwire⟩ := Option.bind_eq_some_iff.mp hrepeated
  unfold onPoll
  simp only [finalState_bind, returned_bind, finalState_get, returned_get,
    Option.bind_some, hawaiting, hwire]
  exact ⟨rfl, rfl⟩

/-- A POLL to another pump is answered from the queue. -/
theorem onPoll_of_idle {pump : SimulatedPump} (hidle : repeatedBlock pump = none)
    (now : Nat) : onPoll now pump = answerFromQueue now pump := by
  unfold repeatedBlock at hidle
  unfold onPoll
  rw [get_bind]
  cases hawaiting : pump.awaitingAckSequence with
  | none => rfl
  | some awaiting =>
      rw [hawaiting] at hidle
      change pump.lastOutboundWire = none at hidle
      rw [hidle]

theorem answerFromQueue_nil {pump : SimulatedPump} (hempty : pump.pendingOutbound = [])
    (now : Nat) :
    finalState (answerFromQueue now) pump = pump ∧
      responsesOf (returned (answerFromQueue now) pump) =
        [eotWire pump.config.dartAddress pump.txSequence] := by
  unfold answerFromQueue
  simp only [finalState_bind, returned_bind, finalState_get, returned_get,
    Option.bind_some, hempty, buildEot_eq_ok]
  exact ⟨rfl, rfl⟩

theorem answerFromQueue_cons {pump : SimulatedPump}
    {item : OutboundApplicationTransaction} {rest : List OutboundApplicationTransaction}
    (hpending : pump.pendingOutbound = item :: rest) (now : Nat) :
    match buildDataFrame pump.config.dartAddress pump.txSequence item.payload with
    | .ok wire =>
        finalState (answerFromQueue now) pump = afterSend pump now rest wire ∧
          responsesOf (returned (answerFromQueue now) pump) = [wire]
    | .error _ =>
        finalState (answerFromQueue now) pump = { pump with pendingOutbound := rest } ∧
          responsesOf (returned (answerFromQueue now) pump) = [] := by
  unfold answerFromQueue sendBlock
  simp only [finalState_bind, returned_bind, finalState_modify, returned_modify,
    finalState_get, returned_get, finalState_fromExcept, returned_fromExcept,
    Option.bind_some, hpending]
  cases buildDataFrame pump.config.dartAddress pump.txSequence item.payload with
  | ok wire => exact ⟨rfl, rfl⟩
  | error error => exact ⟨rfl, rfl⟩

theorem onAck_spec (pump : SimulatedPump) (now : Nat) (policy : SequencePolicy)
    (frame : DartLineFrame) :
    finalState (onAck now policy frame) pump =
        (if pump.awaitingAckSequence = some frame.sequence then afterAck pump policy
          else pump) ∧
      responsesOf (returned (onAck now policy frame) pump) = [] := by
  unfold onAck
  simp only [finalState_bind, returned_bind, finalState_get, returned_get,
    Option.bind_some]
  cases pump.awaitingAckSequence with
  | none => exact ⟨rfl, rfl⟩
  | some awaiting =>
      dsimp only
      by_cases hsame : frame.sequence = awaiting
      · rw [if_neg (not_not.mpr hsame), if_pos (congrArg some hsame.symm)]
        exact ⟨rfl, rfl⟩
      · rw [if_pos hsame, if_neg fun h => hsame (Option.some.inj h).symm]
        exact ⟨rfl, rfl⟩

section

variable (env : PumpEnv) (policy : SequencePolicy) {pump : SimulatedPump}
  {frame : DartLineFrame}

theorem onData_corrupt (hcrc : frame.crcValid = some false) :
    finalState (onData env policy frame) pump = pump ∧
      responsesOf (returned (onData env policy frame) pump) = [] := by
  unfold onData
  simp only [finalState_bind, returned_bind, finalState_get, returned_get,
    Option.bind_some, if_pos hcrc]
  exact ⟨rfl, rfl⟩

theorem onData_duplicate (hcrc : frame.crcValid ≠ some false)
    (hduplicate : pump.lastAcceptedControllerSequence = some frame.sequence) :
    finalState (onData env policy frame) pump = pump ∧
      responsesOf (returned (onData env policy frame) pump) =
        [ackWire pump.config.dartAddress frame.sequence] := by
  unfold onData
  simp only [finalState_bind, returned_bind, finalState_get, returned_get,
    Option.bind_some, if_neg hcrc, if_pos hduplicate, buildAck_eq_ok]
  exact ⟨rfl, rfl⟩

theorem onData_unexpected (hcrc : frame.crcValid ≠ some false)
    (hfresh : pump.lastAcceptedControllerSequence ≠ some frame.sequence)
    (hsequence : frame.sequence ≠ pump.expectedControllerSequence) :
    finalState (onData env policy frame) pump = pump ∧
      responsesOf (returned (onData env policy frame) pump) =
        [nakWire pump.config.dartAddress frame.sequence] := by
  unfold onData
  simp only [finalState_bind, returned_bind, finalState_get, returned_get,
    Option.bind_some, if_neg hcrc, if_neg hfresh, if_pos hsequence, buildNak_eq_ok]
  exact ⟨rfl, rfl⟩

/-- A pump that took a block of the controller. -/
def afterData (pump : SimulatedPump) (sequence : Fin 16) : SimulatedPump :=
  { pump with
    lastAcceptedControllerSequence := some sequence
    expectedControllerSequence := nextSequence sequence policy }

/-- The expected block is handled; when that raises, it is neither remembered
nor acknowledged. -/
theorem onData_expected (hcrc : frame.crcValid ≠ some false)
    (hfresh : pump.lastAcceptedControllerSequence ≠ some frame.sequence)
    (hsequence : frame.sequence = pump.expectedControllerSequence) :
    match returned (SimulatedPump.handleApplicationPayload env frame.payload) pump with
    | some _ =>
        finalState (onData env policy frame) pump =
            afterData policy
              (finalState (SimulatedPump.handleApplicationPayload env frame.payload) pump)
              frame.sequence ∧
          responsesOf (returned (onData env policy frame) pump) =
            [ackWire pump.config.dartAddress frame.sequence]
    | none =>
        finalState (onData env policy frame) pump =
            finalState (SimulatedPump.handleApplicationPayload env frame.payload) pump ∧
          responsesOf (returned (onData env policy frame) pump) = [] := by
  unfold onData
  simp only [finalState_bind, returned_bind, finalState_get, returned_get,
    Option.bind_some, if_neg hcrc, if_neg hfresh, if_neg (not_not.mpr hsequence),
    buildAck_eq_ok]
  cases returned (SimulatedPump.handleApplicationPayload env frame.payload) pump with
  | none => exact ⟨rfl, rfl⟩
  | some faults => exact ⟨rfl, rfl⟩

end

end SimulatorSession
end Simulator
end Intelipump
