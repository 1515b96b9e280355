import Mathlib.Tactic.Common
import Intelipump.Controller.MachineCalls
import Intelipump.Controller.Reachable

namespace Intelipump
namespace Controller

open Dart.Application
open Dart.Line
open Domain
open Foundation
open StateMachine

/-!
# The two health flags

The session keeps a health of its own, moved by timeouts and responses; the machine keeps
one that only the start and the loss of communication move.  A response ends
`DISCONNECTED` and starts communication there; in every other state it leaves the flag of
the machine alone, and the two agree afterwards only when that flag was set before.
-/

/-! ## The session's flag -/

namespace PumpSession

/-- An event of the machine changes no more of the session's record than the last state. -/
theorem state_adoptResult (session : PumpSession) (event : PumpEvent)
    (result : TransitionResult) (key : Option String) :
    (session.adoptResult event result key).state =
      { session.state with lastState := result.context.currentState } := by
  unfold adoptResult
  dsimp only
  split <;> rfl

theorem state_applySm (session : PumpSession) (event : PumpEvent) :
    ∃ last, (session.applySm event).state = { session.state with lastState := last } :=
  ⟨_, session.state_adoptResult event _ none⟩

theorem state_applyMapped (session : PumpSession) (mapped : MappedWayneObservation) :
    ∃ last, (session.applyMapped mapped).state = { session.state with lastState := last } := by
  unfold applyMapped
  split
  · exact ⟨session.state.lastState, rfl⟩
  · refine ⟨(apply session.context mapped.event (mappedArgs mapped)).context.currentState,
      (state_adoptResult _ _ _ _).trans ?_⟩
    cases usableKey mapped with
    | none => rfl
    | some key => dsimp only; split <;> rfl

theorem state_decodeAndApply (session : PumpSession) (frame : DartLineFrame) :
    ∃ last, (session.decodeAndApply frame).state =
      { session.state with lastState := last } := by
  unfold decodeAndApply
  generalize (decodeDataPayload frame.payload (session.frameOrigin frame)).transactions = txs
  induction txs generalizing session with
  | nil => exact ⟨session.state.lastState, rfl⟩
  | cons tx rest ih =>
      obtain ⟨last, hrest⟩ := ih (session.applyTransaction tx)
      obtain ⟨first, hfirst⟩ : ∃ first, (session.applyTransaction tx).state =
          { session.state with lastState := first } := state_applyMapped _ _
      refine ⟨last, ?_⟩
      rw [List.foldl_cons, hrest, hfirst]

theorem state_setCommunication (session : PumpSession) (health : CommunicationHealth) :
    (session.setCommunication health).state =
      { session.state with communication := health } := by
  unfold setCommunication
  dsimp only
  split
  · rfl
  · split <;> split <;> rfl

theorem state_markResponsive (session : PumpSession) :
    ∃ last, session.markResponsive.state =
      { session.state with communication := .HEALTHY, lastState := last } := by
  unfold markResponsive
  dsimp only
  split
  · obtain ⟨last, hstate⟩ := state_applySm (session.setCommunication .HEALTHY)
      .COMMUNICATION_STARTED
    refine ⟨last, ?_⟩
    rw [hstate, state_setCommunication]
  · exact ⟨session.state.lastState, state_setCommunication session .HEALTHY⟩

/-- A frame that is taken makes the session healthy and sets its count of timeouts back;
other frames leave both as they are. -/
theorem health_handleResponseFrame (session : PumpSession) (frame : DartLineFrame) :
    ((session.handleResponseFrame frame).1.state.communication,
        (session.handleResponseFrame frame).1.state.consecutiveTimeouts) =
      match session.receiveLine.verdict frame with
      | .accepted | .responsive => (.HEALTHY, 0)
      | _ => (session.state.communication, session.state.consecutiveTimeouts) := by
  have hmarked : ∀ counted : PumpSession, counted.state.consecutiveTimeouts = 0 →
      (counted.markResponsive.state.communication,
        counted.markResponsive.state.consecutiveTimeouts) = (.HEALTHY, 0) := by
    intro counted hcounted
    obtain ⟨last, hstate⟩ := counted.state_markResponsive
    rw [hstate]
    exact congrArg (Prod.mk CommunicationHealth.HEALTHY) hcounted
  rcases handleResponseFrame_cases session frame with
    ⟨hverdict, hhandled⟩ | ⟨hverdict, hhandled⟩ | ⟨hverdict, hhandled⟩ | ⟨hverdict, hignored⟩
  · rw [hverdict, hhandled]
    change ((decodeAndApply _ frame).state.communication,
      (decodeAndApply _ frame).state.consecutiveTimeouts) = _
    obtain ⟨last, hstate⟩ := state_decodeAndApply
      (markResponsive { session.noteFrame frame with state := _ }) frame
    rw [hstate]
    exact hmarked _ rfl
  · rw [hverdict, hhandled]
    rfl
  · rw [hverdict, hhandled]
    exact hmarked _ rfl
  · rw [hverdict]
    rcases hignored with hhandled | hhandled | hhandled | ⟨error, hhandled⟩
    · rw [hhandled]
      rfl
    · rw [hhandled]
      rfl
    · rw [hhandled]
      rfl
    · rw [hhandled]
      rfl

theorem communication_handleResponseFrame (session : PumpSession) (frame : DartLineFrame) :
    (session.handleResponseFrame frame).1.state.communication =
      match session.receiveLine.verdict frame with
      | .accepted | .responsive => .HEALTHY
      | _ => session.state.communication := by
  refine (congrArg Prod.fst (session.health_handleResponseFrame frame)).trans ?_
  cases session.receiveLine.verdict frame <;> rfl

theorem consecutiveTimeouts_handleResponseFrame (session : PumpSession)
    (frame : DartLineFrame) :
    (session.handleResponseFrame frame).1.state.consecutiveTimeouts =
      match session.receiveLine.verdict frame with
      | .accepted | .responsive => 0
      | _ => session.state.consecutiveTimeouts := by
  refine (congrArg Prod.snd (session.health_handleResponseFrame frame)).trans ?_
  cases session.receiveLine.verdict frame <;> rfl

/-- A timeout disconnects, degrades or leaves the health as it is. -/
theorem communication_onTimeout (session : PumpSession) (maxConsecutive : Nat) :
    (session.onTimeout maxConsecutive).state.communication =
      if session.state.consecutiveTimeouts + 1 ≥ maxConsecutive then .DISCONNECTED
      else if session.state.consecutiveTimeouts + 1 ≥ 2 then .DEGRADED
      else session.state.communication := by
  unfold onTimeout
  dsimp only
  split
  · rename_i hlost
    obtain ⟨last, hstate⟩ := state_applySm (setCommunication _ .DISCONNECTED)
      .COMMUNICATION_LOST
    rw [hstate, state_setCommunication]
    exact (if_pos hlost).symm
  · rename_i hkept
    split
    · rename_i hrepeated
      rw [state_setCommunication]
      exact ((if_neg hkept).trans (if_pos hrepeated)).symm
    · rename_i hfirst
      exact ((if_neg hkept).trans (if_neg hfirst)).symm

theorem consecutiveTimeouts_onTimeout (session : PumpSession) (maxConsecutive : Nat) :
    (session.onTimeout maxConsecutive).state.consecutiveTimeouts =
      session.state.consecutiveTimeouts + 1 := by
  unfold onTimeout
  dsimp only
  split
  · obtain ⟨last, hstate⟩ := state_applySm (setCommunication _ .DISCONNECTED)
      .COMMUNICATION_LOST
    rw [hstate, state_setCommunication]
    rfl
  · split
    · rw [state_setCommunication]
      rfl
    · rfl

end PumpSession

/-! ## The machine's flag -/

/-- A call that is neither the start nor the loss of communication leaves the flag, and
never disconnects. -/
theorem health_afterCall {ctx : PumpContext} {call : ApplyCall}
    (hstarted : call.event ≠ .COMMUNICATION_STARTED) (hlost : call.event ≠ .COMMUNICATION_LOST)
    (hconnected : ctx.currentState ≠ .DISCONNECTED) :
    (afterCall ctx call).currentState ≠ .DISCONNECTED ∧
      (afterCall ctx call).communicationHealthy = ctx.communicationHealthy := by
  have hflag : healthAfter ctx call.event = ctx.communicationHealthy := by
    unfold healthAfter
    rw [if_neg hstarted, if_neg hlost]
  rw [afterCall_eq, contextAfter_currentState, contextAfter_communicationHealthy]
  cases houtcome : outcome ctx call.event call.args with
  | transition target =>
      refine ⟨fun htarget => ?_, hflag⟩
      have hlookup := lookup_of_outcome houtcome
      dsimp only at htarget
      rw [htarget] at hlookup
      -- only the loss of communication leads to DISCONNECTED
      revert hlookup hlost
      cases ctx.currentState <;> cases call.event <;> decide
  | sameState => exact ⟨hconnected, hflag⟩
  | _ => exact ⟨hconnected, rfl⟩

/-- The observations of a frame leave the flag, and never disconnect. -/
theorem SessionCore.health_foldl {core : SessionCore} (txs : List ApplicationTransaction)
    (hconnected : core.context.currentState ≠ .DISCONNECTED) :
    (txs.foldl applyTransaction core).context.currentState ≠ .DISCONNECTED ∧
      (txs.foldl applyTransaction core).context.communicationHealthy =
        core.context.communicationHealthy := by
  induction txs generalizing core with
  | nil => exact ⟨hconnected, rfl⟩
  | cons tx rest ih =>
      have hfirst : (core.applyTransaction tx).context.currentState ≠ .DISCONNECTED ∧
          (core.applyTransaction tx).context.communicationHealthy =
            core.context.communicationHealthy := by
        have hcalls := context_applyMapped core (mapWayneObservation tx (core.mapperContext tx))
        rw [applyTransaction, hcalls]
        unfold mappedCalls
        split
        · exact ⟨hconnected, rfl⟩
        · exact health_afterCall (mapWayneObservation_event_ne_started tx _)
            (mapWayneObservation_event_ne tx _) hconnected
      rw [List.foldl_cons, ← hfirst.2]
      exact ih hfirst.1

theorem SessionCore.health_markResponsive (core : SessionCore) :
    core.markResponsive.context.currentState ≠ .DISCONNECTED ∧
      core.markResponsive.context.communicationHealthy =
        (decide (core.context.currentState = .DISCONNECTED) ||
          core.context.communicationHealthy) := by
  rw [context_markResponsive_eq]
  split
  · rename_i hdisconnected
    rw [hdisconnected]
    exact ⟨PumpState.noConfusion, rfl⟩
  · rename_i hconnected
    rw [decide_eq_false hconnected]
    exact ⟨hconnected, rfl⟩

/-- After a frame that is taken the machine is not disconnected; its flag is set exactly
when it was, or communication started with the frame. -/
theorem SessionCore.health_after {address : Byte} (core : SessionCore) (frame : DartLineFrame)
    {verdict : FrameVerdict} (htaken : verdict = .accepted ∨ verdict = .responsive) :
    (core.after address frame verdict).context.currentState ≠ .DISCONNECTED ∧
      (core.after address frame verdict).context.communicationHealthy =
        (decide (core.context.currentState = .DISCONNECTED) ||
          core.context.communicationHealthy) := by
  have hmarked := core.health_markResponsive
  rcases htaken with rfl | rfl
  · have hdata := SessionCore.health_foldl (frameTransactions address frame) hmarked.1
    exact ⟨hdata.1, hdata.2.trans hmarked.2⟩
  · exact hmarked

theorem SessionCore.health_lost (core : SessionCore) :
    (core.applySm .COMMUNICATION_LOST).context.currentState = .DISCONNECTED ∧
      (core.applySm .COMMUNICATION_LOST).context.communicationHealthy = false := by
  have hbranch : outcome core.context .COMMUNICATION_LOST {} =
      tableOutcome core.context.currentState .COMMUNICATION_LOST false :=
    outcome_eq_tableOutcome (not_isStale rfl) (fun h => h.1 rfl) (fun h => by cases h.1)
  change (apply core.context .COMMUNICATION_LOST {}).context.currentState = _ ∧
    (apply core.context .COMMUNICATION_LOST {}).context.communicationHealthy = _
  rw [apply_context, contextAfter_currentState, contextAfter_communicationHealthy, hbranch]
  cases core.context.currentState <;> exact ⟨rfl, rfl⟩

/-! ## Their agreement -/

/-- The two flags agree: a healthy session has a healthy machine that is not disconnected,
a disconnected session a disconnected machine that is not healthy. -/
def HealthAgrees (session : PumpSession) : Prop :=
  (session.state.communication = .HEALTHY →
      session.context.communicationHealthy = true ∧
        session.context.currentState ≠ .DISCONNECTED) ∧
    (session.state.communication = .DISCONNECTED →
      session.context.currentState = .DISCONNECTED ∧
        session.context.communicationHealthy = false)

instance (session : PumpSession) : Decidable (HealthAgrees session) :=
  inferInstanceAs (Decidable ((_ → _ ∧ _) ∧ (_ → _ ∧ _)))

/-- Communication starts with the next frame, or the machine counts as healthy. -/
def HealthyOnceTaken (ctx : PumpContext) : Prop :=
  ctx.currentState = .DISCONNECTED ∨ ctx.communicationHealthy = true

/-- A frame is taken in `DISCONNECTED`, or while the machine counts as healthy; other calls
meet the condition. -/
def TakenInHealth (session : PumpSession) : SessionInput → Prop
  | .response frame =>
      session.receiveLine.verdict frame = .accepted ∨
          session.receiveLine.verdict frame = .responsive →
        HealthyOnceTaken session.context
  | _ => True

theorem communication_of_taken {session : PumpSession} {frame : DartLineFrame}
    (htaken : session.receiveLine.verdict frame = .accepted ∨
      session.receiveLine.verdict frame = .responsive) :
    (session.take (.response frame)).state.communication = .HEALTHY := by
  refine (session.communication_handleResponseFrame frame).trans ?_
  rcases htaken with hverdict | hverdict
  · rw [hverdict]
  · rw [hverdict]

/-- A frame that is taken keeps the agreement exactly when it is taken in health. -/
theorem healthAgrees_of_taken {session : PumpSession} {frame : DartLineFrame}
    (htaken : session.receiveLine.verdict frame = .accepted ∨
      session.receiveLine.verdict frame = .responsive) :
    HealthAgrees (session.take (.response frame)) ↔ HealthyOnceTaken session.context := by
  have hcommunication := communication_of_taken htaken
  have hcontext : (session.take (.response frame)).context =
      (session.core.after session.address frame
        (session.receiveLine.verdict frame)).context :=
    congrArg SessionCore.context (session.handleResponseFrame_spec frame).2.1
  obtain ⟨hconnected, hflag⟩ := session.core.health_after frame htaken
  rw [← hcontext] at hconnected hflag
  change _ = (decide (session.context.currentState = .DISCONNECTED) ||
    session.context.communicationHealthy) at hflag
  unfold HealthAgrees HealthyOnceTaken
  rw [hcommunication, hflag]
  constructor
  · intro hagrees
    simpa using (hagrees.1 rfl).1
  · intro hhealth
    refine ⟨fun _ => ⟨by simpa using hhealth, hconnected⟩, ?_⟩
    intro hlost
    cases hlost

/-- A frame that is not taken leaves both flags as they are. -/
theorem unchanged_of_not_taken {session : PumpSession} {frame : DartLineFrame}
    (hverdict : session.receiveLine.verdict frame = .ignored ∨
      session.receiveLine.verdict frame = .repeated) :
    (session.take (.response frame)).state.communication = session.state.communication ∧
      (session.take (.response frame)).context = session.context := by
  have hcommunication := session.communication_handleResponseFrame frame
  have hcore := (session.handleResponseFrame_spec frame).2.1
  rcases hverdict with hverdict | hverdict
  · rw [hverdict] at hcommunication hcore
    exact ⟨hcommunication, congrArg SessionCore.context hcore⟩
  · rw [hverdict] at hcommunication hcore
    exact ⟨hcommunication, congrArg SessionCore.context hcore⟩

theorem taken_or_not (session : PumpSession) (frame : DartLineFrame) :
    (session.receiveLine.verdict frame = .accepted ∨
        session.receiveLine.verdict frame = .responsive) ∨
      (session.receiveLine.verdict frame = .ignored ∨
        session.receiveLine.verdict frame = .repeated) := by
  cases session.receiveLine.verdict frame <;> decide

/-- What a timeout leaves of the context. -/
theorem context_onTimeout (session : PumpSession) (maxConsecutive : Nat) :
    (session.onTimeout maxConsecutive).context =
      if session.state.consecutiveTimeouts + 1 ≥ maxConsecutive then
        (session.core.applySm .COMMUNICATION_LOST).context
      else session.context := by
  have hcore := congrArg SessionCore.context (session.core_onTimeout maxConsecutive)
  refine hcore.trans ?_
  split <;> rfl

/-- A timeout keeps the agreement. -/
theorem healthAgrees_onTimeout {session : PumpSession} (maxConsecutive : Nat)
    (hagrees : HealthAgrees session) : HealthAgrees (session.onTimeout maxConsecutive) := by
  unfold HealthAgrees
  rw [session.communication_onTimeout, context_onTimeout]
  by_cases hlost : session.state.consecutiveTimeouts + 1 ≥ maxConsecutive
  · rw [if_pos hlost, if_pos hlost]
    refine ⟨fun hhealthy => ?_, fun _ => session.core.health_lost⟩
    cases hhealthy
  · rw [if_neg hlost, if_neg hlost]
    split
    · refine ⟨fun hhealthy => ?_, fun hdisconnected => ?_⟩
      · cases hhealthy
      · cases hdisconnected
    · exact hagrees

/-- One call keeps the agreement exactly when it takes no frame or takes it in health. -/
theorem healthAgrees_take_iff {session : PumpSession} (input : SessionInput)
    (hagrees : HealthAgrees session) :
    HealthAgrees (session.take input) ↔ TakenInHealth session input := by
  cases input with
  | poll => exact iff_of_true hagrees trivial
  | timeout maxConsecutive =>
      exact iff_of_true (healthAgrees_onTimeout maxConsecutive hagrees) trivial
  | response frame =>
      rcases taken_or_not session frame with htaken | hverdict
      · rw [healthAgrees_of_taken htaken]
        exact ⟨fun hhealth _ => hhealth, fun hcondition => hcondition htaken⟩
      · obtain ⟨hcommunication, hcontext⟩ := unchanged_of_not_taken hverdict
        refine iff_of_true ?_ fun htaken => ?_
        · unfold HealthAgrees
          rw [hcommunication, hcontext]
          exact hagrees
        · rcases hverdict with hverdict | hverdict
          · rw [hverdict] at htaken
            exact absurd htaken (by decide)
          · rw [hverdict] at htaken
            exact absurd htaken (by decide)

/-- A machine that is disconnected or healthy stays so. -/
theorem healthyOnceTaken_take {session : PumpSession} (input : SessionInput)
    (hhealth : HealthyOnceTaken session.context) :
    HealthyOnceTaken (session.take input).context := by
  cases input with
  | poll => exact hhealth
  | timeout maxConsecutive =>
      change HealthyOnceTaken (session.onTimeout maxConsecutive).context
      rw [context_onTimeout]
      split
      · exact Or.inl session.core.health_lost.1
      · exact hhealth
  | response frame =>
      rcases taken_or_not session frame with htaken | hverdict
      · right
        have hagrees := (healthAgrees_of_taken htaken).mpr hhealth
        exact (hagrees.1 (communication_of_taken htaken)).1
      · rw [(unchanged_of_not_taken hverdict).2]
        exact hhealth

theorem takenInHealth_of_healthyOnceTaken {session : PumpSession} (input : SessionInput)
    (hhealth : HealthyOnceTaken session.context) : TakenInHealth session input := by
  cases input with
  | poll => trivial
  | timeout maxConsecutive => trivial
  | response frame => exact fun _ => hhealth

/-- In every state of a run the two flags agree exactly when every frame of the run is
taken in health. -/
theorem healthAgrees_run_iff {session : PumpSession} (inputs : List SessionInput)
    (hagrees : HealthAgrees session) :
    (∀ earlier, earlier <+: inputs → HealthAgrees (session.run earlier)) ↔
      Runs.Along PumpSession.take TakenInHealth session inputs :=
  Runs.forall_prefix_iff_along (fun _ input hagrees => healthAgrees_take_iff input hagrees)
    hagrees

/-- A session whose machine starts disconnected, as a new one does, agrees with it for
ever. -/
theorem healthAgrees_of_disconnected {session : PumpSession} (inputs : List SessionInput)
    (hagrees : HealthAgrees session)
    (hdisconnected : session.context.currentState = .DISCONNECTED) :
    HealthAgrees (session.run inputs) := by
  have hstep : ∀ (current : PumpSession) (input : SessionInput),
      HealthyOnceTaken current.context → True →
        TakenInHealth current input ∧ HealthyOnceTaken (current.take input).context :=
    fun _ input hhealth _ =>
      ⟨takenInHealth_of_healthyOnceTaken input hhealth, healthyOnceTaken_take input hhealth⟩
  have halong : Runs.Along PumpSession.take TakenInHealth session inputs :=
    Runs.along_of_invariant hstep (Or.inl hdisconnected)
      (Runs.along_of_forall fun _ _ _ => trivial)
  exact (healthAgrees_run_iff inputs hagrees).mpr halong inputs List.prefix_rfl

end Controller
end Intelipump
