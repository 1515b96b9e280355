import Mathlib.Tactic.Common
import Intelipump.Controller.Publications
import Intelipump.Foundation.Runs
import Intelipump.Services.Deliveries
import Intelipump.Services.LedgerSteps

namespace Intelipump
namespace Services

open Controller
open Dart.Line
open Domain
open Foundation.Runs
open Foundation.StateEffect
open Persistence
open PersistenceBridge
open PumpStateService

/-!
# The latest snapshot and the live state

Changed states are numbered by the machine, communication events by the latest
snapshot, and both go into one table that ignores lower numbers.  The latest
snapshot follows the changed states exactly as long as none of them is
outnumbered (`latest_is_live_iff`).
-/

/-- The events that are snapshotted. -/
def IsSnapshotted (event : ControllerEvent) : Prop :=
  event.type ∈ [ControllerEventType.STATE_CHANGED, .PUMP_CONNECTED, .PUMP_DISCONNECTED]

instance (event : ControllerEvent) : Decidable (IsSnapshotted event) :=
  inferInstanceAs (Decidable (_ ∈ _))

/-- An event with what its unit of work draws. -/
structure EventStep where
  env : Env
  event : ControllerEvent

/-- The process and the last state it was told. -/
structure LiveRun where
  process : Process
  reported : Option PumpState := none

def LiveRun.step (bridge : PersistenceBridge) (run : LiveRun) (step : EventStep) :
    LiveRun where
  process := bridge.handle step.env step.event run.process
  reported := ((stateChange step.event).map (·.normalizedState)).or run.reported

def LiveRun.after (bridge : PersistenceBridge) (run : LiveRun) (steps : List EventStep) :
    LiveRun :=
  steps.foldl (LiveRun.step bridge) run

/-- The latest snapshot of the pump has the state that was reported last. -/
def LatestIsLive (pumpDb : String) (run : LiveRun) : Prop :=
  ∀ state ∈ run.reported,
    (StateRepository.latest pumpDb run.process.db.states).map (·.normalizedState) =
      some state.value

instance (pumpDb : String) (run : LiveRun) : Decidable (LatestIsLive pumpDb run) :=
  inferInstanceAs (Decidable (∀ state ∈ run.reported, _ = some state.value))

/-- The communication event that an event is. -/
def commType (event : ControllerEvent) : Option CommType :=
  match event.type with
  | .PUMP_CONNECTED => some .PUMP_CONNECTED
  | .PUMP_DISCONNECTED => some .PUMP_DISCONNECTED
  | _ => none

/-- The unit of work of a snapshotted event commits. -/
def EventCommits (bridge : PersistenceBridge) (run : LiveRun) (step : EventStep) : Prop :=
  (∀ payload ∈ stateChange step.event, ∀ pumpDb ∈ bridge.pumpDb step.event.address,
    (unitOfWork (bridge.stateChangedUnit step.env pumpDb step.event.address payload)
      run.process).1.isSome) ∧
  ∀ type ∈ commType step.event,
    Commits (bridge.commUnit step.env type step.event.address) run.process.db

instance (bridge : PersistenceBridge) (run : LiveRun) (step : EventStep) :
    Decidable (EventCommits bridge run step) :=
  inferInstanceAs (Decidable ((∀ payload ∈ stateChange step.event,
    ∀ pumpDb ∈ bridge.pumpDb step.event.address, _ = true) ∧
      ∀ type ∈ commType step.event, Commits _ _))

/-- A changed state is not outnumbered: the latest snapshot has the same state, or a
lower version, or the same version and an earlier time. -/
def NotOutnumbered (pumpDb : String) (run : LiveRun) (step : EventStep) : Prop :=
  ∀ payload ∈ stateChange step.event,
    ∀ last ∈ StateRepository.latest pumpDb run.process.db.states,
      last.normalizedState = payload.normalizedState.value ∨
        payload.stateVersion = 0 ∨ last.stateVersion < payload.stateVersion ∨
          last.stateVersion = payload.stateVersion ∧
            last.persistedAt < step.env.now .snapshotRow

instance (pumpDb : String) (run : LiveRun) (step : EventStep) :
    Decidable (NotOutnumbered pumpDb run step) :=
  inferInstanceAs (Decidable (∀ payload ∈ stateChange step.event,
    ∀ last ∈ StateRepository.latest pumpDb run.process.db.states, _ ∨ _ ∨ _ ∨ _ ∧ _))

/-! ## The snapshots after an event -/

section

variable {bridge : PersistenceBridge} {env : Env} {address : Byte} {process : Process}
  {pumpDb : String}

/-- A changed state whose unit commits is noted, whatever it means for a sale. -/
theorem states_handleStateChanged {payload : StateChangedPayload}
    (hpump : bridge.pumpDb address = some pumpDb)
    (hcommits : (unitOfWork (bridge.stateChangedUnit env pumpDb address payload)
      process).1.isSome) :
    (bridge.handleStateChanged env address payload process).db.states =
      (stateNoted bridge env pumpDb address payload process.db).states := by
  unfold handleStateChanged
  rw [hpump]
  dsimp only
  unfold unitOfWork at hcommits ⊢
  rcases saleCall_cases bridge env pumpDb address payload process with hplain |
    ⟨hbegins, -⟩ | ⟨hbegins, hends, uuid, hknown, -⟩
  · rw [stateChangedUnit_plain hplain]
  · rw [stateChangedUnit_begins hbegins] at hcommits ⊢
    rcases LedgerCall.outcome env (.begin (bridge.beginRequest pumpDb
        (saleUuid env address payload process) payload))
        (remember address (saleUuid env address payload process)
          (notedProcess bridge env pumpDb address payload process)) with
      ⟨db, book, hran, houtcome⟩ | ⟨error, hraised⟩
    · rw [hran]
      exact houtcome.states
    · rw [hraised] at hcommits
      cases hcommits
  · rw [stateChangedUnit_ends hbegins hends hknown] at hcommits ⊢
    rcases LedgerCall.outcome env (.complete (completeRequest uuid payload))
        (notedProcess bridge env pumpDb address payload process) with
      ⟨db, book, hran, houtcome⟩ | ⟨error, hraised⟩
    · rw [bind_ok hran]
      exact houtcome.states
    · rw [bind_error hraised] at hcommits
      cases hcommits

/-- The version that a changed state is persisted under beats a snapshot. -/
theorem order_lt_stateContext_iff (bridge : PersistenceBridge) (address : Byte)
    (pumpDb : String) (payload : StateChangedPayload) (last : PumpStateSnapshotRow)
    (persistedAt : Int) :
    StateRepository.order last < StateRepository.order (StateRepository.newSnapshot persistedAt
        (snapshotFields pumpDb (bridge.stateContext address payload (some last))
          payload.sourceFrameRef)) ↔
      payload.stateVersion = 0 ∨ last.stateVersion < payload.stateVersion ∨
        last.stateVersion = payload.stateVersion ∧ last.persistedAt < persistedAt := by
  unfold StateRepository.order
  rw [Prod.Lex.toLex_lt_toLex]
  unfold StateRepository.newSnapshot snapshotFields stateContext nextVersion
  dsimp only
  by_cases hzero : payload.stateVersion = 0
  · rw [if_pos hzero]
    exact iff_of_true (Or.inl (Nat.lt_succ_self _)) (Or.inl hzero)
  · rw [if_neg hzero]
    exact (or_iff_right hzero).symm

/-- The latest snapshot has the changed state exactly when it is not outnumbered. -/
theorem latest_stateNoted_iff {payload : StateChangedPayload} {db : Database} :
    (StateRepository.latest pumpDb (stateNoted bridge env pumpDb address payload db).states).map
        (·.normalizedState) = some payload.normalizedState.value ↔
      ∀ last ∈ StateRepository.latest pumpDb db.states,
        last.normalizedState = payload.normalizedState.value ∨
          payload.stateVersion = 0 ∨ last.stateVersion < payload.stateVersion ∨
            last.stateVersion = payload.stateVersion ∧
              last.persistedAt < env.now .snapshotRow := by
  unfold stateNoted
  rw [latest_persisted]
  dsimp only
  cases hlatest : StateRepository.latest pumpDb db.states with
  | none => exact iff_of_true rfl fun last hlast => absurd hlast (Option.not_mem_none last)
  | some last =>
      have hbeats := order_lt_stateContext_iff bridge address pumpDb payload last
        (env.now .snapshotRow)
      simp only [Option.mem_some, forall_eq']
      rw [← hbeats]
      split
      · rename_i hinserted
        exact iff_of_true rfl (Or.inr hinserted.2)
      · rename_i hkept
        rw [Option.map_some, Option.some_inj]
        refine ⟨Or.inl, fun hcondition => ?_⟩
        by_contra hother
        -- the row wins, so it is obsolete, and then it has the same state
        have hwins := hcondition.resolve_left hother
        refine hkept ⟨?_, hwins⟩
        rintro (hlower | ⟨-, hsame, -⟩)
        · rcases Prod.Lex.toLex_lt_toLex.mp hwins with hhigher | ⟨hequal, -⟩
          · exact absurd hlower (Nat.not_lt.mpr hhigher.le)
          · exact absurd hlower (Nat.not_lt.mpr hequal.le)
        · exact hother hsame

/-- A communication event keeps the state of the latest snapshot. -/
theorem normalizedState_handleComm {type : CommType} {state : PumpState}
    (hpump : bridge.pumpDb address = some pumpDb)
    (hstate : (StateRepository.latest pumpDb process.db.states).map (·.normalizedState) =
      some state.value) :
    (StateRepository.latest pumpDb (bridge.handleComm env type address process).db.states).map
        (·.normalizedState) = some state.value := by
  obtain ⟨last, hlatest, hlast⟩ := Option.map_eq_some_iff.mp hstate
  have hnamed : PumpState.ofValue? last.normalizedState = some state :=
    hlast ▸ PumpState.ofValue?_value state
  have hcontext := commContext_of_state bridge address type hnamed
  rw [← hlatest] at hcontext
  unfold handleComm commit
  dsimp only
  rw [commUnit_known hpump, hcontext]
  dsimp only
  rw [latest_persisted_next rfl]
  rfl

end

/-! ## Every run -/

section

variable {bridge : PersistenceBridge} {address : Byte} {pumpDb : String} {run : LiveRun}
  {step : EventStep}

/-- An event that reports no state changes what is latest at most by its health. -/
theorem latestIsLive_of_unchanged (hreport : stateChange step.event = none)
    (hkept : ∀ state ∈ run.reported,
      (StateRepository.latest pumpDb (run.step bridge step).process.db.states).map
        (·.normalizedState) = some state.value) :
    LatestIsLive pumpDb (run.step bridge step) ↔ NotOutnumbered pumpDb run step := by
  have hreported : (run.step bridge step).reported = run.reported := by
    unfold LiveRun.step
    dsimp only
    rw [hreport]
    rfl
  unfold LatestIsLive NotOutnumbered
  rw [hreported, hreport]
  exact iff_of_true hkept fun payload hpayload => absurd hpayload (Option.not_mem_none payload)

/-- One event keeps the latest snapshot live exactly when it is not outnumbered. -/
theorem latestIsLive_step_iff (hpump : bridge.pumpDb address = some pumpDb)
    (haddress : step.event.address = address) (hsnapshotted : IsSnapshotted step.event)
    (hcommits : EventCommits bridge run step) (hlive : LatestIsLive pumpDb run) :
    LatestIsLive pumpDb (run.step bridge step) ↔ NotOutnumbered pumpDb run step := by
  obtain ⟨env, type, eventAddress, detail, payload⟩ := step
  obtain rfl : eventAddress = address := haddress
  cases type with
  | STATE_CHANGED =>
      cases payload with
      | stateChanged payload =>
          have hstates := states_handleStateChanged hpump (hcommits.1 payload rfl pumpDb hpump)
          have hafter : LatestIsLive pumpDb (run.step bridge
                ⟨env, .STATE_CHANGED, eventAddress, detail, .stateChanged payload⟩) ↔
              (StateRepository.latest pumpDb (stateNoted bridge env pumpDb eventAddress payload
                run.process.db).states).map (·.normalizedState) =
                  some payload.normalizedState.value := by
            rw [← hstates]
            refine ⟨fun hlatest => hlatest _ rfl, fun hlatest state hstate => ?_⟩
            cases hstate
            exact hlatest
          rw [hafter, latest_stateNoted_iff]
          refine ⟨fun hcondition other hother => ?_, fun hcondition => hcondition _ rfl⟩
          cases hother
          exact hcondition
      | _ => exact latestIsLive_of_unchanged rfl hlive
  | PUMP_CONNECTED =>
      exact latestIsLive_of_unchanged rfl fun state hstate =>
        normalizedState_handleComm hpump (hlive state hstate)
  | PUMP_DISCONNECTED =>
      exact latestIsLive_of_unchanged rfl fun state hstate =>
        normalizedState_handleComm hpump (hlive state hstate)
  | _ => simp [IsSnapshotted] at hsnapshotted

end

/-- For all snapshotted events that a session publishes, handled in their order: the
latest snapshot has the state reported last after every event exactly when no
changed state is outnumbered. -/
theorem latest_is_live_iff (bridge : PersistenceBridge) {session : PumpSession}
    (hbus : session.events = []) (inputs : List SessionInput) {pumpDb : String}
    (hpump : bridge.pumpDb session.address = some pumpDb) {start : Process}
    {steps : List EventStep}
    (hsteps : steps.map (·.event) = (session.run inputs).events.filter IsSnapshotted)
    (hcommits : Along (LiveRun.step bridge) (EventCommits bridge) { process := start }
      steps) :
    (∀ earlier, earlier <+: steps →
      LatestIsLive pumpDb (LiveRun.after bridge { process := start } earlier)) ↔
        Along (LiveRun.step bridge) (NotOutnumbered pumpDb) { process := start } steps := by
  have hpublished : Along (LiveRun.step bridge)
      (fun _ step => step.event.address = session.address ∧ IsSnapshotted step.event)
      { process := start } steps := by
    refine along_of_forall fun step hstep _ => ?_
    have hevent : step.event ∈ (session.run inputs).events.filter IsSnapshotted := by
      rw [← hsteps]
      exact List.mem_map_of_mem hstep
    obtain ⟨hmem, hsnapshotted⟩ := List.mem_filter.mp hevent
    exact ⟨address_of_mem_run hbus inputs hmem, of_decide_eq_true hsnapshotted⟩
  refine forall_prefix_iff_along_of (fun run step hassumed hlive => ?_)
    (along_and.mpr ⟨hpublished, hcommits⟩) fun state hstate => ?_
  · obtain ⟨⟨haddress, hsnapshotted⟩, hcommitted⟩ := hassumed
    exact latestIsLive_step_iff hpump haddress hsnapshotted hcommitted hlive
  · cases hstate

/-- The snapshotted events that calls of a new session lead to, with numbered
draws. -/
def snapshottedSteps (inputs : List SessionInput) : List EventStep :=
  ((newSession.run inputs).events.filter IsSnapshotted).zipIdx.map
    fun (event, number) => ⟨numberedEnv number, event⟩

/-- The pump answers, and its state is read. -/
def steadyLine : List SessionInput :=
  [.response (statusFrame 0 0x01), .response (nozzleFrame 1 0x01)]

/-- The line drops out for two polls and comes back, four times; then the nozzle is
taken out. -/
def flappingLine : List SessionInput :=
  let outage := [SessionInput.timeout 5, .timeout 5]
  .response (statusFrame 0 0x01) :: outage ++ .response (nozzleFrame 1 0x01) :: outage ++
    .response (nozzleFrame 2 0x01) :: outage ++ .response (nozzleFrame 3 0x01) :: outage ++
      [.response (nozzleFrame 4 0x01), .response (nozzleFrame 5 0x11)]

theorem latest_is_live_steady :
    (snapshottedSteps steadyLine).length = 4 ∧
      ∀ earlier, earlier <+: snapshottedSteps steadyLine →
        LatestIsLive "db-1" (LiveRun.after onePump { process := {} } earlier) := by
  have hsteps : (snapshottedSteps steadyLine).map (·.event) =
      (newSession.run steadyLine).events.filter IsSnapshotted := by decide +kernel
  have hpump : onePump.pumpDb newSession.address = some "db-1" := by decide +kernel
  refine ⟨by decide +kernel, ?_⟩
  exact (latest_is_live_iff onePump rfl steadyLine hpump hsteps (by decide +kernel)).mpr
    (by decide +kernel)

/-- After outages the nozzle that was taken out does not become the latest
snapshot. -/
theorem latest_not_always_live :
    ¬ ∀ inputs : List SessionInput,
      Along (LiveRun.step onePump) (EventCommits onePump) { process := {} }
        (snapshottedSteps inputs) →
      LatestIsLive "db-1"
        (LiveRun.after onePump { process := {} } (snapshottedSteps inputs)) := by
  intro hall
  have hlive := hall flappingLine (by decide +kernel)
  revert hlive
  decide +kernel

end Services
end Intelipump
