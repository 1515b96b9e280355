import Mathlib.Data.List.Count
import Mathlib.Tactic.Common
import Intelipump.Services.PersistenceWorker

namespace Intelipump
namespace Services

open Controller
open Dart.Line
open Foundation.PriorityQueue
open Foundation.StateEffect

/-!
# What becomes of a job

A job that is queued is handed to its handler once, after no more turns than there are
jobs ahead of it and critical ones that overtake it.  Whether a completed sale is queued
at all depends on the room in the queue (`completion_kept_iff`).
-/

/-! ## What a step does -/

/-- The priority and the payload of the job that a step submits. -/
def PersistStep.submission : PersistStep → Option (PersistPriority × JobPayload)
  | .event published => PersistenceBridge.eventJob published
  | .rejectedCommand correlationId address command currentState blockingReasons simulatorOnly =>
      some (.CRITICAL, .rejectedCommand correlationId address command currentState
        blockingReasons simulatorOnly)
  | .turn _ | .start | .stop => none

/-- The step ends the task of the worker. -/
def PersistStep.stops : PersistStep → Bool
  | .stop | .turn .cancelled => true
  | _ => false

def PersistStep.isTurn : PersistStep → Bool
  | .turn _ => true
  | _ => false

/-- The step submits a critical job, and the job at hand is not critical. -/
def PersistStep.overtakes (job : PersistJob) (step : PersistStep) : Bool :=
  decide (step.submission.map (·.1) = some .CRITICAL ∧ job.priority = .NORMAL)

/-- Nothing is queued or handed out. -/
structure LeavesQueue (before after : PersistRun) : Prop where
  queue : after.worker.queue = before.worker.queue
  handed : after.handed = before.handed
  seq : before.worker.seq ≤ after.worker.seq

/-- A job with the next number is queued. -/
structure Queues (before after : PersistRun) (job : PersistJob) : Prop where
  queue : after.worker.queue = put PersistJob.key job before.worker.queue
  handed : after.handed = before.handed
  number : job.seq = before.worker.seq + 1
  seq : after.worker.seq = before.worker.seq + 1

/-- The first job is handed to its handler. -/
structure Hands (before after : PersistRun) (job : PersistJob) (rest : List PersistJob) :
    Prop where
  first : before.worker.queue = job :: rest
  queue : after.worker.queue = rest
  handed : after.handed = before.handed ++ [job]
  seq : after.worker.seq = before.worker.seq

section

variable {run : PersistRun}

theorem step_submission {step : PersistStep} {priority : PersistPriority}
    {payload : JobPayload}
    (hsubmission : step.submission = some (priority, payload)) :
    run.step step = run.submitted (PersistenceWorker.submit priority payload) := by
  cases step with
  | event event =>
      change PersistenceBridge.eventJob event = _ at hsubmission
      change run.submitted (PersistenceBridge.onEvent event) = _
      unfold PersistenceBridge.onEvent
      rw [hsubmission]
  | rejectedCommand correlationId address command currentState blockingReasons simulatorOnly =>
      cases hsubmission
      rfl
  | turn handlerEnd => cases hsubmission
  | start => cases hsubmission
  | stop => cases hsubmission

/-- A submission queues its job when there is room. -/
theorem submitted_cases (run : PersistRun) (priority : PersistPriority)
    (payload : JobPayload) :
    (run.submitted (PersistenceWorker.submit priority payload)).worker.running =
        run.worker.running ∧
      (run.worker.IsFull ∧
          LeavesQueue run (run.submitted (PersistenceWorker.submit priority payload)) ∨
        ¬ run.worker.IsFull ∧
          Queues run (run.submitted (PersistenceWorker.submit priority payload))
            (run.worker.nextJob priority payload)) := by
  unfold PersistRun.submitted finalState PersistenceWorker.submit
  dsimp only
  split_ifs with hfull
  · cases priority <;> exact ⟨rfl, Or.inl ⟨hfull, rfl, rfl, Nat.le_succ _⟩⟩
  · exact ⟨rfl, Or.inr ⟨hfull, rfl, rfl, rfl, rfl⟩⟩

/-- A turn of a running task hands the first job out. -/
theorem turn_cases (run : PersistRun) (handlerEnd : HandlerEnd) :
    run.turn handlerEnd = run ∧ (run.worker.running = true → run.worker.queue = []) ∨
      ∃ job rest, Hands run (run.turn handlerEnd) job rest := by
  unfold PersistRun.turn
  split
  · rename_i job rest _ hqueue
    refine Or.inr ⟨job, rest, hqueue, ?_, rfl, ?_⟩
    · cases handlerEnd <;> rfl
    · cases handlerEnd <;> rfl
  · rename_i hneither
    refine Or.inl ⟨rfl, fun hrunning => ?_⟩
    cases hqueue : run.worker.queue with
    | nil => rfl
    | cons job rest => exact absurd hqueue (hneither job rest hrunning)

/-- What a step can do to the queue. -/
theorem step_cases (run : PersistRun) (step : PersistStep) :
    LeavesQueue run (run.step step) ∨
      (∃ priority payload, step.submission = some (priority, payload) ∧
        Queues run (run.step step) (run.worker.nextJob priority payload)) ∨
      (step.isTurn = true ∧ ∃ job rest, Hands run (run.step step) job rest) := by
  cases hsubmission : step.submission with
  | some submission =>
      rw [step_submission hsubmission]
      rcases (submitted_cases run submission.1 submission.2).2 with ⟨-, hleaves⟩ | ⟨-, hqueues⟩
      · exact Or.inl hleaves
      · exact Or.inr (Or.inl ⟨_, _, rfl, hqueues⟩)
  | none =>
      cases step with
      | event event =>
          change PersistenceBridge.eventJob event = _ at hsubmission
          refine Or.inl ?_
          change LeavesQueue run (run.submitted (PersistenceBridge.onEvent event))
          unfold PersistenceBridge.onEvent
          rw [hsubmission]
          exact ⟨rfl, rfl, le_rfl⟩
      | rejectedCommand => cases hsubmission
      | turn handlerEnd =>
          rcases turn_cases run handlerEnd with ⟨hsame, -⟩ | hhands
          · refine Or.inl ?_
            change LeavesQueue run (run.turn handlerEnd)
            rw [hsame]
            exact ⟨rfl, rfl, le_rfl⟩
          · exact Or.inr (Or.inr ⟨rfl, hhands⟩)
      | start => exact Or.inl ⟨rfl, rfl, le_rfl⟩
      | stop => exact Or.inl ⟨rfl, rfl, le_rfl⟩

/-! ## Jobs in a run -/

/-- The queue is sorted, and every number was given to one job. -/
structure JobsSound (run : PersistRun) : Prop where
  sorted : run.worker.queue.Pairwise (·.key < ·.key)
  numbered : ∀ job ∈ run.handed ++ run.worker.queue, job.seq ≤ run.worker.seq
  once : ((run.handed ++ run.worker.queue).map (·.seq)).Nodup

/-- The jobs that were queued at some time, in any order. -/
def PersistRun.jobs (run : PersistRun) : List PersistJob := run.handed ++ run.worker.queue

theorem LeavesQueue.jobs {after : PersistRun} (hleaves : LeavesQueue run after) :
    after.jobs = run.jobs := by
  unfold PersistRun.jobs
  rw [hleaves.handed, hleaves.queue]

theorem Queues.jobs {after : PersistRun} {job : PersistJob} (hqueues : Queues run after job) :
    after.jobs.Perm (job :: run.jobs) := by
  unfold PersistRun.jobs
  rw [hqueues.handed, hqueues.queue]
  exact ((perm_put PersistJob.key job run.worker.queue).append_left run.handed).trans
    List.perm_middle

theorem Hands.jobs {after : PersistRun} {job : PersistJob} {rest : List PersistJob}
    (hhands : Hands run after job rest) : after.jobs = run.jobs := by
  unfold PersistRun.jobs
  rw [hhands.handed, hhands.queue, hhands.first, List.append_assoc]
  rfl

theorem JobsSound.step (hsound : JobsSound run) (step : PersistStep) :
    JobsSound (run.step step) ∧ run.jobs ⊆ (run.step step).jobs ∧
      run.handed <+: (run.step step).handed := by
  rcases step_cases run step with hleaves | ⟨priority, payload, -, hqueues⟩ |
    ⟨-, job, rest, hhands⟩
  · have hjobs := hleaves.jobs
    refine ⟨⟨?_, ?_, ?_⟩, hjobs ▸ List.Subset.refl _, hleaves.handed ▸ List.prefix_rfl⟩
    · rw [hleaves.queue]
      exact hsound.sorted
    · change ∀ job ∈ (run.step step).jobs, _
      rw [hjobs]
      exact fun job hjob => (hsound.numbered job hjob).trans hleaves.seq
    · change ((run.step step).jobs.map (·.seq)).Nodup
      rw [hjobs]
      exact hsound.once
  · have hperm := hqueues.jobs
    have hnew (other : PersistJob) (hother : other ∈ run.jobs) :
        other.seq ≠ (run.worker.nextJob priority payload).seq :=
      Nat.ne_of_lt (Nat.lt_succ_of_le (hsound.numbered other hother))
    refine ⟨⟨?_, ?_, ?_⟩, ?_, hqueues.handed ▸ List.prefix_rfl⟩
    · rw [hqueues.queue]
      refine sorted_put hsound.sorted fun other hother hkey => ?_
      refine hnew other (List.mem_append_right _ hother) ?_
      exact congrArg (fun key => (ofLex key).2) hkey
    · change ∀ job ∈ (run.step step).jobs, _
      intro other hother
      rw [hqueues.seq]
      rcases List.mem_cons.mp (hperm.mem_iff.mp hother) with rfl | hold
      · exact le_rfl
      · exact (hsound.numbered other hold).trans (Nat.le_succ _)
    · change ((run.step step).jobs.map (·.seq)).Nodup
      rw [(hperm.map (·.seq)).nodup_iff, List.map_cons]
      refine List.nodup_cons.mpr ⟨fun hmem => ?_, hsound.once⟩
      obtain ⟨other, hother, hseq⟩ := List.mem_map.mp hmem
      exact hnew other hother hseq
    · exact fun other hother => hperm.mem_iff.mpr (List.mem_cons_of_mem _ hother)
  · have hjobs := hhands.jobs
    refine ⟨⟨?_, ?_, ?_⟩, hjobs ▸ List.Subset.refl _, ?_⟩
    · have hsorted := hsound.sorted
      rw [hhands.first] at hsorted
      rw [hhands.queue]
      exact (List.pairwise_cons.mp hsorted).2
    · change ∀ job ∈ (run.step step).jobs, _
      rw [hjobs, hhands.seq]
      exact hsound.numbered
    · change ((run.step step).jobs.map (·.seq)).Nodup
      rw [hjobs]
      exact hsound.once
    · rw [hhands.handed]
      exact List.prefix_append _ _

theorem JobsSound.foldl (hsound : JobsSound run) (steps : List PersistStep) :
    JobsSound (steps.foldl PersistRun.step run) ∧
      run.jobs ⊆ (steps.foldl PersistRun.step run).jobs ∧
        run.handed <+: (steps.foldl PersistRun.step run).handed := by
  induction steps generalizing run with
  | nil => exact ⟨hsound, List.Subset.refl _, List.prefix_rfl⟩
  | cons step rest ih =>
      obtain ⟨hnext, hjobs, hhanded⟩ := hsound.step step
      obtain ⟨hlast, hmoreJobs, hmoreHanded⟩ := ih hnext
      exact ⟨hlast, List.Subset.trans hjobs hmoreJobs, hhanded.trans hmoreHanded⟩

theorem jobsSound_initial (maxsize : Int) :
    JobsSound { worker := { maxsize := maxsize } } :=
  ⟨List.Pairwise.nil, fun _ hjob => absurd hjob List.not_mem_nil, List.nodup_nil⟩

/-- A job that was ever queued waits or was handed out, and that once. -/
theorem JobsSound.count (hsound : JobsSound run) {job : PersistJob} (hjob : job ∈ run.jobs) :
    run.handed.count job + run.worker.queue.count job = 1 := by
  rw [← List.count_append]
  exact List.count_eq_one_of_mem hsound.once.of_map hjob

/-! ## How long a job waits -/

/-- Only what stops the task makes it end. -/
theorem running_step {step : PersistStep} (hrunning : run.worker.running = true)
    (hgoesOn : step.stops = false) :
    (run.step step).worker.running = true := by
  cases hsubmission : step.submission with
  | some submission =>
      rw [step_submission hsubmission, (submitted_cases run _ _).1]
      exact hrunning
  | none =>
      cases step with
      | event event =>
          change PersistenceBridge.eventJob event = _ at hsubmission
          change (run.submitted (PersistenceBridge.onEvent event)).worker.running = true
          unfold PersistenceBridge.onEvent
          rw [hsubmission]
          exact hrunning
      | rejectedCommand => cases hsubmission
      | turn handlerEnd =>
          change (run.turn handlerEnd).worker.running = true
          unfold PersistRun.turn
          split
          · cases handlerEnd with
            | returned => exact hrunning
            | raised => exact hrunning
            | cancelled => cases hgoesOn
          · exact hrunning
      | start => rfl
      | stop => cases hgoesOn

/-- A later job gets ahead only of jobs that are less urgent. -/
theorem key_nextJob_lt {job : PersistJob} {priority : PersistPriority} {payload : JobPayload}
    (hnumbered : job.seq ≤ run.worker.seq)
    (hlt : (run.worker.nextJob priority payload).key < job.key) :
    priority = .CRITICAL ∧ job.priority = .NORMAL := by
  have hseq : ¬ (run.worker.nextJob priority payload).seq < job.seq :=
    Nat.not_lt.mpr (hnumbered.trans (Nat.le_succ _))
  rcases Prod.Lex.toLex_lt_toLex.mp hlt with hvalue | ⟨-, hnumber⟩
  · change priority.value < job.priority.value at hvalue
    cases priority <;> cases hjob : job.priority <;> rw [hjob] at hvalue <;>
      simp [PersistPriority.value] at hvalue ⊢
  · exact absurd hnumber hseq

/-- A running task hands a job out once it has made more turns than there were jobs
ahead and critical ones overtook it. -/
theorem handed_of_turns (hsound : JobsSound run) (hrunning : run.worker.running = true)
    {job : PersistJob} (hjob : job ∈ run.worker.queue) {more : List PersistStep}
    (hgoesOn : ∀ step ∈ more, step.stops = false)
    (hturns : ahead PersistJob.key job run.worker.queue + more.countP (·.overtakes job) <
      more.countP (·.isTurn)) :
    job ∈ (more.foldl PersistRun.step run).handed := by
  -- on the steps to come: each turn hands out one job that stands ahead
  induction more generalizing run with
  | nil => exact absurd hturns (Nat.not_lt_zero _)
  | cons step rest ih =>
      obtain ⟨hfirst, hrest⟩ := List.forall_mem_cons.mp hgoesOn
      have hnext := (hsound.step step).1
      have hnextRunning := running_step hrunning hfirst
      rw [List.countP_cons, List.countP_cons] at hturns
      rcases step_cases run step with hleaves | ⟨priority, payload, hsubmission, hqueues⟩ |
        ⟨hturn, first, others, hhands⟩
      · -- only a turn with nothing to hand out could use up the count
        have hnotTurn : step.isTurn = false := by
          cases step with
          | turn handlerEnd =>
              rcases turn_cases run handlerEnd with ⟨-, hempty⟩ | ⟨first, others, hhands⟩
              · rw [hempty hrunning] at hjob
                exact absurd hjob List.not_mem_nil
              · have hqueue : (run.turn handlerEnd).worker.queue = run.worker.queue :=
                  hleaves.queue
                rw [hhands.queue, hhands.first] at hqueue
                exact absurd hqueue.symm (List.cons_ne_self _ _)
          | event => rfl
          | rejectedCommand => rfl
          | start => rfl
          | stop => rfl
        refine ih hnext hnextRunning (hleaves.queue ▸ hjob) hrest ?_
        rw [hleaves.queue]
        rw [hnotTurn] at hturns
        simp only [Bool.false_eq_true, if_false] at hturns
        omega
      · -- a submission goes ahead of the job only when it overtakes it
        have hnotTurn : step.isTurn = false := by
          cases step with
          | turn => cases hsubmission
          | event => rfl
          | rejectedCommand => rfl
          | start => rfl
          | stop => rfl
        refine ih hnext hnextRunning (hqueues.queue ▸ mem_put.mpr (Or.inr hjob)) hrest ?_
        rw [hqueues.queue, ahead_put]
        rw [hnotTurn] at hturns
        simp only [Bool.false_eq_true, if_false] at hturns
        split
        · rename_i hlt
          obtain ⟨hcritical, hnormal⟩ :=
            key_nextJob_lt (hsound.numbered job (List.mem_append_right _ hjob)) hlt
          have hovertakes : step.overtakes job = true := by
            unfold PersistStep.overtakes
            rw [hsubmission]
            exact decide_eq_true ⟨congrArg some hcritical, hnormal⟩
          rw [if_pos hovertakes] at hturns
          omega
        · omega
      · -- a turn hands out the first job, which is this one or stood ahead of it
        rw [hhands.first] at hjob hturns
        rcases List.mem_cons.mp hjob with rfl | hlater
        · have hmem : job ∈ (run.step step).handed := by
            rw [hhands.handed]
            exact List.mem_append_right _ (List.mem_singleton_self _)
          exact (hnext.foldl rest).2.2.subset hmem
        · refine ih hnext hnextRunning (hhands.queue ▸ hlater) hrest ?_
          have hsorted := hsound.sorted
          rw [hhands.first] at hsorted
          rw [ahead_cons hsorted hlater, if_pos hturn] at hturns
          rw [hhands.queue]
          omega

end

/-! ## Completed sales -/

/-- A changed state, as a session publishes it. -/
def stateChangedEvent (address : Byte) (detail : String) (payload : StateChangedPayload) :
    ControllerEvent where
  type := .STATE_CHANGED
  address := address
  detail := detail
  payload := .stateChanged payload

/-- The event leaves a job of its own in the queue, or it is refused loudly. -/
def KeptOrRefused (event : ControllerEvent) (worker : PersistenceWorker) : Prop :=
  (∃ job : PersistJob,
    job.payload = .stateChanged event.address event.detail event.payload ∧
      (finalState (PersistenceBridge.onEvent event) worker).queue.Perm
        (job :: worker.queue)) ∨
    ∃ message after,
      PersistenceBridge.onEvent event worker =
        .error (.persistenceQueueFullError message) after

theorem keptOrRefused_iff (worker : PersistenceWorker) (address : Byte) (detail : String)
    (payload : StateChangedPayload) :
    KeptOrRefused (stateChangedEvent address detail payload) worker ↔ ¬ worker.IsFull := by
  have hevent : PersistenceBridge.onEvent (stateChangedEvent address detail payload) =
      PersistenceWorker.submit .NORMAL (.stateChanged address detail (.stateChanged payload)) :=
    rfl
  unfold KeptOrRefused
  rw [hevent]
  unfold finalState PersistenceWorker.submit
  constructor
  · rintro (⟨job, -, hperm⟩ | ⟨message, after, herror⟩) hfull
    · -- a dropped job leaves the queue as long as it was
      dsimp only at hperm
      rw [if_pos hfull] at hperm
      exact absurd hperm.length_eq (Nat.succ_ne_self _).symm
    · dsimp only at herror
      rw [if_pos hfull] at herror
      cases herror
  · intro hroom
    refine Or.inl ⟨worker.nextJob .NORMAL (.stateChanged address detail (.stateChanged payload)),
      rfl, ?_⟩
    dsimp only
    rw [if_neg hroom]
    exact perm_put _ _ _

/-- A changed state, such as the end of a delivery, is queued or refused exactly when the
queue has room.  A job that was queued in a run is from then on either waiting or handed
out, and that once; a running task that goes on hands it out once it has made more turns
than there were jobs ahead and critical ones that overtook it. -/
theorem completion_kept_iff (worker : PersistenceWorker) (address : Byte) (detail : String)
    (payload : StateChangedPayload) :
    (KeptOrRefused (stateChangedEvent address detail payload) worker ↔ ¬ worker.IsFull) ∧
    ∀ (maxsize : Int) (steps : List PersistStep) (job : PersistJob),
      job ∈ (steps.foldl PersistRun.step { worker := { maxsize := maxsize } }).worker.queue →
      ∀ more : List PersistStep,
        (((steps ++ more).foldl PersistRun.step
            { worker := { maxsize := maxsize } }).handed.count job +
          ((steps ++ more).foldl PersistRun.step
            { worker := { maxsize := maxsize } }).worker.queue.count job = 1) ∧
        ((steps.foldl PersistRun.step
            { worker := { maxsize := maxsize } }).worker.running = true →
          (∀ step ∈ more, step.stops = false) →
          ahead PersistJob.key job (steps.foldl PersistRun.step
              { worker := { maxsize := maxsize } }).worker.queue +
            more.countP (·.overtakes job) < more.countP (·.isTurn) →
          ((steps ++ more).foldl PersistRun.step
            { worker := { maxsize := maxsize } }).handed.count job = 1) := by
  refine ⟨keptOrRefused_iff worker address detail payload, ?_⟩
  intro maxsize steps job hjob more
  have hsound := ((jobsSound_initial maxsize).foldl steps).1
  obtain ⟨hlast, hjobs, -⟩ := hsound.foldl more
  have hcount := hlast.count (hjobs (List.mem_append_right _ hjob))
  rw [List.foldl_append]
  refine ⟨hcount, fun hrunning hgoesOn hturns => ?_⟩
  have hhanded := handed_of_turns hsound hrunning hjob hgoesOn hturns
  have hpositive := List.count_pos_iff.mpr hhanded
  omega

/-- The end of a delivery. -/
def endedPayload : StateChangedPayload where
  event := .FILLING_COMPLETED
  previousState := .FILLING
  normalizedState := .FILLING_COMPLETE
  stateVersion := 7
  selectedNozzle := some 1
  activeTransactionId := some "t-1"
  communicationHealthy := true
  rawWayneStatus := none
  sourceFrameRef := none
  completionEvidenceKey := none

/-- With room for it the end of a delivery is handed out in the next turn. -/
theorem completion_kept_handed :
    (([.start, .event (stateChangedEvent 1 "" endedPayload)] ++
      [.turn .returned] : List PersistStep).foldl PersistRun.step
        { worker := { maxsize := 256 } }).handed.count
          ⟨.NORMAL, 1, .stateChanged 1 "" (.stateChanged endedPayload)⟩ = 1 := by
  have hjob := (completion_kept_iff {} 1 "" endedPayload).2 256
    [.start, .event (stateChangedEvent 1 "" endedPayload)]
    ⟨.NORMAL, 1, .stateChanged 1 "" (.stateChanged endedPayload)⟩ (by decide)
  exact (hjob [.turn .returned]).2 rfl (by decide) (by decide)

/-- A queue for one job that holds a communication event: the end of a delivery is
dropped and nothing is raised. -/
theorem completion_not_kept :
    ¬ ∀ (worker : PersistenceWorker) (address : Byte) (detail : String)
      (payload : StateChangedPayload),
      PersistenceBridge.EndsDelivery payload.normalizedState →
        KeptOrRefused (stateChangedEvent address detail payload) worker := by
  intro hall
  have hkept := hall { maxsize := 1, queue := [⟨.NORMAL, 1, .comm 1 .PUMP_CONNECTED⟩], seq := 1 }
    1 "" endedPayload (by decide)
  exact (keptOrRefused_iff _ _ _ _).mp hkept (by decide)

end Services
end Intelipump
