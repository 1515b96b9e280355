import Mathlib.Tactic.Common
import Intelipump.StateMachine.MachineRuns

namespace Intelipump
namespace StateMachine

open Domain
open Foundation

/-!
# Rejections, times and completions over a run

A refused event leaves a warning and nothing else.  The times of a context only move
forward: an observation older than the last one is refused, and a transition is never
timed after the last observation.  A completion records its evidence key for good, and a
recorded key stops every later completion that names it.
-/

/-! ## Refused events -/

/-- A refused event leaves every field but the warnings. -/
theorem context_of_refused {ctx : PumpContext} {event : PumpEvent} {args : ApplyArgs}
    (hrefused : (apply ctx event args).accepted = false) :
    ∃ warnings, (apply ctx event args).context = { ctx with warnings := warnings } := by
  rw [apply_accepted] at hrefused
  rw [apply_context]
  cases houtcome : outcome ctx event args with
  | stale | unauthorized | invalid => exact ⟨_, rfl⟩
  | _ =>
      rw [houtcome] at hrefused
      cases hrefused

/-! ## Times -/

/-- A time that is set stays set, and is not moved back. -/
def NotBefore (earlier later : Option Int) : Prop :=
  ∀ time ∈ earlier, ∃ next ∈ later, time ≤ next

theorem NotBefore.refl (time : Option Int) : NotBefore time time :=
  fun instant hset => ⟨instant, hset, le_rfl⟩

theorem NotBefore.trans {first second third : Option Int} (hfirst : NotBefore first second)
    (hsecond : NotBefore second third) : NotBefore first third := by
  intro time hset
  obtain ⟨next, hnext, hle⟩ := hfirst time hset
  obtain ⟨last, hlast, hle'⟩ := hsecond next hnext
  exact ⟨last, hlast, le_trans hle hle'⟩

/-- An observation that is not stale does not move a time back that the last observation
has reached. -/
theorem notBefore_or {ctx : PumpContext} {args : ApplyArgs} {held : Option Int}
    (hfresh : ¬ IsStale ctx args) (hheld : NotBefore held ctx.lastObservationAt) :
    NotBefore held (args.observedAt.or held) := by
  intro time hset
  cases hobserved : args.observedAt with
  | none => exact ⟨time, hset, le_rfl⟩
  | some instant =>
      refine ⟨instant, rfl, ?_⟩
      obtain ⟨last, hlast, hle⟩ := hheld time hset
      have hcurrent : ¬ instant < last := by
        rw [IsStale, hobserved, Option.mem_def.mp hlast] at hfresh
        exact hfresh
      exact le_trans hle (not_lt.mp hcurrent)

/-- The last transition was not later than the last observation. -/
def TransitionObserved (ctx : PumpContext) : Prop :=
  NotBefore ctx.lastTransitionAt ctx.lastObservationAt

theorem notBefore_or_or (observed : Option Int) {held last : Option Int}
    (hheld : NotBefore held last) : NotBefore (observed.or held) (observed.or last) := by
  cases observed with
  | none => exact hheld
  | some instant => exact NotBefore.refl (some instant)

/-- Both times of a context, not before those of an earlier one. -/
structure TimesForward (before after : PumpContext) : Prop where
  observation : NotBefore before.lastObservationAt after.lastObservationAt
  transition : NotBefore before.lastTransitionAt after.lastTransitionAt

instance : IsPreorder PumpContext TimesForward where
  refl _ := ⟨NotBefore.refl _, NotBefore.refl _⟩
  trans _ _ _ hfirst hsecond :=
    ⟨hfirst.observation.trans hsecond.observation, hfirst.transition.trans hsecond.transition⟩

/-- One call moves both times forward, and keeps the transition observed. -/
theorem afterCall_times {ctx : PumpContext} (call : ApplyCall)
    (hobserved : TransitionObserved ctx) :
    TimesForward ctx (afterCall ctx call) ∧ TransitionObserved (afterCall ctx call) := by
  rw [afterCall_eq]
  have hfresh : outcome ctx call.event call.args ≠ .stale → ¬ IsStale ctx call.args :=
    not_isStale_of_outcome
  cases houtcome : outcome ctx call.event call.args with
  | stale | unauthorized | invalid =>
      exact ⟨⟨NotBefore.refl _, NotBefore.refl _⟩, hobserved⟩
  | duplicateFrame | duplicateCompletion | unknown | sameState =>
      -- only the observation is timed
      have hforward : NotBefore ctx.lastObservationAt
          (call.args.observedAt.or ctx.lastObservationAt) :=
        notBefore_or (hfresh (by rw [houtcome]; exact Outcome.noConfusion)) (NotBefore.refl _)
      exact ⟨⟨hforward, NotBefore.refl _⟩, hobserved.trans hforward⟩
  | transition target =>
      have hnotStale := hfresh (by rw [houtcome]; exact Outcome.noConfusion)
      exact ⟨⟨notBefore_or hnotStale (NotBefore.refl _), notBefore_or hnotStale hobserved⟩,
        notBefore_or_or call.args.observedAt hobserved⟩

/-! ## Completions -/

/-- The call takes the machine into FILLING_COMPLETE on the evidence named by the key. -/
def EntersComplete (key : String) (ctx : PumpContext) (call : ApplyCall) : Prop :=
  call.args.completionEvidenceKey = some key ∧ ctx.currentState ≠ .FILLING_COMPLETE ∧
    (afterCall ctx call).currentState = .FILLING_COMPLETE

/-- The table leads to FILLING_COMPLETE by a completion only. -/
theorem event_of_lookup_complete {state : PumpState} {event : PumpEvent}
    (hlookup : lookupTransition state event = some .FILLING_COMPLETE) :
    event = .FILLING_COMPLETED := by
  revert hlookup
  cases state <;> cases event <;> decide

/-- Entering FILLING_COMPLETE is a table transition by a completion. -/
theorem EntersComplete.outcome {key : String} {ctx : PumpContext} {call : ApplyCall}
    (henters : EntersComplete key ctx call) :
    call.event = .FILLING_COMPLETED ∧
      StateMachine.outcome ctx call.event call.args = .transition .FILLING_COMPLETE := by
  obtain ⟨-, hbefore, hafter⟩ := henters
  rw [afterCall_eq, contextAfter_currentState] at hafter
  cases houtcome : StateMachine.outcome ctx call.event call.args with
  | transition target =>
      rw [houtcome] at hafter
      cases hafter
      exact ⟨event_of_lookup_complete (lookup_of_outcome houtcome), rfl⟩
  | _ =>
      rw [houtcome] at hafter
      exact absurd hafter hbefore

/-- Completing records the key. -/
theorem EntersComplete.records {key : String} {ctx : PumpContext} {call : ApplyCall}
    (henters : EntersComplete key ctx call) :
    key ∈ (afterCall ctx call).completedEvidenceKeys := by
  obtain ⟨hevent, houtcome⟩ := henters.outcome
  rw [afterCall_eq, contextAfter_completedEvidenceKeys, houtcome, henters.1]
  simp only [Outcome.moves]
  rw [if_pos hevent]
  exact Finset.mem_insert_self key _

/-- A recorded key is never taken away. -/
theorem recorded_afterCall {key : String} (ctx : PumpContext) (call : ApplyCall)
    (hrecorded : key ∈ ctx.completedEvidenceKeys) :
    key ∈ (afterCall ctx call).completedEvidenceKeys := by
  rw [afterCall_eq, contextAfter_completedEvidenceKeys]
  split
  · split
    · exact Finset.mem_insert_of_mem hrecorded
    · exact hrecorded
  · exact hrecorded

/-- A recorded key stops the next completion that names it. -/
theorem not_entersComplete_of_recorded {key : String} (ctx : PumpContext) (call : ApplyCall)
    (hrecorded : key ∈ ctx.completedEvidenceKeys) : ¬ EntersComplete key ctx call := by
  intro henters
  obtain ⟨hevent, houtcome⟩ := henters.outcome
  obtain ⟨-, -, hnew⟩ := unfiltered_of_outcome
    (by rw [houtcome]; exact Outcome.noConfusion)
    (by rw [houtcome]; exact Outcome.noConfusion)
    (by rw [houtcome]; exact Outcome.noConfusion)
  exact hnew ⟨hevent, key, Option.mem_def.mpr henters.1, hrecorded⟩

/-! ## Runs -/

/-- What every run of calls keeps to. -/
structure Disciplined (ctx : PumpContext) (calls : List ApplyCall) : Prop where
  /-- a refused call changes the warnings and nothing else -/
  rejection : Runs.Along afterCall
    (fun current call => (apply current call.event call.args).accepted = false →
      ∃ warnings, afterCall current call = { current with warnings := warnings }) ctx calls
  /-- a time that is set is never moved back -/
  times : ∀ earlier later, earlier <+: later → later <+: calls →
    TimesForward (afterCalls ctx earlier) (afterCalls ctx later)
  /-- a key completes one filling at most -/
  completion : ∀ key first second call other,
    first ++ [call] <+: calls → second ++ [other] <+: calls →
      EntersComplete key (afterCalls ctx first) call →
        EntersComplete key (afterCalls ctx second) other → first = second

/-- Every run from a context without a timed transition is disciplined, whatever was
observed or completed before it. -/
theorem calls_disciplined {ctx : PumpContext} (calls : List ApplyCall)
    (htransition : ctx.lastTransitionAt = none) : Disciplined ctx calls := by
  have hinitial : TransitionObserved ctx := by
    intro time hset
    rw [htransition] at hset
    cases hset
  have hkeeps : ∀ current call, TransitionObserved current →
      TransitionObserved (afterCall current call) :=
    fun current call hcurrent => (afterCall_times call hcurrent).2
  have hforward : ∀ current call, TransitionObserved current →
      (TimesForward current (afterCall current call) ↔ True) :=
    fun current call hcurrent => iff_of_true (afterCall_times call hcurrent).1 trivial
  constructor
  · exact Runs.along_of_forall fun call _ current hrefused => context_of_refused hrefused
  · exact (Runs.forall_prefixes_iff_along hkeeps hforward hinitial).mpr
      (Runs.along_of_forall fun _ _ _ => trivial)
  · intro key first second call other hfirst hsecond htaken hother
    have hrecords : ∀ current next, EntersComplete key current next →
        key ∈ (afterCall current next).completedEvidenceKeys :=
      fun _ _ henters => henters.records
    exact Runs.taken_once hrecords recorded_afterCall not_entersComplete_of_recorded
      hfirst hsecond htaken hother

/-- A filling that is completed twice on the same evidence, the second time out of order. -/
theorem calls_disciplined_repeated_completion :
    Disciplined { pumpId := "pump-1", dartAddress := 0x50, currentState := .FILLING }
      [⟨.FILLING_COMPLETED, { observedAt := some 7, completionEvidenceKey := some "dc2-1" }⟩,
        ⟨.RESET_OBSERVED, { observedAt := some 5 }⟩,
        ⟨.FILLING_COMPLETED, { completionEvidenceKey := some "dc2-1" }⟩] :=
  calls_disciplined _ rfl

end StateMachine
end Intelipump
