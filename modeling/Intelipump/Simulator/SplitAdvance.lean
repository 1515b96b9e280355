import Mathlib.Tactic.Common
import Intelipump.Simulator.PumpTurns
import Intelipump.Simulator.SessionAdvance

namespace Intelipump
namespace Simulator

open Domain
open Dart.Line
open Foundation.StateEffect
open StateMachine
open SimulatedPump

/-!
# A time advance in two parts

A time advance takes whole intervals and leaves the rest to the tick, so two advances take
the intervals of one (`dueIntervals_split`), and the intervals of the second one follow those
of the first (`fillIntervals_add`).  What differs after the two is the tick of a delivery
that ended in the first part, and when a block was last waited for; no interval reads either.
The clock of a session has no callbacks here.
-/

/-! ## What no interval reads -/

/-- The pump without its tick and without the start of its wait for an ACK. -/
def SimulatedPump.untimed (pump : SimulatedPump) : SimulatedPump :=
  { pump with lastFillTickMs := none, dataPendingSinceMs := none }

theorem commutes_queueEncoded (encoded : Except Raised (List Byte)) (label : String) :
    Commutes untimed (queueEncoded encoded label) :=
  .of_bind (.of_fromExcept _) fun _ => .of_modify fun _ => rfl

theorem commutes_queueStatusAndNozzle : Commutes untimed queueStatusAndNozzle :=
  .of_get_bind (fun _ => rfl) fun _ => .of_bind (commutes_queueEncoded _ _) fun _ =>
    .of_get_bind (fun _ => rfl) fun _ => commutes_queueEncoded _ _

theorem commutes_queueFillData : Commutes untimed queueFillData :=
  .of_get_bind (fun _ => rfl) fun _ => commutes_queueEncoded _ _

theorem commutes_completeFilling : Commutes untimed completeFilling := by
  refine .of_get_bind (fun _ => rfl) fun _ => .of_ite (.of_pure _) ?_
  refine .of_bind (.of_modify fun _ => rfl) fun _ => ?_
  exact .of_bind commutes_queueStatusAndNozzle fun _ => commutes_queueFillData

theorem untimed_limitReached (pump : SimulatedPump) (cfg : FillingConfig) :
    limitReached pump.untimed cfg = (limitReached pump cfg).untimed := by
  unfold limitReached
  rw [apply_ite untimed]
  rfl

theorem commutes_fillOneInterval : Commutes untimed fillOneInterval := by
  refine .of_get_bind (fun _ => rfl) fun pump => ?_
  refine .of_bind (.of_modify fun _ => rfl) fun _ => ?_
  refine .of_bind commutes_queueFillData fun _ => .of_ite ?_ (.of_pure _)
  exact .of_bind (.of_modify fun reported => untimed_limitReached reported _) fun _ =>
    commutes_completeFilling

theorem commutes_fillIntervals (steps : Nat) : Commutes untimed (fillIntervals steps) := by
  induction steps with
  | zero => exact .of_pure _
  | succ steps ih =>
      refine .of_get_bind (fun _ => rfl) fun _ => .of_ite (.of_pure _) ?_
      exact .of_bind commutes_fillOneInterval fun _ => ih

/-! ## Intervals in two parts -/

section

variable {pump : SimulatedPump}

theorem fillIntervals_of_stopped (hstopped : pump.fillingActive = false ∨ pump.suspended = true)
    (steps : Nat) : fillIntervals steps pump = .ok () pump := by
  cases steps with
  | zero => rfl
  | succ steps =>
      unfold fillIntervals
      rw [get_bind, if_pos hstopped]
      rfl

theorem fillIntervals_of_running
    (hrunning : ¬ (pump.fillingActive = false ∨ pump.suspended = true)) (steps : Nat) :
    fillIntervals (steps + 1) pump = (fillOneInterval >>= fun _ => fillIntervals steps) pump := by
  rw [fillIntervals, get_bind, if_neg hrunning]

end

/-- The intervals of two parts are those of the first, and then those of the second. -/
theorem fillIntervals_add (first second : Nat) :
    fillIntervals (first + second) = (fillIntervals first >>= fun _ => fillIntervals second) := by
  induction first with
  | zero =>
      rw [Nat.zero_add]
      rfl
  | succ first ih =>
      funext pump
      rw [Nat.add_right_comm]
      by_cases hstopped : pump.fillingActive = false ∨ pump.suspended = true
      · rw [fillIntervals_of_stopped hstopped, bind_ok (fillIntervals_of_stopped hstopped _),
          fillIntervals_of_stopped hstopped]
      · rw [fillIntervals_of_running hstopped, ih, ← bind_assoc]
        exact (bind_run_congr (fillIntervals_of_running hstopped first) _).symm

/-- The engine takes intervals. -/
def Dispensing (pump : SimulatedPump) : Prop :=
  pump.fillingActive = true ∧ pump.suspended = false ∧
    pump.normalizedState ∈ [PumpState.FILLING, .AUTHORIZED]

/-- The engine goes on taking intervals from the same tick. -/
structure GoesOn (before after : SimulatedPump) : Prop where
  dispensing : Dispensing after
  lastFillTickMs : after.lastFillTickMs = before.lastFillTickMs
  config : after.config = before.config

section

variable {pump : SimulatedPump}

theorem Dispensing.running (hdispensing : Dispensing pump) :
    ¬ (pump.fillingActive = false ∨ pump.suspended = true) := by
  obtain ⟨hfilling, hsuspended, -⟩ := hdispensing
  rw [hfilling, hsuspended]
  decide

/-- An interval that leaves the engine on leaves the delivery running. -/
theorem goesOn_fillOneInterval (hdispensing : Dispensing pump)
    (hactive : (finalState fillOneInterval pump).fillingActive = true) :
    GoesOn pump (finalState fillOneInterval pump) := by
  cases intervalDoes_fillOneInterval hdispensing.1 with
  | completes _ _ hstopped _ => exact absurd (hstopped.symm.trans hactive) Bool.false_ne_true
  | fills _ hqueued =>
      have hstate : (firstAdvance pump).normalizedState ∈ [PumpState.FILLING, .AUTHORIZED] := by
        have hbefore := hdispensing.2.2
        unfold firstAdvance advancedTo
        rw [normalizedState_applyEvent _ _ rfl rfl rfl (by decide)]
        change moved pump.normalizedState .FILLING_UPDATED ∈ _
        revert hbefore
        cases pump.normalizedState <;> decide
      unfold OnlyQueued at hqueued
      rw [hqueued]
      exact ⟨⟨hdispensing.1, hdispensing.2.1, hstate⟩, rfl, rfl⟩

/-- Intervals after which the engine is on. -/
theorem goesOn_fillIntervals (hdispensing : Dispensing pump) (steps : Nat)
    (hactive : (finalState (fillIntervals steps) pump).fillingActive = true) :
    GoesOn pump (finalState (fillIntervals steps) pump) := by
  induction steps generalizing pump with
  | zero => exact ⟨hdispensing, rfl, rfl⟩
  | succ steps ih =>
      rw [finalState_congr (fillIntervals_of_running hdispensing.running steps),
        finalState_bind] at hactive ⊢
      cases hvalue : returned fillOneInterval pump with
      | none =>
          rw [hvalue] at hactive
          exact goesOn_fillOneInterval hdispensing hactive
      | some value =>
          rw [hvalue] at hactive
          dsimp only at hactive ⊢
          by_cases hstopped : (finalState fillOneInterval pump).fillingActive = true
          · have hfirst := goesOn_fillOneInterval hdispensing hstopped
            have hlater := ih hfirst.dispensing hactive
            exact ⟨hlater.dispensing, hlater.lastFillTickMs.trans hfirst.lastFillTickMs,
              hlater.config.trans hfirst.config⟩
          · have hoff := Bool.eq_false_iff.mpr hstopped
            rw [(fillIntervals_stopped (Or.inl hoff) steps).1] at hactive
            exact absurd hactive hstopped

/-! ## Due intervals in two parts -/

theorem dueIntervals_of_not_dispensing (hidle : ¬ Dispensing pump) (env : PumpEnv) :
    pump.dueIntervals env = 0 := by
  unfold dueIntervals
  by_cases hstopped : pump.fillingActive = false ∨ pump.suspended = true
  · rw [if_pos hstopped]
  · rw [if_neg hstopped]
    refine if_pos fun hstate => hidle ?_
    rw [not_or, Bool.not_eq_false, Bool.not_eq_true] at hstopped
    exact ⟨hstopped.1, hstopped.2, hstate⟩

variable {last : Nat}

theorem dueIntervals_of_dispensing (hdispensing : Dispensing pump)
    (hlast : pump.lastFillTickMs = some last) (env : PumpEnv) :
    pump.dueIntervals env = (env.now - last) / pump.config.filling.updateIntervalMs := by
  unfold dueIntervals
  rw [if_neg hdispensing.running, if_neg (not_not.mpr hdispensing.2.2), hlast]

theorem nextTick_of_dispensing (hdispensing : Dispensing pump)
    (hlast : pump.lastFillTickMs = some last) (env : PumpEnv) :
    pump.nextTick env =
      some (last + pump.dueIntervals env * pump.config.filling.updateIntervalMs) := by
  unfold nextTick
  rw [if_neg hdispensing.running, if_neg (not_not.mpr hdispensing.2.2), hlast]

/-- What the intervals of the first part left of the time makes up those of the second. -/
theorem dueIntervals_split (hdispensing : Dispensing pump)
    (hlast : pump.lastFillTickMs = some last) {first second : PumpEnv}
    (hle : first.now ≤ second.now) :
    pump.dueIntervals second = pump.dueIntervals first +
      (second.now - (last + pump.dueIntervals first * pump.config.filling.updateIntervalMs)) /
        pump.config.filling.updateIntervalMs := by
  have hfirst := dueIntervals_of_dispensing hdispensing hlast first
  have hsecond := dueIntervals_of_dispensing hdispensing hlast second
  have helapsed : first.now - last ≤ second.now - last := Nat.sub_le_sub_right hle last
  generalize pump.config.filling.updateIntervalMs = interval at *
  have hdue : pump.dueIntervals first ≤ (second.now - last) / interval := by
    rw [hfirst]
    exact Nat.div_le_div_right helapsed
  rw [hsecond, ← Nat.sub_sub, Nat.mul_comm (pump.dueIntervals first), Nat.sub_mul_div]
  exact (Nat.add_sub_cancel' hdue).symm

end

/-! ## A time advance of a pump -/

section

variable {pump : SimulatedPump}

theorem untimed_onTimeAdvance (env : PumpEnv) (pump : SimulatedPump) :
    (finalState (onTimeAdvance env) pump).untimed =
      finalState (fillIntervals (pump.dueIntervals env)) pump.untimed := by
  rw [finalState_onTimeAdvance, ← (commutes_fillIntervals _).finalState]
  rfl

theorem returned_onTimeAdvance {env : PumpEnv} (hreturns : Returns (onTimeAdvance env) pump) :
    returned (fillIntervals (pump.dueIntervals env)) pump.untimed = some () := by
  rcases onTimeAdvance_cases env pump with heq | ⟨-, -, error, herror⟩
  · obtain ⟨value, hvalue⟩ := hreturns.exists
    rw [returned_congr heq, ← (commutes_fillIntervals _).returned] at hvalue
    exact hvalue
  · exact absurd herror hreturns.ne_error

/-- Two advances of a pump leave what one leaves, but for the times. -/
theorem untimed_split (hruns : EngineRuns pump) {first second : PumpEnv}
    (hle : first.now ≤ second.now) (hreturns : Returns (onTimeAdvance first) pump)
    {between : SimulatedPump}
    (huntimed : between.untimed = (finalState (onTimeAdvance first) pump).untimed)
    (htick : between.lastFillTickMs =
      (finalState (onTimeAdvance first) pump).lastFillTickMs) :
    (finalState (onTimeAdvance second) between).untimed =
      (finalState (onTimeAdvance second) pump).untimed := by
  have hread : ∀ pump : SimulatedPump, Dispensing pump.untimed ↔ Dispensing pump :=
    fun _ => Iff.rfl
  have hbetween := untimed_onTimeAdvance first pump
  rw [untimed_onTimeAdvance, untimed_onTimeAdvance, huntimed, hbetween]
  by_cases hdispensing : Dispensing pump
  · obtain ⟨last, hlast⟩ := Option.ne_none_iff_exists'.mp (hruns hdispensing.1).2
    rw [dueIntervals_split hdispensing hlast hle, fillIntervals_add, finalState_bind,
      returned_onTimeAdvance hreturns]
    dsimp only
    by_cases hactive : (finalState (onTimeAdvance first) pump).fillingActive = true
    · -- the engine goes on from the tick that the first part left
      have hgoes : GoesOn (pump.ticked (pump.nextTick first))
          (finalState (onTimeAdvance first) pump) := by
        rw [finalState_onTimeAdvance] at hactive ⊢
        have hticked : Dispensing (pump.ticked (pump.nextTick first)) := hdispensing
        exact goesOn_fillIntervals hticked _ hactive
      have htick' : between.lastFillTickMs = some (last +
          pump.dueIntervals first * pump.config.filling.updateIntervalMs) := by
        rw [htick, hgoes.lastFillTickMs]
        exact nextTick_of_dispensing hdispensing hlast first
      have hconfig : between.config = pump.config :=
        (congrArg SimulatedPump.config huntimed).trans hgoes.config
      have hdispensing' : Dispensing between := by
        rw [← hread, huntimed, hread]
        exact hgoes.dispensing
      rw [dueIntervals_of_dispensing hdispensing' htick', hconfig]
    · -- the first part ended the delivery
      have hoff : (finalState (fillIntervals (pump.dueIntervals first))
          pump.untimed).fillingActive = false := by
        rw [← hbetween]
        exact Bool.eq_false_iff.mpr hactive
      rw [(fillIntervals_stopped (Or.inl hoff) _).1, (fillIntervals_stopped (Or.inl hoff) _).1]
  · have hnone := dueIntervals_of_not_dispensing hdispensing first
    have hidle : ¬ Dispensing between := by
      rw [← hread, huntimed, hbetween, hnone]
      exact hdispensing
    rw [hnone, dueIntervals_of_not_dispensing hidle, dueIntervals_of_not_dispensing hdispensing]
    rfl

end

/-! ## The engines of a session -/

/-- The engine runs on where it ran. -/
def RunsOn (before after : SimulatedPump) : Prop := EngineRuns before → EngineRuns after

instance : IsPreorder SimulatedPump RunsOn where
  refl _ := id
  trans _ _ _ hfirst hsecond := fun hruns => hsecond (hfirst hruns)

theorem engineRuns_turns {pump : SimulatedPump} (hruns : EngineRuns pump)
    (turns : List PumpTurn) : EngineRuns (pump.turns turns) := by
  induction turns generalizing pump with
  | nil => exact hruns
  | cons turn rest ih => exact ih (engineRuns_turn hruns turn)

theorem runsOn_operation (env : PumpEnv) (operation : PumpOperation) :
    Preserves RunsOn (operation.run env) := by
  intro pump hruns
  obtain ⟨turns, hturns⟩ := operation_turns env operation pump
  rw [hturns]
  exact engineRuns_turns hruns turns

theorem runsOn_handleApplicationPayload (env : PumpEnv) (payload : List Byte) :
    Preserves RunsOn (handleApplicationPayload env payload) := by
  intro pump
  have hrun := runsOn_operation env (.handleApplicationPayload payload) pump
  dsimp only [PumpOperation.run] at hrun
  rw [finalState_bind_pure] at hrun
  exact hrun

namespace SimulatorSession

theorem runsOn_onPoll (now : Nat) : Preserves RunsOn (onPoll now) := by
  have hqueue : Preserves RunsOn (answerFromQueue now) := by
    refine .of_bind .of_get fun pump => ?_
    split
    · exact .of_bind (.of_fromExcept _) fun _ => .of_pure _
    · refine .of_bind (.of_modify fun _ => id) fun _ => .of_bind .of_get fun _ => ?_
      refine .of_bind (.of_fromExcept _) fun _ => ?_
      exact .of_bind (.of_modify fun _ => id) fun _ => .of_pure _
  refine .of_bind .of_get fun pump => ?_
  split
  · exact .of_pure _
  · exact hqueue

theorem runsOn_onData (env : PumpEnv) (policy : SequencePolicy) (frame : DartLineFrame) :
    Preserves RunsOn (onData env policy frame) := by
  refine .of_bind .of_get fun pump => .of_ite (.of_pure _) (.of_ite ?_ (.of_ite ?_ ?_))
  · exact .of_bind (.of_fromExcept _) fun _ => .of_pure _
  · exact .of_bind (.of_fromExcept _) fun _ => .of_pure _
  · refine .of_bind (runsOn_handleApplicationPayload env frame.payload) fun _ => ?_
    refine .of_bind (.of_modify fun _ => id) fun _ => ?_
    exact .of_bind (.of_fromExcept _) fun _ => .of_pure _

theorem runsOn_onAck (now : Nat) (policy : SequencePolicy) (frame : DartLineFrame) :
    Preserves RunsOn (onAck now policy frame) := by
  refine .of_bind .of_get fun pump => ?_
  split
  · exact .of_pure _
  · exact .of_ite (.of_pure _) (.of_bind (.of_modify fun _ => id) fun _ => .of_pure _)

theorem runsOn_pumpAnswer (env : PumpEnv) (policy : SequencePolicy) (frame : DartLineFrame) :
    Preserves RunsOn (pumpAnswer env policy frame) := by
  unfold pumpAnswer
  cases frame.controlType with
  | POLL => exact runsOn_onPoll env.now
  | DATA => exact runsOn_onData env policy frame
  | ACK => exact runsOn_onAck env.now policy frame
  | IAP => exact .of_bind (.of_modify fun _ => id) fun _ => .of_pure _
  | _ => exact .of_pure _

theorem engineRuns_run (config : SimulatorConfig) (actions : List SessionAction) :
    AllPumps EngineRuns ((create config).run actions) := by
  have hstart : AllPumps EngineRuns (create config) :=
    allPumps_create (fun _ h => absurd h Bool.false_ne_true) config
  unfold run
  induction actions using List.reverseRecOn with
  | nil => exact hstart
  | append_singleton actions last ih =>
      rw [List.foldl_append]
      cases last with
      | receive uuid4 wire =>
          exact ih.receive (fun env policy frame => runsOn_pumpAnswer env policy frame)
            uuid4 wire
      | advance milliseconds =>
          exact ih.advance (fun env => runsOn_operation env .onTimeAdvance) (fun _ _ => id)
            milliseconds
      | operate address uuid4 operation =>
          exact ih.onPump (fun pump => runsOn_operation _ operation pump) address

end SimulatorSession

/-! ## A time advance of a session -/

/-- What a time advance is observed to do to a pump. -/
structure PumpOutcome where
  volumeRaw : Nat
  amountRaw : Nat
  totalVolumeRaw : Nat
  totalAmountRaw : Nat
  wayneStatus : Dart.Application.WaynePumpStatus
  normalizedState : PumpState
  fillingActive : Bool
  pendingOutbound : List OutboundApplicationTransaction
deriving DecidableEq

def SimulatedPump.outcome (pump : SimulatedPump) : PumpOutcome where
  volumeRaw := pump.volumeRaw
  amountRaw := pump.amountRaw
  totalVolumeRaw := pump.totalVolumeRaw
  totalAmountRaw := pump.totalAmountRaw
  wayneStatus := pump.wayneStatus
  normalizedState := pump.normalizedState
  fillingActive := pump.fillingActive
  pendingOutbound := pump.pendingOutbound

/-- Two advances of a pump have the outcome of one. -/
theorem outcome_split {pump between last both : SimulatedPump} (hruns : EngineRuns pump)
    {first second : PumpEnv} (hle : first.now ≤ second.now)
    (hfirst : SimulatorSession.AdvancedPump first pump between)
    (hsecond : SimulatorSession.AdvancedPump second between last)
    (hboth : SimulatorSession.AdvancedPump second pump both) : last.outcome = both.outcome := by
  obtain ⟨hreturns, since, hbetween⟩ := hfirst
  obtain ⟨-, later, rfl⟩ := hsecond
  obtain ⟨-, other, rfl⟩ := hboth
  have huntimed : between.untimed = (finalState (onTimeAdvance first) pump).untimed := by
    rw [hbetween]
    rfl
  have htick : between.lastFillTickMs =
      (finalState (onTimeAdvance first) pump).lastFillTickMs := by
    rw [hbetween]
  have houtcome := congrArg SimulatedPump.outcome
    (untimed_split hruns hle hreturns huntimed htick)
  exact houtcome

namespace SimulatorSession

/-- The pumps of two sessions had the same outcome. -/
def SameOutcomes (session other : SimulatorSession) : Prop :=
  ∀ address, (session.getPump address).map SimulatedPump.outcome =
    (other.getPump address).map SimulatedPump.outcome

/-- Splitting time changes nothing. -/
theorem advance_split (config : SimulatorConfig) (actions : List SessionAction)
    (first second : Nat)
    (hfirst : Returns (advance first) ((create config).run actions))
    (hsecond : Returns (advance second) (((create config).run actions).step (.advance first)))
    (hboth : Returns (advance (first + second)) ((create config).run actions)) :
    SameOutcomes
      ((((create config).run actions).step (.advance first)).step (.advance second))
      (((create config).run actions).step (.advance (first + second))) := by
  have hdistinct := distinct_run config actions
  have hruns := engineRuns_run config actions
  generalize (create config).run actions = session at *
  generalize hbetween : session.step (.advance first) = between at *
  generalize hlast : between.step (.advance second) = last
  generalize hwhole : session.step (.advance (first + second)) = whole
  have hsame : between.addresses = session.addresses :=
    hbetween ▸ sameAddresses_advance first session
  have hparts : Advanced ⟨session.clockMs + first, ""⟩ session.addresses
      { session with clockMs := session.clockMs + first } between :=
    hbetween ▸ advanced_advance hdistinct hfirst
  have hclock : between.clockMs + second = session.clockMs + (first + second) := by
    rw [hparts.clockMs, Nat.add_assoc]
  have hrest : Advanced ⟨between.clockMs + second, ""⟩ between.addresses
      { between with clockMs := between.clockMs + second } last :=
    hlast ▸ advanced_advance (hsame ▸ hdistinct) hsecond
  have hboth : Advanced ⟨session.clockMs + (first + second), ""⟩ session.addresses
      { session with clockMs := session.clockMs + (first + second) } whole :=
    hwhole ▸ advanced_advance hdistinct hboth
  rw [hsame, hclock] at hrest
  have hle : session.clockMs + first ≤ session.clockMs + (first + second) := by omega
  intro address
  by_cases hmem : address ∈ session.addresses
  · obtain ⟨pump, middle, hpump, hmiddle, hadvanced⟩ := hparts.advanced address hmem
    obtain ⟨found, after, hfound, hafter, hadvanced'⟩ := hrest.advanced address hmem
    obtain ⟨start, other, hstart, hother, hadvanced''⟩ := hboth.advanced address hmem
    cases hmiddle.symm.trans hfound
    cases hpump.symm.trans hstart
    rw [hafter, hother]
    exact congrArg some
      (outcome_split (hruns address pump hpump) hle hadvanced hadvanced' hadvanced'')
  · have hnone : last.getPump address = whole.getPump address :=
      calc last.getPump address = between.getPump address := hrest.elsewhere address hmem
        _ = session.getPump address := hparts.elsewhere address hmem
        _ = whole.getPump address := (hboth.elsewhere address hmem).symm
    rw [hnone]

/-- A delivery that ends within the second of the two parts. -/
theorem advance_split_completing :
    SameOutcomes
      ((((create { pumps := [{ pumpId := "fp-1", dartAddress := 1 }] }).run [
        .operate 1 "" .coldStartToReady, .operate 1 "" (.liftNozzle 1),
        .operate 1 "tx-1" (.handleApplicationPayload
          [0x03, 0x04, 0x00, 0x00, 0x02, 0x50, 0x01, 0x01, 0x06])]).step
            (.advance 300)).step (.advance 550))
      (((create { pumps := [{ pumpId := "fp-1", dartAddress := 1 }] }).run [
        .operate 1 "" .coldStartToReady, .operate 1 "" (.liftNozzle 1),
        .operate 1 "tx-1" (.handleApplicationPayload
          [0x03, 0x04, 0x00, 0x00, 0x02, 0x50, 0x01, 0x01, 0x06])]).step
            (.advance (300 + 550))) :=
  advance_split { pumps := [{ pumpId := "fp-1", dartAddress := 1 }] } [
      .operate 1 "" .coldStartToReady, .operate 1 "" (.liftNozzle 1),
      .operate 1 "tx-1" (.handleApplicationPayload
        [0x03, 0x04, 0x00, 0x00, 0x02, 0x50, 0x01, 0x01, 0x06])]
    300 550 (by decide +kernel) (by decide +kernel) (by decide +kernel)

end SimulatorSession

end Simulator
end Intelipump
