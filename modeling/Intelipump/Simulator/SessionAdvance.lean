import Mathlib.Tactic.Common
import Intelipump.Simulator.Retransmission

namespace Intelipump
namespace Simulator

open Dart.Line
open Foundation.StateEffect

/-!
# A time advance of a session

The addresses of the pumps are distinct and stay what they are (`distinct_run`), so a time
advance that returns advances every pump once (`advanced_advance`).
-/

namespace SimulatorSession

/-- The addresses of the pumps, in their order. -/
def addresses (session : SimulatorSession) : List Byte := session.pumps.map (·.1)

/-! ## Addresses -/

/-- The pumps stand at the same addresses. -/
def SameAddresses (before after : SimulatorSession) : Prop := after.addresses = before.addresses

instance : IsPreorder SimulatorSession SameAddresses where
  refl _ := rfl
  trans _ _ _ hfirst hsecond := Eq.trans hsecond hfirst

theorem sameAddresses_setPump (session : SimulatorSession) (address : Byte)
    (pump : SimulatedPump) : SameAddresses session (session.setPump address pump) := by
  unfold SameAddresses addresses setPump
  rw [List.map_map]
  refine List.map_congr_left fun entry _ => ?_
  change (if entry.1 = address then (entry.1, pump) else entry).1 = entry.1
  split <;> rfl

theorem sameAddresses_onPump {α : Type} (address : Byte) (action : PumpM α) :
    Preserves SameAddresses (onPump address action) := by
  intro session
  cases hpump : session.getPump address with
  | none =>
      unfold finalState onPump
      rw [hpump]
      exact refl_of SameAddresses session
  | some pump =>
      rw [(onPump_spec hpump action).1]
      exact sameAddresses_setPump session address _

theorem sameAddresses_checkResponseTimeout (session : SimulatorSession) (address : Byte) :
    SameAddresses session (session.checkResponseTimeout address) := by
  unfold checkResponseTimeout
  split
  · exact refl_of SameAddresses session
  · split
    · split
      · exact sameAddresses_setPump session address _
      · exact refl_of SameAddresses session
    · exact refl_of SameAddresses session

theorem sameAddresses_advance (milliseconds : Nat) :
    Preserves SameAddresses (SimulatorSession.advance milliseconds) := by
  have hpumps : ∀ (env : PumpEnv) (addresses : List Byte),
      Preserves SameAddresses (advancePumps env addresses) := by
    intro env addresses
    induction addresses with
    | nil => exact .of_pure _
    | cons address rest ih =>
        refine .of_bind (sameAddresses_onPump address _) fun _ => ?_
        exact .of_bind
          (.of_modify fun session => sameAddresses_checkResponseTimeout session address)
          fun _ => ih
  exact .of_bind (.of_modify fun _ => rfl) fun _ => .of_bind .of_get fun _ => hpumps _ _

theorem sameAddresses_handleOnPump (address : Byte) (action : PumpM FrameExchangeResult) :
    Preserves SameAddresses (handleOnPump address action) :=
  .of_bind (sameAddresses_onPump address action) fun _ =>
    .of_bind (.of_modify fun _ => rfl) fun _ => .of_pure _

theorem sameAddresses_answerNothing (note : String) :
    Preserves SameAddresses (answerNothing note) :=
  .of_bind (.of_modify fun _ => rfl) fun _ => .of_pure _

theorem sameAddresses_refuse (fault : ProtocolFault) : Preserves SameAddresses (refuse fault) :=
  .of_bind (.of_modify fun _ => rfl) fun _ => .of_pure _

theorem sameAddresses_dispatch (uuid4 : String) (parsed : DartLineFrame) :
    Preserves SameAddresses (dispatch uuid4 parsed) := by
  refine .of_bind .of_get fun session => ?_
  cases parsed.controlType with
  | POLL => exact sameAddresses_handleOnPump _ _
  | DATA => exact sameAddresses_handleOnPump _ _
  | ACK => exact sameAddresses_handleOnPump _ _
  | IAP =>
      exact .of_bind (sameAddresses_onPump _ _) fun _ => sameAddresses_answerNothing _
  | _ => exact sameAddresses_answerNothing _

theorem sameAddresses_receive (uuid4 : String) (wire : List Byte) :
    Preserves SameAddresses (receive uuid4 wire) := by
  refine .of_bind .of_get fun session => ?_
  split
  · exact sameAddresses_refuse _
  · split
    · exact sameAddresses_refuse _
    · exact .of_ite (sameAddresses_answerNothing _) (sameAddresses_dispatch _ _)

theorem sameAddresses_step (session : SimulatorSession) (action : SessionAction) :
    SameAddresses session (session.step action) := by
  cases action with
  | receive uuid4 wire => exact sameAddresses_receive uuid4 wire session
  | advance milliseconds => exact sameAddresses_advance milliseconds session
  | operate address uuid4 operation => exact sameAddresses_onPump address _ session

/-- A pump that is added takes an address of its own. -/
theorem distinct_addPump {pumps : List (Byte × SimulatedPump)}
    (hdistinct : (pumps.map (·.1)).Nodup) (config : PumpConfig) :
    ((addPump pumps config).map (·.1)).Nodup := by
  unfold addPump
  dsimp only
  split
  · have hsame : (pumps.map fun entry => if entry.1 = config.dartAddress then
        (entry.1, SimulatedPump.create config) else entry).map (·.1) = pumps.map (·.1) := by
      rw [List.map_map]
      refine List.map_congr_left fun entry _ => ?_
      change (if entry.1 = config.dartAddress then
        (entry.1, SimulatedPump.create config) else entry).1 = entry.1
      split <;> rfl
    rw [hsame]
    exact hdistinct
  · rename_i hnew
    rw [List.map_append, List.nodup_append]
    refine ⟨hdistinct, List.nodup_singleton _, ?_⟩
    rintro address hold other hother rfl
    obtain ⟨entry, hentry, rfl⟩ := List.mem_map.mp hold
    refine hnew (List.lookup_isSome_iff.mpr ⟨entry, hentry, ?_⟩)
    rw [List.map_singleton, List.mem_singleton] at hother
    exact beq_iff_eq.mpr hother.symm

/-- No two pumps of a session stand at one address. -/
theorem distinct_run (config : SimulatorConfig) (actions : List SessionAction) :
    ((create config).run actions).addresses.Nodup := by
  have hstart : ((create config).addresses).Nodup := by
    change ((config.pumps.foldl addPump []).map (·.1)).Nodup
    induction config.pumps using List.reverseRecOn with
    | nil => exact List.nodup_nil
    | append_singleton configs last ih =>
        rw [List.foldl_append]
        exact distinct_addPump ih last
  unfold run
  induction actions using List.reverseRecOn with
  | nil => exact hstart
  | append_singleton actions last ih =>
      rw [List.foldl_append, List.foldl_cons, List.foldl_nil, sameAddresses_step]
      exact ih

/-! ## Advances -/

/-- A pump after a time advance; the wait for an ACK may have started again. -/
def AdvancedPump (env : PumpEnv) (before after : SimulatedPump) : Prop :=
  Returns (SimulatedPump.onTimeAdvance env) before ∧ ∃ since,
    after = { finalState (SimulatedPump.onTimeAdvance env) before with
      dataPendingSinceMs := since }

/-- The pumps at the addresses were advanced, and the others left alone. -/
structure Advanced (env : PumpEnv) (addresses : List Byte)
    (before after : SimulatorSession) : Prop where
  clockMs : after.clockMs = before.clockMs
  elsewhere : ∀ address ∉ addresses, after.getPump address = before.getPump address
  advanced : ∀ address ∈ addresses, ∃ pump later, before.getPump address = some pump ∧
    after.getPump address = some later ∧ AdvancedPump env pump later

/-- The check for a timeout starts the wait of its pump again, or does nothing. -/
theorem checkResponseTimeout_spec {session : SimulatorSession} {address : Byte}
    {pump : SimulatedPump} (hpump : session.getPump address = some pump) :
    (session.checkResponseTimeout address).clockMs = session.clockMs ∧
      (∀ other ≠ address,
        (session.checkResponseTimeout address).getPump other = session.getPump other) ∧
      ∃ since, (session.checkResponseTimeout address).getPump address =
        some { pump with dataPendingSinceMs := since } := by
  have hsame : session.clockMs = session.clockMs ∧
      (∀ other ≠ address, session.getPump other = session.getPump other) ∧
      ∃ since, session.getPump address = some { pump with dataPendingSinceMs := since } :=
    ⟨rfl, fun _ _ => rfl, pump.dataPendingSinceMs, hpump⟩
  unfold checkResponseTimeout
  rw [hpump]
  dsimp only
  split
  · split
    · have hwritten := getPump_setPump session hpump
        { pump with dataPendingSinceMs := some session.clockMs }
      refine ⟨rfl, fun other hother => ?_, some session.clockMs, ?_⟩
      · exact (hwritten other).trans (if_neg hother)
      · exact (hwritten address).trans (if_pos rfl)
    · exact hsame
  · exact hsame

/-- The loop over distinct addresses advances each pump once. -/
theorem advanced_advancePumps (env : PumpEnv) {addresses : List Byte}
    (hdistinct : addresses.Nodup) {session : SimulatorSession}
    (hreturns : Returns (advancePumps env addresses) session) :
    Advanced env addresses session (finalState (advancePumps env addresses) session) := by
  induction addresses generalizing session with
  | nil => exact ⟨rfl, fun _ _ => rfl, fun _ h => absurd h List.not_mem_nil⟩
  | cons address rest ih =>
      obtain ⟨hfresh, hrest⟩ := List.nodup_cons.mp hdistinct
      unfold advancePumps at hreturns ⊢
      cases hpump : session.getPump address with
      | none =>
          have hraised : returned (onPump address (SimulatedPump.onTimeAdvance env)) session =
              none := by
            unfold returned onPump
            rw [hpump]
          unfold Returns at hreturns
          rw [returned_bind, hraised] at hreturns
          exact Bool.noConfusion hreturns
      | some pump =>
          obtain ⟨hfinal, hreturned⟩ := onPump_spec hpump (SimulatedPump.onTimeAdvance env)
          have hwritten := getPump_setPump session hpump
            (finalState (SimulatedPump.onTimeAdvance env) pump)
          unfold Returns at hreturns
          rw [returned_bind, hreturned, hfinal] at hreturns
          rw [finalState_bind, hreturned, hfinal]
          cases hvalue : returned (SimulatedPump.onTimeAdvance env) pump with
          | none =>
              rw [hvalue] at hreturns
              exact Bool.noConfusion hreturns
          | some value =>
              rw [hvalue] at hreturns
              obtain ⟨hclock, hothers, since, hchecked⟩ :=
                checkResponseTimeout_spec ((hwritten address).trans (if_pos rfl))
              have hlater := ih hrest hreturns
              dsimp only
              rw [finalState_modify_bind]
              refine ⟨hlater.clockMs.trans hclock, fun other hother => ?_, fun other hother => ?_⟩
              · rw [List.mem_cons, not_or] at hother
                rw [hlater.elsewhere other hother.2, hothers other hother.1, hwritten,
                  if_neg hother.1]
              · rcases List.mem_cons.mp hother with rfl | hmem
                · refine ⟨pump, _, hpump, (hlater.elsewhere other hfresh).trans hchecked, ?_⟩
                  exact ⟨Option.isSome_iff_exists.mpr ⟨value, hvalue⟩, since, rfl⟩
                · have hne : other ≠ address := by
                    rintro rfl
                    exact hfresh hmem
                  obtain ⟨found, later, hfound, hafter, hadvanced⟩ := hlater.advanced other hmem
                  rw [hothers other hne, hwritten, if_neg hne] at hfound
                  exact ⟨found, later, hfound, hafter, hadvanced⟩

/-- A time advance that returns moves the clock and advances every pump. -/
theorem advanced_advance {session : SimulatorSession} (hdistinct : session.addresses.Nodup)
    {milliseconds : Nat} (hreturns : Returns (advance milliseconds) session) :
    Advanced ⟨session.clockMs + milliseconds, ""⟩ session.addresses
      { session with clockMs := session.clockMs + milliseconds }
      (finalState (advance milliseconds) session) :=
  advanced_advancePumps ⟨session.clockMs + milliseconds, ""⟩ hdistinct hreturns

end SimulatorSession
end Simulator
end Intelipump
