import Mathlib.Tactic.Common
import Intelipump.Link.Delivery
import Intelipump.Link.IdlePump

namespace Intelipump
namespace Link

open Domain
open Dart.Line
open Dart.Application
open Controller
open Simulator
open Foundation.Runs
open Foundation.StateEffect
open Simulator.SimulatorSession
open SessionCore (respond)

/-!
# The controller's state against the pump's

A pump is operated, and then polled without a loss until it answers EOT.  The
two states agree at the end of every part of a run exactly when no step of the
run leaves the pump between deliveries (`states_agree_iff`): the DC1 that goes
out with a lifted nozzle still says RESET, which takes the controller out of
`READY` before it hears of the nozzle.
-/

/-- The commands of the controller that operate a pump. -/
inductive ControllerCommand where
  | CD1 | CD3 | CD4 | CD5
deriving DecidableEq, Repr

def ControllerCommand.trans : ControllerCommand → Byte
  | .CD1 => 0x01
  | .CD3 => 0x03
  | .CD4 => 0x04
  | .CD5 => 0x05

inductive FuelingAction where
  | coldStartToReady
  | liftNozzle (nozzle : Nat)
  | returnNozzle
  | command (uuid4 : String) (issued : ControllerCommand) (data : List Byte)
  | advance (milliseconds : Nat)
deriving DecidableEq, Repr

/-- What an action does to the session's pump. -/
def FuelingAction.run (env : PumpEnv) : FuelingAction → PumpM Unit
  | .coldStartToReady => SimulatedPump.coldStartToReady
  | .liftNozzle nozzle => do
      let _ ← SimulatedPump.liftNozzle env nozzle
  | .returnNozzle => SimulatedPump.returnNozzle
  | .command _ issued data => do
      let _ ← SimulatedPump.handleOneTx env issued.trans data
  | .advance _ => SimulatedPump.onTimeAdvance env

def FuelingAction.uuid4 : FuelingAction → String
  | .command uuid4 _ _ => uuid4
  | _ => ""

/-- The pump stays between deliveries: a cold start can show its price, and in
`READY` no known nozzle is lifted and no pump parameters are asked for. -/
def FuelingAction.StaysIdle (pump : SimulatedPump) : FuelingAction → Prop
  | .coldStartToReady => pump.effectivePrice < priceBound
  | .liftNozzle nozzle =>
      ¬ (pump.normalizedState = .READY ∧ pump.priceOf? nozzle ≠ none)
  | .command _ issued data =>
      ¬ (pump.normalizedState = .READY ∧ AsksParameters issued.trans data)
  | _ => True

instance (pump : SimulatedPump) (action : FuelingAction) :
    Decidable (action.StaysIdle pump) := by
  cases action <;> unfold FuelingAction.StaysIdle <;> infer_instance

namespace LinkState

/-- One action on the pump; time passes for the whole simulator. -/
def fuel (link : LinkState) : FuelingAction → LinkState
  | .advance milliseconds => link.step (.advance milliseconds)
  | action => { link with
      simulator := finalState
        (onPump link.address (action.run ⟨link.simulator.clockMs, action.uuid4⟩))
        link.simulator }

/-- Poll until EOT, once more than the queue is long. -/
def drain (link : LinkState) : Option LinkState :=
  link.pollUntilEot ((pendingOutbound link.simulator link.address).length + 1)

/-- The pump answers polls. -/
def PumpListens (link : LinkState) : Prop :=
  ∃ pump ∈ link.simulator.getPump link.address, pump.communicationEnabled = true

/-- Polling comes to EOT with the queue empty and the two states equal. -/
def DrainsToAgreement (link : LinkState) : Prop :=
  ∃ drained ∈ link.drain,
    pendingOutbound drained.simulator drained.address = [] ∧
    ∃ pump ∈ drained.simulator.getPump drained.address,
      drained.session.context.currentState = pump.normalizedState

/-- A pump that can be polled agrees with the controller in the end. -/
def Refines (link : LinkState) : Prop := link.PumpListens → link.DrainsToAgreement

instance (link : LinkState) : Decidable link.PumpListens :=
  inferInstanceAs (Decidable (∃ pump ∈ link.simulator.getPump link.address, _))

instance (link : LinkState) : Decidable link.DrainsToAgreement :=
  inferInstanceAs (Decidable (∃ drained ∈ link.drain,
    pendingOutbound drained.simulator drained.address = [] ∧
    ∃ pump ∈ drained.simulator.getPump drained.address,
      drained.session.context.currentState = pump.normalizedState))

/-- The step leaves the pump between deliveries. -/
def KeepsAgreement (link : LinkState) (action : FuelingAction) : Prop :=
  ∀ pump ∈ link.simulator.getPump link.address, action.StaysIdle pump

instance (link : LinkState) (action : FuelingAction) :
    Decidable (link.KeepsAgreement action) :=
  inferInstanceAs (Decidable (∀ pump ∈ link.simulator.getPump link.address, _))

end LinkState

/-! ## The drained link -/

/-- A link whose pump was operated but never polled. -/
structure Unpolled (config : SimulatorConfig) (address : Byte) (pumpId : String)
    (link : LinkState) (pump : SimulatedPump) : Prop where
  getPump : link.simulator.getPump address = some pump
  session : link.session = PumpSession.create address pumpId config.sequencePolicy
  simulator : link.simulator.config = config
  line : ∃ pumpConfig : PumpConfig, pumpConfig.dartAddress = address ∧
    LineKept (SimulatedPump.create pumpConfig) pump

section

variable {config : SimulatorConfig} {address : Byte} {pumpId : String}
  {link : LinkState} {pump : SimulatedPump}

theorem Unpolled.address_eq (hunpolled : Unpolled config address pumpId link pump) :
    link.address = address := by
  unfold LinkState.address
  rw [hunpolled.session]
  rfl

theorem Unpolled.getPump' (hunpolled : Unpolled config address pumpId link pump) :
    link.simulator.getPump link.address = some pump := by
  rw [hunpolled.address_eq]
  exact hunpolled.getPump

theorem Unpolled.pumpListens_iff (hunpolled : Unpolled config address pumpId link pump) :
    link.PumpListens ↔ pump.communicationEnabled = true := by
  unfold LinkState.PumpListens
  rw [hunpolled.getPump']
  simp only [Option.mem_some_iff, exists_eq_left']

theorem Unpolled.quiet (hunpolled : Unpolled config address pumpId link pump)
    (hlistens : pump.communicationEnabled = true) : Quiet link pump := by
  obtain ⟨pumpConfig, haddress, hline⟩ := hunpolled.line
  obtain ⟨added, hadded, hshort⟩ := hline.pendingOutbound
  have hexpected : link.session.receiveLine.expected = 0 := by
    rw [hunpolled.session]
    rfl
  have hlast : link.session.receiveLine.lastAccepted = none := by
    rw [hunpolled.session]
    rfl
  refine ⟨hunpolled.getPump', ?_, ?_, hlistens, hline.awaitingAckSequence, ?_, ?_, ?_⟩
  · rw [hline.config, hunpolled.address_eq]
    exact haddress
  · rw [hunpolled.simulator, hunpolled.session]
    rfl
  · rw [hexpected, hline.txSequence]
    rfl
  · rw [hlast]
    exact (nomatch ·)
  · rw [hadded]
    exact fun item hitem => hshort item (List.mem_append.mp hitem |>.resolve_left
      List.not_mem_nil)

/-- Polling decides the agreement by the reports in the queue. -/
theorem Unpolled.drainsToAgreement_iff
    (hunpolled : Unpolled config address pumpId link pump)
    (hlistens : pump.communicationEnabled = true) {reports : List IdleReport}
    (hidle : IdlePump pump reports) :
    link.DrainsToAgreement ↔
      respond (observeAll .DISCONNECTED reports) = pump.normalizedState := by
  have hsettled : link.session.core.Settled := by
    rw [hunpolled.session]
    exact SessionCore.settled_initial pumpId address
  have hstart : link.session.context.currentState = .DISCONNECTED := by
    rw [hunpolled.session]
    rfl
  obtain ⟨drained, after, hpolled, haddress, hgetPump, hempty, hcontext, hstate⟩ :=
    pollUntilEot_spec (hunpolled.quiet hlistens) hidle.reported hsettled
  have hpending : LinkState.pendingOutbound link.simulator link.address =
      pump.pendingOutbound := by
    unfold LinkState.pendingOutbound
    rw [hunpolled.getPump']
    rfl
  have hdrain : link.drain = some drained := by
    unfold LinkState.drain
    rw [hpending]
    exact hpolled
  have hdrained : LinkState.pendingOutbound drained.simulator link.address = [] := by
    unfold LinkState.pendingOutbound
    rw [hgetPump]
    exact hempty
  unfold LinkState.DrainsToAgreement
  simp only [hdrain, Option.mem_some_iff, exists_eq_left', haddress, hdrained, true_and,
    hgetPump]
  rw [hstate, hstart]
  change _ = after.context.currentState ↔ _ = pump.context.currentState
  rw [hcontext]

/-! ## One action -/

/-- Time passes a simulator without touching a pump that delivers nothing. -/
def PumpStays (address : Byte) (pump : SimulatedPump) (before after : SimulatorSession) :
    Prop :=
  after.config = before.config ∧
    (before.getPump address = some pump → after.getPump address = some pump)

instance (address : Byte) (pump : SimulatedPump) :
    IsPreorder SimulatorSession (PumpStays address pump) where
  refl _ := ⟨rfl, id⟩
  trans _ _ _ hfirst hsecond :=
    ⟨hsecond.1.trans hfirst.1, fun hpump => hsecond.2 (hfirst.2 hpump)⟩

theorem pumpStays_onPump (hstopped : pump.fillingActive = false) (env : PumpEnv)
    (other : Byte) :
    Foundation.StateEffect.Preserves (PumpStays address pump)
      (onPump other (SimulatedPump.onTimeAdvance env)) := by
  intro session
  cases hother : session.getPump other with
  | none =>
      have hsame : finalState (onPump other (SimulatedPump.onTimeAdvance env)) session =
          session := by
        unfold finalState onPump
        rw [hother]
      rw [hsame]
      exact refl_of (PumpStays address pump) session
  | some old =>
      rw [(onPump_spec hother _).1]
      refine ⟨rfl, fun hpump => ?_⟩
      rw [getPump_setPump session hother]
      split
      · rename_i hsame
        rw [hsame, hother] at hpump
        obtain rfl := Option.some.inj hpump
        rw [finalState_onTimeAdvance hstopped]
      · exact hpump

theorem pumpStays_checkResponseTimeout (hidle : pump.awaitingAckSequence = none)
    (other : Byte) (session : SimulatorSession) :
    PumpStays address pump session (session.checkResponseTimeout other) := by
  unfold checkResponseTimeout
  cases hother : session.getPump other with
  | none => exact refl_of (PumpStays address pump) session
  | some old =>
      dsimp only
      split
      · rename_i awaiting since hawaiting _
        split
        · refine ⟨rfl, fun hpump => ?_⟩
          change (session.setPump other _).getPump address = _
          rw [getPump_setPump session hother]
          split
          · rename_i hsame
            rw [hsame, hother] at hpump
            obtain rfl := Option.some.inj hpump
            rw [hidle] at hawaiting
            cases hawaiting
          · exact hpump
        · exact refl_of (PumpStays address pump) session
      · exact refl_of (PumpStays address pump) session

theorem pumpStays_advance (hstopped : pump.fillingActive = false)
    (hidle : pump.awaitingAckSequence = none) (milliseconds : Nat) :
    Foundation.StateEffect.Preserves (PumpStays address pump)
      (SimulatorSession.advance milliseconds) := by
  have hpumps : ∀ (env : PumpEnv) (addresses : List Byte),
      Foundation.StateEffect.Preserves (PumpStays address pump)
        (advancePumps env addresses) := by
    intro env addresses
    induction addresses with
    | nil => exact .of_pure _
    | cons other rest ih =>
        refine .of_bind (pumpStays_onPump hstopped env other) fun _ => ?_
        exact .of_bind (.of_modify (pumpStays_checkResponseTimeout hidle other)) fun _ => ih
  refine .of_bind (.of_modify fun session => ⟨rfl, id⟩) fun _ => ?_
  exact .of_bind .of_get fun _ => hpumps _ _

/-- What an action leaves of the session's pump. -/
def FuelingAction.after (env : PumpEnv) (pump : SimulatedPump) (action : FuelingAction) :
    SimulatedPump :=
  finalState (action.run env) pump

theorem FuelingAction.keeps_run (env : PumpEnv) (action : FuelingAction) :
    Foundation.StateEffect.Preserves LineKept (action.run env) := by
  cases action with
  | coldStartToReady => exact SimulatedPump.keeps_coldStartToReady
  | liftNozzle nozzle =>
      exact .of_bind (SimulatedPump.keeps_liftNozzle env nozzle) fun _ => .of_pure _
  | returnNozzle => exact SimulatedPump.keeps_returnNozzle
  | command uuid4 issued data =>
      exact .of_bind (SimulatedPump.keeps_handleOneTx env _ data) fun _ => .of_pure _
  | advance milliseconds => exact SimulatedPump.keeps_onTimeAdvance env

/-- The link after an action, for an idle pump. -/
theorem Unpolled.fuel (hunpolled : Unpolled config address pumpId link pump)
    (hstopped : pump.fillingActive = false) (action : FuelingAction) :
    ∃ env, Unpolled config address pumpId (link.fuel action) (action.after env pump) := by
  obtain ⟨pumpConfig, haddress, hline⟩ := hunpolled.line
  have hgetPump := hunpolled.getPump'
  have hown : ∀ action : FuelingAction, ∃ env, Unpolled config address pumpId
      { link with
        simulator := finalState
          (onPump link.address (action.run ⟨link.simulator.clockMs, action.uuid4⟩))
          link.simulator } (action.after env pump) := by
    intro action
    refine ⟨⟨link.simulator.clockMs, action.uuid4⟩, ?_⟩
    have hfinal := (onPump_spec hgetPump
      (action.run ⟨link.simulator.clockMs, action.uuid4⟩)).1
    refine ⟨?_, hunpolled.session, ?_, pumpConfig, haddress, ?_⟩
    · dsimp only
      rw [hfinal, getPump_setPump _ hgetPump, if_pos hunpolled.address_eq.symm]
      rfl
    · dsimp only
      rw [hfinal]
      exact hunpolled.simulator
    · exact trans_of LineKept hline (action.keeps_run _ pump)
  cases action with
  | advance milliseconds =>
      refine ⟨⟨link.simulator.clockMs, ""⟩, ?_⟩
      have hsame : (FuelingAction.advance milliseconds).after
          ⟨link.simulator.clockMs, ""⟩ pump = pump := finalState_onTimeAdvance hstopped _
      obtain ⟨hconfig, hstays⟩ := pumpStays_advance hstopped hline.awaitingAckSequence
        milliseconds link.simulator
      rw [hsame]
      exact ⟨hstays hunpolled.getPump, hunpolled.session, hconfig.trans hunpolled.simulator,
        pumpConfig, haddress, hline⟩
  | coldStartToReady => exact hown .coldStartToReady
  | liftNozzle nozzle => exact hown (.liftNozzle nozzle)
  | returnNozzle => exact hown .returnNozzle
  | command uuid4 issued data => exact hown (.command uuid4 issued data)

/-! ## Between deliveries -/

/-- The pump is dormant or at rest. -/
def BetweenDeliveries (pump : SimulatedPump) : Prop :=
  (∃ reports, Dormant pump reports) ∨ ∃ reports, AtRest pump reports

theorem BetweenDeliveries.idle (hbetween : BetweenDeliveries pump) :
    ∃ reports, IdlePump pump reports := by
  rcases hbetween with ⟨reports, hdormant⟩ | ⟨reports, hrest⟩
  · exact ⟨reports, hdormant.idle⟩
  · exact ⟨reports, hrest.idle⟩

theorem ControllerCommand.trans_ne_totals (issued : ControllerCommand) :
    issued.trans ≠ 0x65 := by
  cases issued <;> decide

/-- Asking for the parameters queues the status alone. -/
theorem finalState_askParameters (hstatus : pump.wayneStatus = .RESET) (env : PumpEnv)
    {trans : Byte} {data : List Byte} (hasks : AsksParameters trans data) :
    finalState (SimulatedPump.handleOneTx env trans data) pump =
      finalState (SimulatedPump.queueEncoded (IdleReport.encode .reset) "DC1_STATUS")
        pump := by
  obtain ⟨htrans, hlength, hdcc⟩ := hasks
  unfold SimulatedPump.handleOneTx
  rw [if_pos ⟨htrans, hlength⟩]
  unfold SimulatedPump.handleCd1
  rw [finalState_get_bind, hdcc]
  dsimp only
  rw [finalState_bind_pure, hstatus]
  rfl

/-- The nozzle of an idle pump outside of `NOZZLE_UP` and `AUTHORIZED` goes back. -/
theorem after_returnNozzle (env : PumpEnv)
    (hstate : pump.normalizedState ∉ [PumpState.NOZZLE_UP, .AUTHORIZED]) :
    FuelingAction.returnNozzle.after env pump =
      finalState SimulatedPump.queueStatusAndNozzle { pump with nozzleOut := false } :=
  finalState_returnNozzle hstate

theorem after_liftNozzle (env : PumpEnv) (nozzle : Nat) :
    (FuelingAction.liftNozzle nozzle).after env pump =
      if pump.priceOf? nozzle = none then pump
      else finalState SimulatedPump.queueStatusAndNozzle (lifted pump nozzle) := by
  unfold FuelingAction.after FuelingAction.run
  rw [finalState_bind_pure, finalState_liftNozzle]

theorem after_command (env : PumpEnv) (uuid4 : String) (issued : ControllerCommand)
    (data : List Byte) :
    (FuelingAction.command uuid4 issued data).after env pump =
      finalState (SimulatedPump.handleOneTx env issued.trans data) pump := by
  unfold FuelingAction.after FuelingAction.run
  rw [finalState_bind_pure]

/-- A dormant pump is brought to rest by a cold start, and stays dormant else. -/
theorem Dormant.after {reports : List IdleReport} (hdormant : Dormant pump reports)
    (env : PumpEnv) {action : FuelingAction} (hstays : action.StaysIdle pump) :
    BetweenDeliveries (action.after env pump) := by
  have hkept : ∀ {after : SimulatedPump},
      (∃ reports', IdlePump after reports') → face after = face pump →
        BetweenDeliveries after := by
    rintro after ⟨reports', hidle⟩ hface
    exact Or.inl ⟨reports', hdormant.of_face hidle hface⟩
  cases action with
  | coldStartToReady =>
      have hprice : pump.effectivePrice < priceBound := hstays
      have hstarted := hdormant.idle.coldStartToReady
        (Or.inl ⟨hdormant.state, hdormant.silent⟩)
      rw [if_pos hprice] at hstarted
      exact Or.inr hstarted
  | liftNozzle nozzle =>
      rw [after_liftNozzle]
      split
      · exact hkept ⟨reports, hdormant.idle⟩ rfl
      · obtain ⟨hidle, hstate, hlistens, -⟩ := hdormant.idle.lifted nozzle
        obtain ⟨hface, hqueued⟩ := hidle.queueStatusAndNozzle
        refine Or.inl ⟨_, hqueued, ?_, ?_⟩
        · refine (congrArg PumpFace.state hface).trans (hstate.trans ?_)
          rw [hdormant.state]
          rfl
        · exact (congrArg PumpFace.listens hface).trans (hlistens.trans hdormant.silent)
  | returnNozzle =>
      rw [after_returnNozzle env (by rw [hdormant.state]; decide)]
      have hidle : IdlePump { pump with nozzleOut := false } reports :=
        hdormant.idle.of_eq rfl rfl rfl
      obtain ⟨hface, hqueued⟩ := hidle.queueStatusAndNozzle
      exact Or.inl ⟨_, hqueued, (congrArg PumpFace.state hface).trans hdormant.state,
        (congrArg PumpFace.listens hface).trans hdormant.silent⟩
  | command uuid4 issued data =>
      rw [after_command]
      by_cases hasks : AsksParameters issued.trans data
      · rw [finalState_askParameters hdormant.idle.wayneStatus env hasks]
        obtain ⟨added, -, hidle, hface⟩ := hdormant.idle.queueEncoded .reset "DC1_STATUS"
        exact hkept ⟨_, hidle⟩ hface
      · exact Or.inl ((withstands_dormant env).handleOneTx issued.trans_ne_totals hasks
          ⟨reports, hdormant⟩)
  | advance milliseconds =>
      have hsame : (FuelingAction.advance milliseconds).after env pump = pump :=
        finalState_onTimeAdvance hdormant.idle.stopped env
      rw [hsame]
      exact Or.inl ⟨reports, hdormant⟩

/-- A pump at rest stays at rest. -/
theorem AtRest.after {reports : List IdleReport} (hrest : AtRest pump reports)
    (env : PumpEnv) {action : FuelingAction} (hstays : action.StaysIdle pump) :
    BetweenDeliveries (action.after env pump) := by
  right
  cases action with
  | coldStartToReady =>
      have hstarted := hrest.idle.coldStartToReady (Or.inr ⟨hrest.state, hrest.listens⟩)
      rw [if_pos hrest.price] at hstarted
      exact hstarted
  | liftNozzle nozzle =>
      have hunknown : pump.priceOf? nozzle = none :=
        not_not.mp fun hknown => hstays ⟨hrest.state, hknown⟩
      rw [after_liftNozzle, if_pos hunknown]
      exact ⟨reports, hrest⟩
  | returnNozzle =>
      rw [after_returnNozzle env (by rw [hrest.state]; decide)]
      have hholstered : AtRest { pump with nozzleOut := false } reports := by
        refine hrest.of_eq (hrest.idle.of_eq rfl rfl rfl) ?_
        unfold face
        rw [hrest.holstered]
        rfl
      obtain ⟨added, hadded⟩ := hholstered.queueStatusAndNozzle
      exact ⟨_, hadded⟩
  | command uuid4 issued data =>
      have hasks : ¬ AsksParameters issued.trans data := fun hasks =>
        hstays ⟨hrest.state, hasks⟩
      rw [after_command]
      exact (withstands_atRest env).handleOneTx issued.trans_ne_totals hasks
        ⟨reports, hrest⟩
  | advance milliseconds =>
      have hsame : (FuelingAction.advance milliseconds).after env pump = pump :=
        finalState_onTimeAdvance hrest.idle.stopped env
      rw [hsame]
      exact ⟨reports, hrest⟩

/-- The status alone never leads the controller to `READY`. -/
theorem respond_observe_reset {state : PumpState} (hstate : state ∈ idleStates) :
    respond (Sighting.reset.observe state) ≠ .READY := by
  revert hstate
  cases state <;> decide

/-- A step that ends the pump's rest leaves the two states different. -/
theorem BetweenDeliveries.disagrees (hbetween : BetweenDeliveries pump) (env : PumpEnv)
    {action : FuelingAction} (hends : ¬ action.StaysIdle pump) :
    ∃ reports', IdlePump (action.after env pump) reports' ∧
      (action.after env pump).communicationEnabled = true ∧
      respond (observeAll .DISCONNECTED reports') ≠
        (action.after env pump).normalizedState := by
  have hrested : pump.normalizedState = .READY → ∃ reports, AtRest pump reports := by
    intro hready
    rcases hbetween with ⟨reports, hdormant⟩ | hrest
    · exact absurd (hdormant.state.symm.trans hready) (by decide)
    · exact hrest
  cases action with
  | coldStartToReady =>
      have hlong : ¬ pump.effectivePrice < priceBound := hends
      rcases hbetween with ⟨reports, hdormant⟩ | ⟨reports, hrest⟩
      · have hstarted := hdormant.idle.coldStartToReady
          (Or.inl ⟨hdormant.state, hdormant.silent⟩)
        rw [if_neg hlong] at hstarted
        obtain ⟨hidle, hstate, hlistens⟩ := hstarted
        refine ⟨_, hidle, hlistens, ?_⟩
        rw [observeAll_append]
        exact fun hsame => respond_observe_reset
          (observeAll_mem_idleStates reports (by decide)) (hsame.trans hstate)
      · exact absurd hrest.price hlong
  | liftNozzle nozzle =>
      obtain ⟨hready, hknown⟩ := not_not.mp hends
      obtain ⟨reports, hrest⟩ := hrested hready
      obtain ⟨hidle, hstate, hlistens, hout⟩ := hrest.idle.lifted nozzle
      obtain ⟨hface, hqueued⟩ := hidle.queueStatusAndNozzle
      rw [after_liftNozzle, if_neg hknown]
      refine ⟨_, hqueued, (congrArg PumpFace.listens hface).trans
        (hlistens.trans hrest.listens), ?_⟩
      have hup : (finalState SimulatedPump.queueStatusAndNozzle
          (lifted pump nozzle)).normalizedState = .NOZZLE_UP := by
        refine (congrArg PumpFace.state hface).trans (hstate.trans ?_)
        rw [hready]
        rfl
      rw [hup, observeAll_append, hrest.ready]
      -- the status says RESET, and a lifted nozzle is not heard of there
      split
      · unfold nozzleReport
        rw [hout]
        exact PumpState.noConfusion
      · exact PumpState.noConfusion
  | returnNozzle => exact absurd trivial hends
  | command uuid4 issued data =>
      obtain ⟨hready, hasks⟩ := not_not.mp hends
      obtain ⟨reports, hrest⟩ := hrested hready
      rw [after_command, finalState_askParameters hrest.idle.wayneStatus env hasks]
      have hencoded : IdleReport.encode .reset =
          .ok [0x01, 0x01, WaynePumpStatus.RESET.code] := rfl
      rw [(queueEncoded_ok hencoded _ _).1]
      refine ⟨_, hrest.idle.enqueued hencoded _, hrest.listens, ?_⟩
      change _ ≠ pump.normalizedState
      rw [observeAll_append, hrest.ready, hready]
      exact respond_observe_reset (show PumpState.READY ∈ idleStates by decide)
  | advance milliseconds => exact absurd trivial hends

/-! ## Runs -/

theorem Unpolled.keepsAgreement_iff (hunpolled : Unpolled config address pumpId link pump)
    (action : FuelingAction) : link.KeepsAgreement action ↔ action.StaysIdle pump := by
  unfold LinkState.KeepsAgreement
  rw [hunpolled.getPump']
  simp only [Option.mem_some_iff, forall_eq']

/-- Between deliveries the controller comes to the state of the pump. -/
theorem Unpolled.refines (hunpolled : Unpolled config address pumpId link pump)
    (hbetween : BetweenDeliveries pump) : link.Refines := by
  intro hlistens
  have hears := hunpolled.pumpListens_iff.mp hlistens
  rcases hbetween with ⟨reports, hdormant⟩ | ⟨reports, hrest⟩
  · exact absurd (hdormant.silent.symm.trans hears) Bool.false_ne_true
  · rw [hunpolled.drainsToAgreement_iff hears hrest.idle, hrest.ready, hrest.state]
    rfl

/-- A step that ends the pump's rest is one after which it is not followed. -/
theorem Unpolled.not_refines_fuel (hunpolled : Unpolled config address pumpId link pump)
    (hbetween : BetweenDeliveries pump) {action : FuelingAction}
    (hends : ¬ action.StaysIdle pump) : ¬ (link.fuel action).Refines := by
  obtain ⟨reports, hidle⟩ := hbetween.idle
  obtain ⟨env, hnext⟩ := hunpolled.fuel hidle.stopped action
  obtain ⟨reports', hidle', hlistens, hdiffers⟩ := hbetween.disagrees env hends
  intro hrefines
  have hagrees := hrefines (hnext.pumpListens_iff.mpr hlistens)
  exact hdiffers ((hnext.drainsToAgreement_iff hlistens hidle').mp hagrees)

theorem Unpolled.fuel_between (hunpolled : Unpolled config address pumpId link pump)
    (hbetween : BetweenDeliveries pump) {action : FuelingAction}
    (hstays : action.StaysIdle pump) :
    ∃ after, Unpolled config address pumpId (link.fuel action) after ∧
      BetweenDeliveries after := by
  obtain ⟨reports, hidle⟩ := hbetween.idle
  obtain ⟨env, hnext⟩ := hunpolled.fuel hidle.stopped action
  refine ⟨_, hnext, ?_⟩
  rcases hbetween with ⟨_, hdormant⟩ | ⟨_, hrest⟩
  · exact hdormant.after env hstays
  · exact hrest.after env hstays

/-- The states agree after every part of a run when no step ends the rest. -/
theorem Unpolled.refines_iff (hunpolled : Unpolled config address pumpId link pump)
    (hbetween : BetweenDeliveries pump) (actions : List FuelingAction) :
    (∀ before, before <+: actions → (before.foldl LinkState.fuel link).Refines) ↔
      Along LinkState.fuel LinkState.KeepsAgreement link actions := by
  induction actions generalizing link pump with
  | nil =>
      refine ⟨fun _ => trivial, fun _ before hbefore => ?_⟩
      rw [List.prefix_nil.mp hbefore]
      exact hunpolled.refines hbetween
  | cons action rest ih =>
      constructor
      · intro hrefines
        have hstays : action.StaysIdle pump := by
          by_contra hends
          exact hunpolled.not_refines_fuel hbetween hends
            (hrefines [action] (List.prefix_append [action] rest))
        obtain ⟨after, hnext, hagain⟩ := hunpolled.fuel_between hbetween hstays
        refine ⟨(hunpolled.keepsAgreement_iff action).mpr hstays, ?_⟩
        refine (ih hnext hagain).mp fun before hbefore => ?_
        exact hrefines (action :: before) (List.cons_prefix_cons.mpr ⟨rfl, hbefore⟩)
      · rintro ⟨hkeeps, hrest⟩ before hbefore
        have hstays := (hunpolled.keepsAgreement_iff action).mp hkeeps
        obtain ⟨after, hnext, hagain⟩ := hunpolled.fuel_between hbetween hstays
        cases before with
        | nil => exact hunpolled.refines hbetween
        | cons first later =>
            obtain ⟨rfl, hlater⟩ := List.cons_prefix_cons.mp hbefore
            exact (ih hnext hagain).mpr hrest later hlater

end

/-- A simulator from its configuration and a new session. -/
theorem unpolled_start (config : SimulatorConfig) (pumpId : String) {address : Byte}
    (haddress : address ∈ config.pumps.map (·.dartAddress)) :
    ∃ pump, Unpolled config address pumpId (LinkState.start config address pumpId) pump ∧
      BetweenDeliveries pump := by
  obtain ⟨pumpConfig, hpumpAddress, hgetPump⟩ := getPump_create config haddress
  refine ⟨_, ⟨hgetPump, rfl, rfl, pumpConfig, hpumpAddress, refl_of LineKept _⟩, ?_⟩
  exact Or.inl ⟨[], ⟨rfl, rfl, .nil⟩, rfl, rfl⟩

/-- For every run, the two states agree at the end of each of its parts exactly
when every step leaves the pump between deliveries. -/
theorem states_agree_iff (config : SimulatorConfig) (address : Byte) (pumpId : String)
    (haddress : address ∈ config.pumps.map (·.dartAddress))
    (actions : List FuelingAction) :
    (∀ before, before <+: actions →
        (before.foldl LinkState.fuel (LinkState.start config address pumpId)).Refines) ↔
      Along LinkState.fuel LinkState.KeepsAgreement
        (LinkState.start config address pumpId) actions := by
  obtain ⟨pump, hunpolled, hbetween⟩ := unpolled_start config pumpId haddress
  exact hunpolled.refines_iff hbetween actions

/-- A cold start, a status request and a nozzle that is put back. -/
theorem states_agree_after_cold_start :
    Along LinkState.fuel LinkState.KeepsAgreement (LinkState.start {} 0x01 "fp-1")
        [.coldStartToReady, .command "" .CD1 [0x00], .returnNozzle] ∧
      ∀ before, before <+: [.coldStartToReady, .command "" .CD1 [0x00], .returnNozzle] →
        (before.foldl LinkState.fuel (LinkState.start {} 0x01 "fp-1")).Refines := by
  have hkeeps : Along LinkState.fuel LinkState.KeepsAgreement
      (LinkState.start {} 0x01 "fp-1")
      [.coldStartToReady, .command "" .CD1 [0x00], .returnNozzle] := by decide +kernel
  exact ⟨hkeeps, (states_agree_iff {} 0x01 "fp-1" (by decide) _).mpr hkeeps⟩

/-- A lifted nozzle after a cold start: the queue drains and the states differ. -/
theorem states_differ_after_lift :
    (∃ drained ∈ (((LinkState.start {} 0x01 "fp-1").fuel .coldStartToReady).fuel
        (.liftNozzle 1)).drain,
      LinkState.pendingOutbound drained.simulator drained.address = [] ∧
      drained.session.context.currentState = .RESET ∧
      ∃ pump ∈ drained.simulator.getPump drained.address,
        pump.normalizedState = .NOZZLE_UP) ∧
      ¬ (((LinkState.start {} 0x01 "fp-1").fuel .coldStartToReady).fuel
        (.liftNozzle 1)).Refines := by
  unfold LinkState.Refines
  decide +kernel

end Link
end Intelipump
