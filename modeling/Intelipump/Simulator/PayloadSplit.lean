import Mathlib.Tactic.Common
import Intelipump.Dart.Application.Splitter
import Intelipump.Simulator.Handling

namespace Intelipump
namespace Simulator

open Domain
open Dart.Line
open Dart.Application
open Foundation.StateEffect
open StateMachine
open SimulatedPump

/-!
# The pump and the splitter of the controller

Two loops go over the same units.  The loop of the pump hands the units that the splitter
carves to the dispatch, in their order, and reports a truncated unit at the end.  It stops
without a word at a lone last byte, which the splitter keeps as trailing bytes.
-/

/-! ## The units -/

/-- TRANS and DATA of a carved unit. -/
def unitOf (unit : RawTransaction) : Byte × List Byte := (unit.transactionId, unit.data)

/-- The pump reaches the units that the splitter carves. -/
theorem payloadUnits_eq_splitFrom (fuel index : Nat) (payload : List Byte) :
    payloadUnits fuel payload = (splitFrom fuel index payload).transactions.map unitOf := by
  induction fuel generalizing index payload with
  | zero => cases payload <;> rfl
  | succ fuel ih =>
      rcases payload with _ | ⟨header, _ | ⟨lng, rest⟩⟩
      · rfl
      · rfl
      · rw [payloadUnits, splitFrom]
        dsimp only
        split
        · rfl
        · rw [ih (index + (HEADER_SIZE + lng.toNat)), List.map_cons]
          rfl

/-! ## The calls -/

/-- A pump and the calls of the dispatch so far. -/
abbrev RecordedM := EStateM Raised (SimulatedPump × List (Byte × List Byte))

/-- `_handle_one_tx` with a record of the call, which stands also when it raises. -/
def recordedTx (env : PumpEnv) (trans : Byte) (data : List Byte) :
    RecordedM (List ProtocolFault) := fun found =>
  let calls := found.2 ++ [(trans, data)]
  match handleOneTx env trans data found.1 with
  | .ok faults after => .ok faults (after, calls)
  | .error error after => .error error (after, calls)

/-- The loop of `handle_application_payload`, over any handler of one unit. -/
def unitsLoop {m : Type → Type} [Monad m] (handle : Byte → List Byte → m (List ProtocolFault))
    (truncated : m (List ProtocolFault)) : Nat → List Byte → m (List ProtocolFault)
  | fuel + 1, transId :: lng :: rest => do
      if rest.length < lng.toNat then truncated
      else
        let faults ← handle transId (rest.take lng.toNat)
        let later ← unitsLoop handle truncated fuel (rest.drop lng.toNat)
        return faults ++ later
  | _, _ => return []

def truncationFault (env : PumpEnv) (pump : SimulatedPump) : ProtocolFault :=
  pump.fault env .MALFORMED_FRAME "truncated application transaction"

/-- The loop of the pump is this loop over the dispatch. -/
theorem handleUnits_eq_unitsLoop (env : PumpEnv) (fuel : Nat) (payload : List Byte) :
    handleUnits env fuel payload =
      unitsLoop (handleOneTx env) (do return [truncationFault env (← get)]) fuel payload := by
  induction fuel generalizing payload with
  | zero => cases payload <;> rfl
  | succ fuel ih =>
      rcases payload with _ | ⟨header, _ | ⟨lng, rest⟩⟩
      · rfl
      · rfl
      · rw [handleUnits, unitsLoop, ih]
        rfl

/-- The calls of the dispatch that one payload leads to. -/
def callsMade (env : PumpEnv) (payload : List Byte) (pump : SimulatedPump) :
    List (Byte × List Byte) :=
  (finalState (unitsLoop (recordedTx env)
    (do return [truncationFault env (← get).1]) payload.length payload) (pump, [])).2

/-- A payload that is handled without raising calls the dispatch for its units. -/
theorem unitsLoop_recordedTx {env : PumpEnv} {fuel : Nat} {payload : List Byte}
    {pump after : SimulatedPump} {faults : List ProtocolFault}
    (hhandled : handleUnits env fuel payload pump = .ok faults after)
    (calls : List (Byte × List Byte)) :
    unitsLoop (recordedTx env) (do return [truncationFault env (← get).1]) fuel payload
        (pump, calls) = .ok faults (after, calls ++ payloadUnits fuel payload) := by
  -- where the loop stops it has no more calls to add
  have hdone : ∀ (reported : List ProtocolFault) (found : SimulatedPump)
      (made : List (Byte × List Byte)),
      (.ok reported (found, made) : EStateM.Result Raised _ _) =
        .ok reported (found, made ++ []) := by
    intro reported found made
    rw [List.append_nil]
  induction fuel generalizing payload pump faults calls with
  | zero =>
      cases payload <;> cases hhandled <;> exact hdone _ _ _
  | succ fuel ih =>
      rcases payload with _ | ⟨header, _ | ⟨lng, rest⟩⟩
      · cases hhandled
        exact hdone _ _ _
      · cases hhandled
        exact hdone _ _ _
      · rw [handleUnits] at hhandled
        rw [unitsLoop, payloadUnits]
        split at hhandled
        · rename_i htruncated
          cases hhandled
          rw [if_pos htruncated, if_pos htruncated]
          exact hdone _ _ _
        · rename_i hcomplete
          rw [if_neg hcomplete, if_neg hcomplete]
          obtain ⟨first, between, hfirst, hlater⟩ := bind_eq_ok hhandled
          obtain ⟨later, final, hrest, hreturn⟩ := bind_eq_ok hlater
          cases hreturn
          have hrecorded : recordedTx env header (rest.take lng.toNat) (pump, calls) =
              .ok first (between, calls ++ [(header, rest.take lng.toNat)]) := by
            unfold recordedTx
            rw [hfirst]
          rw [bind_ok hrecorded, bind_ok (ih hrest _), List.append_assoc]
          rfl

/-! ## The truncation fault -/

def IsTruncation (fault : ProtocolFault) : Prop :=
  fault.kind = .MALFORMED_FRAME ∧ fault.message = "truncated application transaction"

instance (fault : ProtocolFault) : Decidable (IsTruncation fault) :=
  inferInstanceAs (Decidable (_ ∧ _))

/-- No fault among them is about a malformed frame. -/
def NoneMalformed (faults : List ProtocolFault) : Prop :=
  ∀ fault ∈ faults, fault.kind ≠ .MALFORMED_FRAME

theorem noneMalformed_nil : NoneMalformed [] := fun _ hmem => absurd hmem List.not_mem_nil

theorem noneMalformed_singleton {fault : ProtocolFault}
    (hkind : fault.kind ≠ .MALFORMED_FRAME) : NoneMalformed [fault] := by
  intro other hmem
  rw [List.mem_singleton.mp hmem]
  exact hkind

theorem NoneMalformed.append {first later : List ProtocolFault} (hfirst : NoneMalformed first)
    (hlater : NoneMalformed later) : NoneMalformed (first ++ later) := by
  intro fault hmem
  rcases List.mem_append.mp hmem with hleft | hright
  · exact hfirst fault hleft
  · exact hlater fault hright

/-- A command that runs reports no fault at all. -/
theorem yields_executeEligible (env : PumpEnv) (command : PumpCommand) (args : GuardedArgs) :
    Yields NoneMalformed (executeEligible env command args) := by
  have hnil : Yields NoneMalformed (pure [] : PumpM (List ProtocolFault)) :=
    Yields.of_pure noneMalformed_nil
  unfold executeEligible
  cases command with
  | SET_PRICE =>
      dsimp only
      split
      · exact Yields.of_next fun _ => Yields.of_next fun _ => hnil
      · exact Yields.of_throw _
  | PRESET_VOLUME | PRESET_AMOUNT =>
      dsimp only
      split
      · exact Yields.of_next fun _ => hnil
      · exact Yields.of_throw _
  | AUTHORIZE =>
      exact Yields.of_next fun _ => Yields.of_next fun _ => Yields.of_next fun _ =>
        Yields.of_next fun _ => hnil
  | STOP => exact Yields.of_next fun _ => hnil
  | SUSPEND | RESUME => exact Yields.of_next fun _ => Yields.of_next fun _ => hnil
  | RESET => exact Yields.of_next fun _ => Yields.of_next fun _ => Yields.of_next fun _ => hnil
  | _ => exact hnil

theorem yields_executeGuarded (env : PumpEnv) (command : PumpCommand) (args : GuardedArgs) :
    Yields NoneMalformed (executeGuarded env command args) := by
  unfold executeGuarded
  refine Yields.of_next fun _ => Yields.of_next fun pump => Yields.of_next fun _ =>
    Yields.of_ite (Yields.of_pure (noneMalformed_singleton ?_)) ?_
  · exact ProtocolFaultKind.noConfusion
  · exact yields_executeEligible env command args

theorem yields_handleCd1 (env : PumpEnv) (dcc : Byte) :
    Yields NoneMalformed (handleCd1 env dcc) := by
  have hnil : Yields NoneMalformed (pure [] : PumpM (List ProtocolFault)) :=
    Yields.of_pure noneMalformed_nil
  unfold handleCd1
  refine Yields.of_next fun pump => ?_
  cases PumpControlCommand.ofCode? dcc with
  | none => exact Yields.of_pure (noneMalformed_singleton ProtocolFaultKind.noConfusion)
  | some command =>
      cases command with
      | RETURN_STATUS | RETURN_FILLING_INFORMATION | RETURN_PUMP_IDENTITY
      | RETURN_PUMP_PARAMETERS => exact Yields.of_next fun _ => hnil
      | RESET | AUTHORIZE | STOP | SUSPEND_FUELLING_POINT | RESUME_FUELLING_POINT =>
          exact yields_executeGuarded env _ {}
      | _ => exact Yields.of_pure (noneMalformed_singleton ProtocolFaultKind.noConfusion)

theorem yields_handlePrices (env : PumpEnv) (nozzle : Nat) (data : List Byte) :
    Yields NoneMalformed (handlePrices env nozzle data) := by
  fun_induction handlePrices env nozzle data with
  | case1 nozzle first second third rest ih =>
      refine Yields.of_next fun price => Yields.of_bind (yields_executeGuarded env _ _) ?_
      intro result hresult
      exact Yields.of_bind ih fun later hlater => Yields.of_pure (hresult.append hlater)
  | case2 => exact Yields.of_pure noneMalformed_nil

/-- The dispatch reports no malformed frame. -/
theorem yields_handleOneTx (env : PumpEnv) (trans : Byte) (data : List Byte) :
    Yields NoneMalformed (handleOneTx env trans data) := by
  unfold handleOneTx
  refine Yields.of_ite (yields_handleCd1 env _) (Yields.of_ite ?_ (Yields.of_ite ?_
    (Yields.of_ite (yields_handlePrices env 1 data) (Yields.of_ite ?_ ?_))))
  · exact Yields.of_next fun _ => yields_executeGuarded env _ _
  · exact Yields.of_next fun _ => yields_executeGuarded env _ _
  · exact Yields.of_next fun _ => Yields.of_next fun _ => Yields.of_pure noneMalformed_nil
  · exact Yields.of_next fun _ =>
      Yields.of_pure (noneMalformed_singleton ProtocolFaultKind.noConfusion)

/-- The loop reports a truncation when at least a header is left over. -/
theorem truncation_iff {env : PumpEnv} {fuel : Nat} {payload : List Byte}
    {pump : SimulatedPump} {faults : List ProtocolFault} (index : Nat)
    (hfuel : payload.length ≤ fuel)
    (hreturned : returned (handleUnits env fuel payload) pump = some faults) :
    (∃ fault ∈ faults, IsTruncation fault) ↔
      2 ≤ (splitFrom fuel index payload).trailingBytes.length := by
  have hnone : ∀ {listed : List ProtocolFault}, NoneMalformed listed →
      ¬ ∃ fault ∈ listed, IsTruncation fault := by
    rintro listed hlisted ⟨fault, hmem, hkind, -⟩
    exact hlisted fault hmem hkind
  induction fuel generalizing payload pump faults index with
  | zero =>
      obtain rfl : payload = [] := List.length_eq_zero_iff.mp (Nat.le_zero.mp hfuel)
      cases hreturned
      exact iff_of_false (hnone noneMalformed_nil) (Nat.not_succ_le_zero 1)
  | succ fuel ih =>
      rcases payload with _ | ⟨header, _ | ⟨lng, rest⟩⟩
      · cases hreturned
        exact iff_of_false (hnone noneMalformed_nil) (Nat.not_succ_le_zero 1)
      · -- a lone byte ends the loop without a fault
        cases hreturned
        exact iff_of_false (hnone noneMalformed_nil) (Nat.not_le_of_lt (Nat.lt_succ_self 1))
      · rw [handleUnits] at hreturned
        rw [splitFrom]
        dsimp only
        split at hreturned
        · rename_i htruncated
          cases hreturned
          rw [if_pos htruncated]
          refine iff_of_true ⟨_, List.mem_singleton_self _, rfl, rfl⟩ ?_
          rw [List.length_cons, List.length_cons]
          omega
        · rename_i hcomplete
          rw [if_neg hcomplete]
          rw [returned_bind] at hreturned
          obtain ⟨first, hfirst, hlater⟩ := Option.bind_eq_some_iff.mp hreturned
          rw [returned_bind] at hlater
          obtain ⟨later, hrest, hvalue⟩ := Option.bind_eq_some_iff.mp hlater
          cases hvalue
          have hshort : (rest.drop lng.toNat).length ≤ fuel := by
            rw [List.length_drop]
            simp only [List.length_cons] at hfuel
            omega
          refine Iff.trans ?_ (ih (index + (HEADER_SIZE + lng.toNat)) hshort hrest)
          -- the fault is among those of the later units
          have hclean := hnone (yields_handleOneTx env _ _ _ _ hfirst)
          constructor
          · rintro ⟨fault, hmem, htruncation⟩
            rcases List.mem_append.mp hmem with hleft | hright
            · exact absurd ⟨fault, hleft, htruncation⟩ hclean
            · exact ⟨fault, hright, htruncation⟩
          · rintro ⟨fault, hmem, htruncation⟩
            exact ⟨fault, List.mem_append_right first hmem, htruncation⟩

/-! ## Payloads -/

/-- Whole units and one byte more, a TRANS without its LNG. -/
def EndsInLoneHeader (payload : List Byte) : Prop :=
  ∃ (units : List TransactionUnit) (header : Byte),
    payload = (units.map TransactionUnit.bytes).flatten ++ [header]

/-- Well formed units are units as a sender writes them. -/
theorem exists_units {carved : List RawTransaction}
    (hcarved : ∀ unit ∈ carved, unit.WellFormed) :
    ∃ units : List TransactionUnit,
      units.map TransactionUnit.bytes = carved.map (·.raw) := by
  induction carved with
  | nil => exact ⟨[], rfl⟩
  | cons first later ih =>
      obtain ⟨units, hunits⟩ := ih fun unit hunit => hcarved unit (List.mem_cons_of_mem _ hunit)
      obtain ⟨dataLen, hraw, hlength, -⟩ := hcarved first List.mem_cons_self
      have hfits : first.data.length ≤ 255 := by
        rw [← hlength]
        exact Nat.le_of_lt_succ dataLen.toNat_lt
      refine ⟨⟨first.transactionId, first.data, hfits⟩ :: units, ?_⟩
      have hdataLen : UInt8.ofNat first.data.length = dataLen := by
        rw [← hlength]
        exact UInt8.ofNat_toNat
      rw [List.map_cons, List.map_cons, hunits, hraw]
      unfold TransactionUnit.bytes TransactionUnit.dataLen
      rw [hdataLen]

theorem endsInLoneHeader_iff (payload : List Byte) :
    EndsInLoneHeader payload ↔ (splitTransactions payload).trailingBytes.length = 1 := by
  constructor
  · rintro ⟨units, header, rfl⟩
    have htail : Incomplete [header] := trivial
    obtain ⟨-, htrailing⟩ := splitFrom_units units htail 0
    rw [splitTransactions, htrailing]
    rfl
  · intro hlength
    obtain ⟨header, htrailing⟩ := List.length_eq_one_iff.mp hlength
    obtain ⟨hbytes, -⟩ := splitFrom_conserves payload.length 0 payload
    have hcarved : ∀ unit ∈ (splitTransactions payload).transactions, unit.WellFormed :=
      fun unit hunit => wellFormed_of_mem hunit
    obtain ⟨units, hunits⟩ := exists_units hcarved
    refine ⟨units, header, ?_⟩
    rw [hunits, ← htrailing]
    exact hbytes.symm

/-- The pump calls the dispatch for the transactions of the splitter, and reports a
truncation when the splitter leaves trailing bytes. -/
structure SplitsAsController (env : PumpEnv) (payload : List Byte) (pump : SimulatedPump) :
    Prop where
  calls : callsMade env payload pump = (splitTransactions payload).transactions.map unitOf
  truncation : ∀ faults, returned (handleApplicationPayload env payload) pump = some faults →
    ((∃ fault ∈ faults, IsTruncation fault) ↔ (splitTransactions payload).trailingBytes ≠ [])

/-- On a payload that is handled without raising, the pump splits as the controller does
unless one byte is left over. -/
theorem splitsAsController_iff {env : PumpEnv} {payload : List Byte} {pump : SimulatedPump}
    (hreturns : Returns (handleApplicationPayload env payload) pump) :
    SplitsAsController env payload pump ↔ ¬ EndsInLoneHeader payload := by
  obtain ⟨faults, hreturned⟩ := hreturns.exists
  have hcalls : callsMade env payload pump =
      (splitTransactions payload).transactions.map unitOf := by
    have hrecorded := unitsLoop_recordedTx (eq_ok_of_returned hreturned) []
    unfold callsMade finalState
    rw [hrecorded]
    exact payloadUnits_eq_splitFrom payload.length 0 payload
  have htruncation : (∃ fault ∈ faults, IsTruncation fault) ↔
      2 ≤ (splitTransactions payload).trailingBytes.length :=
    truncation_iff 0 le_rfl hreturned
  rw [endsInLoneHeader_iff]
  have hnonempty : (splitTransactions payload).trailingBytes ≠ [] ↔
      1 ≤ (splitTransactions payload).trailingBytes.length :=
    List.length_pos_iff.symm
  constructor
  · intro hsplits hlone
    have hreported := (hsplits.truncation faults hreturned).mpr
      (hnonempty.mpr (Nat.le_of_eq hlone.symm))
    have htwo := htruncation.mp hreported
    omega
  · intro hnotLone
    refine ⟨hcalls, fun reported hreported => ?_⟩
    obtain rfl := Option.some.inj (hreported.symm.trans hreturned)
    rw [htruncation, hnonempty]
    omega

/-- A request for the totals, and a unit cut short behind it. -/
theorem splitsAsController_totals_and_cut :
    SplitsAsController ⟨0, "tx"⟩ [0x65, 0x01, 0x02, 0x01, 0x01]
      (SimulatedPump.create { pumpId := "fp-1", dartAddress := 1 }) := by
  refine (splitsAsController_iff (by decide)).mpr ?_
  rw [endsInLoneHeader_iff]
  decide

theorem lone_header_not_reported :
    ¬ ∀ (env : PumpEnv) (payload : List Byte) (pump : SimulatedPump),
      Returns (handleApplicationPayload env payload) pump →
        SplitsAsController env payload pump := by
  intro hall
  have hsplits := hall ⟨0, "tx"⟩ [0x01]
    (SimulatedPump.create { pumpId := "fp-1", dartAddress := 1 }) rfl
  obtain ⟨fault, hmem, -⟩ := (hsplits.truncation [] rfl).mpr (by decide)
  exact List.not_mem_nil hmem

end Simulator
end Intelipump
