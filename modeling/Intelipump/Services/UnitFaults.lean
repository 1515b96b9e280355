import Mathlib.Tactic.Common
import Intelipump.Foundation.Runs
import Intelipump.Services.BridgeSteps

namespace Intelipump
namespace Services

open Controller
open Dart.Line
open Domain
open Foundation.Runs
open Foundation.StateEffect
open Persistence
open PersistenceBridge
open TransactionRepository (getByUuid getByCompletionKey IsClosed)

/-!
# Changed states whose unit of work fails

The database may fail at any operation of a unit.  What the unit wrote is then rolled
back, what the handler wrote to its memory is not, and the worker goes on with the next
event (`bridge_consistent_iff`).
-/

/-- Where the database fails: while the state is noted, in the service before it is done,
when a completed sale is queued, or at the commit. -/
inductive UnitFault where
  | noting | calling | queueing | committing
deriving DecidableEq, Repr

namespace PersistenceBridge

variable (bridge : PersistenceBridge) (fault : Option UnitFault)

def failAt (site : UnitFault) : ProcessM Unit :=
  if fault = some site then throw (.operationalError "database is locked") else pure ()

/-- `beginSale` on a database that may fail. -/
def beginSaleWith (env : Env) (pumpDb : String) (address : Byte)
    (payload : StateChangedPayload) : ProcessM Unit := do
  let process ← get
  let txUuid := saleUuid env address payload process
  set (remember address txUuid process)
  failAt fault .calling
  let _ ← TransactionService.begin env (bridge.beginRequest pumpDb txUuid payload)

/-- `completeSale` on a database that may fail. -/
def completeSaleWith (env : Env) (address : Byte) (payload : StateChangedPayload) :
    ProcessM Unit := do
  let process ← get
  match knownTransaction address payload process with
  | none => return ()
  | some completeUuid =>
      failAt fault .calling
      let (_, newly) ← TransactionService.complete env (completeRequest completeUuid payload)
      failAt (if newly then fault else none) .queueing
      modify (remember address completeUuid)

/-- What a changed state means for a sale. -/
def saleUnitWith (env : Env) (pumpDb : String) (address : Byte)
    (payload : StateChangedPayload) : ProcessM Unit := do
  if BeginsDelivery payload then bridge.beginSaleWith fault env pumpDb address payload
  if EndsDelivery payload.normalizedState then completeSaleWith fault env address payload

/-- `stateChangedUnit` on a database that may fail. -/
def stateChangedUnitWith (env : Env) (pumpDb : String) (address : Byte)
    (payload : StateChangedPayload) : ProcessM Unit := do
  let process ← get
  let latest := StateRepository.latest pumpDb process.db.states
  failAt fault .noting
  let _ ← onDb (PumpStateService.persistContext env pumpDb
    (bridge.stateContext address payload latest) payload.sourceFrameRef)
  bridge.saleUnitWith fault env pumpDb address payload
  failAt fault .committing

/-- `_handle_state_changed`; the worker goes on after an exception. -/
def handleStateChangedWith (env : Env) (address : Byte) (payload : StateChangedPayload)
    (process : Process) : Process :=
  match bridge.pumpDb address with
  | none => process
  | some pumpDb =>
      (unitOfWork (bridge.stateChangedUnitWith fault env pumpDb address payload) process).2

end PersistenceBridge

section

variable {bridge : PersistenceBridge} {fault : Option UnitFault} {env : Env}
  {pumpDb : String} {address : Byte} {payload : StateChangedPayload} {process : Process}

theorem failAt_ok {site : UnitFault} (hfault : fault ≠ some site) (process : Process) :
    failAt fault site process = .ok () process := by
  unfold failAt
  rw [if_neg hfault]
  rfl

theorem failAt_error (site : UnitFault) (process : Process) :
    failAt (some site) site process =
      .error (.operationalError "database is locked") process := by
  unfold failAt
  rw [if_pos rfl]
  rfl

/-- Before the state is noted nothing has happened. -/
theorem stateChangedUnitWith_noting :
    bridge.stateChangedUnitWith (some .noting) env pumpDb address payload process =
      .error (.operationalError "database is locked") process := by
  unfold stateChangedUnitWith
  rw [get_bind, bind_error (failAt_error .noting process)]

theorem stateChangedUnitWith_noted (hfault : fault ≠ some .noting) :
    bridge.stateChangedUnitWith fault env pumpDb address payload process =
      (bridge.saleUnitWith fault env pumpDb address payload >>= fun _ =>
        failAt fault .committing) (notedProcess bridge env pumpDb address payload process) := by
  obtain ⟨snap, hpersisted⟩ := persistContext_eq env pumpDb
    (bridge.stateContext address payload
      (StateRepository.latest pumpDb process.db.states)) payload.sourceFrameRef process.db
  unfold stateChangedUnitWith
  rw [get_bind, bind_ok (failAt_ok hfault process), bind_ok (onDb_ok hpersisted)]
  rfl

theorem saleUnitWith_begins (hbegins : BeginsDelivery payload) (process : Process) :
    bridge.saleUnitWith fault env pumpDb address payload process =
      (failAt fault .calling >>= fun _ =>
        (LedgerCall.begin (bridge.beginRequest pumpDb
          (saleUuid env address payload process) payload)).run env)
        (remember address (saleUuid env address payload process) process) := by
  unfold saleUnitWith
  rw [if_pos hbegins, if_neg (not_endsDelivery_of_begins hbegins), bind_pure_unit]
  rfl

theorem saleUnitWith_plain (hbegins : ¬ BeginsDelivery payload)
    (hplain : EndsDelivery payload.normalizedState →
      knownTransaction address payload process = none) :
    bridge.saleUnitWith fault env pumpDb address payload process = .ok () process := by
  unfold saleUnitWith
  rw [if_neg hbegins]
  by_cases hends : EndsDelivery payload.normalizedState
  · rw [if_pos hends]
    change completeSaleWith fault env address payload process = _
    unfold completeSaleWith
    rw [get_bind, hplain hends]
    rfl
  · rw [if_neg hends]
    rfl

theorem saleUnitWith_ends {uuid : String} (hends : EndsDelivery payload.normalizedState)
    (hknown : knownTransaction address payload process = some uuid) :
    bridge.saleUnitWith fault env pumpDb address payload process =
      (failAt fault .calling >>= fun _ =>
        TransactionService.complete env (completeRequest uuid payload) >>= fun result =>
          failAt (if result.2 then fault else none) .queueing >>= fun _ =>
            modify (remember address uuid)) process := by
  have hbegins : ¬ BeginsDelivery payload := fun h => not_endsDelivery_of_begins h hends
  unfold saleUnitWith
  rw [if_neg hbegins, if_pos hends]
  change completeSaleWith fault env address payload process = _
  unfold completeSaleWith
  rw [get_bind, hknown]

/-- A unit that is run on until its commit, which does not fail. -/
theorem bind_failAt_none (unit : ProcessM Unit) (site : UnitFault) (process : Process) :
    (unit >>= fun _ => failAt none site) process = unit process := by
  cases hunit : unit process with
  | ok value after =>
      rw [bind_ok hunit, failAt_ok (Option.some_ne_none site).symm]
  | error error after => rw [bind_error hunit]

theorem failAt_none_bind {α : Type} (unit : ProcessM α) (site : UnitFault) (process : Process) :
    (failAt none site >>= fun _ => unit) process = unit process :=
  bind_ok (failAt_ok (Option.some_ne_none site).symm process) _

/-- Without a failure the unit is the one of the handler. -/
theorem stateChangedUnitWith_none :
    bridge.stateChangedUnitWith none env pumpDb address payload process =
      bridge.stateChangedUnit env pumpDb address payload process := by
  rw [stateChangedUnitWith_noted (by decide), bind_failAt_none]
  rcases saleCall_cases bridge env pumpDb address payload process with hplain |
    ⟨hbegins, -⟩ | ⟨hbegins, hends, uuid, hknown, -⟩
  · rw [stateChangedUnit_plain hplain]
    unfold saleCall at hplain
    split at hplain
    · cases hplain
    · rename_i hbegins
      refine saleUnitWith_plain hbegins fun hends => ?_
      rw [if_pos hends] at hplain
      exact Option.map_eq_none_iff.mp hplain
  · rw [stateChangedUnit_begins hbegins, saleUnitWith_begins hbegins, failAt_none_bind]
    rfl
  · have hnoted : knownTransaction address payload
        (notedProcess bridge env pumpDb address payload process) = some uuid := hknown
    rw [stateChangedUnit_ends hbegins hends hknown, saleUnitWith_ends hends hnoted,
      failAt_none_bind]
    unfold LedgerCall.run
    dsimp only
    rw [bind_assoc]
    have hcontinue : (fun result : TransactionRow × Bool =>
        failAt (if result.2 then none else none) .queueing >>= fun _ =>
          (modify (remember address uuid) : ProcessM Unit)) =
        fun _ => modify (remember address uuid) := by
      funext result process
      rw [ite_self, failAt_none_bind]
    rw [hcontinue]
    rfl

theorem handleStateChangedWith_none :
    bridge.handleStateChangedWith none env address payload process =
      bridge.handleStateChanged env address payload process := by
  unfold handleStateChangedWith handleStateChanged
  cases bridge.pumpDb address with
  | none => rfl
  | some pumpDb =>
      dsimp only
      unfold unitOfWork
      rw [stateChangedUnitWith_none]

/-! ## What is left of an event -/

/-- The transactions that have a committed row. -/
def uuids (process : Process) : List String :=
  process.db.transactions.map (·.transactionUuid)

theorem mem_uuids_iff {uuid : String} :
    uuid ∈ uuids process ↔ getByUuid uuid process.db ≠ none :=
  (not_congr getByUuid_eq_none_iff |>.trans not_not).symm

theorem lookup_remember (address : Byte) (uuid : String) (process : Process) :
    (remember address uuid process).txByAddress.lookup address = some uuid := by
  unfold remember
  exact List.lookup_cons_self

/-- The unit raised a `LookupError`. -/
def RaisesLookup (bridge : PersistenceBridge) (fault : Option UnitFault) (env : Env)
    (pumpDb : String) (address : Byte) (payload : StateChangedPayload) (process : Process) :
    Prop :=
  ∃ message failed, bridge.stateChangedUnitWith fault env pumpDb address payload process =
    .error (.lookupError message) failed

theorem handleStateChangedWith_eq (hpump : bridge.pumpDb address = some pumpDb) :
    bridge.handleStateChangedWith fault env address payload process =
      (unitOfWork (bridge.stateChangedUnitWith fault env pumpDb address payload)
        process).2 := by
  unfold handleStateChangedWith
  rw [hpump]

/-- The unit of a state whose sale was recorded commits, unless the commit fails. -/
theorem handleStateChangedWith_ok (hpump : bridge.pumpDb address = some pumpDb)
    (hfault : fault ≠ some .noting) {after : Process}
    (hsale : bridge.saleUnitWith fault env pumpDb address payload
      (notedProcess bridge env pumpDb address payload process) = .ok () after) :
    bridge.handleStateChangedWith fault env address payload process =
        (if fault = some .committing then { after with db := process.db } else after) ∧
      ¬ RaisesLookup bridge fault env pumpDb address payload process := by
  have hunit : bridge.stateChangedUnitWith fault env pumpDb address payload process =
      failAt fault .committing after := by
    rw [stateChangedUnitWith_noted hfault, bind_ok hsale]
  rw [handleStateChangedWith_eq hpump]
  unfold RaisesLookup unitOfWork
  rw [hunit]
  by_cases hcommitting : fault = some .committing
  · rw [hcommitting, failAt_error, if_pos rfl]
    exact ⟨rfl, fun ⟨_, _, herror⟩ => by cases herror⟩
  · rw [failAt_ok hcommitting, if_neg hcommitting]
    exact ⟨rfl, fun ⟨_, _, herror⟩ => by cases herror⟩

theorem handleStateChangedWith_error (hpump : bridge.pumpDb address = some pumpDb)
    (hfault : fault ≠ some .noting) {after : Process} {error : Raised}
    (hsale : bridge.saleUnitWith fault env pumpDb address payload
      (notedProcess bridge env pumpDb address payload process) = .error error after) :
    bridge.handleStateChangedWith fault env address payload process =
        { after with db := process.db } ∧
      (RaisesLookup bridge fault env pumpDb address payload process ↔
        ∃ message, error = .lookupError message) := by
  have hunit : bridge.stateChangedUnitWith fault env pumpDb address payload process =
      .error error after := by
    rw [stateChangedUnitWith_noted hfault, bind_error hsale]
  rw [handleStateChangedWith_eq hpump]
  unfold RaisesLookup unitOfWork
  rw [hunit]
  refine ⟨rfl, ?_⟩
  constructor
  · rintro ⟨message, failed, herror⟩
    cases herror
    exact ⟨message, rfl⟩
  · rintro ⟨message, rfl⟩
    exact ⟨message, after, rfl⟩

theorem uuids_noted : uuids (notedProcess bridge env pumpDb address payload process) =
    uuids process := by
  unfold uuids
  have hnoted : Noted process.db (notedProcess bridge env pumpDb address payload process).db :=
    noted_persisted env pumpDb _ _ process.db
  rw [hnoted.transactions]

/-- An event that begins a sale leaves its transaction as the one that the address is at;
the row is there when it was before, or when nothing failed. -/
theorem handleStateChangedWith_begins (hpump : bridge.pumpDb address = some pumpDb)
    (hbegins : BeginsDelivery payload) (hfault : fault ≠ some .noting) :
    (bridge.handleStateChangedWith fault env address payload process).txByAddress =
        (remember address (saleUuid env address payload process) process).txByAddress ∧
      (saleUuid env address payload process ∈
          uuids (bridge.handleStateChangedWith fault env address payload process) ↔
        saleUuid env address payload process ∈ uuids process ∨
          fault ≠ some .calling ∧ fault ≠ some .committing ∧
            env.uuid4 .transactionRow ∉ process.db.transactions.map (·.id)) ∧
      ¬ RaisesLookup bridge fault env pumpDb address payload process := by
  have hnoted : Noted process.db (notedProcess bridge env pumpDb address payload process).db :=
    noted_persisted env pumpDb _ _ process.db
  have hsale : bridge.saleUnitWith fault env pumpDb address payload
      (notedProcess bridge env pumpDb address payload process) = _ :=
    saleUnitWith_begins hbegins _
  -- the noted process has the same map, so it looks the same sale up
  have hknown : saleUuid env address payload
      (notedProcess bridge env pumpDb address payload process) =
        saleUuid env address payload process := rfl
  rw [hknown] at hsale
  generalize saleUuid env address payload process = uuid at hsale ⊢
  generalize hmarked : remember address uuid
    (notedProcess bridge env pumpDb address payload process) = marked at hsale
  have htransactions : marked.db.transactions = process.db.transactions := by
    rw [← hmarked]
    exact hnoted.transactions
  have hmap : marked.txByAddress = (remember address uuid process).txByAddress := by
    rw [← hmarked]
    rfl
  -- the sale is remembered before the ledger is called
  by_cases hcalling : fault = some .calling
  · subst hcalling
    rw [bind_error (failAt_error .calling marked)] at hsale
    obtain ⟨hafter, hlookup⟩ := handleStateChangedWith_error hpump hfault hsale
    rw [hafter]
    refine ⟨hmap, ⟨Or.inl, fun h => h.resolve_right fun h => h.1 rfl⟩, ?_⟩
    rw [hlookup]
    exact fun ⟨_, herror⟩ => by cases herror
  · rw [bind_ok (failAt_ok hcalling marked)] at hsale
    unfold LedgerCall.run at hsale
    dsimp only at hsale
    cases hexisting : getByUuid uuid marked.db with
    -- a known sale is handed back, whatever fails later
    | some existing =>
        have hrow : uuid ∈ uuids process := by
          rw [mem_uuids_iff]
          unfold getByUuid at hexisting ⊢
          rw [← htransactions, hexisting]
          exact Option.some_ne_none _
        rw [bind_ok (begin_existing env hexisting)] at hsale
        obtain ⟨hafter, hlookup⟩ := handleStateChangedWith_ok hpump hfault hsale
        rw [hafter]
        refine ⟨?_, iff_of_true ?_ (Or.inl hrow), hlookup⟩
        · split <;> exact hmap
        · split
          · exact hrow
          · unfold uuids
            rw [htransactions]
            exact hrow
    | none =>
        have hnew : uuid ∉ uuids process := by
          rw [mem_uuids_iff, not_not]
          unfold getByUuid at hexisting ⊢
          rw [← htransactions, hexisting]
        by_cases hid : env.uuid4 .transactionRow ∈ marked.db.transactions.map (·.id)
        · -- the row id is taken: the unit is rolled back
          rw [bind_error (begin_conflict hexisting hid)] at hsale
          obtain ⟨hafter, hlookup⟩ := handleStateChangedWith_error hpump hfault hsale
          rw [hafter]
          refine ⟨hmap, iff_of_false hnew ?_, ?_⟩
          · rintro (hrow | ⟨-, -, hfresh⟩)
            · exact hnew hrow
            · exact hfresh (htransactions ▸ hid)
          · rw [hlookup]
            exact fun ⟨_, herror⟩ => by cases herror
        · rw [bind_ok (begin_new hexisting hid)] at hsale
          obtain ⟨hafter, hlookup⟩ := handleStateChangedWith_ok hpump hfault hsale
          rw [hafter]
          -- a commit that fails keeps the map and drops the row
          by_cases hcommitting : fault = some .committing
          · rw [if_pos hcommitting]
            exact ⟨hmap, iff_of_false hnew fun h => h.elim hnew fun h => h.2.1 hcommitting,
              hlookup⟩
          · rw [if_neg hcommitting]
            refine ⟨hmap, iff_of_true ?_ (Or.inr ⟨hcalling, hcommitting, htransactions ▸ hid⟩),
              hlookup⟩
            unfold uuids begunDb
            dsimp only
            rw [List.map_append]
            exact List.mem_append_right _ (List.mem_singleton_self _)

/-- The completion key of the event is in use. -/
def KeyUsed (uuid : String) (payload : StateChangedPayload) (process : Process) : Prop :=
  getByCompletionKey (completeRequest uuid payload).sourceCompletionKey process.db ≠ none

/-- A unit that fails before the service is done leaves everything as it was. -/
theorem handleStateChangedWith_calling (hpump : bridge.pumpDb address = some pumpDb)
    {uuid : String} (hends : EndsDelivery payload.normalizedState)
    (hknown : knownTransaction address payload process = some uuid) :
    bridge.handleStateChangedWith (some .calling) env address payload process = process ∧
      ¬ RaisesLookup bridge (some .calling) env pumpDb address payload process := by
  have hsale : bridge.saleUnitWith (some .calling) env pumpDb address payload
      (notedProcess bridge env pumpDb address payload process) = _ :=
    saleUnitWith_ends hends hknown
  rw [bind_error (failAt_error .calling _)] at hsale
  obtain ⟨hafter, hlookup⟩ := handleStateChangedWith_error hpump (by decide) hsale
  rw [hafter, hlookup]
  exact ⟨rfl, fun ⟨_, herror⟩ => by cases herror⟩

/-- An event that completes a transaction leaves it as the one that the address is at. -/
theorem handleStateChangedWith_completed (hpump : bridge.pumpDb address = some pumpDb)
    {uuid : String} (hends : EndsDelivery payload.normalizedState)
    (hknown : knownTransaction address payload process = some uuid)
    (hfault : fault ≠ some .noting) (hcalling : fault ≠ some .calling)
    {tx : TransactionRow} {completed : Process}
    (hcomplete : TransactionService.complete env (completeRequest uuid payload)
      (notedProcess bridge env pumpDb address payload process) = .ok (tx, false) completed) :
    bridge.handleStateChangedWith fault env address payload process =
        (if fault = some .committing then
          { remember address uuid completed with db := process.db }
        else remember address uuid completed) ∧
      ¬ RaisesLookup bridge fault env pumpDb address payload process := by
  have hsale : bridge.saleUnitWith fault env pumpDb address payload
      (notedProcess bridge env pumpDb address payload process) = _ :=
    saleUnitWith_ends hends hknown
  rw [bind_ok (failAt_ok hcalling _), bind_ok hcomplete, if_neg Bool.false_ne_true,
    bind_ok (failAt_ok (by decide) _)] at hsale
  exact handleStateChangedWith_ok hpump hfault hsale

/-- An event that ends a sale whose row is there: the address stays where it is, or is at
that sale, and every row stays. -/
theorem handleStateChangedWith_ends (env : Env) (hpump : bridge.pumpDb address = some pumpDb)
    {uuid : String} (hends : EndsDelivery payload.normalizedState)
    (hknown : knownTransaction address payload process = some uuid)
    (hfault : fault ≠ some .noting) (hcalling : fault ≠ some .calling)
    (hrow : uuid ∈ uuids process) :
    let after := bridge.handleStateChangedWith fault env address payload process
    (after.txByAddress = process.txByAddress ∨
        after.txByAddress = (remember address uuid process).txByAddress) ∧
      uuids after = uuids process ∧
        ¬ RaisesLookup bridge fault env pumpDb address payload process := by
  intro after
  have huuids : uuids (notedProcess bridge env pumpDb address payload process) =
      uuids process := uuids_noted
  -- two completions write nothing: a used key, and a sale that is closed already
  have hkept {tx : TransactionRow}
      (hcomplete : TransactionService.complete env (completeRequest uuid payload)
        (notedProcess bridge env pumpDb address payload process) =
          .ok (tx, false) (notedProcess bridge env pumpDb address payload process)) :
      (after.txByAddress = process.txByAddress ∨
        after.txByAddress = (remember address uuid process).txByAddress) ∧
      uuids after = uuids process ∧
        ¬ RaisesLookup bridge fault env pumpDb address payload process := by
    obtain ⟨hafter, hlookup⟩ :=
      handleStateChangedWith_completed hpump hends hknown hfault hcalling hcomplete
    change after = _ at hafter
    rw [hafter]
    refine ⟨Or.inr ?_, ?_, hlookup⟩
    · split <;> rfl
    · split
      · rfl
      · exact huuids
  cases hkey : getByCompletionKey (completeRequest uuid payload).sourceCompletionKey
      (notedProcess bridge env pumpDb address payload process).db with
  | some existing => exact hkept (complete_keyUsed env hkey)
  | none =>
      cases hexisting : getByUuid (completeRequest uuid payload).transactionUuid
          (notedProcess bridge env pumpDb address payload process).db with
      | none =>
          rw [← huuids, mem_uuids_iff] at hrow
          exact absurd hexisting hrow
      | some row =>
          by_cases hclosed : IsClosed row
          · exact hkept (complete_closed env hkey hexisting hclosed)
          · obtain ⟨book, hcomplete⟩ := complete_open env hkey hexisting hclosed
            have hsale : bridge.saleUnitWith fault env pumpDb address payload
                (notedProcess bridge env pumpDb address payload process) = _ :=
              saleUnitWith_ends hends hknown
            rw [bind_ok (failAt_ok hcalling _), bind_ok hcomplete, if_pos rfl] at hsale
            -- the completion is queued after the ledger was written
            by_cases hqueueing : fault = some .queueing
            · subst hqueueing
              rw [bind_error (failAt_error .queueing _)] at hsale
              obtain ⟨hafter, hlookup⟩ := handleStateChangedWith_error hpump hfault hsale
              change after = _ at hafter
              rw [hafter, hlookup]
              exact ⟨Or.inl rfl, rfl, fun ⟨_, herror⟩ => by cases herror⟩
            · rw [bind_ok (failAt_ok hqueueing _)] at hsale
              obtain ⟨hafter, hlookup⟩ := handleStateChangedWith_ok hpump hfault hsale
              change after = _ at hafter
              rw [hafter]
              refine ⟨Or.inr ?_, ?_, hlookup⟩
              · split <;> rfl
              · split
                · rfl
                · rw [← huuids]
                  exact Foundation.Tables.map_key_updateBy _ _ _

/-- An event that ends a sale whose row is not there. -/
theorem handleStateChangedWith_unknown (env : Env) (hpump : bridge.pumpDb address = some pumpDb)
    {uuid : String} (hends : EndsDelivery payload.normalizedState)
    (hknown : knownTransaction address payload process = some uuid)
    (hfault : fault ≠ some .noting) (hcalling : fault ≠ some .calling)
    (hrow : uuid ∉ uuids process) :
    let after := bridge.handleStateChangedWith fault env address payload process
    (KeyUsed uuid payload process →
        after.txByAddress = (remember address uuid process).txByAddress ∧
          uuids after = uuids process) ∧
      (¬ KeyUsed uuid payload process → after = process ∧
        RaisesLookup bridge fault env pumpDb address payload process) := by
  intro after
  have hnoted : Noted process.db (notedProcess bridge env pumpDb address payload process).db :=
    noted_persisted env pumpDb _ _ process.db
  have huuids : uuids (notedProcess bridge env pumpDb address payload process) =
      uuids process := uuids_noted
  have hkeys : getByCompletionKey (completeRequest uuid payload).sourceCompletionKey
      (notedProcess bridge env pumpDb address payload process).db =
        getByCompletionKey (completeRequest uuid payload).sourceCompletionKey process.db := by
    unfold getByCompletionKey
    rw [hnoted.transactions]
  constructor
  · intro hused
    obtain ⟨existing, hexisting⟩ := Option.ne_none_iff_exists'.mp hused
    have hcomplete := complete_keyUsed env (hkeys.trans hexisting)
    obtain ⟨hafter, -⟩ :=
      handleStateChangedWith_completed hpump hends hknown hfault hcalling hcomplete
    change after = _ at hafter
    rw [hafter]
    constructor
    · split <;> rfl
    · split
      · rfl
      · exact huuids
  · intro hunused
    have hmissing : getByUuid (completeRequest uuid payload).transactionUuid
        (notedProcess bridge env pumpDb address payload process).db = none := by
      rw [← huuids, mem_uuids_iff, not_not] at hrow
      exact hrow
    have hcomplete := complete_unknown env (hkeys.trans (not_not.mp hunused)) hmissing
    have hsale : bridge.saleUnitWith fault env pumpDb address payload
        (notedProcess bridge env pumpDb address payload process) = _ :=
      saleUnitWith_ends hends hknown
    rw [bind_ok (failAt_ok hcalling _), bind_error hcomplete] at hsale
    obtain ⟨hafter, hlookup⟩ := handleStateChangedWith_error hpump hfault hsale
    exact ⟨hafter, hlookup.mpr ⟨_, rfl⟩⟩

/-- An event that neither begins nor ends a sale. -/
theorem handleStateChangedWith_plain (hpump : bridge.pumpDb address = some pumpDb)
    (hbegins : ¬ BeginsDelivery payload)
    (hplain : EndsDelivery payload.normalizedState →
      knownTransaction address payload process = none) (hfault : fault ≠ some .noting) :
    let after := bridge.handleStateChangedWith fault env address payload process
    after.txByAddress = process.txByAddress ∧ uuids after = uuids process ∧
      ¬ RaisesLookup bridge fault env pumpDb address payload process := by
  intro after
  have hsale : bridge.saleUnitWith fault env pumpDb address payload
      (notedProcess bridge env pumpDb address payload process) = _ :=
    saleUnitWith_plain hbegins hplain
  obtain ⟨hafter, hlookup⟩ := handleStateChangedWith_ok hpump hfault hsale
  change after = _ at hafter
  rw [hafter]
  refine ⟨?_, ?_, hlookup⟩
  · split <;> rfl
  · split
    · rfl
    · exact uuids_noted

/-- A unit that fails while the state is noted leaves everything as it was. -/
theorem handleStateChangedWith_noting (hpump : bridge.pumpDb address = some pumpDb) :
    bridge.handleStateChangedWith (some .noting) env address payload process = process ∧
      ¬ RaisesLookup bridge (some .noting) env pumpDb address payload process := by
  rw [handleStateChangedWith_eq hpump]
  unfold RaisesLookup unitOfWork
  rw [stateChangedUnitWith_noting]
  exact ⟨rfl, fun ⟨_, _, herror⟩ => by cases herror⟩

end

end Services
end Intelipump
