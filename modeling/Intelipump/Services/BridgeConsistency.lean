import Mathlib.Tactic.Common
import Intelipump.Foundation.Runs
import Intelipump.Services.UnitFaults

namespace Intelipump
namespace Services

open Controller
open Dart.Line
open Foundation.Runs
open Persistence
open PumpStateService
open PersistenceBridge

/-!
# The memory of the bridge and the database

A sale is remembered before its row is committed, and a snapshot shares its unit of work
with the completion of the sale.  So a unit that rolls back can leave an address at a
transaction without a row, and a completion that raises takes the snapshot with it
(`bridge_consistent_iff`).
-/

/-- A changed state of a pump, and where its unit of work fails, if it does. -/
structure StateEvent where
  env : Env
  payload : StateChangedPayload
  fault : Option UnitFault := none

def StateEvent.run (bridge : PersistenceBridge) (address : Byte) (process : Process)
    (event : StateEvent) : Process :=
  bridge.handleStateChangedWith event.fault event.env address event.payload process

/-- The transaction that the address is at, if any, has a committed row. -/
def Anchored (address : Byte) (process : Process) : Prop :=
  ∀ uuid, process.txByAddress.lookup address = some uuid → uuid ∈ uuids process

/-- When the completion raises a `LookupError`, the snapshots are still those after the
state was noted. -/
def StateEvent.SnapshotKept (bridge : PersistenceBridge) (address : Byte) (process : Process)
    (event : StateEvent) : Prop :=
  ∀ pumpDb, bridge.pumpDb address = some pumpDb →
    RaisesLookup bridge event.fault event.env pumpDb address event.payload process →
      (event.run bridge address process).db.states =
        (stateNoted bridge event.env pumpDb address event.payload process.db).states

/-- The latest snapshot of the pump makes the new one obsolete. -/
def NothingToNote (bridge : PersistenceBridge) (pumpDb : String) (address : Byte)
    (payload : StateChangedPayload) (db : Database) : Prop :=
  ∃ last ∈ StateRepository.latest pumpDb db.states,
    StateRepository.Obsolete (snapshotFields pumpDb
      (bridge.stateContext address payload (StateRepository.latest pumpDb db.states))
      payload.sourceFrameRef) last

/-- A sale that begins has its row already, or its unit goes through and creates one; a
sale that ends has its row, or a fresh completion key and nothing that were to be noted.  A
unit that fails before these points is harmless. -/
def StateEvent.KeepsConsistent (bridge : PersistenceBridge) (address : Byte)
    (process : Process) (event : StateEvent) : Prop :=
  ∀ pumpDb, bridge.pumpDb address = some pumpDb → event.fault ≠ some .noting →
    (BeginsDelivery event.payload →
      saleUuid event.env address event.payload process ∈ uuids process ∨
        event.fault ≠ some .calling ∧ event.fault ≠ some .committing ∧
          event.env.uuid4 .transactionRow ∉ process.db.transactions.map (·.id)) ∧
    (EndsDelivery event.payload.normalizedState → event.fault ≠ some .calling →
      ∀ uuid, knownTransaction address event.payload process = some uuid →
        uuid ∈ uuids process ∨
          ¬ KeyUsed uuid event.payload process ∧
            NothingToNote bridge pumpDb address event.payload process.db)

section

variable {bridge : PersistenceBridge} {address : Byte} {process : Process}

/-- A snapshot is stored unless there is nothing to note. -/
theorem states_stateNoted_iff (env : Env) {pumpDb : String} {payload : StateChangedPayload}
    {db : Database} :
    db.states = (stateNoted bridge env pumpDb address payload db).states ↔
      NothingToNote bridge pumpDb address payload db := by
  unfold stateNoted persisted NothingToNote
  dsimp only
  split
  · rename_i hobsolete
    exact iff_of_true rfl hobsolete
  · rename_i hnew
    refine iff_of_false (fun hsame => ?_) hnew
    exact List.cons_ne_nil _ _ (List.self_eq_append_right.mp hsame)

theorem Anchored.of_eq {after : Process} (hanchored : Anchored address process)
    (hmap : after.txByAddress = process.txByAddress) (huuids : uuids after = uuids process) :
    Anchored address after := by
  intro uuid hlookup
  rw [hmap] at hlookup
  rw [huuids]
  exact hanchored uuid hlookup

/-- An address that was just mapped is anchored at that transaction. -/
theorem anchored_remember_iff {after : Process} {uuid : String}
    (hmap : after.txByAddress = (remember address uuid process).txByAddress) :
    Anchored address after ↔ uuid ∈ uuids after := by
  have hlookup : after.txByAddress.lookup address = some uuid := by
    rw [hmap]
    exact lookup_remember address uuid process
  constructor
  · exact fun hanchored => hanchored uuid hlookup
  · intro hrow other hother
    rw [hlookup] at hother
    cases hother
    exact hrow

theorem snapshotKept_of_not_raises {event : StateEvent} {pumpDb : String}
    (hpump : bridge.pumpDb address = some pumpDb)
    (hraises : ¬ RaisesLookup bridge event.fault event.env pumpDb address event.payload
      process) : event.SnapshotKept bridge address process := by
  intro other hother hraised
  rw [hpump] at hother
  cases hother
  exact absurd hraised hraises

section

variable {env : Env} {pumpDb : String} {payload : StateChangedPayload}
  {fault : Option UnitFault}

/-- What the condition says of an event that ends a sale. -/
theorem keepsConsistent_ends_iff {uuid : String} (hpump : bridge.pumpDb address = some pumpDb)
    (hends : EndsDelivery payload.normalizedState)
    (hknown : knownTransaction address payload process = some uuid)
    (hbegins : ¬ BeginsDelivery payload) (hnoting : fault ≠ some .noting)
    (hcalling : fault ≠ some .calling) :
    StateEvent.KeepsConsistent bridge address process ⟨env, payload, fault⟩ ↔
      uuid ∈ uuids process ∨ ¬ KeyUsed uuid payload process ∧
        NothingToNote bridge pumpDb address payload process.db := by
  constructor
  · exact fun hcondition => (hcondition pumpDb hpump hnoting).2 hends hcalling uuid hknown
  · intro hsale other hother _
    rw [hpump] at hother
    cases hother
    refine ⟨fun hbegun => absurd hbegun hbegins, fun _ _ other hother => ?_⟩
    rw [hknown] at hother
    cases hother
    exact hsale

/-- An event that ends a sale and reaches the call that completes it. -/
theorem run_ends_consistent_iff (hanchored : Anchored address process) {uuid : String}
    (hpump : bridge.pumpDb address = some pumpDb)
    (hends : EndsDelivery payload.normalizedState)
    (hknown : knownTransaction address payload process = some uuid)
    (hnoting : fault ≠ some .noting) (hcalling : fault ≠ some .calling) :
    Anchored address (StateEvent.run bridge address process ⟨env, payload, fault⟩) ∧
        StateEvent.SnapshotKept bridge address process ⟨env, payload, fault⟩ ↔
      uuid ∈ uuids process ∨ ¬ KeyUsed uuid payload process ∧
        NothingToNote bridge pumpDb address payload process.db := by
  have hrun : StateEvent.run bridge address process ⟨env, payload, fault⟩ =
      bridge.handleStateChangedWith fault env address payload process := rfl
  rw [hrun]
  by_cases hrow : uuid ∈ uuids process
  · obtain ⟨hmap, huuids, hraises⟩ := handleStateChangedWith_ends env hpump hends
      hknown hnoting hcalling hrow
    refine iff_of_true ⟨?_, snapshotKept_of_not_raises hpump hraises⟩ (Or.inl hrow)
    rcases hmap with hmap | hmap
    · exact hanchored.of_eq hmap huuids
    · rw [anchored_remember_iff hmap, huuids]
      exact hrow
  · obtain ⟨hused, hunused⟩ := handleStateChangedWith_unknown env hpump hends
      hknown hnoting hcalling hrow
    by_cases hkey : KeyUsed uuid payload process
    · -- the sale of that key is found, and the address remembers a transaction without a row
      obtain ⟨hmap, huuids⟩ := hused hkey
      refine iff_of_false (fun h => ?_) fun h => h.elim hrow fun h => h.1 hkey
      have hafter := (anchored_remember_iff hmap).mp h.1
      rw [huuids] at hafter
      exact hrow hafter
    · -- the completion raises, and the unit rolls back with the snapshot in it
      obtain ⟨hsame, hraises⟩ := hunused hkey
      constructor
      · rintro ⟨-, hkept⟩
        refine Or.inr ⟨hkey, (states_stateNoted_iff env).mp ?_⟩
        have hstates := hkept pumpDb hpump hraises
        rw [hrun, hsame] at hstates
        exact hstates
      · intro h
        have hnothing := (h.resolve_left hrow).2
        refine ⟨by rw [hsame]; exact hanchored, fun other hother _ => ?_⟩
        rw [hpump] at hother
        cases hother
        rw [hrun, hsame]
        exact (states_stateNoted_iff env).mpr hnothing

end

/-- One event keeps the address anchored and its snapshot exactly when it meets the
condition. -/
theorem run_consistent_iff (hanchored : Anchored address process) (event : StateEvent) :
    Anchored address (event.run bridge address process) ∧
        event.SnapshotKept bridge address process ↔
      event.KeepsConsistent bridge address process := by
  obtain ⟨env, payload, fault⟩ := event
  have hrun : StateEvent.run bridge address process ⟨env, payload, fault⟩ =
      bridge.handleStateChangedWith fault env address payload process := rfl
  cases hpump : bridge.pumpDb address with
  | none =>
      have hsame : bridge.handleStateChangedWith fault env address payload process =
          process := by
        unfold handleStateChangedWith
        rw [hpump]
      rw [hrun, hsame]
      refine iff_of_true ⟨hanchored, fun _ hother => ?_⟩ fun _ hother => ?_
      · rw [hpump] at hother
        cases hother
      · rw [hpump] at hother
        cases hother
  | some pumpDb =>
      by_cases hnoting : fault = some .noting
      · subst hnoting
        obtain ⟨hsame, hraises⟩ : bridge.handleStateChangedWith (some .noting) env address
            payload process = process ∧ _ := handleStateChangedWith_noting hpump
        rw [hrun, hsame]
        exact iff_of_true ⟨hanchored, snapshotKept_of_not_raises hpump hraises⟩
          fun _ _ hfault => absurd rfl hfault
      -- the first branch of the handler: a sale begins, and is remembered before the commit
      by_cases hbegins : BeginsDelivery payload
      · obtain ⟨hmap, hrow, hraises⟩ : (bridge.handleStateChangedWith fault env address payload
            process).txByAddress = _ ∧ _ := handleStateChangedWith_begins hpump hbegins hnoting
        rw [hrun]
        have hends := not_endsDelivery_of_begins hbegins
        constructor
        · rintro ⟨hafter, -⟩ _ _ _
          exact ⟨fun _ => hrow.mp ((anchored_remember_iff hmap).mp hafter),
            fun h => absurd h hends⟩
        · intro hcondition
          refine ⟨(anchored_remember_iff hmap).mpr (hrow.mpr ?_),
            snapshotKept_of_not_raises hpump hraises⟩
          exact (hcondition pumpDb hpump hnoting).1 hbegins
      -- no sale begins or ends: the event only notes the state
      by_cases hplain : EndsDelivery payload.normalizedState →
          knownTransaction address payload process = none
      · obtain ⟨hmap, huuids, hraises⟩ : (bridge.handleStateChangedWith fault env address
            payload process).txByAddress = _ ∧ _ :=
          handleStateChangedWith_plain hpump hbegins hplain hnoting
        rw [hrun]
        refine iff_of_true ⟨hanchored.of_eq hmap huuids,
          snapshotKept_of_not_raises hpump hraises⟩ fun _ _ _ => ⟨fun h => absurd h hbegins, ?_⟩
        intro hends _ uuid hknown
        rw [hplain hends] at hknown
        cases hknown
      obtain ⟨hends, hsome⟩ := Classical.not_imp.mp hplain
      obtain ⟨uuid, hknown⟩ := Option.ne_none_iff_exists'.mp hsome
      by_cases hcalling : fault = some .calling
      · subst hcalling
        obtain ⟨hsame, hraises⟩ : bridge.handleStateChangedWith (some .calling) env address
            payload process = process ∧ _ := handleStateChangedWith_calling hpump hends hknown
        rw [hrun, hsame]
        exact iff_of_true ⟨hanchored, snapshotKept_of_not_raises hpump hraises⟩
          fun _ _ _ => ⟨fun h => absurd h hbegins, fun _ hfault => absurd rfl hfault⟩
      · rw [keepsConsistent_ends_iff hpump hends hknown hbegins hnoting hcalling]
        exact run_ends_consistent_iff hanchored hpump hends hknown hnoting hcalling

end

/-- The changed states of a pump one after another, any of whose units may roll back, from
an address that is at no transaction: after every event the address is at no transaction
or at one with a committed row, and no snapshot is lost because a completion raised,
exactly when every event meets the condition. -/
theorem bridge_consistent_iff (bridge : PersistenceBridge) (address : Byte)
    (process : Process) (hfresh : process.txByAddress.lookup address = none)
    (events : List StateEvent) :
    (∀ earlier, earlier <+: events →
        Anchored address (earlier.foldl (StateEvent.run bridge address) process)) ∧
      Along (StateEvent.run bridge address)
        (fun process event => event.SnapshotKept bridge address process) process events ↔
    Along (StateEvent.run bridge address)
      (fun process event => event.KeepsConsistent bridge address process) process events := by
  have hinitial : Anchored address process := by
    intro uuid hlookup
    rw [hfresh] at hlookup
    cases hlookup
  have hstep (process : Process) (event : StateEvent) (hanchored : Anchored address process) :
      Anchored address (event.run bridge address process) ∧
          event.SnapshotKept bridge address process ↔
        event.KeepsConsistent bridge address process := run_consistent_iff hanchored event
  exact forall_prefix_and_along_iff hstep hinitial

/-- The pump begins to deliver. -/
def begunPayload : StateChangedPayload where
  event := .FILLING_STARTED
  previousState := .AUTHORIZED
  normalizedState := .FILLING
  stateVersion := 1
  selectedNozzle := some 1
  activeTransactionId := none
  communicationHealthy := true
  rawWayneStatus := none
  sourceFrameRef := none
  completionEvidenceKey := none

/-- The delivery ends. -/
def filledPayload : StateChangedPayload := { begunPayload with
  event := .FILLING_COMPLETED
  previousState := .FILLING
  normalizedState := .FILLING_COMPLETE
  stateVersion := 2
  completionEvidenceKey := some "key-1" }

/-- A sale in spite of failures: the unit that begins it fails before anything was written
and is repeated, and the one that completes it is rolled back at its commit. -/
def failingEvents : List StateEvent :=
  [⟨numberedEnv 1, begunPayload, some .noting⟩, ⟨numberedEnv 2, begunPayload, none⟩,
    ⟨numberedEnv 3, filledPayload, some .committing⟩, ⟨numberedEnv 4, filledPayload, none⟩]

theorem bridge_consistent_failing :
    (∀ earlier, earlier <+: failingEvents →
        Anchored 1 (earlier.foldl (StateEvent.run onePump 1) {})) ∧
      (failingEvents.foldl (StateEvent.run onePump 1) {}).txByAddress.lookup 1 = some "2" := by
  have hconsistent := (bridge_consistent_iff onePump 1 {} rfl failingEvents).mpr
  have hknown : ∀ number ∈ [2, 3], ∀ uuid ∈ knownTransaction 1 filledPayload
      ((failingEvents.take number).foldl (StateEvent.run onePump 1) {}),
        uuid ∈ uuids ((failingEvents.take number).foldl (StateEvent.run onePump 1) {}) := by
    decide +kernel
  refine ⟨(hconsistent ⟨?_, ?_, ?_, ?_, trivial⟩).1, by decide +kernel⟩
  · exact fun _ _ hnoting => absurd rfl hnoting
  · intro _ _ _
    refine ⟨fun _ => Or.inr ⟨by decide, by decide, ?_⟩, fun hends => absurd hends (by decide)⟩
    decide +kernel
  · intro _ _ _
    refine ⟨fun hbegins => absurd hbegins (by decide), fun _ _ uuid huuid => Or.inl ?_⟩
    exact hknown 2 (by decide) uuid huuid
  · intro _ _ _
    refine ⟨fun hbegins => absurd hbegins (by decide), fun _ _ uuid huuid => Or.inl ?_⟩
    exact hknown 3 (by decide) uuid huuid

/-- The commit of the unit that begins a sale fails: the address is at a transaction
without a row. -/
theorem bridge_not_consistent :
    ¬ ∀ (bridge : PersistenceBridge) (address : Byte) (process : Process),
      process.txByAddress.lookup address = none → ∀ events : List StateEvent,
        (∀ earlier, earlier <+: events →
          Anchored address (earlier.foldl (StateEvent.run bridge address) process)) ∧
        Along (StateEvent.run bridge address)
          (fun process event => event.SnapshotKept bridge address process) process events := by
  intro hall
  have hanchored := (hall onePump 1 {} rfl
    [⟨numberedEnv 1, begunPayload, some .committing⟩]).1 _ List.prefix_rfl "1" (by decide)
  revert hanchored
  decide

end Services
end Intelipump
