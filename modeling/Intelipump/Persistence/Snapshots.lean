import Mathlib.Data.Prod.Lex
import Mathlib.Tactic.Common
import Intelipump.Foundation.Tables
import Intelipump.Persistence.UnitOfWork

namespace Intelipump
namespace Persistence

open Dart.Line
open Foundation.Tables

/-!
# Pump state snapshots

The latest snapshot of a pump is the one with the highest version; among equal
versions the one that was persisted last.  A snapshot with a lower version than
the latest is ignored.
-/

namespace StateRepository

/-- `ORDER BY state_version DESC, persisted_at DESC`. -/
def order (row : PumpStateSnapshotRow) : ℕ ×ₗ ℤ := toLex (row.stateVersion, row.persistedAt)

def latest (pumpId : String) (states : List PumpStateSnapshotRow) :
    Option PumpStateSnapshotRow :=
  latestBy order (states.filter (·.pumpId = pumpId))

/-- The keyword arguments of `insert_if_meaningful`. -/
structure SnapshotFields where
  pumpId : String
  normalizedState : String
  previousState : Option String
  selectedNozzle : Option Nat
  activeTransactionId : Option String
  communicationHealthy : Bool
  rawWayneStatus : Option Byte
  sourceFrameRef : Option String
  stateVersion : Nat
deriving DecidableEq, Repr

/-- The fields say nothing new against the latest snapshot. -/
def Obsolete (fields : SnapshotFields) (latest : PumpStateSnapshotRow) : Prop :=
  fields.stateVersion < latest.stateVersion ∨
    fields.stateVersion = latest.stateVersion ∧
      latest.normalizedState = fields.normalizedState ∧
      latest.selectedNozzle = fields.selectedNozzle ∧
      latest.activeTransactionId = fields.activeTransactionId ∧
      latest.communicationHealthy = fields.communicationHealthy ∧
      latest.rawWayneStatus = fields.rawWayneStatus

instance (fields : SnapshotFields) (latest : PumpStateSnapshotRow) :
    Decidable (Obsolete fields latest) :=
  inferInstanceAs (Decidable (_ ∨ _ ∧ _ ∧ _ ∧ _ ∧ _ ∧ _))

/-- The row of a snapshot. -/
def newSnapshot (persistedAt : Int) (fields : SnapshotFields) : PumpStateSnapshotRow where
  pumpId := fields.pumpId
  normalizedState := fields.normalizedState
  previousState := fields.previousState
  selectedNozzle := fields.selectedNozzle
  activeTransactionId := fields.activeTransactionId
  communicationHealthy := fields.communicationHealthy
  rawWayneStatus := fields.rawWayneStatus
  sourceFrameRef := fields.sourceFrameRef
  stateVersion := fields.stateVersion
  persistedAt := persistedAt

/-- Insert a snapshot unless it is obsolete. -/
def insertIfMeaningful (persistedAt : Int) (fields : SnapshotFields) :
    UnitOfWork (Option PumpStateSnapshotRow) := fun db =>
  if ∃ last ∈ latest fields.pumpId db.states, Obsolete fields last then .ok none db
  else
    let row := newSnapshot persistedAt fields
    .ok (some row) { db with states := db.states ++ [row] }

theorem pumpId_of_latest {pumpId : String} {states : List PumpStateSnapshotRow}
    {row : PumpStateSnapshotRow} (hlatest : latest pumpId states = some row) :
    row.pumpId = pumpId ∧ row ∈ states := by
  have hmem := List.argmax_mem hlatest
  rw [List.mem_filter] at hmem
  exact ⟨of_decide_eq_true hmem.2, hmem.1⟩

/-- The latest snapshot after an insertion. -/
theorem latest_concat (pumpId : String) (states : List PumpStateSnapshotRow)
    (row : PumpStateSnapshotRow) :
    latest pumpId (states ++ [row]) =
      if row.pumpId = pumpId then
        match latest pumpId states with
        | none => some row
        | some last => if order last < order row then some row else some last
      else latest pumpId states := by
  unfold latest
  rw [List.filter_append, List.filter_singleton, Bool.cond_decide]
  split
  · rw [latestBy_concat]
    cases latestBy order (states.filter (·.pumpId = pumpId)) with
    | none => rfl
    | some last => rfl
  · rw [List.append_nil]

end StateRepository
end Persistence
end Intelipump
