import Mathlib.Tactic.Common
import Intelipump.Exceptions
import Intelipump.Foundation.StateEffect
import Intelipump.Persistence.Rows

namespace Intelipump
namespace Persistence

open Dart.Line
open Foundation.StateEffect

/-!
# Units of work

A unit of work runs on the database and either commits wholly or leaves it as
it was.  What a unit takes from outside, the results of `uuid4()`, the clock
readings and the record hash, comes in with an `Env`; a `DrawSite` names the
place in the code that asks.
-/

/-- A place that calls `uuid4()` or reads the clock. -/
inductive DrawSite where
  | snapshotRow | stateQueueRow | transactionUuid | transactionRow
  | transactionQueueRow | completion | auditRow | commandRow | recovery | queueLocks
  | pumpRow (address : Byte) | requestId | outboundItem | outboundEnqueue | intake
deriving DecidableEq, Repr

/-- The data an audit record is hashed over. -/
structure AuditPayload where
  id : String
  correlationId : Option String
  actor : String
  source : String
  action : String
  stationId : String
  pumpId : Option String
  previousState : Option String
  resultingState : Option String
  result : String
  details : Option Json
  createdAt : Int
deriving Repr

structure Env where
  uuid4 : DrawSite → String
  now : DrawSite → Int
  /-- `compute_record_hash`: SHA-256 of the previous hash and the payload. -/
  computeRecordHash : String → AuditPayload → String

/-- Identifiers and readings that are the number of the unit; a digest that tells
records apart by their identifiers. -/
def numberedEnv (number : Nat) : Env where
  uuid4 _ := toString number
  now _ := number
  computeRecordHash previousHash payload := "sha256:" ++ previousHash ++ "|" ++ payload.id

abbrev UnitOfWork := EStateM Raised Database

section

variable {α : Type}

/-- The database after a unit of work. -/
def commit (unit : UnitOfWork α) (db : Database) : Database :=
  match unit db with
  | .ok _ after => after
  | .error _ _ => db

/-- `async with unit_of_work(…)` in code that raises on: a raise leaves the database as
it was. -/
def atomically (unit : UnitOfWork α) : UnitOfWork α := fun db =>
  match unit db with
  | .ok value after => .ok value after
  | .error error _ => .error error db

/-- The unit of work raises nothing. -/
def Commits (unit : UnitOfWork α) (db : Database) : Prop := (returned unit db).isSome

instance (unit : UnitOfWork α) (db : Database) : Decidable (Commits unit db) :=
  inferInstanceAs (Decidable (_ = true))

theorem eq_ok_of_atomically {unit : UnitOfWork α} {db after : Database} {value : α}
    (hunit : atomically unit db = .ok value after) : unit db = .ok value after := by
  unfold atomically at hunit
  cases hran : unit db with
  | ok result next =>
      rw [hran] at hunit
      exact hunit
  | error error next =>
      rw [hran] at hunit
      cases hunit

end

end Persistence
end Intelipump
