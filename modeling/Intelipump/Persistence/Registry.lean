import Mathlib.Data.List.Sort
import Mathlib.Tactic.Common
import Intelipump.Foundation.Tables
import Intelipump.Persistence.UnitOfWork

namespace Intelipump
namespace Persistence

open Dart.Line
open Foundation.Tables

/-!
# Pumps and commands

The two repositories of what a station is told about: its pumps and the commands
that were sent to it.  The columns that the tables declare unique are checked.
-/

namespace PumpRepository

/-- The row of another pump of the station that is at the address. -/
def AddressTaken (stationId id : String) (dartAddress : Byte) (db : Database) : Prop :=
  ∃ row ∈ db.pumps, row.id ≠ id ∧ row.stationId = stationId ∧ row.dartAddress = dartAddress

instance (stationId id : String) (dartAddress : Byte) (db : Database) :
    Decidable (AddressTaken stationId id dartAddress db) :=
  inferInstanceAs (Decidable (∃ row ∈ db.pumps, _ ∧ _ ∧ _))

/-- Insert a pump under a new identifier, or move it to the address. -/
def upsert (uuid4 stationId logicalPumpId : String) (dartAddress : Byte) :
    UnitOfWork PumpRow := fun db =>
  match db.pumps.find? fun row =>
      row.stationId = stationId ∧ row.logicalPumpId = logicalPumpId with
  | none =>
      let row : PumpRow := ⟨uuid4, stationId, logicalPumpId, dartAddress⟩
      if uuid4 ∈ db.pumps.map (·.id) ∨ AddressTaken stationId uuid4 dartAddress db then
        .error (.integrityError "UNIQUE constraint failed: pumps") db
      else .ok row { db with pumps := db.pumps ++ [row] }
  | some old =>
      let row := { old with dartAddress := dartAddress }
      if AddressTaken stationId old.id dartAddress db then
        .error (.integrityError "UNIQUE constraint failed: pumps") db
      else .ok row { db with pumps := updateBy (·.id) row db.pumps }

def getById (pumpId : String) (db : Database) : Option PumpRow :=
  db.pumps.find? (·.id = pumpId)

/-- The pumps of a station by address. -/
def listForStation (stationId : String) (db : Database) : List PumpRow :=
  (db.pumps.filter (·.stationId = stationId)).insertionSort (·.dartAddress ≤ ·.dartAddress)

end PumpRepository

namespace CommandRepository

/-- Insert a command; its `correlation_id` has to be new. -/
def create (row : CommandRow) : UnitOfWork CommandRow := fun db =>
  if row.correlationId ∈ db.commands.map (·.correlationId) then
    .error (.integrityError "UNIQUE constraint failed: commands.correlation_id") db
  else .ok row { db with commands := db.commands ++ [row] }

def get (correlationId : String) (db : Database) : Option CommandRow :=
  db.commands.find? (·.correlationId = correlationId)

/-- A row with a new status. -/
def updated (row : CommandRow) (status : CommandStatus) (completedAt : Option Int)
    (resultPayload : Option Json) : CommandRow :=
  { row with
    status := status
    completedAt := completedAt.or row.completedAt
    resultPayload := resultPayload.or row.resultPayload }

def updateStatus (correlationId : String) (status : CommandStatus)
    (completedAt : Option Int) (resultPayload : Option Json) :
    UnitOfWork (Option CommandRow) := fun db =>
  match get correlationId db with
  | none => .ok none db
  | some old =>
      let row := updated old status completedAt resultPayload
      .ok (some row) { db with commands := updateBy (·.correlationId) row db.commands }

/-- The commands of a station that are pending or in progress. -/
def listPendingOrInProgress (stationId : String) (db : Database) : List CommandRow :=
  db.commands.filter fun row =>
    row.stationId = stationId ∧ row.status ∈ [CommandStatus.PENDING, .IN_PROGRESS]

end CommandRepository
end Persistence
end Intelipump
