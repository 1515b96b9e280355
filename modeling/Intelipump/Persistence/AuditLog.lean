import Mathlib.Tactic.Common
import Intelipump.Foundation.HashChain
import Intelipump.Foundation.Tables
import Intelipump.Persistence.UnitOfWork

namespace Intelipump
namespace Persistence

open Foundation.HashChain
open Foundation.Tables

/-!
# The audit log

Every record carries the hash of the record before it.  The order of the chain
is not stored: both the record to append after and the order of verification
come from sorting by `created_at`.  So the chain verifies exactly when the
clock went forward from append to append (`verifyChain_iff_clock`).
-/

def AUDIT_GENESIS_HASH : String := "GENESIS_V1"

/-- The data of a stored record. -/
def AuditLogRow.payload (row : AuditLogRow) : AuditPayload where
  id := row.id
  correlationId := row.correlationId
  actor := row.actor
  source := row.source
  action := row.action
  stationId := row.stationId
  pumpId := row.pumpId
  previousState := row.previousState
  resultingState := row.resultingState
  result := row.result
  details := row.details
  createdAt := row.createdAt

/-- The keyword arguments of `append`. -/
structure AuditEntry where
  actor : String
  source : String
  action : String
  stationId : String
  result : String
  correlationId : Option String := none
  pumpId : Option String := none
  previousState : Option String := none
  resultingState : Option String := none
  details : Option Json := none
deriving Repr

namespace AuditRepository

/-- `ORDER BY created_at DESC LIMIT 1`. -/
def latestHash (rows : List AuditLogRow) : String :=
  ((latestBy AuditLogRow.createdAt rows).map (·.recordHash)).getD AUDIT_GENESIS_HASH

/-- The record of an append. -/
def newRecord (computeRecordHash : String → AuditPayload → String) (recordId : String)
    (createdAt : Int) (entry : AuditEntry) (rows : List AuditLogRow) : AuditLogRow :=
  let previousHash := latestHash rows
  let payload : AuditPayload := {
    id := recordId
    correlationId := entry.correlationId
    actor := entry.actor
    source := entry.source
    action := entry.action
    stationId := entry.stationId
    pumpId := entry.pumpId
    previousState := entry.previousState
    resultingState := entry.resultingState
    result := entry.result
    details := entry.details
    createdAt := createdAt }
  { id := recordId
    correlationId := entry.correlationId
    actor := entry.actor
    source := entry.source
    action := entry.action
    stationId := entry.stationId
    pumpId := entry.pumpId
    previousState := entry.previousState
    resultingState := entry.resultingState
    result := entry.result
    details := entry.details
    createdAt := createdAt
    previousHash := previousHash
    recordHash := computeRecordHash previousHash payload }

def append (env : Env) (entry : AuditEntry) : UnitOfWork AuditLogRow := do
  let db ← get
  let row := newRecord env.computeRecordHash (env.uuid4 .auditRow) (env.now .auditRow)
    entry db.auditLog
  set { db with auditLog := db.auditLog ++ [row] }
  return row

/-- `ORDER BY created_at ASC`. -/
def listAll (rows : List AuditLogRow) : List AuditLogRow :=
  byTime AuditLogRow.createdAt rows

/-! ## Verification -/

inductive ChainFault where
  | previousHashMismatch | recordHashMismatch
deriving DecidableEq, Repr

def ChainFault.reason : ChainFault → String
  | .previousHashMismatch => "previous_hash_mismatch"
  | .recordHashMismatch => "record_hash_mismatch"

/-- The first record that breaks the chain: how many were checked, the hash
that was expected, the record and its fault. -/
def firstFault (computeRecordHash : String → AuditPayload → String) :
    Nat → String → List AuditLogRow → Option (Nat × String × AuditLogRow × ChainFault)
  | _, _, [] => none
  | checked, expectedPrev, row :: rest =>
      if row.previousHash ≠ expectedPrev then
        some (checked, expectedPrev, row, .previousHashMismatch)
      else if computeRecordHash row.previousHash row.payload ≠ row.recordHash then
        some (checked, expectedPrev, row, .recordHashMismatch)
      else firstFault computeRecordHash (checked + 1) row.recordHash rest

structure ChainReport where
  valid : Bool
  recordsChecked : Nat
  firstInvalidRecordId : Option String
  genesis : String
  reason : Option String
deriving DecidableEq, Repr

def verifyChainReport (computeRecordHash : String → AuditPayload → String)
    (rows : List AuditLogRow) : ChainReport :=
  let records := listAll rows
  match firstFault computeRecordHash 0 AUDIT_GENESIS_HASH records with
  | some (checked, _, row, fault) =>
      { valid := false
        recordsChecked := checked
        firstInvalidRecordId := some row.id
        genesis := AUDIT_GENESIS_HASH
        reason := some fault.reason }
  | none =>
      { valid := true
        recordsChecked := records.length
        firstInvalidRecordId := none
        genesis := AUDIT_GENESIS_HASH
        reason := none }

def verifyChain (computeRecordHash : String → AuditPayload → String)
    (rows : List AuditLogRow) : Except Raised Unit :=
  match firstFault computeRecordHash 0 AUDIT_GENESIS_HASH (listAll rows) with
  | some (_, expectedPrev, row, .previousHashMismatch) =>
      .error (.auditChainError (s!"broken previous_hash at {row.id}: " ++
        s!"expected {expectedPrev}, got {row.previousHash}"))
  | some (_, _, row, .recordHashMismatch) =>
      .error (.auditChainError s!"hash mismatch at {row.id}")
  | none => .ok ()

variable {computeRecordHash : String → AuditPayload → String} {rows : List AuditLogRow}

theorem firstFault_eq_none_iff {checked : Nat} {expectedPrev : String} :
    firstFault computeRecordHash checked expectedPrev rows = none ↔
      Linked AuditLogRow.previousHash AuditLogRow.recordHash expectedPrev rows ∧
        ∀ row ∈ rows, computeRecordHash row.previousHash row.payload = row.recordHash := by
  induction rows generalizing checked expectedPrev with
  | nil => exact ⟨fun _ => ⟨trivial, fun _ h => absurd h List.not_mem_nil⟩, fun _ => rfl⟩
  | cons row rest ih =>
      rw [firstFault, Linked, List.forall_mem_cons]
      by_cases hprevious : row.previousHash = expectedPrev
      · rw [if_neg (not_not.mpr hprevious)]
        by_cases hhash : computeRecordHash row.previousHash row.payload = row.recordHash
        · rw [if_neg (not_not.mpr hhash), ih]
          tauto
        · rw [if_pos hhash]
          exact ⟨fun h => absurd h (Option.some_ne_none _), fun h => absurd h.2.1 hhash⟩
      · rw [if_pos hprevious]
        exact ⟨fun h => absurd h (Option.some_ne_none _), fun h => absurd h.1.1 hprevious⟩

theorem verifyChain_eq_ok_iff : verifyChain computeRecordHash rows = .ok () ↔
    firstFault computeRecordHash 0 AUDIT_GENESIS_HASH (listAll rows) = none := by
  unfold verifyChain
  split
  · rename_i hfault
    rw [hfault]
    exact ⟨fun h => (nomatch h), fun h => (nomatch h)⟩
  · rename_i hfault
    rw [hfault]
    exact ⟨fun h => (nomatch h), fun h => (nomatch h)⟩
  · rename_i hfault
    rw [hfault]
    exact ⟨fun _ => rfl, fun _ => rfl⟩

/-- The two verifications agree. -/
theorem valid_verifyChainReport_iff :
    (verifyChainReport computeRecordHash rows).valid = true ↔
      verifyChain computeRecordHash rows = .ok () := by
  rw [verifyChain_eq_ok_iff]
  unfold verifyChainReport
  dsimp only
  split
  · rename_i hfault
    rw [hfault]
    exact ⟨fun h => (nomatch h), fun h => (nomatch h)⟩
  · rename_i hfault
    rw [hfault]
    exact ⟨fun _ => rfl, fun _ => rfl⟩

/-! ## Honest appends -/

/-- An append with the identifier it draws and the clock reading it takes. -/
structure AuditAppend where
  recordId : String
  createdAt : Int
  entry : AuditEntry
deriving Repr

/-- The log after an append. -/
def appended (computeRecordHash : String → AuditPayload → String)
    (rows : List AuditLogRow) (request : AuditAppend) : List AuditLogRow :=
  rows ++ [newRecord computeRecordHash request.recordId request.createdAt request.entry rows]

/-- The log after appends one after another. -/
def logOf (computeRecordHash : String → AuditPayload → String)
    (requests : List AuditAppend) : List AuditLogRow :=
  requests.foldl (appended computeRecordHash) []

theorem finalState_append (env : Env) (entry : AuditEntry) (db : Database) :
    (Foundation.StateEffect.finalState (append env entry) db).auditLog =
      appended env.computeRecordHash db.auditLog
        ⟨env.uuid4 .auditRow, env.now .auditRow, entry⟩ := rfl

/-- What appends leave in the log. -/
structure Honest (computeRecordHash : String → AuditPayload → String)
    (requests : List AuditAppend) (rows : List AuditLogRow) : Prop where
  appended : Appended AuditLogRow.previousHash AuditLogRow.recordHash
    AuditLogRow.createdAt AUDIT_GENESIS_HASH rows
  hashes : ∀ row ∈ rows, computeRecordHash row.previousHash row.payload = row.recordHash
  readings : rows.map (·.createdAt) = requests.map (·.createdAt)

theorem honest_logOf (computeRecordHash : String → AuditPayload → String)
    (requests : List AuditAppend) :
    Honest computeRecordHash requests (logOf computeRecordHash requests) := by
  induction requests using List.reverseRecOn with
  | nil => exact ⟨.nil, fun _ h => absurd h List.not_mem_nil, rfl⟩
  | append_singleton requests request ih =>
      have hlog : logOf computeRecordHash (requests ++ [request]) =
          appended computeRecordHash (logOf computeRecordHash requests) request := by
        unfold logOf
        rw [List.foldl_append, List.foldl_cons, List.foldl_nil]
      rw [hlog]
      refine ⟨ih.appended.concat rfl, ?_, ?_⟩
      · intro row hrow
        rcases List.mem_append.mp hrow with hold | hnew
        · exact ih.hashes row hold
        · rw [List.mem_singleton.mp hnew]
          rfl
      · unfold appended
        rw [List.map_append, List.map_append, ih.readings]
        rfl

/-- The readings go forward; only the last may repeat the one before it. -/
def ClockForward (readings : List Int) : Prop := InOrder id readings

instance (readings : List Int) : Decidable (ClockForward readings) :=
  inferInstanceAs (Decidable (InOrder _ _))

theorem inOrder_createdAt_iff :
    InOrder AuditLogRow.createdAt rows ↔ ClockForward (rows.map (·.createdAt)) := by
  unfold ClockForward InOrder
  rw [← List.map_dropLast, List.pairwise_map, List.pairwise_map]
  rfl

/-- When the clock goes forward from append to append, both verifications
accept the log; when no two records have one hash, only then. -/
theorem verifyChain_iff_clock (computeRecordHash : String → AuditPayload → String)
    (requests : List AuditAppend) :
    (ClockForward (requests.map (·.createdAt)) →
      verifyChain computeRecordHash (logOf computeRecordHash requests) = .ok () ∧
      (verifyChainReport computeRecordHash (logOf computeRecordHash requests)).valid =
        true) ∧
    (NoCollision AuditLogRow.recordHash AUDIT_GENESIS_HASH
        (logOf computeRecordHash requests) →
      verifyChain computeRecordHash (logOf computeRecordHash requests) = .ok () ∨
        (verifyChainReport computeRecordHash (logOf computeRecordHash requests)).valid =
          true →
      ClockForward (requests.map (·.createdAt))) := by
  have hhonest := honest_logOf computeRecordHash requests
  generalize logOf computeRecordHash requests = rows at hhonest ⊢
  have hhashes : ∀ row ∈ listAll rows,
      computeRecordHash row.previousHash row.payload = row.recordHash := fun row hrow =>
    hhonest.hashes row (byTime_perm.mem_iff.mp hrow)
  have hverified : verifyChain computeRecordHash rows = .ok () ↔
      Linked AuditLogRow.previousHash AuditLogRow.recordHash AUDIT_GENESIS_HASH
        (listAll rows) := by
    rw [verifyChain_eq_ok_iff, firstFault_eq_none_iff]
    exact and_iff_left hhashes
  rw [valid_verifyChainReport_iff, and_self, or_self, hverified, ← hhonest.readings,
    ← inOrder_createdAt_iff]
  exact ⟨hhonest.appended.linked, fun hdistinct =>
    (hhonest.appended.linked_iff hdistinct).mp⟩

/-- A digest that tells records apart by their identifiers. -/
def idDigest (previousHash : String) (payload : AuditPayload) : String :=
  "sha256:" ++ previousHash ++ "|" ++ payload.id

/-- A clock that steps back breaks the chain at the second append, and three
appends at one instant break it at the third. -/
theorem verifyChain_clock_stepped_back :
    verifyChain idDigest (logOf idDigest
        [⟨"a", 5, ⟨"api", "safety", "A", "S1", "OK", none, none, none, none, none⟩⟩,
          ⟨"b", 3, ⟨"api", "safety", "B", "S1", "OK", none, none, none, none, none⟩⟩]) =
      .error (.auditChainError
        "broken previous_hash at b: expected GENESIS_V1, got sha256:GENESIS_V1|a") ∧
      (verifyChainReport idDigest (logOf idDigest
        [⟨"a", 5, ⟨"api", "safety", "A", "S1", "OK", none, none, none, none, none⟩⟩,
          ⟨"b", 5, ⟨"api", "safety", "B", "S1", "OK", none, none, none, none, none⟩⟩,
          ⟨"c", 5, ⟨"api", "safety", "C", "S1", "OK", none, none, none, none, none⟩⟩])).valid =
        false := by
  decide +kernel

end AuditRepository
end Persistence
end Intelipump
