import Mathlib.Tactic.Common
import Intelipump.Persistence.AuditLog

namespace Intelipump
namespace Persistence
namespace AuditRepository

open Foundation.HashChain

/-!
# Tampering with the audit log

A table that verifies and ends in the hash that the honest log ends in is the honest log:
the last hash speaks for every field of every record and for their order
(`tamper_evident`).
-/

/-- The hash tells the records apart, and from the start of the chain. -/
structure CollisionFree (computeRecordHash : String → AuditPayload → String)
    (rows : List AuditLogRow) : Prop where
  injective : ∀ row ∈ rows, ∀ other ∈ rows,
    computeRecordHash row.previousHash row.payload =
      computeRecordHash other.previousHash other.payload →
    row.previousHash = other.previousHash ∧ row.payload = other.payload
  notGenesis : ∀ row ∈ rows,
    computeRecordHash row.previousHash row.payload ≠ AUDIT_GENESIS_HASH

/-- The hash is injective in the previous hash and the payload, and never the genesis. -/
structure IdealHash (computeRecordHash : String → AuditPayload → String) : Prop where
  injective : ∀ previous other payload content,
    computeRecordHash previous payload = computeRecordHash other content →
      previous = other ∧ payload = content
  notGenesis : ∀ previous payload, computeRecordHash previous payload ≠ AUDIT_GENESIS_HASH

section

variable {computeRecordHash : String → AuditPayload → String}

theorem IdealHash.collisionFree (hideal : IdealHash computeRecordHash)
    (rows : List AuditLogRow) : CollisionFree computeRecordHash rows where
  injective := fun _ _ _ _ hsame => hideal.injective _ _ _ _ hsame
  notGenesis := fun _ _ => hideal.notGenesis _ _

/-- A record is its payload with the two hashes. -/
theorem AuditLogRow.eq_of_payload {row other : AuditLogRow}
    (hpayload : row.payload = other.payload) (hprevious : row.previousHash = other.previousHash)
    (hhash : row.recordHash = other.recordHash) : row = other := by
  cases row
  cases other
  cases hpayload
  cases hprevious
  cases hhash
  rfl

/-- What a verification has checked of the records it read. -/
structure Verified (computeRecordHash : String → AuditPayload → String)
    (records : List AuditLogRow) : Prop where
  linked : Linked AuditLogRow.previousHash AuditLogRow.recordHash AUDIT_GENESIS_HASH records
  hashes : ∀ row ∈ records, computeRecordHash row.previousHash row.payload = row.recordHash

theorem verified_iff {rows : List AuditLogRow} :
    verifyChain computeRecordHash rows = .ok () ↔ Verified computeRecordHash (listAll rows) := by
  rw [verifyChain_eq_ok_iff, firstFault_eq_none_iff]
  exact ⟨fun h => ⟨h.1, h.2⟩, fun h => ⟨h.linked, h.hashes⟩⟩

/-- No verified record has the genesis hash. -/
theorem Verified.genesis_notMem {records rows : List AuditLogRow}
    (hverified : Verified computeRecordHash records)
    (hfree : CollisionFree computeRecordHash rows) (hrecords : records ⊆ rows) :
    AUDIT_GENESIS_HASH ∉ records.map (·.recordHash) := by
  intro hgenesis
  obtain ⟨row, hrow, hhash⟩ := List.mem_map.mp hgenesis
  exact hfree.notGenesis row (hrecords hrow) ((hverified.hashes row hrow).trans hhash)

/-- Two verified chains with one last hash are the same. -/
theorem Verified.eq_of_lastHash {first second : List AuditLogRow}
    (hfirst : Verified computeRecordHash first) (hsecond : Verified computeRecordHash second)
    (hfree : CollisionFree computeRecordHash (first ++ second))
    (hlast : lastHash AuditLogRow.recordHash AUDIT_GENESIS_HASH first =
      lastHash AuditLogRow.recordHash AUDIT_GENESIS_HASH second) : first = second := by
  refine hfirst.linked.eq_of_lastHash hsecond.linked (fun left hleft right hright hsame => ?_)
    ⟨hfirst.genesis_notMem hfree (List.subset_append_left _ _),
      hsecond.genesis_notMem hfree (List.subset_append_right _ _)⟩ hlast
  have hcomputed : computeRecordHash left.previousHash left.payload =
      computeRecordHash right.previousHash right.payload := by
    rw [hfirst.hashes left hleft, hsecond.hashes right hright, hsame]
  obtain ⟨hprevious, hpayload⟩ := hfree.injective left (List.mem_append_left _ hleft) right
    (List.mem_append_right _ hright) hcomputed
  exact AuditLogRow.eq_of_payload hpayload hprevious hsame

/-- Appends whose clock goes forward are read back as they were made, and verify. -/
theorem listAll_logOf (computeRecordHash : String → AuditPayload → String)
    {requests : List AuditAppend}
    (hclock : (requests.map (·.createdAt)).Pairwise (· < ·)) :
    listAll (logOf computeRecordHash requests) = logOf computeRecordHash requests ∧
      Verified computeRecordHash (logOf computeRecordHash requests) := by
  have hhonest := honest_logOf computeRecordHash requests
  have hordered : (logOf computeRecordHash requests).Pairwise
      (AuditLogRow.createdAt · < AuditLogRow.createdAt ·) := by
    rw [← hhonest.readings] at hclock
    exact List.pairwise_map.mp hclock
  refine ⟨byTime_of_pairwise (hordered.imp le_of_lt), ?_, hhonest.hashes⟩
  exact hhonest.appended.linked_rows (inOrder_of_pairwise hordered)

end

/-- For every log that appends with a clock that goes forward wrote, and every table that
verifies and ends in the same hash: the table is read back as that log, when the hash
tells their records apart.  An ideal hash does so always.  On every table one
verification raises exactly when the other reports a chain that is not valid. -/
theorem tamper_evident (computeRecordHash : String → AuditPayload → String) :
    (∀ (requests : List AuditAppend) (table : List AuditLogRow),
      (requests.map (·.createdAt)).Pairwise (· < ·) →
      CollisionFree computeRecordHash (listAll table ++ logOf computeRecordHash requests) →
      verifyChain computeRecordHash table = .ok () →
      lastHash AuditLogRow.recordHash AUDIT_GENESIS_HASH (listAll table) =
        lastHash AuditLogRow.recordHash AUDIT_GENESIS_HASH
          (listAll (logOf computeRecordHash requests)) →
      listAll table = logOf computeRecordHash requests) ∧
    (IdealHash computeRecordHash → ∀ rows, CollisionFree computeRecordHash rows) ∧
    ∀ rows : List AuditLogRow,
      (∃ error, verifyChain computeRecordHash rows = .error error) ↔
        (verifyChainReport computeRecordHash rows).valid = false := by
  refine ⟨fun requests table hclock hfree hverified hlast => ?_,
    fun hideal rows => hideal.collisionFree rows, fun rows => ?_⟩
  · obtain ⟨hlog, hlogVerified⟩ := listAll_logOf computeRecordHash hclock
    rw [hlog] at hlast
    exact (verified_iff.mp hverified).eq_of_lastHash hlogVerified hfree hlast
  · have hagree : (verifyChainReport computeRecordHash rows).valid = true ↔
        verifyChain computeRecordHash rows = .ok () := valid_verifyChainReport_iff
    rw [← Bool.not_eq_true, hagree]
    cases verifyChain computeRecordHash rows with
    | ok value => exact iff_of_false (fun ⟨error, hraised⟩ => by cases hraised) (fun h => h rfl)
    | error error => exact iff_of_true ⟨error, rfl⟩ (fun h => by cases h)

/-- Two honest appends. -/
def twoAppends : List AuditAppend :=
  [⟨"a", 3, ⟨"api", "safety", "A", "S1", "OK", none, none, none, none, none⟩⟩,
    ⟨"b", 5, ⟨"api", "safety", "B", "S1", "OK", none, none, none, none, none⟩⟩]

/-- The same records, stored the other way round. -/
theorem tamper_evident_reordered :
    listAll (logOf idDigest twoAppends).reverse = logOf idDigest twoAppends := by
  have hdistinct : ((logOf idDigest twoAppends).map fun row =>
      idDigest row.previousHash row.payload).Nodup := by
    decide +kernel
  have hmem (row : AuditLogRow) (hrow : row ∈ listAll (logOf idDigest twoAppends).reverse ++
      logOf idDigest twoAppends) : row ∈ logOf idDigest twoAppends := by
    rcases List.mem_append.mp hrow with hread | hlog
    · exact List.mem_reverse.mp (byTime_perm.mem_iff.mp hread)
    · exact hlog
  refine (tamper_evident idDigest).1 twoAppends (logOf idDigest twoAppends).reverse
    (by decide) ⟨fun row hrow other hother hsame => ?_, by decide +kernel⟩ (by decide +kernel)
    (by decide +kernel)
  rw [List.inj_on_of_nodup_map hdistinct (hmem row hrow) (hmem other hother) hsame]
  exact ⟨rfl, rfl⟩

end AuditRepository
end Persistence
end Intelipump
