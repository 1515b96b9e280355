import Intelipump.Services.LedgerCalls

namespace Intelipump
namespace Services

open Foundation.Tables
open Persistence
open TransactionRepository (getByUuid getByCompletionKey IsClosed)

/-!
# Which transaction a completion completes

A completion looks its key up before the transaction that it names.  It
completes the named transaction as long as no other one owns the key; a later
call for it returns it as long as no other one owns the later key.
-/

/-- The unique columns of the transactions. -/
structure TransactionsUnique (db : Database) : Prop where
  uuids : (db.transactions.map (·.transactionUuid)).Nodup
  keys : ∀ row ∈ db.transactions, ∀ other ∈ db.transactions, ∀ key,
    row.sourceCompletionKey = some key → other.sourceCompletionKey = some key → row = other

variable {process : Process}

theorem row_eq_of_uuid {db : Database}
    (huuids : (db.transactions.map (·.transactionUuid)).Nodup) {row other : TransactionRow}
    (hrow : row ∈ db.transactions) (hother : other ∈ db.transactions)
    (huuid : row.transactionUuid = other.transactionUuid) : row = other :=
  List.inj_on_of_nodup_map huuids hrow hother huuid

theorem mem_of_getByCompletionKey {key : String} {db : Database} {owner : TransactionRow}
    (howner : getByCompletionKey key db = some owner) :
    owner ∈ db.transactions ∧ owner.sourceCompletionKey = some key :=
  ⟨List.mem_of_find?_eq_some howner, key_of_find? howner⟩

theorem mem_of_getByUuid {uuid : String} {db : Database} {row : TransactionRow}
    (hrow : getByUuid uuid db = some row) : row ∈ db.transactions :=
  List.mem_of_find?_eq_some hrow

/-- A key that a row has is looked up. -/
theorem getByCompletionKey_of_mem {db : Database} (hunique : TransactionsUnique db)
    {row : TransactionRow} {key : String} (hrow : row ∈ db.transactions)
    (hkey : row.sourceCompletionKey = some key) : getByCompletionKey key db = some row := by
  cases howner : getByCompletionKey key db with
  | none =>
      have hnone := find?_eq_none_iff.mp howner
      exact absurd (List.mem_map.mpr ⟨row, hrow, hkey⟩) hnone
  | some owner =>
      obtain ⟨hmember, hownerKey⟩ := mem_of_getByCompletionKey howner
      rw [hunique.keys row hrow owner hmember key hkey hownerKey]

/-! ## A call for a known transaction -/

/-- What a completion of a known transaction does: the owner of the key comes back, or a
closed transaction does, or the transaction is completed. -/
theorem complete_cases (env : Env) {req : CompleteTransactionRequest} {row : TransactionRow}
    (hrow : getByUuid req.transactionUuid process.db = some row) :
    (∃ found,
      (getByCompletionKey req.sourceCompletionKey process.db = some found ∨
        found = row ∧ IsClosed row) ∧
      TransactionService.complete env req process = .ok (found, false) process) ∨
    ∃ book, TransactionService.complete env req process =
      .ok (closedRow env req row, true)
        { process with db := closedDb env req row process.db, fillBook := book } := by
  cases hkey : getByCompletionKey req.sourceCompletionKey process.db with
  | some owner => exact Or.inl ⟨owner, Or.inl rfl, complete_keyUsed env hkey⟩
  | none =>
      by_cases hclosed : IsClosed row
      · exact Or.inl ⟨row, Or.inr ⟨rfl, hclosed⟩, complete_closed env hkey hrow hclosed⟩
      · exact Or.inr (complete_open env hkey hrow hclosed)

/-- A closed transaction comes back unchanged under the keys that no other one owns. -/
theorem complete_again {uuid : String} {row : TransactionRow} {later : String → Prop}
    (huuids : (process.db.transactions.map (·.transactionUuid)).Nodup)
    (hrow : getByUuid uuid process.db = some row) (hclosed : IsClosed row)
    (hothers : ∀ other ∈ process.db.transactions, other.transactionUuid ≠ uuid →
      ∀ key, other.sourceCompletionKey = some key → ¬ later key) :
    ∀ (env : Env) (again : CompleteTransactionRequest), again.transactionUuid = uuid →
      later again.sourceCompletionKey →
        TransactionService.complete env again process = .ok (row, false) process := by
  rintro env again rfl hlater
  cases howner : getByCompletionKey again.sourceCompletionKey process.db with
  | none => exact complete_closed env howner hrow hclosed
  | some owner =>
      obtain ⟨hmember, hownerKey⟩ := mem_of_getByCompletionKey howner
      have hsame : owner.transactionUuid = again.transactionUuid := by
        by_contra hdifferent
        exact hothers owner hmember hdifferent _ hownerKey hlater
      have huuid := hsame.trans (transactionUuid_of_getByUuid hrow).symm
      rw [complete_keyUsed env howner,
        row_eq_of_uuid huuids hmember (mem_of_getByUuid hrow) huuid]

/-- The other rows after a completion were there before. -/
theorem mem_closedDb {env : Env} {req : CompleteTransactionRequest} {row other : TransactionRow}
    {db : Database} (hrow : getByUuid req.transactionUuid db = some row)
    (hother : other.transactionUuid ≠ req.transactionUuid) :
    other ∈ (closedDb env req row db).transactions ↔ other ∈ db.transactions := by
  have huuid : row.transactionUuid = req.transactionUuid := transactionUuid_of_getByUuid hrow
  change other ∈ db.transactions.map _ ↔ _
  rw [List.mem_map]
  constructor
  · rintro ⟨old, hold, hsame⟩
    split at hsame
    · subst hsame
      exact absurd huuid hother
    · exact hsame ▸ hold
  · intro hmember
    exact ⟨other, hmember, if_neg fun hsame => hother (hsame.trans huuid)⟩

theorem getByUuid_closedDb (env : Env) {req : CompleteTransactionRequest}
    {row : TransactionRow} {db : Database}
    (hrow : getByUuid req.transactionUuid db = some row) :
    getByUuid req.transactionUuid (closedDb env req row db) =
      some (closedRow env req row) := by
  have huuid : row.transactionUuid = req.transactionUuid := transactionUuid_of_getByUuid hrow
  have hold : getByUuid (closedRow env req row).transactionUuid db = some row := by
    change getByUuid row.transactionUuid db = some row
    rw [huuid, hrow]
  exact (getByUuid_write hold req.transactionUuid).trans (if_pos huuid)

/-! ## The two calls -/

/-- The call returns the transaction that it names, which is completed then, and every
later call for it under a key of `later` returns it again and changes nothing. -/
def CompletesAsked (env : Env) (req : CompleteTransactionRequest) (later : String → Prop)
    (process : Process) : Prop :=
  ∃ row newly after,
    TransactionService.complete env req process = .ok (row, newly) after ∧
    getByUuid req.transactionUuid after.db = some row ∧ row.status = .COMPLETED ∧
    ∀ (env' : Env) (again : CompleteTransactionRequest),
      again.transactionUuid = req.transactionUuid → later again.sourceCompletionKey →
        TransactionService.complete env' again after = .ok (row, false) after

variable {env : Env} {req : CompleteTransactionRequest} {row : TransactionRow}
  {later : String → Prop}

/-- The owner of the key is what comes back, so that it is the named transaction. -/
theorem CompletesAsked.owner (hasked : CompletesAsked env req later process)
    {owner : TransactionRow}
    (howner : getByCompletionKey req.sourceCompletionKey process.db = some owner) :
    owner.transactionUuid = req.transactionUuid ∧ owner.status = .COMPLETED := by
  obtain ⟨found, newly, after, hcomplete, hfound, hstatus, -⟩ := hasked
  have hresult := hcomplete.symm.trans (complete_keyUsed env howner)
  injection hresult with hpair hafter
  obtain rfl : found = owner := congrArg Prod.fst hpair
  exact ⟨transactionUuid_of_getByUuid hfound, hstatus⟩

/-- No later call may come under the key of another transaction. -/
theorem CompletesAsked.not_later (hasked : CompletesAsked env req later process)
    (hunique : TransactionsUnique process.db)
    (hrow : getByUuid req.transactionUuid process.db = some row) {other : TransactionRow}
    (hother : other ∈ process.db.transactions)
    (hdifferent : other.transactionUuid ≠ req.transactionUuid) {key : String}
    (hotherKey : other.sourceCompletionKey = some key) : ¬ later key := by
  intro hlater
  have hfree : key ≠ req.sourceCompletionKey := by
    rintro rfl
    exact hdifferent (hasked.owner (getByCompletionKey_of_mem hunique hother hotherKey)).1
  obtain ⟨found, newly, after, hcomplete, hfound, -, hagain⟩ := hasked
  have hfoundUuid := transactionUuid_of_getByUuid hfound
  -- the other one is still there, and the returned row does not own its key
  have hkept : other ∈ after.db.transactions ∧ found.sourceCompletionKey ≠ some key := by
    rcases complete_cases env hrow with ⟨_, -, hfirst⟩ | ⟨book, hfirst⟩
    · have hresult := hcomplete.symm.trans hfirst
      injection hresult with hpair hafter
      subst hafter
      refine ⟨hother, fun hfoundKey => hdifferent ?_⟩
      rw [hunique.keys other hother found (mem_of_getByUuid hfound) key hotherKey hfoundKey,
        hfoundUuid]
    · have hresult := hcomplete.symm.trans hfirst
      injection hresult with hpair hafter
      subst hafter
      refine ⟨(mem_closedDb hrow hdifferent).mpr hother, fun hfoundKey => hfree ?_⟩
      have hnewKey : found.sourceCompletionKey = some req.sourceCompletionKey :=
        congrArg (fun pair => pair.1.sourceCompletionKey) hpair
      exact Option.some.inj (hfoundKey.symm.trans hnewKey)
  cases howner : getByCompletionKey key after.db with
  | none =>
      have hnone := find?_eq_none_iff.mp howner
      exact hnone (List.mem_map.mpr ⟨other, hkept.1, hotherKey⟩)
  | some owner =>
      -- so the later call under that key returns another row
      have hrepeat := hagain env { req with sourceCompletionKey := key } rfl hlater
      have hresult := hrepeat.symm.trans (complete_keyUsed env howner)
      injection hresult with hpair
      obtain rfl : found = owner := congrArg Prod.fst hpair
      exact hkept.2 (mem_of_getByCompletionKey howner).2

/-- A transaction whose keys no other one owns is completed as asked. -/
theorem completesAsked_of_free (env : Env) (hunique : TransactionsUnique process.db)
    (hrow : getByUuid req.transactionUuid process.db = some row)
    (hkey : req.sourceCompletionKey ≠ "")
    (hothers : ∀ other ∈ process.db.transactions,
      other.transactionUuid ≠ req.transactionUuid → ∀ key,
        other.sourceCompletionKey = some key → key ≠ req.sourceCompletionKey ∧ ¬ later key)
    (hstatus : row.sourceCompletionKey = some req.sourceCompletionKey →
      row.status = .COMPLETED) : CompletesAsked env req later process := by
  have hlater : ∀ other ∈ process.db.transactions,
      other.transactionUuid ≠ req.transactionUuid →
        ∀ key, other.sourceCompletionKey = some key → ¬ later key :=
    fun other hother hdifferent key hotherKey =>
      (hothers other hother hdifferent key hotherKey).2
  rcases complete_cases env hrow with ⟨found, hfound, hfirst⟩ | ⟨book, hfirst⟩
  · have hanswer : found = row ∧ IsClosed row := by
      rcases hfound with howner | hclosed
      · obtain ⟨hownerMember, hownerKey⟩ := mem_of_getByCompletionKey howner
        have hsame : found.transactionUuid = req.transactionUuid := by
          by_contra hdifferent
          exact (hothers found hownerMember hdifferent _ hownerKey).1 rfl
        obtain rfl := row_eq_of_uuid hunique.uuids hownerMember (mem_of_getByUuid hrow)
          (hsame.trans (transactionUuid_of_getByUuid hrow).symm)
        exact ⟨rfl, hstatus hownerKey, req.sourceCompletionKey, hownerKey, hkey⟩
      · exact hclosed
    obtain ⟨rfl, hclosed⟩ := hanswer
    exact ⟨found, false, process, hfirst, hrow, hclosed.1,
      complete_again hunique.uuids hrow hclosed hlater⟩
  · have hclosed : IsClosed (closedRow env req row) :=
      ⟨rfl, req.sourceCompletionKey, rfl, hkey⟩
    have hwritten := getByUuid_closedDb env hrow
    have huuids : ((closedDb env req row process.db).transactions.map
        (·.transactionUuid)).Nodup := by
      have hsame : (closedDb env req row process.db).transactions.map (·.transactionUuid) =
          process.db.transactions.map (·.transactionUuid) := map_key_updateBy _ _ _
      rw [hsame]
      exact hunique.uuids
    refine ⟨closedRow env req row, true, _, hfirst, hwritten, rfl,
      complete_again huuids hwritten hclosed ?_⟩
    intro other hother hdifferent
    exact hlater other ((mem_closedDb hrow hdifferent).mp hother) hdifferent

/-- No other transaction owns the key or a later one, and the transaction is completed
when it owns the key itself. -/
theorem completesAsked_iff (env : Env) {req : CompleteTransactionRequest}
    {row : TransactionRow} (hunique : TransactionsUnique process.db)
    (hrow : getByUuid req.transactionUuid process.db = some row)
    (hkey : req.sourceCompletionKey ≠ "") (later : String → Prop) :
    CompletesAsked env req later process ↔
      (∀ other ∈ process.db.transactions, other.transactionUuid ≠ req.transactionUuid →
        ∀ key, other.sourceCompletionKey = some key →
          key ≠ req.sourceCompletionKey ∧ ¬ later key) ∧
      (row.sourceCompletionKey = some req.sourceCompletionKey → row.status = .COMPLETED) := by
  constructor
  · intro hasked
    refine ⟨fun other hother hdifferent key hotherKey => ⟨?_, ?_⟩, fun hsame => ?_⟩
    · rintro rfl
      exact hdifferent (hasked.owner (getByCompletionKey_of_mem hunique hother hotherKey)).1
    · exact hasked.not_later hunique hrow hother hdifferent hotherKey
    · exact (hasked.owner (getByCompletionKey_of_mem hunique (mem_of_getByUuid hrow) hsame)).2
  · rintro ⟨hothers, hstatus⟩
    exact completesAsked_of_free env hunique hrow hkey hothers hstatus

/-- A completion of a known transaction under a non-empty key completes this one, and
later calls under any key return it, exactly when no other transaction has a completion
key and the transaction is completed when it has the key already. -/
theorem complete_asked_iff (env : Env) {req : CompleteTransactionRequest}
    {row : TransactionRow} (hunique : TransactionsUnique process.db)
    (hrow : getByUuid req.transactionUuid process.db = some row)
    (hkey : req.sourceCompletionKey ≠ "") :
    CompletesAsked env req (fun _ => True) process ↔
      (∀ other ∈ process.db.transactions, other.transactionUuid ≠ req.transactionUuid →
        other.sourceCompletionKey = none) ∧
      (row.sourceCompletionKey = some req.sourceCompletionKey → row.status = .COMPLETED) := by
  rw [completesAsked_iff env hunique hrow hkey]
  refine and_congr_left fun _ => forall₃_congr fun other _ _ => ?_
  rw [Option.eq_none_iff_forall_not_mem]
  exact forall₂_congr fun key _ => iff_of_false (fun h => h.2 trivial) id

/-- A sale of pump 1 at the bench. -/
def benchSale (number : String) : TransactionRow where
  id := "id-" ++ number
  transactionUuid := "tx-" ++ number
  stationId := "station-1"
  pumpId := "pump-1"
  nozzleId := some 1
  status := .ACTIVE
  rawPrice := some 180
  priceDecimals := some 2
  volumeDecimals := some 2
  amountDecimals := some 2
  startedAt := some 0
  simulated := true
  environment := "LAB"

/-- The completion frame of TX# 5, which the next delivery with this TX# repeats. -/
def frameKey : String := "complete:50 35 01 01 05 5f 93 03 fa:5"

def firstSale : TransactionRow :=
  { benchSale "1" with
    status := .COMPLETED
    sourceCompletionKey := some frameKey
    rawVolume := 700
    rawAmount := 1260
    completedAt := some 10 }

def secondCompletion (key : String) : CompleteTransactionRequest where
  transactionUuid := "tx-2"
  sourceCompletionKey := key
  rawVolume := 300
  rawAmount := 540

/-- Two sales are under way, and neither has a key. -/
theorem complete_asked_two_sales :
    CompletesAsked (numberedEnv 0) (secondCompletion frameKey) (fun _ => True)
      { db := { transactions := [benchSale "1", benchSale "2"] } } :=
  (complete_asked_iff (numberedEnv 0) ⟨by decide, by decide⟩ rfl (by decide)).mpr
    ⟨by decide, by decide⟩

/-- The second sale is asked to complete under the key of the first one: the first one
comes back, and the second one stays active. -/
theorem complete_returns_other_sale :
    ¬ ∀ (env : Env) (req : CompleteTransactionRequest) (process : Process)
      (row : TransactionRow), TransactionsUnique process.db →
      getByUuid req.transactionUuid process.db = some row → req.sourceCompletionKey ≠ "" →
        CompletesAsked env req (fun _ => True) process := by
  intro hall
  have hasked := hall (numberedEnv 0) (secondCompletion frameKey)
    { db := { transactions := [firstSale, benchSale "2"] } } (benchSale "2")
    ⟨by decide, by decide⟩ rfl (by decide)
  obtain ⟨found, newly, after, hcomplete, hfound, -⟩ := hasked
  have hresult := hcomplete.symm.trans (complete_keyUsed (numberedEnv 0) rfl)
  injection hresult with hpair hafter
  subst hafter
  have hfirst : found = firstSale := congrArg Prod.fst hpair
  have hsecond : found = benchSale "2" := (Option.some.inj hfound).symm
  rw [hfirst] at hsecond
  revert hsecond
  decide

end Services
end Intelipump
