import Mathlib.Tactic.Common
import Intelipump.Services.LedgerCalls
import Intelipump.Text

namespace Intelipump
namespace Services

open Foundation.Tables
open Persistence
open TransactionService
open TransactionRepository (getByUuid getByCompletionKey IsClosed eventId)

/-!
# The ledger and its outbox

The rows of a sale, its events and its queue rows move together: `Books` is the
invariant, kept by every outcome of a call; `Coupled` is what a reader of the
tables relies on (`ledger_outbox_coupled`).
-/

/-! ## The tables of a sale -/

/-- The queue rows of one type. -/
def queuedOf (type : SyncEventType) (queue : List SyncQueueRow) : List SyncQueueRow :=
  queue.filter (·.eventType = type)

/-- The transaction events of one type. -/
def eventsOf (type : TransactionEventType) (events : List TransactionEventRow) :
    List TransactionEventRow :=
  events.filter (·.eventType = type)

def completedRows (transactions : List TransactionRow) : List TransactionRow :=
  transactions.filter (·.status = .COMPLETED)

/-- The transaction a queue row is about and its deduplication key. -/
def saleKey (row : SyncQueueRow) : String × String := (row.entityId, row.deduplicationKey)

/-- The completion key of a transaction, empty when it has none. -/
def completionKey (tx : TransactionRow) : String := tx.sourceCompletionKey.getD ""

/-- Every transaction has one `TRANSACTION_STARTED` row and one `STARTED` event;
completed transactions, `TRANSACTION_COMPLETED` rows and `COMPLETED` events
correspond one to one, and completion keys are distinct. -/
structure Coupled (db : Database) : Prop where
  startedRow : ∀ tx ∈ db.transactions,
    ((queuedOf .TRANSACTION_STARTED db.syncQueue).map (·.entityId)).count
      tx.transactionUuid = 1
  startedEvent : ∀ tx ∈ db.transactions,
    ((eventsOf .STARTED db.transactionEvents).map (·.transactionId)).count tx.id = 1
  completedRow : ((queuedOf .TRANSACTION_COMPLETED db.syncQueue).map saleKey).Perm
    ((completedRows db.transactions).map fun tx =>
      (tx.transactionUuid, "tx-completed:" ++ completionKey tx))
  completedEvent : ((eventsOf .COMPLETED db.transactionEvents).map eventId).Perm
    ((completedRows db.transactions).map fun tx =>
      (tx.id, "completed:" ++ completionKey tx))
  uuids : (db.transactions.map (·.transactionUuid)).Nodup
  ids : (db.transactions.map (·.id)).Nodup
  keys : ((completedRows db.transactions).map completionKey).Nodup
  keyed : ∀ tx ∈ completedRows db.transactions, ∃ key ∈ tx.sourceCompletionKey, key ≠ ""

/-- The books of the ledger, with the keys of its events and queue rows. -/
structure Books (db : Database) : Prop where
  ids : (db.transactions.map (·.id)).Nodup
  uuids : (db.transactions.map (·.transactionUuid)).Nodup
  startedQueue : (queuedOf .TRANSACTION_STARTED db.syncQueue).map saleKey =
    db.transactions.map fun tx =>
      (tx.transactionUuid, "tx-started:" ++ tx.transactionUuid)
  startedEvents : (eventsOf .STARTED db.transactionEvents).map eventId =
    db.transactions.map fun tx => (tx.id, "started:" ++ tx.transactionUuid)
  completedQueue : ((queuedOf .TRANSACTION_COMPLETED db.syncQueue).map saleKey).Perm
    ((completedRows db.transactions).map fun tx =>
      (tx.transactionUuid, "tx-completed:" ++ completionKey tx))
  completedEvents : ((eventsOf .COMPLETED db.transactionEvents).map eventId).Perm
    ((completedRows db.transactions).map fun tx =>
      (tx.id, "completed:" ++ completionKey tx))
  keys : ((completedRows db.transactions).map completionKey).Nodup
  closed : ∀ tx ∈ db.transactions, tx.status = .COMPLETED → IsClosed tx
  fillingRows : ∀ row ∈ db.syncQueue, row.eventType = .FILLING_UPDATED →
    ∃ rest, row.deduplicationKey = "fill:" ++ rest
  stateRows : ∀ row ∈ db.syncQueue, row.eventType = .STATE_CHANGED →
    ∃ rest, row.deduplicationKey = "state:" ++ rest
  alarmRows : ∀ row ∈ db.syncQueue, row.eventType = .ALARM_ACTIVE →
    ∃ rest, row.deduplicationKey = "alarm:" ++ rest
  fillingEvents : ∀ event ∈ db.transactionEvents, event.eventType = .FILLING_UPDATE →
    ∃ rest, event.eventKey = "fill:" ++ rest

/-! ## Appending to a table -/

theorem queuedOf_append (type : SyncEventType) (queue : List SyncQueueRow)
    (row : SyncQueueRow) : queuedOf type (queue ++ [row]) =
      queuedOf type queue ++ if row.eventType = type then [row] else [] := by
  unfold queuedOf
  rw [List.filter_append, List.filter_singleton, Bool.cond_decide]

theorem eventsOf_append (type : TransactionEventType) (events : List TransactionEventRow)
    (event : TransactionEventRow) : eventsOf type (events ++ [event]) =
      eventsOf type events ++ if event.eventType = type then [event] else [] := by
  unfold eventsOf
  rw [List.filter_append, List.filter_singleton, Bool.cond_decide]

theorem forall_mem_concat {ρ : Type} {P : ρ → Prop} {rows : List ρ} {row : ρ}
    (hrows : ∀ other ∈ rows, P other) (hrow : P row) : ∀ other ∈ rows ++ [row], P other := by
  intro other hother
  rcases List.mem_append.mp hother with hold | hlast
  · exact hrows other hold
  · exact List.mem_singleton.mp hlast ▸ hrow

theorem forall_mem_insertNew {ρ κ : Type} [DecidableEq κ] {key : ρ → κ} {P : ρ → Prop}
    {rows : List ρ} {row : ρ} (hrows : ∀ other ∈ rows, P other) (hrow : P row) :
    ∀ other ∈ insertNew key row rows, P other := by
  rcases insertNew_cases key row rows with hsame | ⟨-, hnew⟩
  · rw [hsame]
    exact hrows
  · rw [hnew]
    exact forall_mem_concat hrows hrow

section

variable {db : Database} {env : Env}

/-- The deduplication keys of the queue. -/
theorem Books.deduplicationKey_cases (hbooks : Books db) {row : SyncQueueRow}
    (hrow : row ∈ db.syncQueue) :
    (∃ uuid ∈ db.transactions.map (·.transactionUuid),
      row.deduplicationKey = "tx-started:" ++ uuid) ∨
    (∃ key ∈ (completedRows db.transactions).map completionKey,
      row.deduplicationKey = "tx-completed:" ++ key) ∨
    (∃ rest, row.deduplicationKey = "fill:" ++ rest) ∨
    (∃ rest, row.deduplicationKey = "state:" ++ rest) ∨
    ∃ rest, row.deduplicationKey = "alarm:" ++ rest := by
  cases htype : row.eventType with
  | TRANSACTION_STARTED =>
      have hmem : saleKey row ∈ (queuedOf .TRANSACTION_STARTED db.syncQueue).map saleKey :=
        List.mem_map_of_mem (List.mem_filter.mpr ⟨hrow, decide_eq_true htype⟩)
      rw [hbooks.startedQueue, List.mem_map] at hmem
      obtain ⟨tx, htx, hkey⟩ := hmem
      exact Or.inl ⟨_, List.mem_map_of_mem htx, (congrArg Prod.snd hkey).symm⟩
  | TRANSACTION_COMPLETED =>
      have hmem : saleKey row ∈ (queuedOf .TRANSACTION_COMPLETED db.syncQueue).map saleKey :=
        List.mem_map_of_mem (List.mem_filter.mpr ⟨hrow, decide_eq_true htype⟩)
      rw [hbooks.completedQueue.mem_iff, List.mem_map] at hmem
      obtain ⟨tx, htx, hkey⟩ := hmem
      exact Or.inr (Or.inl ⟨_, List.mem_map_of_mem htx, (congrArg Prod.snd hkey).symm⟩)
  | FILLING_UPDATED => exact Or.inr (Or.inr (Or.inl (hbooks.fillingRows row hrow htype)))
  | STATE_CHANGED => exact Or.inr (Or.inr (Or.inr (Or.inl (hbooks.stateRows row hrow htype))))
  | ALARM_ACTIVE => exact Or.inr (Or.inr (Or.inr (Or.inr (hbooks.alarmRows row hrow htype))))

/-- The keys of the transaction events. -/
theorem Books.eventKey_cases (hbooks : Books db) {event : TransactionEventRow}
    (hevent : event ∈ db.transactionEvents) :
    (∃ uuid ∈ db.transactions.map (·.transactionUuid),
      event.eventKey = "started:" ++ uuid) ∨
    (∃ key ∈ (completedRows db.transactions).map completionKey,
      event.eventKey = "completed:" ++ key) ∨
    ∃ rest, event.eventKey = "fill:" ++ rest := by
  cases htype : event.eventType with
  | STARTED =>
      have hmem : eventId event ∈ (eventsOf .STARTED db.transactionEvents).map eventId :=
        List.mem_map_of_mem (List.mem_filter.mpr ⟨hevent, decide_eq_true htype⟩)
      rw [hbooks.startedEvents, List.mem_map] at hmem
      obtain ⟨tx, htx, hkey⟩ := hmem
      exact Or.inl ⟨_, List.mem_map_of_mem htx, (congrArg Prod.snd hkey).symm⟩
  | COMPLETED =>
      have hmem : eventId event ∈ (eventsOf .COMPLETED db.transactionEvents).map eventId :=
        List.mem_map_of_mem (List.mem_filter.mpr ⟨hevent, decide_eq_true htype⟩)
      rw [hbooks.completedEvents.mem_iff, List.mem_map] at hmem
      obtain ⟨tx, htx, hkey⟩ := hmem
      exact Or.inr (Or.inl ⟨_, List.mem_map_of_mem htx, (congrArg Prod.snd hkey).symm⟩)
  | FILLING_UPDATE => exact Or.inr (Or.inr (hbooks.fillingEvents event hevent htype))

/-- The queue row of a new transaction is new. -/
theorem Books.startedRow_new (hbooks : Books db) {uuid : String}
    (hnew : uuid ∉ db.transactions.map (·.transactionUuid)) :
    "tx-started:" ++ uuid ∉ db.syncQueue.map (·.deduplicationKey) := by
  intro hmem
  obtain ⟨row, hrow, hkey⟩ := List.mem_map.mp hmem
  rcases hbooks.deduplicationKey_cases hrow with ⟨other, hother, hform⟩ | ⟨_, _, hform⟩ |
    ⟨_, hform⟩ | ⟨_, hform⟩ | ⟨_, hform⟩ <;> rw [hform] at hkey
  · exact hnew ((String.append_right_inj _).mp hkey ▸ hother)
  · exact append_ne_append 4 (by decide) (by decide) (by decide) _ _ hkey
  · exact append_ne_append 4 (by decide) (by decide) (by decide) _ _ hkey
  · exact append_ne_append 4 (by decide) (by decide) (by decide) _ _ hkey
  · exact append_ne_append 4 (by decide) (by decide) (by decide) _ _ hkey

/-- The queue row of a new completion is new. -/
theorem Books.completedRow_new (hbooks : Books db) {key : String}
    (hnew : key ∉ (completedRows db.transactions).map completionKey) :
    "tx-completed:" ++ key ∉ db.syncQueue.map (·.deduplicationKey) := by
  intro hmem
  obtain ⟨row, hrow, hkey⟩ := List.mem_map.mp hmem
  rcases hbooks.deduplicationKey_cases hrow with ⟨_, _, hform⟩ | ⟨other, hother, hform⟩ |
    ⟨_, hform⟩ | ⟨_, hform⟩ | ⟨_, hform⟩ <;> rw [hform] at hkey
  · exact append_ne_append 4 (by decide) (by decide) (by decide) _ _ hkey
  · exact hnew ((String.append_right_inj _).mp hkey ▸ hother)
  · exact append_ne_append 4 (by decide) (by decide) (by decide) _ _ hkey
  · exact append_ne_append 4 (by decide) (by decide) (by decide) _ _ hkey
  · exact append_ne_append 4 (by decide) (by decide) (by decide) _ _ hkey

theorem Books.startedEvent_new (hbooks : Books db) {uuid : String}
    (hnew : uuid ∉ db.transactions.map (·.transactionUuid)) (id : String) :
    (id, "started:" ++ uuid) ∉ db.transactionEvents.map eventId := by
  intro hmem
  obtain ⟨event, hevent, hid⟩ := List.mem_map.mp hmem
  have hkey := congrArg Prod.snd hid
  change event.eventKey = "started:" ++ uuid at hkey
  rcases hbooks.eventKey_cases hevent with ⟨other, hother, hform⟩ | ⟨_, _, hform⟩ |
    ⟨_, hform⟩ <;> rw [hform] at hkey
  · exact hnew ((String.append_right_inj _).mp hkey ▸ hother)
  · exact append_ne_append 4 (by decide) (by decide) (by decide) _ _ hkey
  · exact append_ne_append 4 (by decide) (by decide) (by decide) _ _ hkey

theorem Books.completedEvent_new (hbooks : Books db) {key : String}
    (hnew : key ∉ (completedRows db.transactions).map completionKey) (id : String) :
    (id, "completed:" ++ key) ∉ db.transactionEvents.map eventId := by
  intro hmem
  obtain ⟨event, hevent, hid⟩ := List.mem_map.mp hmem
  have hkey := congrArg Prod.snd hid
  change event.eventKey = "completed:" ++ key at hkey
  rcases hbooks.eventKey_cases hevent with ⟨_, _, hform⟩ | ⟨other, hother, hform⟩ |
    ⟨_, hform⟩ <;> rw [hform] at hkey
  · exact append_ne_append 4 (by decide) (by decide) (by decide) _ _ hkey
  · exact hnew ((String.append_right_inj _).mp hkey ▸ hother)
  · exact append_ne_append 4 (by decide) (by decide) (by decide) _ _ hkey

/-- A completion key that no row has. -/
theorem Books.completionKey_new (hbooks : Books db) {key : String}
    (hkey : getByCompletionKey key db = none) :
    key ∉ (completedRows db.transactions).map completionKey := by
  intro hmem
  obtain ⟨tx, htx, rfl⟩ := List.mem_map.mp hmem
  obtain ⟨htx, hstatus⟩ := List.mem_filter.mp htx
  obtain ⟨-, used, hused, -⟩ := hbooks.closed tx htx (of_decide_eq_true hstatus)
  rw [Option.mem_def] at hused
  have hsame : tx.sourceCompletionKey = some (completionKey tx) := by
    unfold completionKey
    rw [hused]
    rfl
  exact List.find?_eq_none.mp hkey tx htx (decide_eq_true hsame)

/-- A transaction is begun. -/
theorem Books.begun (hbooks : Books db) {req : BeginTransactionRequest}
    (hnew : getByUuid req.transactionUuid db = none)
    (hid : env.uuid4 .transactionRow ∉ db.transactions.map (·.id)) :
    Books (begunDb env req db) := by
  have huuid := getByUuid_eq_none_iff.mp hnew
  generalize htx : newTransaction env req = tx
  have hstatus : tx.status = .ACTIVE := htx ▸ rfl
  have hqueue : offered env (startedEntry tx) db.syncQueue =
      db.syncQueue ++ [queueRow env (startedEntry tx)] :=
    insertNew_of_notMem (hbooks.startedRow_new (htx ▸ huuid))
  have hevents : insertNew eventId (startedEvent tx) db.transactionEvents =
      db.transactionEvents ++ [startedEvent tx] :=
    insertNew_of_notMem (hbooks.startedEvent_new (htx ▸ huuid) tx.id)
  have hdb : begunDb env req db = { db with
      transactions := db.transactions ++ [tx]
      transactionEvents := db.transactionEvents ++ [startedEvent tx]
      syncQueue := db.syncQueue ++ [queueRow env (startedEntry tx)] } := by
    unfold begunDb
    rw [htx]
    dsimp only
    rw [hqueue, hevents]
  -- the new row is active, so the completed rows stay
  have hcompleted : completedRows (db.transactions ++ [tx]) =
      completedRows db.transactions := by
    unfold completedRows
    rw [List.filter_append, List.filter_cons_of_neg (by rw [hstatus]; decide),
      List.filter_nil, List.append_nil]
  rw [hdb]
  exact {
    ids := by
      rw [List.map_append]
      refine List.Nodup.append hbooks.ids (List.nodup_singleton _) ?_
      exact List.disjoint_singleton.mpr (htx ▸ hid)
    uuids := by
      rw [List.map_append]
      refine List.Nodup.append hbooks.uuids (List.nodup_singleton _) ?_
      exact List.disjoint_singleton.mpr (htx ▸ huuid)
    startedQueue := by
      rw [queuedOf_append, List.map_append, List.map_append, ← hbooks.startedQueue]
      rfl
    startedEvents := by
      rw [eventsOf_append, List.map_append, List.map_append, ← hbooks.startedEvents]
      rfl
    completedQueue := by
      rw [hcompleted, queuedOf_append]
      exact (List.append_nil _).symm ▸ hbooks.completedQueue
    completedEvents := by
      rw [hcompleted, eventsOf_append]
      exact (List.append_nil _).symm ▸ hbooks.completedEvents
    keys := hcompleted ▸ hbooks.keys
    closed := by
      intro other hother hcomplete
      rcases List.mem_append.mp hother with hold | hlast
      · exact hbooks.closed other hold hcomplete
      · rw [List.mem_singleton.mp hlast, hstatus] at hcomplete
        cases hcomplete
    fillingRows := forall_mem_concat hbooks.fillingRows (fun h => (nomatch h))
    stateRows := forall_mem_concat hbooks.stateRows (fun h => (nomatch h))
    alarmRows := forall_mem_concat hbooks.alarmRows (fun h => (nomatch h))
    fillingEvents := forall_mem_concat hbooks.fillingEvents (fun h => (nomatch h)) }

/-- The selected row is one of the table, and writing a row under its key
replaces it. -/
theorem Books.write_split (hbooks : Books db) {uuid : String} {row tx : TransactionRow}
    (hrow : getByUuid uuid db = some row) (huuid : tx.transactionUuid = row.transactionUuid) :
    ∃ before after, db.transactions = before ++ row :: after ∧
      (TransactionRepository.write tx db).transactions = before ++ tx :: after :=
  updateBy_split hbooks.uuids (List.mem_of_find?_eq_some hrow) huuid

/-- An update offers only a `FILLING_UPDATED` entry. -/
theorem queuedOf_filledDb {type : SyncEventType} (htype : type ≠ .FILLING_UPDATED)
    {req : FillingUpdateRequest} (row : TransactionRow) (publish : Bool) :
    queuedOf type (filledDb env req row publish db).syncQueue = queuedOf type db.syncQueue := by
  unfold filledDb offered
  dsimp only
  split
  · exact filter_insertNew (decide_eq_false htype.symm)
  · rfl

theorem eventsOf_filledDb {type : TransactionEventType} (htype : type ≠ .FILLING_UPDATE)
    {req : FillingUpdateRequest} (row : TransactionRow) (publish : Bool) :
    eventsOf type (filledDb env req row publish db).transactionEvents =
      eventsOf type db.transactionEvents := by
  unfold filledDb
  dsimp only
  split
  · exact filter_insertNew (decide_eq_false htype.symm)
  · rfl

/-- A transaction is updated. -/
theorem Books.filled (hbooks : Books db) {req : FillingUpdateRequest}
    (hkey : ∀ key ∈ req.eventKey, ∃ rest, key = "fill:" ++ rest) {row : TransactionRow}
    (hrow : getByUuid req.transactionUuid db = some row) (publish : Bool) :
    Books (filledDb env req row publish db) := by
  have huuid : (filledRow req row).transactionUuid = row.transactionUuid := rfl
  obtain ⟨before, after, hold, hwritten⟩ := hbooks.write_split hrow huuid
  generalize hdb : filledDb env req row publish db = filled
  have htransactions : filled.transactions = before ++ filledRow req row :: after := by
    rw [← hdb, ← hwritten]
    rfl
  have hqueue : ∀ type, type ≠ .FILLING_UPDATED →
      queuedOf type filled.syncQueue = queuedOf type db.syncQueue :=
    fun type htype => hdb ▸ queuedOf_filledDb htype row publish
  have hevents : ∀ type, type ≠ .FILLING_UPDATE →
      eventsOf type filled.transactionEvents = eventsOf type db.transactionEvents :=
    fun type htype => hdb ▸ eventsOf_filledDb htype row publish
  -- the update keeps the columns that the books are about
  have hcolumn : ∀ {κ : Type} (column : TransactionRow → κ),
      column (filledRow req row) = column row →
        filled.transactions.map column = db.transactions.map column := by
    intro κ column hsame
    rw [htransactions, hold]
    exact map_replaced hsame before after
  have hcompleted : ∀ {κ : Type} (column : TransactionRow → κ),
      column (filledRow req row) = column row →
        (completedRows filled.transactions).map column =
          (completedRows db.transactions).map column := by
    intro κ column hsame
    unfold completedRows
    rw [htransactions, hold, List.filter_append, List.filter_append, List.filter_cons,
      List.filter_cons, show (filledRow req row).status = row.status from rfl]
    split
    · exact map_replaced hsame _ _
    · rfl
  exact {
    ids := (hcolumn (·.id) rfl).symm ▸ hbooks.ids
    uuids := (hcolumn (·.transactionUuid) rfl).symm ▸ hbooks.uuids
    startedQueue := by
      rw [hqueue _ (by decide), hbooks.startedQueue]
      exact (hcolumn (fun tx => (tx.transactionUuid, "tx-started:" ++ tx.transactionUuid))
        rfl).symm
    startedEvents := by
      rw [hevents _ (by decide), hbooks.startedEvents]
      exact (hcolumn (fun tx => (tx.id, "started:" ++ tx.transactionUuid)) rfl).symm
    completedQueue := by
      rw [hqueue _ (by decide), hcompleted (fun tx =>
        (tx.transactionUuid, "tx-completed:" ++ completionKey tx)) rfl]
      exact hbooks.completedQueue
    completedEvents := by
      rw [hevents _ (by decide), hcompleted (fun tx =>
        (tx.id, "completed:" ++ completionKey tx)) rfl]
      exact hbooks.completedEvents
    keys := (hcompleted completionKey rfl).symm ▸ hbooks.keys
    closed := by
      have hrow := hbooks.closed row (List.mem_of_find?_eq_some hrow)
      rw [htransactions]
      exact forall_mem_replaced (hold ▸ hbooks.closed) hrow
    fillingRows := by
      rw [← hdb]
      unfold filledDb
      dsimp only
      split
      · exact forall_mem_insertNew hbooks.fillingRows fun _ => ⟨_, rfl⟩
      · exact hbooks.fillingRows
    stateRows := by
      rw [← hdb]
      unfold filledDb
      dsimp only
      split
      · exact forall_mem_insertNew hbooks.stateRows fun h => SyncEventType.noConfusion h
      · exact hbooks.stateRows
    alarmRows := by
      rw [← hdb]
      unfold filledDb
      dsimp only
      split
      · exact forall_mem_insertNew hbooks.alarmRows fun h => SyncEventType.noConfusion h
      · exact hbooks.alarmRows
    fillingEvents := by
      rw [← hdb]
      unfold filledDb
      dsimp only
      split
      · -- a fill key never has the form of the other two event ids
        rename_i key hkeyed
        obtain ⟨rest, hrest⟩ := hkey key (Option.mem_filter_iff.mp hkeyed).1
        exact forall_mem_insertNew hbooks.fillingEvents fun _ => ⟨rest, hrest⟩
      · exact hbooks.fillingEvents }

/-- A transaction is completed. -/
theorem Books.closing (hbooks : Books db) {req : CompleteTransactionRequest}
    (hnonempty : req.sourceCompletionKey ≠ "") {row : TransactionRow}
    (hkey : getByCompletionKey req.sourceCompletionKey db = none)
    (hrow : getByUuid req.transactionUuid db = some row) (hopen : ¬ IsClosed row) :
    Books (closedDb env req row db) := by
  generalize htx : closedRow env req row = tx
  have huuid : tx.transactionUuid = row.transactionUuid := htx ▸ rfl
  have hid : tx.id = row.id := htx ▸ rfl
  have htxKey : tx.sourceCompletionKey = some req.sourceCompletionKey := htx ▸ rfl
  have htxStatus : tx.status = .COMPLETED := htx ▸ rfl
  have htxCompletion : completionKey tx = req.sourceCompletionKey := by
    unfold completionKey
    rw [htxKey]
    rfl
  obtain ⟨before, after, hold, hwritten⟩ := hbooks.write_split hrow huuid
  -- the key is new, so both new rows are really added
  have hnew := hbooks.completionKey_new hkey
  have hstatus : row.status ≠ .COMPLETED := fun hcomplete =>
    hopen (hbooks.closed row (List.mem_of_find?_eq_some hrow) hcomplete)
  have hdb : closedDb env req row db = { db with
      transactions := before ++ tx :: after
      transactionEvents := db.transactionEvents ++ [completedEvent tx req]
      syncQueue := db.syncQueue ++
        [queueRow env (completedEntry db tx req.sourceCompletionKey)] } := by
    have hqueue : offered env (completedEntry db tx req.sourceCompletionKey) db.syncQueue =
        db.syncQueue ++ [queueRow env (completedEntry db tx req.sourceCompletionKey)] :=
      insertNew_of_notMem (hbooks.completedRow_new hnew)
    have hevents : insertNew eventId (completedEvent tx req) db.transactionEvents =
        db.transactionEvents ++ [completedEvent tx req] :=
      insertNew_of_notMem (hbooks.completedEvent_new hnew tx.id)
    unfold closedDb
    rw [htx]
    dsimp only
    rw [hqueue, hevents, hwritten]
    rfl
  -- the closed row joins the completed ones
  have hcompleted : (completedRows (before ++ tx :: after)).Perm
      (completedRows db.transactions ++ [tx]) := by
    unfold completedRows
    rw [hold]
    exact filter_replaced (by simp [htxStatus]) (by simp [hstatus]) before after
  rw [hdb]
  exact {
    ids := by
      rw [map_replaced hid, ← hold]
      exact hbooks.ids
    uuids := by
      rw [map_replaced huuid, ← hold]
      exact hbooks.uuids
    startedQueue := by
      rw [queuedOf_append, List.map_append, hbooks.startedQueue, hold]
      exact (List.append_nil _).trans (map_replaced (by rw [huuid]) before after).symm
    startedEvents := by
      rw [eventsOf_append, List.map_append, hbooks.startedEvents, hold]
      exact (List.append_nil _).trans (map_replaced (by rw [huuid, hid]) before after).symm
    completedQueue := by
      rw [queuedOf_append, List.map_append]
      refine (hbooks.completedQueue.append_right _).trans ?_
      refine List.Perm.trans ?_ (hcompleted.map _).symm
      rw [List.map_append, List.map_singleton, htxCompletion]
      rfl
    completedEvents := by
      rw [eventsOf_append, List.map_append]
      refine (hbooks.completedEvents.append_right _).trans ?_
      refine List.Perm.trans ?_ (hcompleted.map _).symm
      rw [List.map_append, List.map_singleton, htxCompletion]
      rfl
    keys := by
      rw [(hcompleted.map completionKey).nodup_iff, List.map_append]
      refine List.Nodup.append hbooks.keys (List.nodup_singleton _) ?_
      exact List.disjoint_singleton.mpr (htxCompletion ▸ hnew)
    closed := by
      exact forall_mem_replaced (hold ▸ hbooks.closed) fun hcomplete =>
        ⟨hcomplete, _, htxKey, hnonempty⟩
    fillingRows := forall_mem_concat hbooks.fillingRows (fun h => (nomatch h))
    stateRows := forall_mem_concat hbooks.stateRows (fun h => (nomatch h))
    alarmRows := forall_mem_concat hbooks.alarmRows (fun h => (nomatch h))
    fillingEvents := forall_mem_concat hbooks.fillingEvents (fun h => (nomatch h)) }

/-- The calls that the bridge makes: a completion has a key, and a filling update
has the key of its values or none. -/
def LedgerCall.WellFormed : LedgerCall → Prop
  | .begin _ => True
  | .updateFilling req =>
      ∀ key ∈ req.eventKey, key = fillKey req.transactionUuid req.rawVolume req.rawAmount
  | .complete req => req.sourceCompletionKey ≠ ""

instance (call : LedgerCall) : Decidable call.WellFormed := by
  cases call <;> unfold LedgerCall.WellFormed <;> infer_instance

/-- Every outcome of a well-formed call keeps the books. -/
theorem LedgerOutcome.books {process : Process} {call : LedgerCall} {after : Database}
    (houtcome : LedgerOutcome env process call after) (hcall : call.WellFormed)
    (hbooks : Books process.db) : Books after := by
  cases houtcome with
  | nothing => exact hbooks
  | begun req hnew hid => exact hbooks.begun hnew hid
  | filled req row hrow =>
      exact hbooks.filled (fun key hkey => ⟨_, hcall key hkey⟩) hrow _
  | closed req row hkey hrow hopen => exact hbooks.closing hcall hkey hrow hopen

/-- No row disappears, and no volume or amount decreases. -/
def RowsGrow (before after : Database) : Prop :=
  ∀ row ∈ before.transactions, ∃ later ∈ after.transactions, later.id = row.id ∧
    row.rawVolume ≤ later.rawVolume ∧ row.rawAmount ≤ later.rawAmount

instance : IsPreorder Database RowsGrow where
  refl _ row hrow := ⟨row, hrow, rfl, le_refl _, le_refl _⟩
  trans _ _ _ hfirst hsecond row hrow := by
    obtain ⟨mid, hmid, hid, hvolume, hamount⟩ := hfirst row hrow
    obtain ⟨later, hlater, hid', hvolume', hamount'⟩ := hsecond mid hmid
    exact ⟨later, hlater, hid'.trans hid, hvolume.trans hvolume', hamount.trans hamount'⟩

/-- A row is replaced by one that is no smaller. -/
theorem Books.grow_write (hbooks : Books db) {uuid : String} {row tx : TransactionRow}
    (hrow : getByUuid uuid db = some row) (huuid : tx.transactionUuid = row.transactionUuid)
    (hid : tx.id = row.id) (hvolume : row.rawVolume ≤ tx.rawVolume)
    (hamount : row.rawAmount ≤ tx.rawAmount) :
    RowsGrow db (TransactionRepository.write tx db) := by
  obtain ⟨before, after, hold, hwritten⟩ := hbooks.write_split hrow huuid
  intro other hother
  rw [hwritten]
  rw [hold] at hother
  rcases List.mem_append.mp hother with hbefore | hrest
  · exact ⟨other, List.mem_append_left _ hbefore, rfl, le_refl _, le_refl _⟩
  · rcases List.mem_cons.mp hrest with rfl | hafter
    · exact ⟨tx, List.mem_append_right _ List.mem_cons_self, hid, hvolume, hamount⟩
    · exact ⟨other, List.mem_append_right _ (List.mem_cons_of_mem _ hafter), rfl,
        le_refl _, le_refl _⟩

theorem LedgerOutcome.grow {process : Process} {call : LedgerCall} {after : Database}
    (houtcome : LedgerOutcome env process call after) (hbooks : Books process.db) :
    RowsGrow process.db after := by
  cases houtcome with
  | nothing => exact refl_of RowsGrow _
  | begun req hnew hid =>
      intro row hrow
      exact ⟨row, List.mem_append_left _ hrow, rfl, le_refl _, le_refl _⟩
  | filled req row hrow =>
      have huuid : (filledRow req row).transactionUuid = row.transactionUuid := rfl
      exact hbooks.grow_write hrow huuid rfl (le_max_left _ _) (le_max_left _ _)
  | closed req row hkey hrow hopen =>
      have huuid : (closedRow env req row).transactionUuid = row.transactionUuid := rfl
      exact hbooks.grow_write hrow huuid rfl (le_max_left _ _) (le_max_left _ _)

/-- What a reader of the tables relies on. -/
theorem Books.coupled (hbooks : Books db) : Coupled db where
  startedRow := by
    intro tx htx
    have hentities : (queuedOf .TRANSACTION_STARTED db.syncQueue).map (·.entityId) =
        db.transactions.map (·.transactionUuid) := by
      have hfirst := congrArg (List.map Prod.fst) hbooks.startedQueue
      rwa [List.map_map, List.map_map] at hfirst
    rw [hentities]
    exact List.count_eq_one_of_mem hbooks.uuids (List.mem_map_of_mem htx)
  startedEvent := by
    intro tx htx
    have htransactions : (eventsOf .STARTED db.transactionEvents).map (·.transactionId) =
        db.transactions.map (·.id) := by
      have hfirst := congrArg (List.map Prod.fst) hbooks.startedEvents
      rwa [List.map_map, List.map_map] at hfirst
    rw [htransactions]
    exact List.count_eq_one_of_mem hbooks.ids (List.mem_map_of_mem htx)
  completedRow := hbooks.completedQueue
  completedEvent := hbooks.completedEvents
  uuids := hbooks.uuids
  ids := hbooks.ids
  keys := hbooks.keys
  keyed := by
    intro tx htx
    obtain ⟨htx, hstatus⟩ := List.mem_filter.mp htx
    exact (hbooks.closed tx htx (of_decide_eq_true hstatus)).2

end

/-! ## Runs of units -/

/-- A call in its unit of work; the commit of the unit may fail. -/
structure LedgerUnit where
  env : Env
  call : LedgerCall
  commitFails : Bool := false

def LedgerUnit.run (unit : LedgerUnit) (process : Process) : Process :=
  let after := (unitOfWork (unit.call.run unit.env) process).2
  if unit.commitFails then { after with db := process.db } else after

/-- The process after units one after another. -/
def runUnits (process : Process) (units : List LedgerUnit) : Process :=
  units.foldl (fun process unit => unit.run process) process

/-- A unit leaves an outcome of its call, or nothing. -/
theorem LedgerUnit.outcome (unit : LedgerUnit) (process : Process) :
    LedgerOutcome unit.env process unit.call (unit.run process).db := by
  unfold LedgerUnit.run
  dsimp only
  split
  · exact .nothing _
  · unfold unitOfWork
    rcases unit.call.outcome unit.env process with ⟨db, book, hran, houtcome⟩ |
      ⟨error, hraised⟩
    · rw [hran]
      exact houtcome
    · rw [hraised]
      exact .nothing _

/-- A unit of one call leaves the address map. -/
theorem LedgerUnit.txByAddress (unit : LedgerUnit) (process : Process) :
    (unit.run process).txByAddress = process.txByAddress := by
  unfold LedgerUnit.run unitOfWork
  rcases unit.call.outcome unit.env process with ⟨db, book, hran, -⟩ | ⟨error, hraised⟩
  · rw [hran]
    dsimp only
    split <;> rfl
  · rw [hraised]
    dsimp only
    split <;> rfl

theorem books_runUnits {units : List LedgerUnit}
    (hcalls : ∀ unit ∈ units, unit.call.WellFormed) {process : Process}
    (hbooks : Books process.db) :
    Books (runUnits process units).db ∧ RowsGrow process.db (runUnits process units).db := by
  induction units generalizing process with
  | nil => exact ⟨hbooks, refl_of RowsGrow _⟩
  | cons unit rest ih =>
      have houtcome := unit.outcome process
      have hnext := houtcome.books (hcalls unit List.mem_cons_self) hbooks
      obtain ⟨hlast, hgrow⟩ :=
        ih (fun other hother => hcalls other (List.mem_cons_of_mem _ hother)) hnext
      exact ⟨hlast, trans_of RowsGrow (houtcome.grow hbooks) hgrow⟩

/-- The ledger before its first sale. -/
def Process.LedgerEmpty (process : Process) : Prop :=
  process.db.transactions = [] ∧ process.db.transactionEvents = [] ∧
    process.db.syncQueue = []

theorem Process.LedgerEmpty.books {process : Process} (hempty : process.LedgerEmpty) :
    Books process.db := by
  obtain ⟨htransactions, hevents, hqueue⟩ := hempty
  constructor
  case ids | uuids | keys =>
    rw [htransactions]
    exact List.nodup_nil
  case startedQueue =>
    rw [htransactions, hqueue]
    rfl
  case startedEvents =>
    rw [htransactions, hevents]
    rfl
  case completedQueue =>
    rw [htransactions, hqueue]
    exact .nil
  case completedEvents =>
    rw [htransactions, hevents]
    exact .nil
  case closed =>
    rw [htransactions]
    exact fun _ h => absurd h List.not_mem_nil
  case fillingRows | stateRows | alarmRows =>
    rw [hqueue]
    exact fun _ h => absurd h List.not_mem_nil
  case fillingEvents =>
    rw [hevents]
    exact fun _ h => absurd h List.not_mem_nil

/-- After any units of well-formed calls, some of them rolled back, the ledger
and its outbox are coupled, and from any part of the run on no volume or amount
decreases. -/
theorem ledger_outbox_coupled {start : Process} (hempty : start.LedgerEmpty)
    (units : List LedgerUnit) (hcalls : ∀ unit ∈ units, unit.call.WellFormed) :
    Coupled (runUnits start units).db ∧
      ∀ earlier later, units = earlier ++ later →
        RowsGrow (runUnits start earlier).db (runUnits start units).db := by
  refine ⟨(books_runUnits hcalls hempty.books).1.coupled, ?_⟩
  rintro earlier later rfl
  have hearlier := (books_runUnits (fun unit hunit =>
    hcalls unit (List.mem_append_left _ hunit)) hempty.books).1
  have hlater := (books_runUnits (fun unit hunit =>
    hcalls unit (List.mem_append_right _ hunit)) hearlier).2
  unfold runUnits at hlater ⊢
  rw [List.foldl_append]
  exact hlater

/-- A sale that is begun, updated in a unit that is rolled back and in one that
commits, and completed twice. -/
def saleUnits : List LedgerUnit :=
  [⟨numberedEnv 1, .begin ⟨"S1", "db-1", "sale", some 1, none, none, none, none, true, "LAB",
      none⟩, false⟩,
    ⟨numberedEnv 2, .updateFilling ⟨"sale", 500, 900, none, some (fillKey "sale" 500 900),
      none⟩, true⟩,
    ⟨numberedEnv 3, .updateFilling ⟨"sale", 700, 1260, none, some (fillKey "sale" 700 1260),
      none⟩, false⟩,
    ⟨numberedEnv 4, .complete ⟨"sale", "frame-1", 0, 0, none, none⟩, false⟩,
    ⟨numberedEnv 5, .complete ⟨"sale", "frame-2", 0, 0, none, none⟩, false⟩]

theorem ledger_outbox_coupled_sale :
    (runUnits {} saleUnits).db.transactions.map (·.rawVolume) = [700] ∧
      Coupled (runUnits {} saleUnits).db ∧
      ∀ earlier later, saleUnits = earlier ++ later →
        RowsGrow (runUnits {} earlier).db (runUnits {} saleUnits).db :=
  ⟨by decide +kernel, ledger_outbox_coupled ⟨rfl, rfl, rfl⟩ saleUnits (by decide +kernel)⟩

end Services
end Intelipump
