import Mathlib.Tactic.Common
import Intelipump.Controller.PumpSession
import Intelipump.Persistence.Registry
import Intelipump.Services.PersistenceBridge

namespace Intelipump
namespace Services

open Controller
open Dart.Line
open Domain
open Foundation.StateEffect
open Foundation.Tables
open Persistence
open StateMachine

/-!
# Recovery after a restart

The contexts of the pumps are read back from the latest snapshots, interrupted
commands are closed, and sessions are seeded with the contexts.  The schema
version and the log of a run are left out.
-/

structure RecoveryReport where
  pumpsRestored : List String := []
  unresolvedTransactions : List String := []
  commandsExpired : List String := []
  commandsNeedingReconciliation : List String := []
  queueLocksReleased : Nat := 0
  warnings : List String := []
  /-- By logical identifier. -/
  pumpContexts : List (String × PumpContext) := []

namespace RecoveryService

/-! ## Pumps -/

/-- Upsert the pump rows of the configured addresses; the result maps an address to
the identifier of its row. -/
def ensurePumps (env : Env) (stationId : String) (addresses : List Byte) :
    UnitOfWork (List (Byte × String)) :=
  addresses.foldlM (fun mapping address => do
    let pump ← PumpRepository.upsert (env.uuid4 (.pumpRow address)) stationId
      s!"pump-{address.toNat}" address
    return (address, pump.id) :: mapping.filter (·.1 ≠ address)) []

/-- The context of a pump with a latest snapshot.  Live observations are required
before the communication counts as healthy. -/
def recoveredContext (pump : PumpRow) (snap : Option PumpStateSnapshotRow) : PumpContext :=
  match snap with
  | none => {
      pumpId := pump.logicalPumpId
      dartAddress := pump.dartAddress
      currentState := .DISCONNECTED
      communicationHealthy := false }
  | some snap => {
      pumpId := pump.logicalPumpId
      dartAddress := pump.dartAddress
      currentState := (PumpState.ofValue? snap.normalizedState).getD .DISCOVERING
      previousState := (usable snap.previousState).bind PumpState.ofValue?
      selectedNozzle := snap.selectedNozzle
      activeTransactionId := snap.activeTransactionId
      communicationHealthy := false
      lastRawWayneStatus := snap.rawWayneStatus
      stateVersion := snap.stateVersion
      lastSourceFrameHex := snap.sourceFrameRef }

def snapshotWarnings (pump : PumpRow) (snap : Option PumpStateSnapshotRow) : List String :=
  match snap with
  | none => []
  | some snap =>
      (if PumpState.ofValue? snap.normalizedState = none then
        [s!"unknown persisted state {snap.normalizedState} for {pump.logicalPumpId}"]
      else []) ++
      if snap.communicationHealthy then
        [s!"{pump.logicalPumpId}: persisted communication was healthy; " ++
          "restart forces unhealthy until live data"]
      else []

/-! ## Commands -/

/-- The command has run out of time; without an expiry it never does. -/
def HasExpired (now : Int) (cmd : CommandRow) : Prop := ∃ expires ∈ cmd.expiresAt, expires ≤ now

instance (now : Int) (cmd : CommandRow) : Decidable (HasExpired now cmd) :=
  inferInstanceAs (Decidable (∃ expires ∈ cmd.expiresAt, expires ≤ now))

/-- The command is known and is not a plain read. -/
def NotReplayed (cmd : CommandRow) : Prop :=
  ∃ command ∈ PumpCommand.ofValue? cmd.commandType,
    command ∈ NON_IDEMPOTENT_COMMANDS ∨ command ∉ [PumpCommand.READ_STATUS, .READ_TOTALS]

instance (cmd : CommandRow) : Decidable (NotReplayed cmd) :=
  inferInstanceAs (Decidable (∃ command ∈ PumpCommand.ofValue? cmd.commandType, _ ∨ _))

/-- The status of an interrupted command after a restart, and its reason. -/
def restartStatus (now : Int) (cmd : CommandRow) : CommandStatus × String :=
  if HasExpired now cmd then (.EXPIRED, "expired_on_restart")
  else if NotReplayed cmd then
    (.NEEDS_RECONCILIATION, "non_idempotent_not_replayed_after_restart")
  else (.EXPIRED, "read_not_auto_replayed")

/-- The report with an interrupted command. -/
def noteCommand (now : Int) (cmd : CommandRow) (report : RecoveryReport) : RecoveryReport :=
  if (restartStatus now cmd).1 = .EXPIRED then
    { report with commandsExpired := report.commandsExpired ++ [cmd.correlationId] }
  else
    { report with
      commandsNeedingReconciliation :=
        report.commandsNeedingReconciliation ++ [cmd.correlationId]
      warnings := report.warnings ++
        [s!"command {cmd.commandType} {cmd.correlationId} → " ++
          "NEEDS_RECONCILIATION (not replayed)"] }

def reconcileCommand (now : Int) (report : RecoveryReport) (cmd : CommandRow) :
    UnitOfWork RecoveryReport := do
  let _ ← CommandRepository.updateStatus cmd.correlationId (restartStatus now cmd).1
    (some now) (some (.object [("reason", .text (restartStatus now cmd).2)]))
  return noteCommand now cmd report

/-! ## The recovery -/

/-- The report on pumps and transactions, before the commands are reconciled. -/
def surveyReport (stationId : String) (released : Nat) (db : Database) : RecoveryReport :=
  let pumps := PumpRepository.listForStation stationId db
  let unresolved := (TransactionRepository.listUnresolved stationId db).map (·.transactionUuid)
  let latest (pump : PumpRow) := StateRepository.latest pump.id db.states
  { pumpsRestored := pumps.map (·.logicalPumpId)
    unresolvedTransactions := unresolved
    queueLocksReleased := released
    warnings := pumps.flatMap (fun pump => snapshotWarnings pump (latest pump)) ++
      unresolved.map fun uuid => s!"unresolved transaction preserved: {uuid}"
    pumpContexts := pumps.map fun pump =>
      (pump.logicalPumpId, recoveredContext pump (latest pump)) }

def closingWarnings : List String :=
  ["Never automatically authorize after restart.",
    "Non-idempotent pending commands were not replayed."]

def recover (env : Env) (stationId : String) : UnitOfWork RecoveryReport := do
  let released ← SyncQueueRepository.releaseStaleLocks (env.now .queueLocks)
  let db ← get
  let report ← (CommandRepository.listPendingOrInProgress stationId db).foldlM
    (reconcileCommand (env.now .recovery)) (surveyReport stationId released db)
  return { report with warnings := report.warnings ++ closingWarnings }

/-! ## What a recovery does -/

/-- The commands after one was closed. -/
def closeCommand (now : Int) (commands : List CommandRow) (cmd : CommandRow) :
    List CommandRow :=
  match commands.find? (·.correlationId = cmd.correlationId) with
  | none => commands
  | some old =>
      updateBy (·.correlationId) (CommandRepository.updated old (restartStatus now cmd).1
        (some now) (some (.object [("reason", .text (restartStatus now cmd).2)]))) commands

theorem reconcileCommand_eq (now : Int) (report : RecoveryReport) (cmd : CommandRow)
    (db : Database) :
    reconcileCommand now report cmd db =
      .ok (noteCommand now cmd report)
        { db with commands := closeCommand now db.commands cmd } := by
  unfold reconcileCommand closeCommand
  have hupdate : ∃ row, CommandRepository.updateStatus cmd.correlationId
      (restartStatus now cmd).1 (some now)
        (some (.object [("reason", .text (restartStatus now cmd).2)])) db =
      .ok row { db with commands := closeCommand now db.commands cmd } := by
    unfold CommandRepository.updateStatus CommandRepository.get closeCommand
    cases db.commands.find? (·.correlationId = cmd.correlationId) with
    | none => exact ⟨none, rfl⟩
    | some old => exact ⟨some _, rfl⟩
  obtain ⟨row, hupdate⟩ := hupdate
  rw [bind_ok hupdate]
  rfl

/-- Reconciling never raises and changes commands only. -/
theorem foldlM_reconcileCommand (now : Int) (cmds : List CommandRow)
    (report : RecoveryReport) (db : Database) :
    cmds.foldlM (reconcileCommand now) report db =
      .ok (cmds.foldl (fun noted cmd => noteCommand now cmd noted) report)
        { db with commands := cmds.foldl (closeCommand now) db.commands } := by
  induction cmds generalizing report db with
  | nil => rfl
  | cons cmd rest ih =>
      rw [List.foldlM_cons, bind_ok (reconcileCommand_eq now report cmd db), ih]
      rfl

/-- Closing commands says nothing about pumps. -/
theorem pumpContexts_noteCommands (now : Int) (cmds : List CommandRow)
    (report : RecoveryReport) :
    (cmds.foldl (fun noted cmd => noteCommand now cmd noted) report).pumpContexts =
      report.pumpContexts := by
  induction cmds generalizing report with
  | nil => rfl
  | cons cmd rest ih =>
      rw [List.foldl_cons, ih]
      unfold noteCommand
      split <;> rfl

/-- The database after a recovery. -/
def recoveredDb (env : Env) (stationId : String) (db : Database) : Database :=
  { db with
    syncQueue := db.syncQueue.map fun row =>
      if SyncQueueRepository.IsStale (env.now .queueLocks) row then
        { row with status := .PENDING, lockedAt := none }
      else row
    commands := (CommandRepository.listPendingOrInProgress stationId db).foldl
      (closeCommand (env.now .recovery)) db.commands }

/-- Closing a command changes no identifier. -/
theorem map_correlationId_closeCommand (now : Int) (commands : List CommandRow)
    (cmd : CommandRow) :
    (closeCommand now commands cmd).map (·.correlationId) =
      commands.map (·.correlationId) := by
  unfold closeCommand
  cases commands.find? (·.correlationId = cmd.correlationId) with
  | none => rfl
  | some old => exact map_key_updateBy (·.correlationId) _ commands

theorem map_correlationId_recoveredDb (env : Env) (stationId : String) (db : Database) :
    (recoveredDb env stationId db).commands.map (·.correlationId) =
      db.commands.map (·.correlationId) := by
  unfold recoveredDb
  dsimp only
  generalize CommandRepository.listPendingOrInProgress stationId db = cmds
  generalize db.commands = commands
  induction cmds generalizing commands with
  | nil => rfl
  | cons cmd rest ih => rw [List.foldl_cons, ih, map_correlationId_closeCommand]

/-- With no pending command there is nothing to close. -/
theorem commands_recoveredDb_of_none (env : Env) {stationId : String} {db : Database}
    (hnone : CommandRepository.listPendingOrInProgress stationId db = []) :
    (recoveredDb env stationId db).commands = db.commands := by
  unfold recoveredDb
  rw [hnone]
  rfl

/-- A recovery never raises; it reports the contexts of the latest snapshots. -/
theorem recover_eq (env : Env) (stationId : String) (db : Database) :
    ∃ report, recover env stationId db = .ok report (recoveredDb env stationId db) ∧
      report.pumpContexts = (PumpRepository.listForStation stationId db).map fun pump =>
        (pump.logicalPumpId,
          recoveredContext pump (StateRepository.latest pump.id db.states)) := by
  have hreleased : SyncQueueRepository.releaseStaleLocks (env.now .queueLocks) db =
      .ok _ { db with syncQueue := (recoveredDb env stationId db).syncQueue } := rfl
  unfold recover
  rw [bind_ok hreleased, get_bind, bind_ok (foldlM_reconcileCommand _ _ _ _)]
  exact ⟨_, rfl, pumpContexts_noteCommands _ _ _⟩

end RecoveryService

/-! ## The start of the process -/

/-- What a started persistence holds. -/
structure PersistenceRuntime where
  bridge : PersistenceBridge
  recovery : RecoveryReport

/-- Ensure the pumps, recover, and build a new bridge. -/
def startPersistence (env : Env) (stationId environment : String) (addresses : List Byte)
    (simulated : Bool) : UnitOfWork PersistenceRuntime := do
  let pumpMap ← atomically (RecoveryService.ensurePumps env stationId addresses)
  let report ← atomically (RecoveryService.recover env stationId)
  return {
    bridge := {
      stationId := stationId
      environment := environment
      simulated := simulated
      pumpIdByAddress := pumpMap
      logicalByAddress := addresses.map fun address => (address, s!"pump-{address.toNat}") }
    recovery := report }

/-- A session with the recovered context of its address, if there is one. -/
def seedSession (contexts : List (String × PumpContext)) (session : PumpSession) :
    PumpSession :=
  match (contexts.map (·.2)).reverse.find? (·.dartAddress = session.address) with
  | none => session
  | some ctx =>
      { session with
        context := { ctx with communicationHealthy := false }
        state := { session.state with lastState := ctx.currentState } }

/-- Seed the sessions from recovery without claiming live health. -/
def applyRecoveredContexts (sessions : List PumpSession)
    (contexts : List (String × PumpContext)) : List PumpSession :=
  sessions.map (seedSession contexts)

end Services
end Intelipump
