import Mathlib.Data.Prod.Lex
import Mathlib.Tactic.Common
import Intelipump.Foundation.PriorityQueue
import Intelipump.Foundation.Runs
import Intelipump.Foundation.StateEffect
import Intelipump.Services.PersistenceBridge

namespace Intelipump
namespace Services

open Controller
open Dart.Line
open Domain
open Foundation.PriorityQueue
open Foundation.StateEffect

/-!
# The queue in front of the database

The bridge turns events into jobs, a bounded priority queue holds them, and one task hands
them to their handlers.  A full queue refuses critical jobs and drops the others.
-/

inductive PersistPriority where
  | CRITICAL | NORMAL
deriving DecidableEq, Repr

/-- The number of a member of the `IntEnum`. -/
def PersistPriority.value : PersistPriority → Nat
  | .CRITICAL => 0
  | .NORMAL => 1

/-- The payload of a job; the handler goes by it. -/
inductive JobPayload where
  | stateChanged (address : Byte) (detail : String) (payload : EventPayload)
  | appDecoded (address : Byte) (detail : String) (payload : EventPayload) (isDc2 : Bool)
  | comm (address : Byte) (type : PersistenceBridge.CommType)
  | protocolError (address : Byte) (detail : String) (payload : EventPayload)
  | rejectedCommand (correlationId : String) (address : Byte) (command : PumpCommand)
      (currentState : String) (blockingReasons : List String) (simulatorOnly : Bool)
deriving DecidableEq, Repr

/-- The `kind` that a job is submitted with. -/
def JobPayload.kind : JobPayload → String
  | .stateChanged _ _ _ => "state_changed"
  | .appDecoded _ _ _ _ => "app_decoded"
  | .comm _ _ => "comm"
  | .protocolError _ _ _ => "protocol_error"
  | .rejectedCommand _ _ _ _ _ _ => "rejected_command"

structure PersistJob where
  priority : PersistPriority
  seq : Nat
  payload : JobPayload
deriving DecidableEq, Repr

/-- Jobs are compared by their priorities, then by their numbers. -/
def PersistJob.key (job : PersistJob) : Nat ×ₗ Nat := toLex (job.priority.value, job.seq)

/-- The queue of a worker, and whether its task runs.  A bound below 1 is none. -/
structure PersistenceWorker where
  maxsize : Int := 256
  queue : List PersistJob := []
  seq : Nat := 0
  running : Bool := false
  droppedNormal : Nat := 0
  processed : Nat := 0
  errors : Nat := 0
deriving DecidableEq, Repr

namespace PersistenceWorker

/-- `asyncio.Queue.full()`. -/
def IsFull (worker : PersistenceWorker) : Prop :=
  0 < worker.maxsize ∧ worker.maxsize ≤ worker.queue.length

instance (worker : PersistenceWorker) : Decidable worker.IsFull :=
  inferInstanceAs (Decidable (_ ∧ _))

/-- The job that the next call of `submit` makes. -/
def nextJob (worker : PersistenceWorker) (priority : PersistPriority) (payload : JobPayload) :
    PersistJob :=
  ⟨priority, worker.seq + 1, payload⟩

/-- The number of a job is used up, whether it is queued or not. -/
def submit (priority : PersistPriority) (payload : JobPayload) :
    EStateM Raised PersistenceWorker Unit := fun worker =>
  let numbered := { worker with seq := worker.seq + 1 }
  if worker.IsFull then
    match priority with
    | .CRITICAL => .error (.persistenceQueueFullError
        "critical persistence queue full; refusing to drop") numbered
    | .NORMAL => .ok () { numbered with droppedNormal := worker.droppedNormal + 1 }
  else
    .ok () { numbered with
      queue := put PersistJob.key (worker.nextJob priority payload) worker.queue }

end PersistenceWorker

namespace PersistenceBridge

/-- The text occurs in a detail in upper case. -/
def Mentions (text detail : String) : Prop := text.toList <:+: detail.toUpper.toList

instance (text detail : String) : Decidable (Mentions text detail) :=
  inferInstanceAs (Decidable (_ <:+: _))

/-- The priority and the payload of the job that an event is turned into. -/
def eventJob (event : ControllerEvent) : Option (PersistPriority × JobPayload) :=
  match event.type with
  | .STATE_CHANGED => some (.NORMAL, .stateChanged event.address event.detail event.payload)
  | .APPLICATION_TRANSACTION_DECODED =>
      some (if Mentions "COMPLETE" event.detail then .CRITICAL else .NORMAL,
        .appDecoded event.address event.detail event.payload
          (decide (Mentions "DC2" event.detail ∨ event.detail = "DC2_FILLED_VOLUME_AMOUNT")))
  | .PUMP_CONNECTED => some (.NORMAL, .comm event.address .PUMP_CONNECTED)
  | .PUMP_DISCONNECTED => some (.NORMAL, .comm event.address .PUMP_DISCONNECTED)
  | .FRAME_REJECTED => some (.NORMAL, .protocolError event.address event.detail event.payload)
  | _ => none

/-- `on_event`, without the live broker. -/
def onEvent (event : ControllerEvent) : EStateM Raised PersistenceWorker Unit :=
  match eventJob event with
  | some (priority, payload) => PersistenceWorker.submit priority payload
  | none => pure ()

def enqueueRejectedCommand (correlationId : String) (address : Byte) (command : PumpCommand)
    (currentState : String) (blockingReasons : List String) (simulatorOnly : Bool) :
    EStateM Raised PersistenceWorker Unit :=
  PersistenceWorker.submit .CRITICAL
    (.rejectedCommand correlationId address command currentState blockingReasons simulatorOnly)

end PersistenceBridge

/-! ## Runs -/

/-- How a handler ended; a task that is stopped is cancelled in it. -/
inductive HandlerEnd where
  | returned | raised | cancelled
deriving DecidableEq, Repr

/-- A worker and the jobs that were handed to their handlers. -/
structure PersistRun where
  worker : PersistenceWorker
  handed : List PersistJob := []
deriving DecidableEq, Repr

/-- A turn is one pass of the loop of `_run`. -/
inductive PersistStep where
  | event (event : ControllerEvent)
  | rejectedCommand (correlationId : String) (address : Byte) (command : PumpCommand)
      (currentState : String) (blockingReasons : List String) (simulatorOnly : Bool)
  | turn (handlerEnd : HandlerEnd)
  | start
  | stop
deriving DecidableEq, Repr

namespace PersistRun

variable (run : PersistRun)

/-- What a call leaves of the worker; an exception goes to the caller. -/
def submitted (call : EStateM Raised PersistenceWorker Unit) : PersistRun :=
  { run with worker := finalState call run.worker }

/-- The least job leaves the queue and is handed to its handler. -/
def turn (handlerEnd : HandlerEnd) : PersistRun :=
  match run.worker.running, run.worker.queue with
  | true, job :: rest =>
      { worker :=
          match handlerEnd with
          | .returned => { run.worker with
              queue := rest, processed := run.worker.processed + 1 }
          | .raised => { run.worker with queue := rest, errors := run.worker.errors + 1 }
          | .cancelled => { run.worker with queue := rest, running := false }
        handed := run.handed ++ [job] }
  | _, _ => run

def step : PersistStep → PersistRun
  | .event event => run.submitted (PersistenceBridge.onEvent event)
  | .rejectedCommand correlationId address command currentState blockingReasons simulatorOnly =>
      run.submitted (PersistenceBridge.enqueueRejectedCommand correlationId address command
        currentState blockingReasons simulatorOnly)
  | .turn handlerEnd => run.turn handlerEnd
  | .start => { run with worker := { run.worker with running := true } }
  | .stop => { run with worker := { run.worker with running := false } }

end PersistRun

end Services
end Intelipump
