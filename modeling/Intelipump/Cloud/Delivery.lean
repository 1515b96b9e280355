import Mathlib.Tactic.Common
import Intelipump.Persistence.SyncQueue
import Intelipump.Services.PersistenceBridge

namespace Intelipump
namespace Cloud

open Persistence
open Services

/-!
# From a queued row to a message

The topic, the envelope and the quality of service of a row.  The identifier, the
sequence number and the two time stamps of an envelope are left out.
-/

/-! ## Topics -/

/-- `str.isspace` of a character. -/
def isSpace (char : Char) : Bool :=
  char.toNat ∈ [0x20, 0x85, 0xA0, 0x1680, 0x2028, 0x2029, 0x202F, 0x205F, 0x3000] ||
    (0x09 ≤ char.toNat && char.toNat ≤ 0x0D) || (0x1C ≤ char.toNat && char.toNat ≤ 0x1F) ||
    (0x2000 ≤ char.toNat && char.toNat ≤ 0x200A)

/-- `str.strip()`. -/
def strip (text : String) : List Char :=
  ((text.toList.dropWhile isSpace).reverse.dropWhile isSpace).reverse

def isIdentifierStart (char : Char) : Bool :=
  ('a' ≤ char && char ≤ 'z') || ('A' ≤ char && char ≤ 'Z') || ('0' ≤ char && char ≤ '9')

/-- A text that the pattern for identifiers matches wholly. -/
def isIdentifier : List Char → Bool
  | [] => false
  | first :: rest => isIdentifierStart first && decide (rest.length ≤ 127) &&
      rest.all fun char => isIdentifierStart char || char ∈ ['.', '_', ':', '-']

/-- What an identifier must not contain, as the message quotes it. -/
def FORBIDDEN : List (List Char × String) :=
  [(['+'], "'+'"), (['#'], "'#'"), (['.', '.'], "'..'"), (['/'], "'/'"),
    (['\\'], "'\\\\'"), (['\x00'], "'\\x00'")]

/-- `_validate_id`, without the quotation of a value that the pattern refuses. -/
def validateId (name value : String) : Except Raised String :=
  match strip value with
  | [] => .error (.topicError s!"{name} must not be empty")
  | chars =>
      match FORBIDDEN.find? fun bad => decide (bad.1 <:+: chars) with
      | some bad =>
          .error (.topicError (s!"{name} contains forbidden character sequence: " ++ bad.2))
      | none =>
          if isIdentifier chars then .ok (String.ofList chars)
          else .error (.topicError s!"{name} has invalid characters")

/-- The topics below `intelipump/lab` or `intelipump/prod`. -/
structure TopicBuilder where
  segment : String
deriving DecidableEq, Repr

namespace TopicBuilder

variable (topics : TopicBuilder)

def root : String := s!"intelipump/{topics.segment}"

def transactions (stationId : String) : Except Raised String := do
  let station ← validateId "station_id" stationId
  return s!"{topics.root}/stations/{station}/transactions"

def alarms (stationId : String) : Except Raised String := do
  let station ← validateId "station_id" stationId
  return s!"{topics.root}/stations/{station}/alarms"

def pumpEvents (stationId pumpId : String) : Except Raised String := do
  let station ← validateId "station_id" stationId
  let pump ← validateId "pump_id" pumpId
  return s!"{topics.root}/stations/{station}/pumps/{pump}/events"

end TopicBuilder

/-! ## Envelopes -/

/-- `payload.get("pump_id")`. -/
def payloadPumpId : SyncPayload → Option String
  | .transactionStarted _ => none
  | .fillingUpdated payload => some payload.pumpId
  | .transactionCompleted payload => some payload.pumpId
  | .stateChanged payload => some payload.pumpId
  | .alarmActive _ => none

/-- `payload.get("transaction_uuid")`. -/
def payloadTransactionId : SyncPayload → Option String
  | .transactionStarted payload => some payload.transactionUuid
  | .fillingUpdated payload => some payload.transactionUuid
  | .transactionCompleted payload => some payload.transactionUuid
  | .stateChanged _ => none
  | .alarmActive _ => none

/-- `payload.get("simulated")`. -/
def payloadSimulated : SyncPayload → Option Bool
  | .transactionStarted payload => some payload.simulated
  | .fillingUpdated payload => some payload.simulated
  | .transactionCompleted payload => some payload.simulated
  | .stateChanged _ => none
  | .alarmActive payload => some payload.simulated

structure CloudMessageEnvelope where
  eventType : SyncEventType
  schemaVersion : String := "1.0"
  environment : String
  deviceId : String
  stationId : String
  simulated : Bool
  deduplicationKey : String
  payload : SyncPayload
  pumpId : Option String
  transactionId : Option String
deriving DecidableEq, Repr

/-- What is handed to the broker. -/
structure Delivery where
  topic : String
  envelope : CloudMessageEnvelope
  qos : Nat
deriving DecidableEq, Repr

def qosForEvent : SyncEventType → Nat
  | .FILLING_UPDATED => 0
  | .TRANSACTION_STARTED | .TRANSACTION_COMPLETED | .STATE_CHANGED | .ALARM_ACTIVE => 1

structure DeliveryMapper where
  topics : TopicBuilder
  deviceId : String
  stationId : String
  environment : String
  simulated : Bool
deriving DecidableEq, Repr

namespace DeliveryMapper

variable (mapper : DeliveryMapper)

/-- Transactions and alarms have a topic of their own; the other events go to their pump. -/
def topicFor (eventType : SyncEventType) (pumpId : Option String) : Except Raised String :=
  match eventType with
  | .TRANSACTION_STARTED | .TRANSACTION_COMPLETED =>
      mapper.topics.transactions mapper.stationId
  | .ALARM_ACTIVE => mapper.topics.alarms mapper.stationId
  | .FILLING_UPDATED | .STATE_CHANGED =>
      match usable pumpId with
      | some pump => mapper.topics.pumpEvents mapper.stationId pump
      | none => mapper.topics.transactions mapper.stationId

/-- Amounts and volumes are whole numbers by the type of the payload. -/
def mapRecord (record : SyncQueueRow) : Except Raised Delivery := do
  let pumpId := usable (payloadPumpId record.payload)
  let topic ← mapper.topicFor record.eventType pumpId
  return {
    topic := topic
    envelope := {
      eventType := record.eventType
      environment := mapper.environment.toUpper
      deviceId := mapper.deviceId
      stationId := mapper.stationId
      simulated := (payloadSimulated record.payload).getD mapper.simulated
      deduplicationKey := record.deduplicationKey
      payload := record.payload
      pumpId := pumpId
      transactionId := usable (payloadTransactionId record.payload) }
    qos := qosForEvent record.eventType }

/-- A row is mapped by what it was enqueued with. -/
theorem mapRecord_congr {record row : SyncQueueRow} (hentry : record.entry = row.entry) :
    mapper.mapRecord record = mapper.mapRecord row := by
  have htype : record.eventType = row.eventType := congrArg (·.eventType) hentry
  have hpayload : record.payload = row.payload := congrArg (·.payload) hentry
  have hkey : record.deduplicationKey = row.deduplicationKey :=
    congrArg (·.deduplicationKey) hentry
  unfold mapRecord
  rw [htype, hpayload, hkey]

end DeliveryMapper
end Cloud
end Intelipump
