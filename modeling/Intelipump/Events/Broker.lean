import Mathlib.Data.Finset.Insert
import Intelipump.Exceptions
import Intelipump.Foundation.Tables

namespace Intelipump
namespace Events

open Foundation

/-!
# The in-process event broker

Every subscription has a bounded queue of its own.  `publish` puts the event
on the queue of each subscription whose filter it matches; on a full queue a
critical event displaces the oldest item, any other event is counted as
dropped.
-/

inductive LiveEventType where
  | CONNECTED | HEARTBEAT | PUMP_CONNECTED | PUMP_DISCONNECTED | PUMP_STATE_CHANGED
  | NOZZLE_LIFTED | AUTHORIZATION_CONFIRMED | FILLING_STARTED | FILLING_UPDATED
  | FILLING_COMPLETED | TRANSACTION_CREATED | TRANSACTION_COMPLETED | ALARM_RAISED
  | ALARM_CLEARED | PROTOCOL_ERROR | PERSISTENCE_WARNING | CONTROLLER_RECOVERED
  | COMMAND_EVALUATED | SUBSCRIBER_DROPPED
deriving DecidableEq, Repr

def CRITICAL_LIVE_EVENTS : Finset LiveEventType :=
  {.TRANSACTION_COMPLETED, .ALARM_RAISED, .FILLING_COMPLETED, .CONTROLLER_RECOVERED}

/-- The fields of an event that filters and readers of the stream go by. -/
structure LiveEvent where
  eventId : String
  eventType : LiveEventType
  stationId : String
  simulated : Bool
  sequence : Nat
  pumpId : Option String
  severity : Option String
deriving DecidableEq, Repr

/-- `event.event_type in CRITICAL_LIVE_EVENTS`. -/
def LiveEvent.critical (event : LiveEvent) : Bool :=
  decide (event.eventType ∈ CRITICAL_LIVE_EVENTS)

structure EventFilter where
  stationId : Option String := none
  pumpId : Option String := none
  eventTypes : Option (Finset LiveEventType) := none
  severity : Option String := none
  simulated : Option Bool := none
deriving DecidableEq

def EventFilter.matches (filter : EventFilter) (event : LiveEvent) : Bool :=
  if filter.stationId.isSome ∧ some event.stationId ≠ filter.stationId then false
  else if filter.pumpId.isSome ∧ event.pumpId ≠ filter.pumpId then false
  else if filter.eventTypes.any (fun types => decide (event.eventType ∉ types)) then false
  else if filter.severity.isSome ∧ event.severity ≠ filter.severity then false
  else !decide (filter.simulated.isSome ∧ some event.simulated ≠ filter.simulated)

/-- `asyncio.Queue`: a maximum of zero or less is no maximum. -/
structure Queue (Item : Type) where
  maxsize : Int
  items : List Item
deriving DecidableEq, Repr

namespace Queue

variable {Item : Type}

def full (queue : Queue Item) : Bool :=
  decide (0 < queue.maxsize ∧ queue.maxsize ≤ queue.items.length)

/-- `put_nowait`; `none` is `QueueFull`. -/
def putNowait (queue : Queue Item) (item : Item) : Option (Queue Item) :=
  if queue.full then none else some { queue with items := queue.items ++ [item] }

/-- `get_nowait`; `none` is `QueueEmpty`. -/
def getNowait (queue : Queue Item) : Option (Item × Queue Item) :=
  match queue.items with
  | [] => none
  | item :: items => some (item, { queue with items := items })

end Queue

/-- The queue ends with `None` when the subscription has been closed. -/
structure Subscription where
  subscriptionId : String
  queue : Queue (Option LiveEvent)
  eventFilter : EventFilter
  kind : String
  dropped : Nat := 0
  closed : Bool := false
deriving DecidableEq

namespace Subscription

def close (sub : Subscription) : Subscription :=
  if sub.closed then sub
  else
    let closed := { sub with closed := true }
    match closed.queue.putNowait none with
    | some queue => { closed with queue := queue }
    | none => closed

/-- The subscription is open and its filter matches. -/
def wants (sub : Subscription) (event : LiveEvent) : Bool :=
  !sub.closed && sub.eventFilter.matches event

/-- What `publish` does with one subscription. -/
def offer (event : LiveEvent) (sub : Subscription) : Subscription :=
  if sub.wants event then
    match sub.queue.putNowait (some event) with
    | some queue => { sub with queue := queue }
    | none =>
        if event.critical then
          match sub.queue.getNowait with
          | none => sub
          | some (_, rest) =>
              match rest.putNowait (some event) with
              | some queue => { sub with queue := queue }
              | none => { sub with queue := rest }
        else { sub with dropped := sub.dropped + 1 }
  else sub

/-- `publish` counts the event as dropped for this subscription. -/
def drops (event : LiveEvent) (sub : Subscription) : Bool :=
  sub.wants event && sub.queue.full && !event.critical

end Subscription

structure EventBroker where
  maxSse : Nat := 32
  maxWs : Nat := 32
  queueSize : Int := 128
  subs : List Subscription := []
  droppedNoncritical : Nat := 0
deriving DecidableEq

namespace EventBroker

def activeSse (broker : EventBroker) : Nat :=
  broker.subs.countP fun sub => sub.kind == "sse" && !sub.closed

def activeWs (broker : EventBroker) : Nat :=
  broker.subs.countP fun sub => sub.kind == "ws" && !sub.closed

def publish (broker : EventBroker) (event : LiveEvent) : EventBroker :=
  { broker with
    subs := broker.subs.map (Subscription.offer event)
    droppedNoncritical :=
      broker.droppedNoncritical + broker.subs.countP (Subscription.drops event) }

/-- `self._subs[sub.subscription_id] = sub`. -/
def put (broker : EventBroker) (sub : Subscription) : EventBroker :=
  { broker with
    subs :=
      if sub.subscriptionId ∈ broker.subs.map (·.subscriptionId) then
        Tables.updateBy (·.subscriptionId) sub broker.subs
      else broker.subs ++ [sub] }

/-- A new subscription under the drawn identifier. -/
def newSubscription (broker : EventBroker) (subscriptionId kind : String)
    (eventFilter : Option EventFilter) : Subscription where
  subscriptionId := subscriptionId
  queue := { maxsize := broker.queueSize, items := [] }
  eventFilter := eventFilter.getD {}
  kind := kind

/-- `subscribe`; the error is the text of the `SubscriberLimitError`. -/
def subscribe (broker : EventBroker) (subscriptionId kind : String)
    (eventFilter : Option EventFilter) : Except String EventBroker :=
  if kind = "sse" ∧ broker.activeSse ≥ broker.maxSse then
    .error "SSE subscriber limit reached"
  else if kind = "ws" ∧ broker.activeWs ≥ broker.maxWs then
    .error "WebSocket subscriber limit reached"
  else .ok (broker.put (broker.newSubscription subscriptionId kind eventFilter))

def subscription? (broker : EventBroker) (subscriptionId : String) : Option Subscription :=
  broker.subs.find? (·.subscriptionId = subscriptionId)

/-- `unsubscribe`: the broker, and the closed subscription its reader still holds. -/
def unsubscribe (broker : EventBroker) (subscriptionId : String) :
    EventBroker × Option Subscription :=
  ({ broker with subs := broker.subs.filter (·.subscriptionId ≠ subscriptionId) },
    (broker.subscription? subscriptionId).map Subscription.close)

def closeAll (broker : EventBroker) : EventBroker × List Subscription :=
  ({ broker with subs := [] }, broker.subs.map Subscription.close)

/-- The reader of an open subscription takes one item, if there is one, and
ends the subscription on `None`. -/
def consume (broker : EventBroker) (subscriptionId : String) :
    EventBroker × Option LiveEvent :=
  match (broker.subscription? subscriptionId).bind (·.queue.getNowait) with
  | none => (broker, none)
  | some (none, _) => ((broker.unsubscribe subscriptionId).1, none)
  | some (some event, queue) =>
      ({ broker with
          subs := broker.subs.map fun sub =>
            if sub.subscriptionId = subscriptionId then { sub with queue := queue }
            else sub },
        some event)

end EventBroker

end Events
end Intelipump
