import Mathlib.Tactic.Common
import Intelipump.Events.BrokerDelivery

namespace Intelipump
namespace Api

open Events
open Foundation

/-!
# The live event streams

Every reader of the live events, over SSE or a WebSocket, has a subscription of its own
and a coroutine that sends what comes out of its queue.  The coroutines of all readers,
the publications and the shutdown take their turns in any order.  A keepalive may run out
although an item has just been queued; the item then waits for the next turn.

A reader that leaves before its coroutine has entered the loop leaves its subscription
behind, because only the loop is inside of `try … finally`.
-/

inductive StreamKind where
  | sse | ws
deriving DecidableEq, Repr

/-- The string that the broker goes by. -/
def StreamKind.value : StreamKind → String
  | .sse => "sse"
  | .ws => "ws"

inductive StreamPhase where
  /-- Subscribed, and nothing sent. -/
  | subscribed
  /-- `CONNECTED` is on its way to the reader. -/
  | greeted
  | running
  /-- Gone before the loop. -/
  | abandoned
  | ended
deriving DecidableEq, Repr

/-- A sent event: made for this stream alone, or from the broker. -/
inductive Told where
  | own (event : LiveEvent)
  | brokered (event : LiveEvent)
deriving DecidableEq, Repr

def Told.event : Told → LiveEvent
  | .own event => event
  | .brokered event => event

/-- A reader's coroutine, with all that it has sent. -/
structure LiveStream where
  subscriptionId : String
  kind : StreamKind
  eventFilter : EventFilter
  phase : StreamPhase
  /-- The subscription, when the broker has closed it and let it go. -/
  detached : Option Subscription
  sent : List Told
deriving DecidableEq

/-- A stream that has just been subscribed. -/
def LiveStream.create (kind : StreamKind) (subscriptionId : String) (eventFilter : EventFilter) :
    LiveStream where
  subscriptionId := subscriptionId
  kind := kind
  eventFilter := eventFilter
  phase := .subscribed
  detached := none
  sent := []

/-- An event that has no number yet. -/
structure EventDraft where
  eventId : String
  eventType : LiveEventType
  stationId : String
  simulated : Bool
  pumpId : Option String := none
  severity : Option String := none
deriving DecidableEq, Repr

/-- The broker with its `_seq`, and the readers. -/
structure LiveApi where
  broker : EventBroker
  seq : Nat := 0
  stationId : String
  simulated : Bool
  streams : List LiveStream := []
deriving DecidableEq

inductive LiveAction where
  | publishTyped (draft : EventDraft)
  /-- A request for a stream; a WebSocket is greeted at once. -/
  | subscribe (kind : StreamKind) (subscriptionId eventId : String) (eventFilter : EventFilter)
  /-- The generator of an SSE response starts. -/
  | greet (subscriptionId eventId : String)
  /-- `CONNECTED` is sent, and the loop begins. -/
  | enter (subscriptionId : String)
  /-- The reader is gone, and the loop has not begun. -/
  | abandon (subscriptionId : String)
  /-- The next item of the queue. -/
  | take (subscriptionId : String)
  | keepalive (subscriptionId eventId : String)
  /-- The reader is gone, and the loop ends. -/
  | disconnect (subscriptionId : String)
  | closeAll
deriving DecidableEq

namespace LiveApi

/-- A new broker without readers. -/
def create (maxSse maxWs : Nat) (queueSize : Int) (stationId : String) (simulated : Bool) :
    LiveApi where
  broker := { maxSse := maxSse, maxWs := maxWs, queueSize := queueSize }
  stationId := stationId
  simulated := simulated

/-- `make_event`. -/
def makeEvent (api : LiveApi) (draft : EventDraft) : LiveEvent × LiveApi :=
  ({ eventId := draft.eventId
     eventType := draft.eventType
     stationId := draft.stationId
     simulated := draft.simulated
     sequence := api.seq + 1
     pumpId := draft.pumpId
     severity := draft.severity },
    { api with seq := api.seq + 1 })

def stream? (api : LiveApi) (subscriptionId : String) : Option LiveStream :=
  api.streams.find? (·.subscriptionId = subscriptionId)

def setStream (api : LiveApi) (stream : LiveStream) : LiveApi :=
  { api with streams := Tables.updateBy (·.subscriptionId) stream api.streams }

/-- The subscription that a stream reads from. -/
def held (api : LiveApi) (stream : LiveStream) : Option Subscription :=
  stream.detached.or (api.broker.subscription? stream.subscriptionId)

/-- The stream sends an event that is made for it. -/
def tell (api : LiveApi) (stream : LiveStream) (eventId : String) (eventType : LiveEventType)
    (phase : StreamPhase) : LiveApi :=
  let (event, api) := api.makeEvent {
    eventId := eventId
    eventType := eventType
    stationId := api.stationId
    simulated := api.simulated }
  api.setStream { stream with phase := phase, sent := stream.sent ++ [Told.own event] }

/-- `finally: await broker.unsubscribe(…)`. -/
def finish (api : LiveApi) (stream : LiveStream) : LiveApi :=
  { api with broker := (api.broker.unsubscribe stream.subscriptionId).1 }.setStream
    { stream with phase := .ended }

/-- The subscription after an item was taken from its queue. -/
def withQueue (subscriptionId : String) (queue : Queue (Option LiveEvent))
    (sub : Subscription) : Subscription :=
  if sub.subscriptionId = subscriptionId then { sub with queue := queue } else sub

/-- An event was taken from the queue and is sent. -/
def passOn (api : LiveApi) (stream : LiveStream) (event : LiveEvent)
    (queue : Queue (Option LiveEvent)) : LiveApi :=
  { api with
    broker := { api.broker with
      subs := api.broker.subs.map (withQueue stream.subscriptionId queue) } }.setStream
    { stream with
      detached := stream.detached.map (withQueue stream.subscriptionId queue)
      sent := stream.sent ++ [Told.brokered event] }

def takeItem (api : LiveApi) (stream : LiveStream) : LiveApi :=
  match (api.held stream).bind (·.queue.getNowait) with
  | none => api
  | some (none, _) => api.finish stream
  | some (some event, queue) => api.passOn stream event queue

/-- The coroutine of a stream goes on, if it stands where it is said to. -/
def resume (api : LiveApi) (subscriptionId : String) (phase : StreamPhase)
    (next : LiveStream → LiveApi) : LiveApi :=
  match api.stream? subscriptionId with
  | some stream => if stream.phase = phase then next stream else api
  | none => api

def openStream (api : LiveApi) (kind : StreamKind) (subscriptionId eventId : String)
    (eventFilter : EventFilter) : LiveApi :=
  match api.broker.subscribe subscriptionId kind.value (some eventFilter) with
  | .error _ => api
  | .ok broker =>
      let stream := LiveStream.create kind subscriptionId eventFilter
      let opened := { api with broker := broker, streams := api.streams ++ [stream] }
      match kind with
      | .sse => opened
      | .ws => opened.tell stream eventId .CONNECTED .greeted

/-- `close_all`: the broker forgets the subscriptions, the readers keep theirs. -/
def closeAll (api : LiveApi) : LiveApi :=
  let (broker, closed) := api.broker.closeAll
  { api with
    broker := broker
    streams := api.streams.map fun stream =>
      { stream with
        detached := stream.detached.or
          (closed.find? (·.subscriptionId = stream.subscriptionId)) } }

/-- Nobody reads any more, and the loop will not begin. -/
def abandon (api : LiveApi) (subscriptionId : String) : LiveApi :=
  match api.stream? subscriptionId with
  | some stream =>
      if stream.phase = .subscribed ∨ stream.phase = .greeted then
        api.setStream { stream with phase := .abandoned }
      else api
  | none => api

def step (api : LiveApi) : LiveAction → LiveApi
  | .publishTyped draft =>
      let (event, numbered) := api.makeEvent draft
      { numbered with broker := numbered.broker.publish event }
  | .subscribe kind subscriptionId eventId eventFilter =>
      api.openStream kind subscriptionId eventId eventFilter
  | .greet subscriptionId eventId =>
      api.resume subscriptionId .subscribed (api.tell · eventId .CONNECTED .greeted)
  | .enter subscriptionId =>
      api.resume subscriptionId .greeted fun stream =>
        api.setStream { stream with phase := .running }
  | .abandon subscriptionId => api.abandon subscriptionId
  | .take subscriptionId => api.resume subscriptionId .running api.takeItem
  | .keepalive subscriptionId eventId =>
      api.resume subscriptionId .running (api.tell · eventId .HEARTBEAT .running)
  | .disconnect subscriptionId => api.resume subscriptionId .running api.finish
  | .closeAll => api.closeAll

def run (api : LiveApi) (actions : List LiveAction) : LiveApi := actions.foldl step api

end LiveApi

/-- The identifier that a request draws. -/
def LiveAction.drawn : LiveAction → Option String
  | .subscribe _ subscriptionId _ _ => some subscriptionId
  | _ => none

/-! ## Streams and their subscriptions -/

namespace LiveApi

variable {api : LiveApi}

theorem mem_setStream {stream other : LiveStream}
    (hother : other ∈ (api.setStream stream).streams) :
    other = stream ∨ other ∈ api.streams ∧ other.subscriptionId ≠ stream.subscriptionId := by
  obtain ⟨before, hbefore, rfl⟩ := List.mem_map.mp hother
  split
  · exact Or.inl rfl
  · rename_i hdifferent
    exact Or.inr ⟨hbefore, hdifferent⟩

theorem of_stream? {subscriptionId : String} {stream : LiveStream}
    (hfound : api.stream? subscriptionId = some stream) :
    stream ∈ api.streams ∧ stream.subscriptionId = subscriptionId :=
  ⟨List.mem_of_find?_eq_some hfound, Tables.key_of_find? hfound⟩

theorem held_of_detached {stream : LiveStream} {sub : Subscription}
    (hdetached : stream.detached = some sub) : api.held stream = some sub := by
  unfold held
  rw [hdetached]
  rfl

theorem held_of_attached {stream : LiveStream} (hdetached : stream.detached = none) :
    api.held stream = api.broker.subscription? stream.subscriptionId := by
  unfold held
  rw [hdetached]
  rfl

/-- Taking an item from the queue of one subscription. -/
theorem subscription?_withQueue (broker : EventBroker) (subscriptionId : String)
    (queue : Queue (Option LiveEvent)) (other : String) :
    ({ broker with subs := broker.subs.map (withQueue subscriptionId queue) } :
        EventBroker).subscription? other =
      (broker.subscription? other).map (withQueue subscriptionId queue) := by
  refine broker.subscription?_map (fun sub => ?_) other
  unfold withQueue
  split <;> rfl

theorem withQueue_of_ne {subscriptionId : String} {sub : Subscription}
    (hother : sub.subscriptionId ≠ subscriptionId) (queue : Queue (Option LiveEvent)) :
    withQueue subscriptionId queue sub = sub := if_neg hother

/-- A reader that has ended holds what the shutdown left to it. -/
theorem held_finish (stream : LiveStream) :
    (api.finish stream).held { stream with phase := .ended } = stream.detached := by
  unfold held
  have hgone : (api.finish stream).broker.subscription? stream.subscriptionId = none :=
    (api.broker.subscription?_unsubscribe stream.subscriptionId _).trans (if_pos rfl)
  rw [hgone, Option.or_none]

theorem held_passOn (stream : LiveStream) (event : LiveEvent)
    (queue : Queue (Option LiveEvent)) :
    (api.passOn stream event queue).held
        { stream with
          detached := stream.detached.map (withQueue stream.subscriptionId queue)
          sent := stream.sent ++ [Told.brokered event] } =
      (api.held stream).map (withQueue stream.subscriptionId queue) := by
  unfold held
  have hbroker : (api.passOn stream event queue).broker.subscription? stream.subscriptionId =
      (api.broker.subscription? stream.subscriptionId).map
        (withQueue stream.subscriptionId queue) :=
    subscription?_withQueue api.broker stream.subscriptionId queue stream.subscriptionId
  rw [hbroker, Option.map_or]

/-- The shutdown leaves to every reader what it holds, closed. -/
theorem held_closeAll (stream : LiveStream) :
    api.closeAll.held
        { stream with
          detached := stream.detached.or
            ((api.broker.subs.map Subscription.close).find?
              (·.subscriptionId = stream.subscriptionId)) } =
      stream.detached.or
        ((api.broker.subscription? stream.subscriptionId).map Subscription.close) := by
  have hclosed := api.broker.subscription?_map Subscription.subscriptionId_close
    stream.subscriptionId
  have hnone : api.closeAll.broker.subscription? stream.subscriptionId = none := rfl
  unfold held
  rw [hnone, Option.or_none]
  exact congrArg stream.detached.or hclosed

end LiveApi

end Api
end Intelipump
