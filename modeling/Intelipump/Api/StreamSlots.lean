import Intelipump.Api.StreamOrder

namespace Intelipump
namespace Api

open Events
open Foundation

/-!
# The slots of the readers

The broker limits how many readers of each kind there are at a time.  A slot is held from
the request to the end of the loop or to the shutdown.  A reader that leaves before its
loop has begun never gives its slot back, short of a shutdown.
-/

/-- The slot that a stream holds, with the kind it is counted under. -/
def LiveStream.slot (stream : LiveStream) : Option (String × String) :=
  if stream.detached = none ∧ stream.phase ≠ .ended then
    some (stream.subscriptionId, stream.kind.value)
  else none

theorem LiveStream.eq_of_slot {stream : LiveStream} {slot : String × String}
    (hslot : stream.slot = some slot) :
    slot = (stream.subscriptionId, stream.kind.value) := by
  unfold LiveStream.slot at hslot
  split at hslot
  · exact (Option.some.inj hslot).symm
  · cases hslot

/-- The text of the `SubscriberLimitError`. -/
def StreamKind.limitMessage : StreamKind → String
  | .sse => "SSE subscriber limit reached"
  | .ws => "WebSocket subscriber limit reached"

namespace LiveApi

/-- The slots that are held. -/
def taken (api : LiveApi) : List (String × String) := api.streams.filterMap LiveStream.slot

def slots (api : LiveApi) (kind : StreamKind) : Nat :=
  api.taken.countP fun slot => slot.2 = kind.value

def limit (api : LiveApi) : StreamKind → Nat
  | .sse => api.broker.maxSse
  | .ws => api.broker.maxWs

/-- The broker keeps one open subscription for every slot. -/
structure Slots (bound : StreamKind → Nat) (api : LiveApi) : Prop where
  unique : (api.streams.map (·.subscriptionId)).Nodup
  subscribed : api.broker.subs.map (fun sub => (sub.subscriptionId, sub.kind)) = api.taken
  opened : ∀ sub ∈ api.broker.subs, sub.closed = false
  limited : api.limit = bound
  within : ∀ kind, api.slots kind ≤ bound kind

end LiveApi

/-! ## What the broker counts -/

namespace LiveApi

variable {bound : StreamKind → Nat} {api : LiveApi}

theorem Slots.count_eq (hslots : api.Slots bound) (kind : StreamKind) :
    (api.broker.subs.countP fun sub => sub.kind == kind.value && !sub.closed) =
      api.slots kind := by
  unfold slots
  rw [← hslots.subscribed, List.countP_map]
  refine List.countP_congr fun sub hmem => ?_
  simp [hslots.opened sub hmem]

/-- A request is refused exactly when all slots of its kind are held. -/
theorem Slots.subscribe_eq (hslots : api.Slots bound) (kind : StreamKind)
    (subscriptionId : String) (eventFilter : EventFilter) :
    api.broker.subscribe subscriptionId kind.value (some eventFilter) =
      if api.limit kind ≤ api.slots kind then .error kind.limitMessage
      else .ok (api.broker.put
        (api.broker.newSubscription subscriptionId kind.value (some eventFilter))) := by
  have hcount := hslots.count_eq kind
  unfold EventBroker.subscribe EventBroker.activeSse EventBroker.activeWs
  cases kind with
  | sse =>
      have hactive : (api.broker.subs.countP fun sub => sub.kind == "sse" && !sub.closed) =
          api.slots .sse := hcount
      have hws : ∀ active, ¬ (StreamKind.sse.value = "ws" ∧ active) := by
        simp [StreamKind.value]
      rw [hactive, if_neg (hws _)]
      by_cases hfull : api.limit .sse ≤ api.slots .sse
      · rw [if_pos ⟨rfl, hfull⟩, if_pos hfull]
        rfl
      · rw [if_neg fun h => hfull h.2, if_neg hfull]
  | ws =>
      have hactive : (api.broker.subs.countP fun sub => sub.kind == "ws" && !sub.closed) =
          api.slots .ws := hcount
      have hsse : ∀ active, ¬ (StreamKind.ws.value = "sse" ∧ active) := by
        simp [StreamKind.value]
      rw [hactive, if_neg (hsse _)]
      by_cases hfull : api.limit .ws ≤ api.slots .ws
      · rw [if_pos ⟨rfl, hfull⟩, if_pos hfull]
        rfl
      · rw [if_neg fun h => hfull h.2, if_neg hfull]

/-! ## One turn and the slots -/

variable {after : LiveApi}

/-- No slot is taken and none is given back. -/
theorem Slots.keep (hslots : api.Slots bound)
    (hids : after.streams.map (·.subscriptionId) = api.streams.map (·.subscriptionId))
    (htaken : after.taken = api.taken)
    (hsubs : after.broker.subs.map (fun sub => (sub.subscriptionId, sub.kind, sub.closed)) =
      api.broker.subs.map (fun sub => (sub.subscriptionId, sub.kind, sub.closed)))
    (hlimit : after.limit = api.limit) : after.Slots bound := by
  refine ⟨hids ▸ hslots.unique, ?_, ?_, hlimit.trans hslots.limited, ?_⟩
  · have hpairs := congrArg (List.map fun row => (row.1, row.2.1)) hsubs
    rw [List.map_map, List.map_map] at hpairs
    rw [htaken, ← hslots.subscribed]
    exact hpairs
  · intro sub hmem
    have hclosed := congrArg (List.map fun row => row.2.2) hsubs
    rw [List.map_map, List.map_map] at hclosed
    have hflag : sub.closed ∈ api.broker.subs.map (·.closed) := by
      have hafter : sub.closed ∈ after.broker.subs.map (·.closed) := List.mem_map_of_mem hmem
      exact hclosed ▸ hafter
    obtain ⟨old, hold, hsame⟩ := List.mem_map.mp hflag
    rw [← hsame]
    exact hslots.opened old hold
  · intro kind
    unfold slots
    rw [htaken]
    exact hslots.within kind

/-- The stream that goes on keeps its slot, if it has one. -/
theorem taken_setStream (hunique : (api.streams.map (·.subscriptionId)).Nodup)
    {stream next : LiveStream} (hmem : stream ∈ api.streams)
    (hid : next.subscriptionId = stream.subscriptionId) (hslot : next.slot = stream.slot) :
    (api.setStream next).taken = api.taken := by
  unfold taken setStream Tables.updateBy
  rw [List.filterMap_map]
  refine List.filterMap_congr fun other hother => ?_
  dsimp only [Function.comp]
  split
  · rename_i hsame
    -- no two streams share an identifier, so it is this one
    obtain rfl := List.inj_on_of_nodup_map hunique hother hmem (hsame.trans hid)
    exact hslot
  · rfl

/-- The stream that ends gives its slot back. -/
theorem taken_ended (api : LiveApi) (stream : LiveStream) :
    (api.setStream { stream with phase := .ended }).taken =
      api.taken.filter (·.1 ≠ stream.subscriptionId) := by
  unfold taken setStream Tables.updateBy
  rw [List.filterMap_map, List.filter_filterMap]
  refine List.filterMap_congr fun other _ => ?_
  dsimp only [Function.comp]
  cases hslot : other.slot with
  | none =>
      split
      · exact if_neg fun h => h.2 rfl
      · exact hslot
  | some slot =>
      obtain rfl := LiveStream.eq_of_slot hslot
      by_cases hsame : other.subscriptionId = stream.subscriptionId
      · rw [if_pos hsame, Option.filter_some, if_neg (by simp [hsame])]
        exact if_neg fun h => h.2 rfl
      · rw [if_neg hsame, Option.filter_some, if_pos (by simp [hsame])]
        exact hslot

theorem Slots.publishTyped (hslots : api.Slots bound) (draft : EventDraft) :
    (api.step (.publishTyped draft)).Slots bound := by
  have hoffered : ∀ (event : LiveEvent) (sub : Subscription),
      ((sub.offer event).subscriptionId, (sub.offer event).kind, (sub.offer event).closed) =
        (sub.subscriptionId, sub.kind, sub.closed) := by
    intro event sub
    obtain ⟨queue, dropped, hoffer⟩ := sub.offer_eq event
    rw [hoffer]
  refine hslots.keep rfl rfl ?_ rfl
  exact List.map_map.trans (List.map_congr_left fun sub _ => hoffered _ sub)

theorem Slots.setStream (hslots : api.Slots bound) {stream next : LiveStream}
    (hmem : stream ∈ api.streams) (hid : next.subscriptionId = stream.subscriptionId)
    (hslot : next.slot = stream.slot) : (api.setStream next).Slots bound :=
  hslots.keep (ids_setStream api next) (taken_setStream hslots.unique hmem hid hslot) rfl rfl

theorem Slots.tell (hslots : api.Slots bound) {stream : LiveStream} (hmem : stream ∈ api.streams)
    (eventId : String) (eventType : LiveEventType) {phase : StreamPhase}
    (hphase : phase ≠ .ended ∧ stream.phase ≠ .ended) :
    (api.tell stream eventId eventType phase).Slots bound := by
  have hnumbered : LiveApi.Slots bound { api with seq := api.seq + 1 } :=
    hslots.keep rfl rfl rfl rfl
  refine hnumbered.setStream hmem rfl ?_
  unfold LiveStream.slot
  simp [hphase]

theorem Slots.resume (hslots : api.Slots bound) {subscriptionId : String} {phase : StreamPhase}
    {next : LiveStream → LiveApi}
    (hnext : ∀ stream ∈ api.streams, stream.phase = phase → (next stream).Slots bound) :
    (api.resume subscriptionId phase next).Slots bound := by
  unfold LiveApi.resume
  split
  · rename_i stream hfound
    split
    · rename_i hphase
      exact hnext stream (of_stream? hfound).1 hphase
    · exact hslots
  · exact hslots

/-- Giving a slot back leaves room for the others. -/
theorem Slots.finish (hslots : api.Slots bound) (stream : LiveStream) :
    (api.finish stream).Slots bound := by
  have hids : (api.finish stream).streams.map (·.subscriptionId) =
      api.streams.map (·.subscriptionId) := ids_setStream _ _
  have htaken : (api.finish stream).taken =
      api.taken.filter (·.1 ≠ stream.subscriptionId) := taken_ended _ stream
  refine ⟨?_, ?_, ?_, hslots.limited, fun kind => ?_⟩
  · rw [hids]
    exact hslots.unique
  · rw [htaken, ← hslots.subscribed, List.filter_map]
    rfl
  · exact fun sub hmem => hslots.opened sub (List.mem_of_mem_filter hmem)
  · unfold slots
    rw [htaken]
    exact (List.filter_sublist.countP_le).trans (hslots.within kind)

theorem Slots.takeItem (hslots : api.Slots bound) {stream : LiveStream}
    (hmem : stream ∈ api.streams) : (api.takeItem stream).Slots bound := by
  unfold LiveApi.takeItem
  split
  · exact hslots
  · exact hslots.finish stream
  · rename_i event queue _
    have hqueues : LiveApi.Slots bound { api with
        broker := { api.broker with
          subs := api.broker.subs.map (withQueue stream.subscriptionId queue) } } := by
      refine hslots.keep rfl rfl ?_ rfl
      refine List.map_map.trans (List.map_congr_left fun sub _ => ?_)
      dsimp only [Function.comp]
      unfold withQueue
      split <;> rfl
    refine hqueues.setStream hmem rfl ?_
    unfold LiveStream.slot
    simp

/-- A granted request takes the slot that was free. -/
theorem Slots.granted (hslots : api.Slots bound) {kind : StreamKind} {subscriptionId : String}
    (hfresh : subscriptionId ∉ api.streams.map (·.subscriptionId))
    (hroom : api.slots kind < api.limit kind) (eventFilter : EventFilter) :
    LiveApi.Slots bound
      { api with
        broker := api.broker.put
          (api.broker.newSubscription subscriptionId kind.value (some eventFilter))
        streams := api.streams ++ [LiveStream.create kind subscriptionId eventFilter] } := by
  -- no slot is held under a new identifier, so the broker adds a subscription
  have hnew : subscriptionId ∉ api.broker.subs.map (·.subscriptionId) := by
    intro hold
    have hids : api.broker.subs.map (·.subscriptionId) = api.taken.map Prod.fst := by
      rw [← hslots.subscribed, List.map_map]
      rfl
    rw [hids] at hold
    obtain ⟨slot, hslot, hid⟩ := List.mem_map.mp hold
    obtain ⟨stream, hmem, hheld⟩ := List.mem_filterMap.mp hslot
    obtain rfl := LiveStream.eq_of_slot hheld
    exact hfresh (List.mem_map.mpr ⟨stream, hmem, hid⟩)
  have hput : (api.broker.put
      (api.broker.newSubscription subscriptionId kind.value (some eventFilter))).subs =
        api.broker.subs ++
          [api.broker.newSubscription subscriptionId kind.value (some eventFilter)] :=
    if_neg hnew
  have htaken : (api.streams ++ [LiveStream.create kind subscriptionId eventFilter]).filterMap
      LiveStream.slot = api.taken ++ [(subscriptionId, kind.value)] :=
    List.filterMap_append
  refine ⟨?_, ?_, ?_, hslots.limited, fun other => ?_⟩
  · rw [List.map_append]
    refine List.nodup_append.mpr ⟨hslots.unique, List.nodup_singleton _, ?_⟩
    intro old hold new hmem hsame
    rw [List.mem_singleton.mp hmem] at hsame
    obtain rfl : old = subscriptionId := hsame
    exact hfresh hold
  · rw [hput, List.map_append, hslots.subscribed]
    exact htaken.symm
  · rw [hput]
    intro sub hmem
    rcases List.mem_append.mp hmem with hold | hlast
    · exact hslots.opened sub hold
    · rw [List.mem_singleton.mp hlast]
      rfl
  -- one more of its own kind, and no more of the other
  · unfold slots taken
    rw [htaken, List.countP_append, List.countP_singleton]
    by_cases hsame : kind = other
    · subst hsame
      rw [if_pos (by simp)]
      exact hslots.limited ▸ hroom
    · have hvalue : kind.value ≠ other.value := by
        cases kind <;> cases other <;> simp [StreamKind.value] at hsame ⊢
      rw [if_neg (by simpa using hvalue)]
      exact hslots.within other

theorem Slots.openStream (hslots : api.Slots bound) (kind : StreamKind) {subscriptionId : String}
    (hfresh : subscriptionId ∉ api.streams.map (·.subscriptionId)) (eventId : String)
    (eventFilter : EventFilter) :
    (api.openStream kind subscriptionId eventId eventFilter).Slots bound := by
  unfold LiveApi.openStream
  rw [hslots.subscribe_eq]
  by_cases hfull : api.limit kind ≤ api.slots kind
  · rw [if_pos hfull]
    exact hslots
  · rw [if_neg hfull]
    have hgranted := hslots.granted hfresh (Nat.lt_of_not_le hfull) eventFilter
    cases kind with
    | sse => exact hgranted
    | ws =>
        refine hgranted.tell ?_ eventId .CONNECTED ⟨by simp, by simp [LiveStream.create]⟩
        exact List.mem_append_right _ (List.mem_singleton.mpr rfl)

/-- The shutdown takes the subscription of every reader that has one. -/
theorem Slots.closeAll (hslots : api.Slots bound) : api.closeAll.Slots bound := by
  have hids : api.closeAll.streams.map (·.subscriptionId) =
      api.streams.map (·.subscriptionId) := List.map_map
  have htaken : api.closeAll.taken = [] := by
    refine List.filterMap_eq_nil_iff.mpr fun other hother => ?_
    obtain ⟨stream, hmem, rfl⟩ := List.mem_map.mp hother
    refine if_neg ?_
    rintro ⟨hnone, hphase⟩
    -- a stream with a slot is found among the closed subscriptions
    obtain ⟨hdetached, hnotFound⟩ := Option.or_eq_none_iff.mp hnone
    have hslot : stream.slot = some (stream.subscriptionId, stream.kind.value) :=
      if_pos ⟨hdetached, hphase⟩
    have hheld : (stream.subscriptionId, stream.kind.value) ∈ api.taken :=
      List.mem_filterMap.mpr ⟨stream, hmem, hslot⟩
    rw [← hslots.subscribed] at hheld
    obtain ⟨sub, hsub, hpair⟩ := List.mem_map.mp hheld
    refine absurd ?_ (List.find?_eq_none.mp hnotFound sub.close (List.mem_map_of_mem hsub))
    exact decide_eq_true (sub.subscriptionId_close.trans (congrArg Prod.fst hpair))
  refine ⟨?_, ?_, fun _ hmem => absurd hmem List.not_mem_nil, hslots.limited, fun kind => ?_⟩
  · rw [hids]
    exact hslots.unique
  · rw [htaken]
    rfl
  · unfold slots
    rw [htaken]
    exact Nat.zero_le _

theorem Slots.step (hslots : api.Slots bound) (action : LiveAction)
    (hfresh : ∀ drawn ∈ action.drawn, drawn ∉ api.streams.map (·.subscriptionId)) :
    (api.step action).Slots bound := by
  cases action with
  | publishTyped draft => exact hslots.publishTyped draft
  | subscribe kind subscriptionId eventId eventFilter =>
      exact hslots.openStream kind (hfresh subscriptionId rfl) eventId eventFilter
  | greet subscriptionId eventId =>
      refine hslots.resume fun stream hmem hphase => hslots.tell hmem eventId _ ?_
      simp [hphase]
  | enter subscriptionId =>
      refine hslots.resume fun stream hmem hphase => hslots.setStream hmem rfl ?_
      simp [LiveStream.slot, hphase]
  | abandon subscriptionId =>
      unfold LiveApi.step LiveApi.abandon
      dsimp only
      split
      · rename_i stream hfound
        split
        · rename_i hphase
          refine hslots.setStream (of_stream? hfound).1 rfl ?_
          rcases hphase with hphase | hphase <;> simp [LiveStream.slot, hphase]
        · exact hslots
      · exact hslots
  | take subscriptionId => exact hslots.resume fun stream hmem _ => hslots.takeItem hmem
  | keepalive subscriptionId eventId =>
      refine hslots.resume fun stream hmem hphase => hslots.tell hmem eventId _ ?_
      simp [hphase]
  | disconnect subscriptionId => exact hslots.resume fun stream _ _ => hslots.finish stream
  | closeAll => exact hslots.closeAll

/-- A stream is still there when another one goes on. -/
theorem mem_setStream_of_ne {stream next : LiveStream} (hmem : stream ∈ api.streams)
    (hother : stream.subscriptionId ≠ next.subscriptionId) :
    stream ∈ (api.setStream next).streams :=
  List.mem_map.mpr ⟨stream, hmem, if_neg hother⟩

/-- Nothing but a shutdown reaches a stream whose reader left before its loop. -/
theorem Slots.abandoned_stays (hslots : api.Slots bound) {stream : LiveStream}
    (hmem : stream ∈ api.streams) (habandoned : stream.phase = .abandoned)
    {action : LiveAction} (hopen : action ≠ .closeAll)
    (hfresh : ∀ drawn ∈ action.drawn, drawn ∉ api.streams.map (·.subscriptionId)) :
    stream ∈ (api.step action).streams := by
  have hothers : ∀ {other : LiveStream}, other ∈ api.streams → other.phase ≠ .abandoned →
      stream.subscriptionId ≠ other.subscriptionId := by
    intro other hother hphase hsame
    obtain rfl := List.inj_on_of_nodup_map hslots.unique hmem hother hsame
    exact hphase habandoned
  have hresume : ∀ {subscriptionId : String} {phase : StreamPhase} {next : LiveStream → LiveApi},
      phase ≠ .abandoned →
      (∀ other, stream.subscriptionId ≠ other.subscriptionId → stream ∈ (next other).streams) →
      stream ∈ (api.resume subscriptionId phase next).streams := by
    intro subscriptionId phase next hphase hnext
    unfold LiveApi.resume
    split
    · rename_i other hfound
      split
      · rename_i hstands
        exact hnext other (hothers (of_stream? hfound).1 (hstands ▸ hphase))
      · exact hmem
    · exact hmem
  cases action with
  | publishTyped draft => exact hmem
  | subscribe kind subscriptionId eventId eventFilter =>
      have hother : stream.subscriptionId ≠ subscriptionId :=
        fun hsame => hfresh subscriptionId rfl (List.mem_map.mpr ⟨stream, hmem, hsame⟩)
      unfold LiveApi.step LiveApi.openStream
      dsimp only
      split
      · exact hmem
      · cases kind with
        | sse => exact List.mem_append_left _ hmem
        | ws => exact mem_setStream_of_ne (List.mem_append_left _ hmem) hother
  | greet subscriptionId eventId =>
      exact hresume (by simp) fun other hother => mem_setStream_of_ne hmem hother
  | enter subscriptionId =>
      exact hresume (by simp) fun other hother => mem_setStream_of_ne hmem hother
  | abandon subscriptionId =>
      unfold LiveApi.step LiveApi.abandon
      dsimp only
      split
      · rename_i other hfound
        split
        · rename_i hphase
          have hpresent : other.phase ≠ .abandoned := by
            rcases hphase with hphase | hphase <;> simp [hphase]
          have hdifferent := hothers (of_stream? hfound).1 hpresent
          exact mem_setStream_of_ne hmem hdifferent
        · exact hmem
      · exact hmem
  | take subscriptionId =>
      refine hresume (by simp) fun other hother => ?_
      unfold LiveApi.takeItem
      split
      · exact hmem
      · exact mem_setStream_of_ne hmem hother
      · exact mem_setStream_of_ne hmem hother
  | keepalive subscriptionId eventId =>
      exact hresume (by simp) fun other hother => mem_setStream_of_ne hmem hother
  | disconnect subscriptionId =>
      exact hresume (by simp) fun other hother => mem_setStream_of_ne hmem hother
  | closeAll => exact absurd rfl hopen

end LiveApi

/-- The limits of a new broker. -/
def limits (maxSse maxWs : Nat) : StreamKind → Nat
  | .sse => maxSse
  | .ws => maxWs

theorem slots_create (maxSse maxWs : Nat) (queueSize : Int) (stationId : String)
    (simulated : Bool) :
    LiveApi.Slots (limits maxSse maxWs)
      (LiveApi.create maxSse maxWs queueSize stationId simulated) := by
  refine ⟨List.nodup_nil, rfl, fun _ hmem => absurd hmem List.not_mem_nil, ?_,
    fun _ => Nat.zero_le _⟩
  funext kind
  cases kind <;> rfl

/-- In every run a reader holds its slot from its request on, until its loop ends or the
broker shuts down; the slots of a kind never exceed the limit, and a request is refused
exactly when all of them are held. -/
theorem slots_run (maxSse maxWs : Nat) (queueSize : Int) (stationId : String)
    (simulated : Bool) (actions : List LiveAction)
    (hdrawn : (actions.filterMap LiveAction.drawn).Nodup) :
    LiveApi.Slots (limits maxSse maxWs)
        ((LiveApi.create maxSse maxWs queueSize stationId simulated).run actions) ∧
      ∀ (kind : StreamKind) (subscriptionId : String) (eventFilter : EventFilter),
        (∃ message,
          ((LiveApi.create maxSse maxWs queueSize stationId simulated).run
            actions).broker.subscribe subscriptionId kind.value (some eventFilter) =
              .error message) ↔
        ((LiveApi.create maxSse maxWs queueSize stationId simulated).run actions).slots kind =
          limits maxSse maxWs kind := by
  have hslots : LiveApi.Slots (limits maxSse maxWs)
      ((LiveApi.create maxSse maxWs queueSize stationId simulated).run actions) :=
    LiveApi.run_of_step (fun _ action _ hslots hfresh => hslots.step action hfresh)
      (slots_create maxSse maxWs queueSize stationId simulated) hdrawn
  refine ⟨hslots, fun kind subscriptionId eventFilter => ?_⟩
  have hwithin := hslots.within kind
  rw [hslots.subscribe_eq, hslots.limited]
  split
  · rename_i hfull
    exact iff_of_true ⟨_, rfl⟩ (Nat.le_antisymm hwithin hfull)
  · rename_i hroom
    refine iff_of_false ?_ fun hfull => hroom hfull.ge
    rintro ⟨message, hrefused⟩
    cases hrefused

/-- One slot for SSE: a reader that left before its loop holds it, and the next request is
refused. -/
def lostSlot : List LiveAction :=
  [.subscribe .sse "a" "" {}, .greet "a" "e1", .abandon "a", .subscribe .ws "b" "e2" {},
    .subscribe .sse "c" "" {}]

theorem slots_run_abandoned :
    ((LiveApi.create 1 2 4 "s" true).run lostSlot).streams.map (·.phase) =
        [.abandoned, .greeted] ∧
      LiveApi.Slots (limits 1 2) ((LiveApi.create 1 2 4 "s" true).run lostSlot) ∧
      ∃ message, ((LiveApi.create 1 2 4 "s" true).run lostSlot).broker.subscribe "d"
        StreamKind.sse.value (some {}) = .error message :=
  ⟨by decide +kernel, (slots_run 1 2 4 "s" true lostSlot (by decide)).1,
    ((slots_run 1 2 4 "s" true lostSlot (by decide)).2 .sse "d" {}).mpr (by decide +kernel)⟩

/-- A reader that leaves before its loop keeps its slot for as long as the broker runs. -/
theorem abandoned_holds_slot {bound : StreamKind → Nat} {api : LiveApi}
    (hslots : api.Slots bound) {stream : LiveStream} (hmem : stream ∈ api.streams)
    (habandoned : stream.phase = .abandoned) {actions : List LiveAction}
    (hopen : LiveAction.closeAll ∉ actions)
    (hdrawn : (api.streams.map (·.subscriptionId) ++
      actions.filterMap LiveAction.drawn).Nodup) : stream ∈ (api.run actions).streams := by
  refine (LiveApi.run_of_step (P := fun api => api.Slots bound ∧ stream ∈ api.streams)
    ?_ ⟨hslots, hmem⟩ hdrawn).2
  rintro api action haction ⟨hslots, hmem⟩ hfresh
  refine ⟨hslots.step action hfresh, hslots.abandoned_stays hmem habandoned ?_ hfresh⟩
  rintro rfl
  exact hopen haction

end Api
end Intelipump
