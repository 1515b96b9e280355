import Intelipump.Api.EventStreams

namespace Intelipump
namespace Api

open Events
open Foundation

/-!
# What a reader of the live events is sent

The broker and the streams number their events from one counter, and an event may wait in
a queue while its stream sends a heartbeat.  So the numbers that one reader sees need not
grow, and no number is seen twice.
-/

/-! ## What a stream has sent and will send -/

def Told.isOwn : Told → Bool
  | .own _ => true
  | .brokered _ => false

/-- The numbers grow, except that an event of the broker may come late, after one that the
stream made for itself. -/
def Follows (earlier later : Told) : Prop :=
  earlier.event.sequence < later.event.sequence ∨
    earlier.isOwn = true ∧ later.isOwn = false ∧
      later.event.sequence < earlier.event.sequence

theorem Follows.sequence_ne {earlier later : Told} (hfollows : Follows earlier later) :
    earlier.event.sequence ≠ later.event.sequence := by
  rcases hfollows with hbefore | ⟨-, -, hlate⟩
  · exact Nat.ne_of_lt hbefore
  · exact Nat.ne_of_gt hlate

namespace LiveApi

/-- The events that wait for the stream. -/
def waiting (api : LiveApi) (stream : LiveStream) : List LiveEvent :=
  ((api.held stream).map Subscription.queued).getD []

def told (api : LiveApi) (stream : LiveStream) : List Told :=
  stream.sent ++ (api.waiting stream).map Told.brokered

end LiveApi

/-- First `CONNECTED`, then heartbeats only of its own. -/
inductive Greeting : StreamPhase → List Told → Prop
  | silent {phase : StreamPhase} (hphase : phase = .subscribed ∨ phase = .abandoned) :
      Greeting phase []
  | connected {phase : StreamPhase} (event : LiveEvent) (rest : List Told)
      (hphase : phase ≠ .subscribed) (hconnected : event.eventType = .CONNECTED)
      (hheartbeats : ∀ own, Told.own own ∈ rest → own.eventType = .HEARTBEAT) :
      Greeting phase (.own event :: rest)

theorem Greeting.phase {phase later : StreamPhase} {sent : List Told}
    (hgreeting : Greeting phase sent) (hphase : phase ≠ .subscribed)
    (habandoned : phase ≠ .abandoned) (hlater : later ≠ .subscribed) : Greeting later sent := by
  cases hgreeting with
  | silent hsilent => exact absurd hsilent (not_or.mpr ⟨hphase, habandoned⟩)
  | connected event rest _ hconnected hheartbeats =>
      exact .connected event rest hlater hconnected hheartbeats

theorem Greeting.abandoned {phase : StreamPhase} {sent : List Told}
    (hgreeting : Greeting phase sent) : Greeting .abandoned sent := by
  cases hgreeting with
  | silent _ => exact .silent (.inr rfl)
  | connected event rest _ hconnected hheartbeats =>
      exact .connected event rest (by simp) hconnected hheartbeats

theorem Greeting.sent_eq_nil {phase : StreamPhase} {sent : List Told}
    (hgreeting : Greeting phase sent) (hphase : phase = .subscribed) : sent = [] := by
  cases hgreeting with
  | silent _ => rfl
  | connected event rest hnew _ _ => exact absurd hphase hnew

/-- More is sent that is no greeting. -/
theorem Greeting.append {phase : StreamPhase} {sent : List Told}
    (hgreeting : Greeting phase sent) (hphase : phase = .running) {more : Told}
    (hmore : ∀ own, more = Told.own own → own.eventType = .HEARTBEAT) :
    Greeting phase (sent ++ [more]) := by
  subst hphase
  cases hgreeting with
  | silent hsilent => rcases hsilent with h | h <;> cases h
  | connected event rest hnew hconnected hheartbeats =>
      refine .connected event (rest ++ [more]) hnew hconnected fun own hown => ?_
      rcases List.mem_append.mp hown with hold | hlast
      · exact hheartbeats own hold
      · exact hmore own (List.mem_singleton.mp hlast).symm

/-- The invariant of a stream: what was sent and what waits is in order. -/
structure StreamOrder (api : LiveApi) (stream : LiveStream) : Prop where
  ordered : (api.told stream).Pairwise Follows
  numbered : ∀ told ∈ api.told stream, told.event.sequence ≤ api.seq
  matching : ∀ event, Told.brokered event ∈ api.told stream →
    stream.eventFilter.matches event = true
  subscription : ∀ sub ∈ api.held stream,
    sub.subscriptionId = stream.subscriptionId ∧ sub.eventFilter = stream.eventFilter
  greeting : Greeting stream.phase stream.sent

namespace StreamOrder

variable {api after : LiveApi} {stream : LiveStream}

/-- Nothing happens to the stream. -/
theorem keep (horder : StreamOrder api stream) (hheld : after.held stream = api.held stream)
    (hseq : api.seq ≤ after.seq) : StreamOrder after stream := by
  have htold : after.told stream = api.told stream := by
    unfold LiveApi.told LiveApi.waiting
    rw [hheld]
  refine ⟨htold ▸ horder.ordered, fun told hmem => ?_, ?_, ?_, horder.greeting⟩
  · exact (horder.numbered told (htold ▸ hmem)).trans hseq
  · rw [htold]
    exact horder.matching
  · rw [hheld]
    exact horder.subscription

variable {next : LiveStream}

/-- The stream goes on, and no event is new to it. -/
theorem fewer (horder : StreamOrder api stream)
    (htold : (after.told next).Sublist (api.told stream))
    (hfilter : next.eventFilter = stream.eventFilter)
    (hsubscription : ∀ sub ∈ after.held next,
      sub.subscriptionId = next.subscriptionId ∧ sub.eventFilter = next.eventFilter)
    (hgreeting : Greeting next.phase next.sent) (hseq : api.seq ≤ after.seq) :
    StreamOrder after next := by
  refine ⟨horder.ordered.sublist htold, fun told hmem => ?_, fun event hmem => ?_,
    hsubscription, hgreeting⟩
  · exact (horder.numbered told (htold.subset hmem)).trans hseq
  · rw [hfilter]
    exact horder.matching event (htold.subset hmem)

/-- An event of the broker with the next number comes behind all others. -/
theorem later (horder : StreamOrder api stream) {event : LiveEvent}
    (htold : (after.told stream).Sublist (api.told stream ++ [Told.brokered event]))
    (hnumber : event.sequence = api.seq + 1) (hseq : after.seq = api.seq + 1)
    (hmatches : stream.eventFilter.matches event = true)
    (hsubscription : ∀ sub ∈ after.held stream,
      sub.subscriptionId = stream.subscriptionId ∧ sub.eventFilter = stream.eventFilter) :
    StreamOrder after stream := by
  have hbehind : ∀ told ∈ api.told stream, Follows told (.brokered event) := by
    intro told hmem
    refine Or.inl ?_
    change told.event.sequence < event.sequence
    rw [hnumber]
    exact Nat.lt_succ_of_le (horder.numbered told hmem)
  have hall : (api.told stream ++ [Told.brokered event]).Pairwise Follows := by
    refine List.pairwise_append.mpr ⟨horder.ordered, List.pairwise_singleton _ _, ?_⟩
    intro told hmem last hlast
    rw [List.mem_singleton.mp hlast]
    exact hbehind told hmem
  refine ⟨hall.sublist htold, fun told hmem => ?_, fun other hmem => ?_, hsubscription,
    horder.greeting⟩
  · rcases List.mem_append.mp (htold.subset hmem) with hold | hnew
    · exact (horder.numbered told hold).trans (hseq ▸ Nat.le_succ _)
    · rw [List.mem_singleton.mp hnew, hseq]
      exact Nat.le_of_eq hnumber
  · rcases List.mem_append.mp (htold.subset hmem) with hold | hnew
    · exact horder.matching other hold
    · obtain rfl := Told.brokered.inj (List.mem_singleton.mp hnew)
      exact hmatches

/-- The stream sends an event of its own with the next number, and what waits for it comes
late. -/
theorem ownEvent (horder : StreamOrder api stream) {event : LiveEvent}
    (hsent : next.sent = stream.sent ++ [Told.own event])
    (hheld : after.held next = api.held stream)
    (hid : next.subscriptionId = stream.subscriptionId)
    (hfilter : next.eventFilter = stream.eventFilter)
    (hnumber : event.sequence = api.seq + 1) (hseq : after.seq = api.seq + 1)
    (hgreeting : Greeting next.phase next.sent) : StreamOrder after next := by
  have htold : after.told next =
      stream.sent ++ Told.own event :: (api.waiting stream).map Told.brokered := by
    unfold LiveApi.told LiveApi.waiting
    rw [hsent, hheld, List.append_assoc]
    rfl
  have hgreatest : ∀ told ∈ api.told stream, told.event.sequence < event.sequence := by
    intro told hmem
    rw [hnumber]
    exact Nat.lt_succ_of_le (horder.numbered told hmem)
  have hordered := horder.ordered
  unfold LiveApi.told at hordered hgreatest
  obtain ⟨hbefore, hwaiting, hbetween⟩ := List.pairwise_append.mp hordered
  refine ⟨?_, fun told hmem => ?_, fun other hmem => ?_, ?_, hgreeting⟩
  · rw [htold]
    -- the own event is put between what was sent and what waits
    refine List.pairwise_append.mpr ⟨hbefore, List.pairwise_cons.mpr ⟨?_, hwaiting⟩, ?_⟩
    · -- what waits has a smaller number
      intro told hmem
      obtain ⟨item, -, rfl⟩ := List.mem_map.mp hmem
      exact Or.inr ⟨rfl, rfl, hgreatest _ (List.mem_append_right _ hmem)⟩
    · intro told hmem last hlast
      rcases List.mem_cons.mp hlast with rfl | hwaits
      · exact Or.inl (hgreatest told (List.mem_append_left _ hmem))
      · exact hbetween told hmem last hwaits
  · rw [htold] at hmem
    rw [hseq]
    rcases List.mem_append.mp hmem with hold | hrest
    · exact (horder.numbered told (List.mem_append_left _ hold)).trans (Nat.le_succ _)
    · rcases List.mem_cons.mp hrest with rfl | hwaits
      · exact Nat.le_of_eq hnumber
      · exact (horder.numbered told (List.mem_append_right _ hwaits)).trans (Nat.le_succ _)
  · rw [htold] at hmem
    rw [hfilter]
    rcases List.mem_append.mp hmem with hold | hrest
    · exact horder.matching other (List.mem_append_left _ hold)
    · rcases List.mem_cons.mp hrest with hown | hwaits
      · cases hown
      · exact horder.matching other (List.mem_append_right _ hwaits)
  · rw [hheld, hid, hfilter]
    exact horder.subscription

end StreamOrder

/-! ## One turn -/

namespace StreamOrder

variable {api : LiveApi}

/-- The broker publishes an event with the next number. -/
theorem publishTyped {stream : LiveStream} (horder : StreamOrder api stream)
    (draft : EventDraft) : StreamOrder (api.step (.publishTyped draft)) stream := by
  have hseq : api.seq ≤ (api.step (.publishTyped draft)).seq := Nat.le_succ _
  -- a subscription that a shutdown cut off is offered nothing
  cases hdetached : stream.detached with
  | some sub =>
      refine horder.keep ?_ hseq
      rw [LiveApi.held_of_detached hdetached, LiveApi.held_of_detached hdetached]
  | none =>
      have hbefore := api.held_of_attached hdetached
      have hafter : (api.step (.publishTyped draft)).held stream =
          (api.held stream).map (Subscription.offer (api.makeEvent draft).1) := by
        rw [hbefore, LiveApi.held_of_attached hdetached]
        exact api.broker.subscription?_publish (api.makeEvent draft).1 stream.subscriptionId
      cases hheld : api.held stream with
      | none =>
          rw [hheld, Option.map_none] at hafter
          exact horder.keep (hafter.trans hheld.symm) hseq
      | some sub =>
          rw [hheld, Option.map_some] at hafter
          obtain ⟨hid, hfilter⟩ := horder.subscription sub hheld
          have hoffered : ∀ other ∈ (api.step (.publishTyped draft)).held stream,
              other.subscriptionId = stream.subscriptionId ∧
                other.eventFilter = stream.eventFilter := by
            intro other hother
            obtain rfl := Option.some.inj (hafter.symm.trans hother)
            exact ⟨(sub.subscriptionId_offer _).trans hid,
              (sub.eventFilter_offer _).trans hfilter⟩
          have htold : ∀ items, (sub.offer (api.makeEvent draft).1).queued.Sublist
              (sub.queued ++ items) → ((api.step (.publishTyped draft)).told stream).Sublist
                (api.told stream ++ items.map Told.brokered) := by
            intro items hitems
            unfold LiveApi.told LiveApi.waiting
            rw [hafter, hheld, List.append_assoc, ← List.map_append]
            exact (List.Sublist.refl _).append (hitems.map _)
          -- displaced, dropped or queued: only the last brings a new event
          rcases sub.queued_offer (api.makeEvent draft).1 with hfewer | ⟨hmore, hmatches⟩
          · have hsublist := htold [] ((List.append_nil _).symm ▸ hfewer)
            rw [List.map_nil, List.append_nil] at hsublist
            exact horder.fewer hsublist rfl hoffered horder.greeting hseq
          · exact horder.later (htold _ hmore) rfl rfl (hfilter ▸ hmatches) hoffered

end StreamOrder

/-- Every reader is sent what it should be. -/
def LiveApi.InOrder (api : LiveApi) : Prop := ∀ stream ∈ api.streams, StreamOrder api stream

namespace LiveApi

variable {api : LiveApi} {stream : LiveStream}

/-- One stream goes on, and nothing happens to the subscriptions. -/
theorem InOrder.setStream (horder : api.InOrder) {next : LiveStream}
    (hnext : StreamOrder api next) : (api.setStream next).InOrder := by
  intro other hother
  rcases mem_setStream hother with rfl | ⟨hbefore, -⟩
  · exact hnext.keep rfl le_rfl
  · exact (horder other hbefore).keep rfl le_rfl

theorem InOrder.resume (horder : api.InOrder) {subscriptionId : String} {phase : StreamPhase}
    {next : LiveStream → LiveApi}
    (hnext : ∀ stream ∈ api.streams, stream.phase = phase → (next stream).InOrder) :
    (api.resume subscriptionId phase next).InOrder := by
  unfold LiveApi.resume
  split
  · rename_i stream hfound
    split
    · rename_i hphase
      exact hnext stream (of_stream? hfound).1 hphase
    · exact horder
  · exact horder

theorem InOrder.tell (horder : api.InOrder) (hstream : StreamOrder api stream)
    {eventType : LiveEventType} {phase : StreamPhase} (eventId : String)
    (hgreeting : ∀ event : LiveEvent, event.eventType = eventType →
      Greeting phase (stream.sent ++ [Told.own event])) :
    (api.tell stream eventId eventType phase).InOrder := by
  intro other hother
  rcases mem_setStream hother with rfl | ⟨hbefore, -⟩
  · exact hstream.ownEvent rfl rfl rfl rfl rfl rfl (hgreeting _ rfl)
  · exact (horder other hbefore).keep rfl (Nat.le_succ _)

theorem InOrder.finish (horder : api.InOrder) (hmem : stream ∈ api.streams)
    (hphase : stream.phase = .running) : (api.finish stream).InOrder := by
  intro other hother
  rcases mem_setStream hother with rfl | ⟨hbefore, hdifferent⟩
  · have hstream := horder stream hmem
    have hsubscription : ∀ sub ∈ stream.detached, sub ∈ api.held stream :=
      fun sub hdetached => held_of_detached hdetached
    refine hstream.fewer ?_ rfl ?_ ?_ le_rfl
    · -- what waits in the broker is not sent any more
      unfold told waiting
      rw [held_finish]
      cases hdetached : stream.detached with
      | none =>
          rw [Option.map_none, Option.getD_none, List.map_nil, List.append_nil]
          exact List.sublist_append_left _ _
      | some sub =>
          rw [hsubscription sub hdetached]
    · rw [held_finish]
      exact fun sub hdetached => hstream.subscription sub (hsubscription sub hdetached)
    · exact hstream.greeting.phase (by simp [hphase]) (by simp [hphase]) (by simp)
  · refine (horder other hbefore).keep ?_ le_rfl
    have hkept : (api.finish stream).broker.subscription? other.subscriptionId =
        api.broker.subscription? other.subscriptionId :=
      (api.broker.subscription?_unsubscribe stream.subscriptionId other.subscriptionId).trans
        (if_neg (Ne.symm hdifferent))
    unfold held
    rw [hkept]

theorem InOrder.passOn (horder : api.InOrder) (hmem : stream ∈ api.streams)
    (hphase : stream.phase = .running) {sub : Subscription} (hheld : api.held stream = some sub)
    {event : LiveEvent} {items : List (Option LiveEvent)}
    (hitems : sub.queue.items = some event :: items) :
    (api.passOn stream event { sub.queue with items := items }).InOrder := by
  intro other hother
  rcases mem_setStream hother with rfl | ⟨hbefore, hdifferent⟩
  · have hstream := horder stream hmem
    obtain ⟨hid, hfilter⟩ := hstream.subscription sub hheld
    have htaken : withQueue stream.subscriptionId { sub.queue with items := items } sub =
        { sub with queue := { sub.queue with items := items } } := if_pos hid
    have hqueued : sub.queued = event :: items.reduceOption := by
      unfold Subscription.queued
      rw [hitems, List.reduceOption_cons_of_some]
    refine hstream.fewer ?_ rfl ?_ ?_ le_rfl
    · -- the event goes from the queue to what is sent
      unfold told waiting
      rw [held_passOn, hheld, Option.map_some, htaken, Option.map_some, Option.map_some, hqueued]
      change List.Sublist ((stream.sent ++ [Told.brokered event]) ++ _)
        (stream.sent ++ Told.brokered event :: _)
      rw [List.append_assoc]
      exact List.Sublist.refl _
    · rw [held_passOn, hheld, Option.map_some, htaken]
      intro other hother
      obtain rfl := Option.some.inj hother
      exact ⟨hid, hfilter⟩
    · exact hstream.greeting.append hphase fun own hown => nomatch hown
  · refine (horder other hbefore).keep ?_ le_rfl
    have hkept : (api.passOn stream event { sub.queue with items := items }).broker.subscription?
        other.subscriptionId = api.broker.subscription? other.subscriptionId := by
      refine (subscription?_withQueue api.broker _ _ _).trans ?_
      cases hfound : api.broker.subscription? other.subscriptionId with
      | none => rfl
      | some old =>
          have hold := EventBroker.subscriptionId_of_subscription? hfound
          exact congrArg some (withQueue_of_ne (hold ▸ hdifferent) _)
    unfold held
    rw [hkept]

theorem InOrder.takeItem (horder : api.InOrder) (hmem : stream ∈ api.streams)
    (hphase : stream.phase = .running) : (api.takeItem stream).InOrder := by
  unfold LiveApi.takeItem
  cases hheld : api.held stream with
  | none => exact horder
  | some sub =>
      rw [Option.bind_some]
      unfold Queue.getNowait
      cases hitems : sub.queue.items with
      | nil => exact horder
      | cons item items =>
          cases item with
          | none => exact horder.finish hmem hphase
          | some event => exact horder.passOn hmem hphase hheld hitems

/-- A new stream has nothing in its queue, and the others do not see it. -/
theorem InOrder.subscribe (horder : api.InOrder) {subscriptionId : String}
    (hfresh : subscriptionId ∉ api.streams.map (·.subscriptionId)) (kind : StreamKind)
    (eventFilter : EventFilter) :
    InOrder
      { api with
        broker := api.broker.put
          (api.broker.newSubscription subscriptionId kind.value (some eventFilter))
        streams := api.streams ++ [LiveStream.create kind subscriptionId eventFilter] } := by
  have hput := api.broker.subscription?_put
    (api.broker.newSubscription subscriptionId kind.value (some eventFilter))
  intro other hother
  rcases List.mem_append.mp hother with hold | hnew
  · have hdifferent : subscriptionId ≠ other.subscriptionId :=
      fun hsame => hfresh (List.mem_map.mpr ⟨other, hold, hsame.symm⟩)
    refine (horder other hold).keep ?_ le_rfl
    exact congrArg other.detached.or ((hput other.subscriptionId).trans (if_neg hdifferent))
  · obtain rfl := List.mem_singleton.mp hnew
    have hheld := (hput subscriptionId).trans (if_pos rfl)
    have hsubscribed : ∀ {after : LiveApi},
        after.held (LiveStream.create kind subscriptionId eventFilter) =
            some (api.broker.newSubscription subscriptionId kind.value (some eventFilter)) →
          StreamOrder after (LiveStream.create kind subscriptionId eventFilter) := by
      intro after hheld
      have hnothing :
          after.told (LiveStream.create kind subscriptionId eventFilter) = [] := by
        unfold told waiting
        rw [hheld]
        rfl
      refine ⟨?_, ?_, ?_, ?_, .silent (.inl rfl)⟩
      · rw [hnothing]
        exact List.Pairwise.nil
      · rw [hnothing]
        exact fun _ hmem => absurd hmem List.not_mem_nil
      · rw [hnothing]
        exact fun _ hmem => absurd hmem List.not_mem_nil
      · rw [hheld]
        intro sub hsub
        obtain rfl := Option.some.inj hsub
        exact ⟨rfl, rfl⟩
    exact hsubscribed hheld

theorem InOrder.openStream (horder : api.InOrder) {subscriptionId : String}
    (hfresh : subscriptionId ∉ api.streams.map (·.subscriptionId)) (kind : StreamKind)
    (eventId : String) (eventFilter : EventFilter) :
    (api.openStream kind subscriptionId eventId eventFilter).InOrder := by
  unfold LiveApi.openStream
  split
  · exact horder
  · rename_i broker hsubscribed
    obtain rfl := EventBroker.eq_put_of_subscribe hsubscribed
    have hopened := horder.subscribe hfresh kind eventFilter
    cases kind with
    | sse => exact hopened
    | ws =>
        refine hopened.tell (hopened _ ?_) eventId fun event hconnected => ?_
        · exact List.mem_append_right _ (List.mem_singleton.mpr rfl)
        · exact .connected event [] (by simp) hconnected (by simp)

theorem InOrder.closeAll (horder : api.InOrder) : api.closeAll.InOrder := by
  intro other hother
  obtain ⟨stream, hmem, rfl⟩ := List.mem_map.mp hother
  have hstream := horder stream hmem
  have hheld := api.held_closeAll stream
  -- what the reader holds is the same, or closed now
  have hsame : ∃ close : Subscription → Subscription,
      (∀ sub, (close sub).subscriptionId = sub.subscriptionId ∧
        (close sub).eventFilter = sub.eventFilter ∧ (close sub).queued = sub.queued) ∧
      stream.detached.or
          ((api.broker.subscription? stream.subscriptionId).map Subscription.close) =
        (api.held stream).map close := by
    unfold held
    cases hdetached : stream.detached with
    | none =>
        exact ⟨Subscription.close, fun sub =>
          ⟨sub.subscriptionId_close, sub.eventFilter_close, sub.queued_close⟩, rfl⟩
    | some sub => exact ⟨id, fun _ => ⟨rfl, rfl, rfl⟩, rfl⟩
  obtain ⟨close, hclose, hafter⟩ := hsame
  rw [hafter] at hheld
  -- a sentinel may come into the queue, but no event
  refine hstream.fewer ?_ rfl ?_ hstream.greeting le_rfl
  · unfold told waiting
    rw [hheld, Option.map_map]
    have hqueued : Subscription.queued ∘ close = Subscription.queued :=
      funext fun sub => (hclose sub).2.2
    rw [hqueued]
  · rw [hheld]
    intro sub hsub
    obtain ⟨old, hold, rfl⟩ := Option.map_eq_some_iff.mp hsub
    obtain ⟨hid, hfilter⟩ := hstream.subscription old hold
    exact ⟨(hclose old).1.trans hid, (hclose old).2.1.trans hfilter⟩

theorem InOrder.abandon (horder : api.InOrder) (subscriptionId : String) :
    (api.abandon subscriptionId).InOrder := by
  unfold LiveApi.abandon
  split
  · rename_i stream hfound
    have hstream := horder stream (of_stream? hfound).1
    split
    · refine horder.setStream ?_
      exact hstream.fewer (List.Sublist.refl _) rfl hstream.subscription
        hstream.greeting.abandoned le_rfl
    · exact horder
  · exact horder

/-- One turn of anything. -/
theorem InOrder.step (horder : api.InOrder) (action : LiveAction)
    (hfresh : ∀ drawn ∈ action.drawn, drawn ∉ api.streams.map (·.subscriptionId)) :
    (api.step action).InOrder := by
  cases action with
  | publishTyped draft => exact fun stream hmem => (horder stream hmem).publishTyped draft
  | subscribe kind subscriptionId eventId eventFilter =>
      exact horder.openStream (hfresh subscriptionId rfl) kind eventId eventFilter
  | greet subscriptionId eventId =>
      refine horder.resume fun stream hmem hphase => ?_
      refine horder.tell (horder stream hmem) eventId fun event hconnected => ?_
      have hsilent : stream.sent = [] :=
        (horder stream hmem).greeting.sent_eq_nil hphase
      rw [hsilent]
      exact .connected event [] (by simp) hconnected (by simp)
  | enter subscriptionId =>
      refine horder.resume fun stream hmem hphase => horder.setStream ?_
      refine (horder stream hmem).fewer (List.Sublist.refl _) rfl
        (horder stream hmem).subscription ?_ le_rfl
      exact (horder stream hmem).greeting.phase (by simp [hphase]) (by simp [hphase]) (by simp)
  | abandon subscriptionId => exact horder.abandon subscriptionId
  | take subscriptionId =>
      exact horder.resume fun stream hmem hphase => horder.takeItem hmem hphase
  | keepalive subscriptionId eventId =>
      refine horder.resume fun stream hmem hphase => ?_
      refine horder.tell (horder stream hmem) eventId fun event hheartbeat => ?_
      have hown : ∀ own, Told.own event = .own own → own.eventType = .HEARTBEAT := by
        rintro own ⟨⟩
        exact hheartbeat
      exact hphase ▸ (horder stream hmem).greeting.append hphase hown
  | disconnect subscriptionId =>
      exact horder.resume fun stream hmem hphase => horder.finish hmem hphase
  | closeAll => exact horder.closeAll

theorem ids_setStream (api : LiveApi) (stream : LiveStream) :
    (api.setStream stream).streams.map (·.subscriptionId) =
      api.streams.map (·.subscriptionId) :=
  Tables.map_key_updateBy (·.subscriptionId) stream api.streams

theorem ids_resume (api : LiveApi) (subscriptionId : String) (phase : StreamPhase)
    {next : LiveStream → LiveApi}
    (hnext : ∀ stream, (next stream).streams.map (·.subscriptionId) =
      api.streams.map (·.subscriptionId)) :
    (api.resume subscriptionId phase next).streams.map (·.subscriptionId) =
      api.streams.map (·.subscriptionId) := by
  unfold resume
  split
  · split
    · exact hnext _
    · rfl
  · rfl

/-- A stream is opened by a request, under the identifier that was drawn for it. -/
theorem ids_step (api : LiveApi) (action : LiveAction) :
    (api.step action).streams.map (·.subscriptionId) = api.streams.map (·.subscriptionId) ∨
      ∃ drawn ∈ action.drawn, (api.step action).streams.map (·.subscriptionId) =
        api.streams.map (·.subscriptionId) ++ [drawn] := by
  cases action with
  | publishTyped draft => exact Or.inl rfl
  | subscribe kind subscriptionId eventId eventFilter =>
      unfold step openStream
      dsimp only
      split
      · exact Or.inl rfl
      · refine Or.inr ⟨subscriptionId, rfl, ?_⟩
        cases kind with
        | sse => exact List.map_append
        | ws => exact (ids_setStream _ _).trans List.map_append
  | greet subscriptionId eventId =>
      exact Or.inl (api.ids_resume _ _ fun _ => ids_setStream _ _)
  | enter subscriptionId => exact Or.inl (api.ids_resume _ _ fun _ => ids_setStream _ _)
  | abandon subscriptionId =>
      refine Or.inl ?_
      unfold step abandon
      dsimp only
      split
      · split
        · exact ids_setStream _ _
        · rfl
      · rfl
  | take subscriptionId =>
      refine Or.inl (api.ids_resume _ _ fun stream => ?_)
      unfold takeItem
      split
      · rfl
      · exact ids_setStream _ _
      · exact ids_setStream _ _
  | keepalive subscriptionId eventId =>
      exact Or.inl (api.ids_resume _ _ fun _ => ids_setStream _ _)
  | disconnect subscriptionId => exact Or.inl (api.ids_resume _ _ fun _ => ids_setStream _ _)
  | closeAll =>
      refine Or.inl ?_
      exact List.map_map

/-- What a turn keeps when its identifier is new holds after a run whose identifiers are
drawn once. -/
theorem run_of_step {P : LiveApi → Prop} {actions : List LiveAction}
    (hstep : ∀ (api : LiveApi), ∀ action ∈ actions, P api →
      (∀ drawn ∈ action.drawn, drawn ∉ api.streams.map (·.subscriptionId)) →
      P (api.step action))
    {api : LiveApi} (hinitial : P api)
    (hdrawn : (api.streams.map (·.subscriptionId) ++
      actions.filterMap LiveAction.drawn).Nodup) : P (api.run actions) := by
  induction actions generalizing api with
  | nil => exact hinitial
  | cons action rest ih =>
      rw [List.filterMap_cons] at hdrawn
      have hrest : ∀ (api : LiveApi), ∀ action ∈ rest, P api →
          (∀ drawn ∈ action.drawn, drawn ∉ api.streams.map (·.subscriptionId)) →
          P (api.step action) :=
        fun api later hlater => hstep api later (List.mem_cons_of_mem _ hlater)
      refine ih hrest (hstep api action List.mem_cons_self hinitial fun drawn hmem => ?_) ?_
      · rw [Option.mem_def.mp hmem] at hdrawn
        exact fun hold => (List.nodup_append.mp hdrawn).2.2 drawn hold drawn
          List.mem_cons_self rfl
      · rcases api.ids_step action with hsame | ⟨drawn, hmem, hmore⟩
        · rw [hsame]
          refine hdrawn.sublist ((List.Sublist.refl _).append ?_)
          cases action.drawn with
          | none => exact List.Sublist.refl _
          | some drawn => exact List.sublist_cons_self _ _
        · rw [Option.mem_def.mp hmem] at hdrawn
          rw [hmore, List.append_assoc]
          exact hdrawn

end LiveApi

/-- What a reader was sent. -/
structure SentInOrder (stream : LiveStream) : Prop where
  ordered : stream.sent.Pairwise Follows
  once : (stream.sent.map (·.event.sequence)).Nodup
  matching : ∀ event, Told.brokered event ∈ stream.sent →
    stream.eventFilter.matches event = true
  greeting : Greeting stream.phase stream.sent

/-- In every run the events of a reader come in order, but for those that waited while a
heartbeat was sent; no number comes twice, all events match the reader's filter, and
`CONNECTED` is the first. -/
theorem sent_in_order (maxSse maxWs : Nat) (queueSize : Int) (stationId : String)
    (simulated : Bool) (actions : List LiveAction)
    (hdrawn : (actions.filterMap LiveAction.drawn).Nodup) :
    ∀ stream ∈
        ((LiveApi.create maxSse maxWs queueSize stationId simulated).run actions).streams,
      SentInOrder stream := by
  intro stream hmem
  have hinitial : (LiveApi.create maxSse maxWs queueSize stationId simulated).InOrder :=
    fun _ hnone => absurd hnone List.not_mem_nil
  have hall : LiveApi.InOrder
      ((LiveApi.create maxSse maxWs queueSize stationId simulated).run actions) :=
    LiveApi.run_of_step (fun _ action _ horder hfresh => horder.step action hfresh) hinitial
      hdrawn
  have hstream := hall stream hmem
  have hsent : stream.sent.Pairwise Follows :=
    hstream.ordered.sublist (List.sublist_append_left _ _)
  refine ⟨hsent, ?_, ?_, hstream.greeting⟩
  · exact List.pairwise_map.mpr (hsent.imp Follows.sequence_ne)
  · exact fun event hevent => hstream.matching event (List.mem_append_left _ hevent)

/-- Two readers, a third that leaves before its loop, and a shutdown.  The heartbeat of the
first reader overtakes the two events in its queue. -/
def twoReaders : List LiveAction :=
  [.subscribe .sse "a" "" {}, .greet "a" "e1", .enter "a",
    .subscribe .ws "b" "e2" { eventTypes := some {.ALARM_RAISED} }, .enter "b",
    .publishTyped
      { eventId := "e3", eventType := .PUMP_CONNECTED, stationId := "s", simulated := true },
    .publishTyped
      { eventId := "e4", eventType := .ALARM_RAISED, stationId := "s", simulated := true },
    .keepalive "a" "e5", .take "a", .take "a", .take "b",
    .subscribe .sse "c" "" {}, .abandon "c", .closeAll, .take "a"]

theorem sent_in_order_overtaken :
    ((LiveApi.create 2 2 4 "s" true).run twoReaders).streams.map
        (fun stream => (stream.phase, stream.sent.map (·.event.sequence))) =
      [(.ended, [1, 5, 3, 4]), (.running, [2, 4]), (.abandoned, [])] ∧
      ∀ stream ∈ ((LiveApi.create 2 2 4 "s" true).run twoReaders).streams,
        SentInOrder stream :=
  ⟨by decide +kernel, sent_in_order 2 2 4 "s" true twoReaders (by decide)⟩

end Api
end Intelipump
