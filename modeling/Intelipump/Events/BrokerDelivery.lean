import Mathlib.Data.List.ReduceOption
import Intelipump.Events.Broker
import Intelipump.Foundation.Runs

namespace Intelipump
namespace Events

open Foundation

/-!
# What one subscriber receives

One subscription is followed through a run of the broker, with the events that
were offered to it and the events its reader took.  Order is never lost.  An
event that a critical one displaces is neither counted nor checked, so the
books balance exactly as long as nothing is displaced.
-/

inductive BrokerAction where
  | publish (event : LiveEvent)
  | subscribe (subscriptionId kind : String) (eventFilter : Option EventFilter)
  | unsubscribe (subscriptionId : String)
  | closeAll
  | consume (subscriptionId : String)

/-- The broker, what it offered to the followed subscription, and what the
reader of that subscription took. -/
structure Watch where
  broker : EventBroker
  offered : List LiveEvent := []
  consumed : List LiveEvent := []

namespace Watch

/-- One action, with the subscription under `watchedId` followed. -/
def step (watchedId : String) (watch : Watch) : BrokerAction → Watch
  | .publish event =>
      { watch with
        broker := watch.broker.publish event
        offered :=
          if (watch.broker.subscription? watchedId).any (·.wants event) then
            watch.offered ++ [event]
          else watch.offered }
  | .subscribe subscriptionId kind eventFilter =>
      match watch.broker.subscribe subscriptionId kind eventFilter with
      | .error _ => watch
      | .ok broker =>
          if subscriptionId = watchedId then { broker := broker }
          else { watch with broker := broker }
  | .unsubscribe subscriptionId =>
      { watch with broker := (watch.broker.unsubscribe subscriptionId).1 }
  | .closeAll => { watch with broker := watch.broker.closeAll.1 }
  | .consume subscriptionId =>
      let (broker, event) := watch.broker.consume subscriptionId
      { watch with
        broker := broker
        consumed :=
          if subscriptionId = watchedId then watch.consumed ++ event.toList
          else watch.consumed }

def run (watchedId : String) (watch : Watch) (actions : List BrokerAction) : Watch :=
  actions.foldl (step watchedId) watch

end Watch

/-- The events in the queue. -/
def Subscription.queued (sub : Subscription) : List LiveEvent := sub.queue.items.reduceOption

/-- What the books of a subscription say. -/
structure Accounted (watch : Watch) (sub : Subscription) : Prop where
  /-- Consumed, still queued, or counted as dropped. -/
  total : watch.offered.length =
    watch.consumed.length + sub.queued.length + sub.dropped
  /-- No critical event is gone. -/
  critical : watch.offered.filter LiveEvent.critical =
    (watch.consumed ++ sub.queued).filter LiveEvent.critical

/-- The books, and the order of what was consumed. -/
structure Delivered (watch : Watch) (sub : Subscription) : Prop where
  increasing : (watch.consumed.map (·.sequence)).Pairwise (· < ·)
  received : (watch.consumed ++ sub.queued).Sublist watch.offered
  accounted : Accounted watch sub

/-! ## The subscription after each operation -/

/-- An offered event changes the queue and the count of the dropped events alone. -/
theorem Subscription.offer_eq (event : LiveEvent) (sub : Subscription) :
    ∃ queue dropped, sub.offer event = { sub with queue := queue, dropped := dropped } := by
  unfold Subscription.offer
  split
  · split
    · exact ⟨_, _, rfl⟩
    · split
      · split
        · exact ⟨_, _, rfl⟩
        · split <;> exact ⟨_, _, rfl⟩
      · exact ⟨_, _, rfl⟩
  · exact ⟨_, _, rfl⟩

theorem Subscription.subscriptionId_offer (event : LiveEvent) (sub : Subscription) :
    (sub.offer event).subscriptionId = sub.subscriptionId := by
  obtain ⟨queue, dropped, hoffer⟩ := sub.offer_eq event
  rw [hoffer]

namespace EventBroker

/-- An update that keeps the identifiers. -/
theorem subscription?_map (broker : EventBroker) {update : Subscription → Subscription}
    (hkeeps : ∀ sub, (update sub).subscriptionId = sub.subscriptionId) (watchedId : String) :
    (broker.subs.map update).find? (·.subscriptionId = watchedId) =
      (broker.subscription? watchedId).map update := by
  unfold subscription?
  rw [List.find?_map]
  congr 2
  funext sub
  simp [hkeeps]

theorem subscription?_publish (broker : EventBroker) (event : LiveEvent)
    (watchedId : String) :
    (broker.publish event).subscription? watchedId =
      (broker.subscription? watchedId).map (Subscription.offer event) :=
  subscription?_map broker (Subscription.subscriptionId_offer event) watchedId

theorem subscription?_put (broker : EventBroker) (sub : Subscription) (watchedId : String) :
    (broker.put sub).subscription? watchedId =
      if sub.subscriptionId = watchedId then some sub
      else broker.subscription? watchedId := by
  unfold put subscription?
  dsimp only
  split
  · rename_i hold
    exact Tables.find?_updateBy hold
  · rename_i hnew
    rw [List.find?_append]
    by_cases hwatched : sub.subscriptionId = watchedId
    · subst hwatched
      have hnone := Tables.find?_eq_none_iff.mpr hnew
      simp [hnone]
    · simp [hwatched]

theorem subscription?_unsubscribe (broker : EventBroker) (subscriptionId watchedId : String) :
    (broker.unsubscribe subscriptionId).1.subscription? watchedId =
      if subscriptionId = watchedId then none else broker.subscription? watchedId := by
  unfold unsubscribe subscription?
  dsimp only
  rw [List.find?_filter]
  split
  · rename_i hsame
    subst hsame
    simp
  · rename_i hother
    congr 1
    funext sub
    by_cases hsub : sub.subscriptionId = watchedId
    · simp [hsub, Ne.symm hother]
    · simp [hsub]

theorem eq_put_of_subscribe {broker after : EventBroker} {subscriptionId kind : String}
    {eventFilter : Option EventFilter}
    (hsubscribed : broker.subscribe subscriptionId kind eventFilter = .ok after) :
    after = broker.put (broker.newSubscription subscriptionId kind eventFilter) := by
  unfold subscribe at hsubscribed
  split at hsubscribed
  · cases hsubscribed
  · split at hsubscribed
    · cases hsubscribed
    · exact (Except.ok.inj hsubscribed).symm

theorem subscriptionId_of_subscription? {broker : EventBroker} {watchedId : String}
    {sub : Subscription} (hfound : broker.subscription? watchedId = some sub) :
    sub.subscriptionId = watchedId := Tables.key_of_find? hfound

/-- Reading one subscription leaves the others alone. -/
theorem subscription?_consume_of_ne (broker : EventBroker) {subscriptionId watchedId : String}
    (hother : subscriptionId ≠ watchedId) :
    (broker.consume subscriptionId).1.subscription? watchedId =
      broker.subscription? watchedId := by
  unfold consume
  split
  · rfl
  · rw [subscription?_unsubscribe, if_neg hother]
  · refine (subscription?_map broker ?_ watchedId).trans ?_
    · intro sub
      split <;> rfl
    · cases hfound : broker.subscription? watchedId with
      | none => rfl
      | some sub =>
          have hsub := subscriptionId_of_subscription? hfound
          simp [hsub, Ne.symm hother]

/-- Reading an open subscription takes its oldest event. -/
theorem consume_of_items {broker : EventBroker} {watchedId : String} {sub : Subscription}
    (hfound : broker.subscription? watchedId = some sub) {event : LiveEvent}
    {items : List (Option LiveEvent)} (hitems : sub.queue.items = some event :: items) :
    (broker.consume watchedId).2 = some event ∧
      (broker.consume watchedId).1.subscription? watchedId =
        some { sub with queue := { sub.queue with items := items } } := by
  have hget : (broker.subscription? watchedId).bind (·.queue.getNowait) =
      some (some event, { sub.queue with items := items }) := by
    rw [hfound, Option.bind_some, Queue.getNowait, hitems]
  unfold consume
  rw [hget]
  refine ⟨rfl, (subscription?_map broker ?_ watchedId).trans ?_⟩
  · intro sub
    split <;> rfl
  · rw [hfound]
    simp [subscriptionId_of_subscription? hfound]

theorem consume_of_nil {broker : EventBroker} {watchedId : String} {sub : Subscription}
    (hfound : broker.subscription? watchedId = some sub) (hitems : sub.queue.items = []) :
    broker.consume watchedId = (broker, none) := by
  have hget : (broker.subscription? watchedId).bind (·.queue.getNowait) = none := by
    rw [hfound, Option.bind_some, Queue.getNowait, hitems]
  unfold consume
  rw [hget]

end EventBroker

/-! ## What publishing does to one subscription -/

theorem Queue.putNowait_of_not_full {Item : Type} {queue : Queue Item} (item : Item)
    (hroom : queue.full = false) :
    queue.putNowait item = some { queue with items := queue.items ++ [item] } := by
  unfold Queue.putNowait
  simp [hroom]

theorem Queue.putNowait_of_full {Item : Type} {queue : Queue Item} (item : Item)
    (hfull : queue.full = true) : queue.putNowait item = none := if_pos hfull

/-- A full queue has an item to displace. -/
theorem Queue.items_of_full {Item : Type} {queue : Queue Item} (hfull : queue.full = true) :
    ∃ item items, queue.items = item :: items := by
  obtain ⟨hpositive, hlength⟩ := of_decide_eq_true hfull
  cases hitems : queue.items with
  | nil =>
      rw [hitems, List.length_nil] at hlength
      omega
  | cons item items => exact ⟨item, items, rfl⟩

namespace Subscription

theorem offer_of_not_wants {event : LiveEvent} {sub : Subscription}
    (hwants : sub.wants event = false) : sub.offer event = sub := by
  unfold offer
  rw [if_neg (by simp [hwants])]

theorem offer_of_room {event : LiveEvent} {sub : Subscription}
    (hwants : sub.wants event = true) (hroom : sub.queue.full = false) :
    sub.offer event =
      { sub with queue := { sub.queue with items := sub.queue.items ++ [some event] } } := by
  unfold offer
  rw [if_pos hwants, Queue.putNowait_of_not_full _ hroom]

theorem offer_of_dropped {event : LiveEvent} {sub : Subscription}
    (hwants : sub.wants event = true) (hfull : sub.queue.full = true)
    (hcritical : event.critical = false) :
    sub.offer event = { sub with dropped := sub.dropped + 1 } := by
  unfold offer
  rw [if_pos hwants, Queue.putNowait_of_full _ hfull]
  simp [hcritical]

/-- The oldest item gives way, and nothing is counted. -/
theorem offer_of_displaced {event : LiveEvent} {sub : Subscription}
    (hwants : sub.wants event = true) (hfull : sub.queue.full = true)
    (hcritical : event.critical = true) {item : Option LiveEvent}
    {items : List (Option LiveEvent)} (hitems : sub.queue.items = item :: items) :
    ∃ added, added <+: [some event] ∧
      sub.offer event =
        { sub with queue := { sub.queue with items := items ++ added } } := by
  have hget : sub.queue.getNowait = some (item, { sub.queue with items := items }) := by
    rw [Queue.getNowait, hitems]
  unfold offer
  rw [if_pos hwants, Queue.putNowait_of_full _ hfull, hget]
  dsimp only
  rw [if_pos hcritical]
  cases hroom : ({ sub.queue with items := items } : Queue (Option LiveEvent)).full with
  | true =>
      rw [Queue.putNowait_of_full _ hroom]
      exact ⟨[], List.nil_prefix, by rw [List.append_nil]⟩
  | false =>
      rw [Queue.putNowait_of_not_full _ hroom]
      exact ⟨[some event], List.prefix_rfl, rfl⟩

end Subscription

/-! ## One action and the followed subscription -/

/-- What holds of the followed subscription in every run. -/
structure Coherent (watch : Watch) (sub : Subscription) : Prop where
  opened : sub.closed = false
  sentinelFree : none ∉ sub.queue.items
  received : (watch.consumed ++ sub.queued).Sublist watch.offered

/-- The ways in which an action can touch the followed subscription. -/
inductive Effect (watchedId : String) (watch : Watch) : BrokerAction → Watch → Prop
  | unchanged (action : BrokerAction) (after : Watch)
      (hsub : after.broker.subscription? watchedId = watch.broker.subscription? watchedId)
      (hoffered : after.offered = watch.offered)
      (hconsumed : after.consumed = watch.consumed)
      (hquiet : ∀ event sub, action = .publish event →
        watch.broker.subscription? watchedId = some sub → sub.wants event = false) :
      Effect watchedId watch action after
  | ended (action : BrokerAction) (after : Watch)
      (hsub : after.broker.subscription? watchedId = none)
      (hsilent : ∀ event, action ≠ .publish event) : Effect watchedId watch action after
  | started (action : BrokerAction) (after : Watch) (sub : Subscription)
      (hsub : after.broker.subscription? watchedId = some sub)
      (hnew : sub.closed = false ∧ sub.queue.items = [] ∧ sub.dropped = 0)
      (hoffered : after.offered = []) (hconsumed : after.consumed = [])
      (hsilent : ∀ event, action ≠ .publish event) : Effect watchedId watch action after
  | offered (event : LiveEvent) (after : Watch) (sub : Subscription)
      (hfound : watch.broker.subscription? watchedId = some sub)
      (hwants : sub.wants event = true)
      (hsub : after.broker.subscription? watchedId = some (sub.offer event))
      (hoffered : after.offered = watch.offered ++ [event])
      (hconsumed : after.consumed = watch.consumed) :
      Effect watchedId watch (.publish event) after
  | read (event : LiveEvent) (after : Watch) (sub : Subscription)
      (items : List (Option LiveEvent))
      (hfound : watch.broker.subscription? watchedId = some sub)
      (hitems : sub.queue.items = some event :: items)
      (hsub : after.broker.subscription? watchedId =
        some { sub with queue := { sub.queue with items := items } })
      (hoffered : after.offered = watch.offered)
      (hconsumed : after.consumed = watch.consumed ++ [event]) :
      Effect watchedId watch (.consume watchedId) after

namespace Watch

theorem effect_publish (watchedId : String) (watch : Watch) (event : LiveEvent) :
    Effect watchedId watch (.publish event) (watch.step watchedId (.publish event)) := by
  have hsub := EventBroker.subscription?_publish watch.broker event watchedId
  cases hfound : watch.broker.subscription? watchedId with
  | none =>
      refine .unchanged _ _ ?_ (by simp [step, hfound]) rfl (by simp [hfound])
      rw [hfound] at hsub
      exact hsub.trans hfound.symm
  | some sub =>
      rw [hfound, Option.map_some] at hsub
      cases hwants : sub.wants event with
      | false =>
          rw [Subscription.offer_of_not_wants hwants] at hsub
          refine .unchanged _ _ (hsub.trans hfound.symm) (by simp [step, hfound, hwants]) rfl ?_
          intro other found hevent hother
          obtain rfl := BrokerAction.publish.inj hevent
          obtain rfl := Option.some.inj (hfound.symm.trans hother)
          exact hwants
      | true => exact .offered event _ sub hfound hwants hsub (by simp [step, hfound, hwants]) rfl

theorem effect_subscribe (watchedId : String) (watch : Watch) (subscriptionId kind : String)
    (eventFilter : Option EventFilter) :
    Effect watchedId watch (.subscribe subscriptionId kind eventFilter)
      (watch.step watchedId (.subscribe subscriptionId kind eventFilter)) := by
  cases hsubscribed : watch.broker.subscribe subscriptionId kind eventFilter with
  -- the limit is reached
  | error message =>
      have hstep : watch.step watchedId (.subscribe subscriptionId kind eventFilter) =
          watch := by simp [step, hsubscribed]
      rw [hstep]
      exact .unchanged _ _ rfl rfl rfl (by simp)
  | ok broker =>
      obtain rfl := EventBroker.eq_put_of_subscribe hsubscribed
      have hsub := EventBroker.subscription?_put watch.broker
        (watch.broker.newSubscription subscriptionId kind eventFilter) watchedId
      -- a known id is replaced, which starts the watched queue anew
      by_cases hsame : subscriptionId = watchedId
      · subst hsame
        replace hsub := hsub.trans (if_pos rfl)
        refine .started _ _
          (watch.broker.newSubscription subscriptionId kind eventFilter) ?_ ⟨rfl, rfl, rfl⟩
          ?_ ?_ (by simp)
        · simpa [step, hsubscribed] using hsub
        · simp [step, hsubscribed]
        · simp [step, hsubscribed]
      · replace hsub := hsub.trans (if_neg hsame)
        refine .unchanged _ _ ?_ ?_ ?_ (by simp)
        · simpa [step, hsubscribed, hsame] using hsub
        · simp [step, hsubscribed, hsame]
        · simp [step, hsubscribed, hsame]

theorem effect_consume (watchedId : String) (watch : Watch) (subscriptionId : String)
    (hcoherent : ∀ sub, watch.broker.subscription? watchedId = some sub →
      Coherent watch sub) :
    Effect watchedId watch (.consume subscriptionId)
      (watch.step watchedId (.consume subscriptionId)) := by
  by_cases hsame : subscriptionId = watchedId
  · subst hsame
    cases hfound : watch.broker.subscription? subscriptionId with
    | none =>
        have hnothing : watch.broker.consume subscriptionId = (watch.broker, none) := by
          unfold EventBroker.consume
          rw [hfound]
          rfl
        exact .unchanged _ _ (by simp [step, hnothing]) rfl (by simp [step, hnothing]) (by simp)
    | some sub =>
        cases hitems : sub.queue.items with
        | nil =>
            have hnothing := EventBroker.consume_of_nil hfound hitems
            exact .unchanged _ _ (by simp [step, hnothing]) rfl (by simp [step, hnothing])
              (by simp)
        | cons item items =>
            cases item with
            | none =>
                -- the sentinel is put by a close alone
                have hfree := (hcoherent sub hfound).sentinelFree
                exact absurd (by simp [hitems]) hfree
            | some event =>
                obtain ⟨hevent, hsub⟩ := EventBroker.consume_of_items hfound hitems
                exact .read event _ sub items hfound hitems hsub rfl (by simp [step, hevent])
  · exact .unchanged _ _ (EventBroker.subscription?_consume_of_ne watch.broker hsame) rfl
      (by simp [step, hsame]) (by simp)

theorem effect_step (watchedId : String) (watch : Watch) (action : BrokerAction)
    (hcoherent : ∀ sub, watch.broker.subscription? watchedId = some sub →
      Coherent watch sub) :
    Effect watchedId watch action (watch.step watchedId action) := by
  cases action with
  | publish event => exact effect_publish watchedId watch event
  | subscribe subscriptionId kind eventFilter =>
      exact effect_subscribe watchedId watch subscriptionId kind eventFilter
  | unsubscribe subscriptionId =>
      have hsub := EventBroker.subscription?_unsubscribe watch.broker subscriptionId watchedId
      split at hsub
      · exact .ended _ _ hsub (by simp)
      · exact .unchanged _ _ hsub rfl rfl (by simp)
  | closeAll => exact .ended _ _ rfl (by simp)
  | consume subscriptionId => exact effect_consume watchedId watch subscriptionId hcoherent

end Watch

/-! ## What every run keeps -/

theorem Subscription.queued_append (sub : Subscription) (items : List (Option LiveEvent)) :
    ({ sub with queue := { sub.queue with items := sub.queue.items ++ items } } :
      Subscription).queued = sub.queued ++ items.reduceOption := by
  simp [Subscription.queued, List.reduceOption_append]

/-- A publication adds the event to what is queued, or displaces an item, or both. -/
theorem Subscription.queued_offer (event : LiveEvent) (sub : Subscription) :
    (sub.offer event).queued.Sublist sub.queued ∨
      (sub.offer event).queued.Sublist (sub.queued ++ [event]) ∧
        sub.eventFilter.matches event = true := by
  cases hwants : sub.wants event with
  | false =>
      rw [Subscription.offer_of_not_wants hwants]
      exact Or.inl (List.Sublist.refl _)
  | true =>
      refine Or.inr ⟨?_, (Bool.and_eq_true_iff.mp hwants).2⟩
      cases hfull : sub.queue.full with
      | false =>
          rw [Subscription.offer_of_room hwants hfull, Subscription.queued_append]
          exact List.Sublist.refl _
      | true =>
          cases hcritical : event.critical with
          | false =>
              rw [Subscription.offer_of_dropped hwants hfull hcritical]
              exact List.sublist_append_left _ _
          | true =>
              obtain ⟨item, items, hitems⟩ := Queue.items_of_full hfull
              obtain ⟨added, hadded, hoffer⟩ :=
                Subscription.offer_of_displaced hwants hfull hcritical hitems
              have hleft : items.reduceOption.Sublist sub.queued := by
                unfold Subscription.queued
                rw [hitems]
                exact (List.sublist_cons_self item items).filterMap id
              have hnew : added.reduceOption.Sublist [event] := hadded.sublist.filterMap id
              rw [hoffer]
              unfold Subscription.queued
              rw [List.reduceOption_append]
              exact hleft.append hnew

theorem Subscription.eventFilter_offer (event : LiveEvent) (sub : Subscription) :
    (sub.offer event).eventFilter = sub.eventFilter := by
  obtain ⟨queue, dropped, hoffer⟩ := sub.offer_eq event
  rw [hoffer]

/-- A close changes the queue and the flag alone. -/
theorem Subscription.close_eq (sub : Subscription) :
    ∃ queue, sub.close = { sub with queue := queue, closed := true } := by
  unfold Subscription.close
  split
  · rename_i hclosed
    exact ⟨sub.queue, by rw [← hclosed]⟩
  · dsimp only
    split <;> exact ⟨_, rfl⟩

theorem Subscription.subscriptionId_close (sub : Subscription) :
    sub.close.subscriptionId = sub.subscriptionId := by
  obtain ⟨queue, hclose⟩ := sub.close_eq
  rw [hclose]

theorem Subscription.eventFilter_close (sub : Subscription) :
    sub.close.eventFilter = sub.eventFilter := by
  obtain ⟨queue, hclose⟩ := sub.close_eq
  rw [hclose]

/-- A close takes no event away. -/
theorem Subscription.queued_close (sub : Subscription) : sub.close.queued = sub.queued := by
  unfold Subscription.close
  split
  · rfl
  · dsimp only
    split
    · rename_i queue hput
      unfold Queue.putNowait at hput
      split at hput
      · cases hput
      · obtain rfl := Option.some.inj hput
        exact (List.reduceOption_append _ _).trans (List.append_nil _)
    · rfl

theorem coherent_offer {watch after : Watch} {event : LiveEvent} {sub : Subscription}
    (hcoherent : Coherent watch sub) (hwants : sub.wants event = true)
    (hoffered : after.offered = watch.offered ++ [event])
    (hconsumed : after.consumed = watch.consumed) : Coherent after (sub.offer event) := by
  obtain ⟨hopened, hfree, hreceived⟩ := hcoherent
  cases hfull : sub.queue.full with
  | false =>
      rw [Subscription.offer_of_room hwants hfull]
      refine ⟨hopened, by simpa using hfree, ?_⟩
      rw [Subscription.queued_append, hoffered, hconsumed, ← List.append_assoc]
      exact hreceived.append (List.Sublist.refl _)
  | true =>
      cases hcritical : event.critical with
      | false =>
          rw [Subscription.offer_of_dropped hwants hfull hcritical]
          refine ⟨hopened, hfree, ?_⟩
          rw [hoffered, hconsumed]
          exact hreceived.trans (List.sublist_append_left _ _)
      | true =>
          obtain ⟨item, items, hitems⟩ := Queue.items_of_full hfull
          obtain ⟨added, hadded, hoffer⟩ :=
            Subscription.offer_of_displaced hwants hfull hcritical hitems
          rw [hoffer]
          rw [hitems, List.mem_cons, not_or] at hfree
          refine ⟨hopened, ?_, ?_⟩
          · intro hnone
            rcases List.mem_append.mp hnone with hold | hnew
            · exact hfree.2 hold
            · simpa using hadded.subset hnew
          · -- what is left of the queue, and the new event behind it
            have hleft : items.reduceOption.Sublist sub.queued := by
              unfold Subscription.queued
              rw [hitems]
              exact (List.sublist_cons_self item items).filterMap id
            have hnew : added.reduceOption.Sublist [event] :=
              hadded.sublist.filterMap id
            rw [hoffered, hconsumed]
            unfold Subscription.queued
            rw [List.reduceOption_append, ← List.append_assoc]
            exact (((List.Sublist.refl _).append hleft).trans hreceived).append hnew

theorem coherent_step {watchedId : String} {watch : Watch}
    (hcoherent : ∀ sub, watch.broker.subscription? watchedId = some sub →
      Coherent watch sub) (action : BrokerAction) :
    ∀ sub, (watch.step watchedId action).broker.subscription? watchedId = some sub →
      Coherent (watch.step watchedId action) sub := by
  intro sub hafter
  have heffect := Watch.effect_step watchedId watch action hcoherent
  generalize watch.step watchedId action = after at heffect hafter
  cases heffect with
  | unchanged _ _ hsub hoffered hconsumed _ =>
      obtain ⟨hopened, hfree, hreceived⟩ := hcoherent sub (hsub.symm.trans hafter)
      exact ⟨hopened, hfree, by rw [hoffered, hconsumed]; exact hreceived⟩
  | ended _ _ hsub _ => cases hafter.symm.trans hsub
  | started _ _ new hsub hnew hoffered hconsumed _ =>
      obtain rfl := Option.some.inj (hsub.symm.trans hafter)
      refine ⟨hnew.1, by simp [hnew.2.1], ?_⟩
      simp [hoffered, hconsumed, Subscription.queued, hnew.2.1]
  | offered event _ before hfound hwants hsub hoffered hconsumed =>
      obtain rfl := Option.some.inj (hsub.symm.trans hafter)
      exact coherent_offer (hcoherent before hfound) hwants hoffered hconsumed
  | read event _ before items hfound hitems hsub hoffered hconsumed =>
      obtain rfl := Option.some.inj (hsub.symm.trans hafter)
      obtain ⟨hopened, hfree, hreceived⟩ := hcoherent before hfound
      have hqueued : before.queued = event :: items.reduceOption := by
        simp [Subscription.queued, hitems]
      refine ⟨hopened, ?_, ?_⟩
      · rw [hitems, List.mem_cons, not_or] at hfree
        exact hfree.2
      · rw [hqueued] at hreceived
        rw [hoffered, hconsumed, List.append_assoc]
        exact hreceived

/-! ## The books -/

/-- No critical event finds the queue of the followed subscription full. -/
def NeverDisplaces (watchedId : String) (watch : Watch) : BrokerAction → Prop
  | .publish event =>
      ∀ sub, watch.broker.subscription? watchedId = some sub → sub.wants event = true →
        event.critical = true → sub.queue.full = false
  | _ => True

instance (watchedId : String) (watch : Watch) :
    ∀ action : BrokerAction, Decidable (NeverDisplaces watchedId watch action)
  | .publish event => inferInstanceAs (Decidable
      (∀ sub ∈ watch.broker.subscription? watchedId, sub.wants event = true →
        event.critical = true → sub.queue.full = false))
  | .subscribe _ _ _ | .unsubscribe _ | .closeAll | .consume _ => isTrue trivial

theorem accounted_offer_iff {watch after : Watch} {event : LiveEvent} {sub : Subscription}
    (haccounted : Accounted watch sub) (hfree : none ∉ sub.queue.items)
    (hwants : sub.wants event = true) (hoffered : after.offered = watch.offered ++ [event])
    (hconsumed : after.consumed = watch.consumed) :
    Accounted after (sub.offer event) ↔
      (event.critical = true → sub.queue.full = false) := by
  obtain ⟨htotal, hkept⟩ := haccounted
  cases hfull : sub.queue.full with
  | false =>
      refine iff_of_true ?_ (fun _ => rfl)
      rw [Subscription.offer_of_room hwants hfull]
      refine ⟨?_, ?_⟩
      · rw [hoffered, hconsumed, Subscription.queued_append, List.length_append, htotal,
          List.length_append, List.reduceOption_singleton]
        simp only [List.length_singleton, Option.toList_some]
        omega
      · rw [hoffered, hconsumed, Subscription.queued_append, List.filter_append, hkept,
          ← List.append_assoc, List.filter_append (watch.consumed ++ sub.queued)]
        rfl
  | true =>
      cases hcritical : event.critical with
      | false =>
          refine iff_of_true ?_ (fun hcontra => by cases hcontra)
          rw [Subscription.offer_of_dropped hwants hfull hcritical]
          refine ⟨?_, ?_⟩
          · rw [hoffered, hconsumed, List.length_append, htotal]
            rfl
          · rw [hoffered, hconsumed, List.filter_append, hkept]
            simp [hcritical, Subscription.queued]
      | true =>
          refine iff_of_false ?_ (by simp)
          obtain ⟨item, items, hitems⟩ := Queue.items_of_full hfull
          obtain ⟨added, hadded, hoffer⟩ :=
            Subscription.offer_of_displaced hwants hfull hcritical hitems
          rw [hoffer]
          rintro ⟨hbroken, -⟩
          -- the queue is no longer than before, the books want one more
          have hqueued : sub.queued.length = items.reduceOption.length + 1 := by
            rw [hitems, List.mem_cons, not_or] at hfree
            obtain ⟨old, rfl⟩ := Option.ne_none_iff_exists'.mp (Ne.symm hfree.1)
            simp [Subscription.queued, hitems]
          have hlength : added.reduceOption.length ≤ 1 :=
            (hadded.sublist.filterMap id).length_le
          rw [hoffered, hconsumed, List.length_append, htotal, hqueued] at hbroken
          simp only [Subscription.queued, List.reduceOption_append, List.length_append,
            List.length_singleton] at hbroken
          omega

theorem accounted_step_iff {watchedId : String} {watch : Watch}
    (hcoherent : ∀ sub, watch.broker.subscription? watchedId = some sub →
      Coherent watch sub)
    (haccounted : ∀ sub, watch.broker.subscription? watchedId = some sub →
      Accounted watch sub) (action : BrokerAction) :
    (∀ sub, (watch.step watchedId action).broker.subscription? watchedId = some sub →
        Accounted (watch.step watchedId action) sub) ↔
      NeverDisplaces watchedId watch action := by
  have heffect := Watch.effect_step watchedId watch action hcoherent
  generalize watch.step watchedId action = after at heffect
  have hsilent : (∀ event, action ≠ .publish event) →
      NeverDisplaces watchedId watch action := by
    intro hnot
    cases action with
    | publish event => exact absurd rfl (hnot event)
    | _ => trivial
  -- only a publication can displace, and only one that is offered to the watched queue
  cases heffect with
  | unchanged _ _ hsub hoffered hconsumed hquiet =>
      refine iff_of_true ?_ ?_
      · intro sub hafter
        obtain ⟨htotal, hkept⟩ := haccounted sub (hsub.symm.trans hafter)
        exact ⟨by rw [hoffered, hconsumed]; exact htotal,
          by rw [hoffered, hconsumed]; exact hkept⟩
      · cases action with
        | publish event =>
            intro sub hfound hwants
            rw [hquiet event sub rfl hfound] at hwants
            cases hwants
        | _ => trivial
  | ended _ _ hsub hnot =>
      refine iff_of_true ?_ (hsilent hnot)
      intro sub hafter
      cases hafter.symm.trans hsub
  | started _ _ new hsub hnew hoffered hconsumed hnot =>
      refine iff_of_true ?_ (hsilent hnot)
      intro sub hafter
      obtain rfl := Option.some.inj (hsub.symm.trans hafter)
      exact ⟨by simp [hoffered, hconsumed, Subscription.queued, hnew.2.1, hnew.2.2],
        by simp [hoffered, hconsumed, Subscription.queued, hnew.2.1]⟩
  | offered event _ before hfound hwants hsub hoffered hconsumed =>
      have hiff := accounted_offer_iff (haccounted before hfound)
        (hcoherent before hfound).sentinelFree hwants hoffered hconsumed
      constructor
      · intro hall sub hsame _ hcritical
        obtain rfl := Option.some.inj (hfound.symm.trans hsame)
        exact hiff.mp (hall _ hsub) hcritical
      · intro hnever sub hafter
        obtain rfl := Option.some.inj (hsub.symm.trans hafter)
        exact hiff.mpr (hnever before hfound hwants)
  | read event _ before items hfound hitems hsub hoffered hconsumed =>
      refine iff_of_true ?_ (hsilent (by simp))
      intro sub hafter
      obtain rfl := Option.some.inj (hsub.symm.trans hafter)
      obtain ⟨htotal, hkept⟩ := haccounted before hfound
      -- the event read moves from the queue to what was consumed
      have hqueued : before.queued = event :: items.reduceOption := by
        simp [Subscription.queued, hitems]
      rw [hqueued] at htotal hkept
      refine ⟨?_, ?_⟩
      · rw [hoffered, hconsumed, htotal, List.length_append, List.length_cons]
        simp only [List.length_singleton, Subscription.queued]
        omega
      · rw [hoffered, hconsumed, hkept, List.append_assoc]
        rfl

/-! ## Whole runs -/

/-- The event that an action publishes. -/
def BrokerAction.published : BrokerAction → Option LiveEvent
  | .publish event => some event
  | _ => none

/-- Every published event has a larger sequence number than the ones before. -/
def IncreasingSequences (actions : List BrokerAction) : Prop :=
  ((actions.filterMap BrokerAction.published).map (·.sequence)).Pairwise (· < ·)

instance (actions : List BrokerAction) : Decidable (IncreasingSequences actions) :=
  inferInstanceAs (Decidable (List.Pairwise _ _))

namespace Watch

/-- A new broker without subscriptions. -/
def create (maxSse maxWs : Nat) (queueSize : Int) : Watch where
  broker := { maxSse := maxSse, maxWs := maxWs, queueSize := queueSize }

theorem offered_step (watchedId : String) (watch : Watch) (action : BrokerAction) :
    (watch.step watchedId action).offered.Sublist
      (watch.offered ++ action.published.toList) := by
  cases action with
  | publish event =>
      unfold step
      dsimp only
      split
      · exact List.Sublist.refl _
      · exact List.sublist_append_left _ _
  | subscribe subscriptionId kind eventFilter =>
      unfold step
      dsimp only
      split
      · exact List.sublist_append_left _ _
      · split
        · exact List.nil_sublist _
        · exact List.sublist_append_left _ _
  | _ => exact List.sublist_append_left _ _

theorem offered_run (watchedId : String) (watch : Watch) (actions : List BrokerAction) :
    (watch.run watchedId actions).offered.Sublist
      (watch.offered ++ actions.filterMap BrokerAction.published) := by
  induction actions generalizing watch with
  | nil => exact List.sublist_append_left _ _
  | cons action rest ih =>
      have hpublished : (action :: rest).filterMap BrokerAction.published =
          action.published.toList ++ rest.filterMap BrokerAction.published := by
        rw [List.filterMap_cons]
        cases action.published <;> rfl
      rw [hpublished, ← List.append_assoc]
      exact (ih _).trans ((offered_step watchedId watch action).append (List.Sublist.refl _))

theorem coherent_run (watchedId : String) (maxSse maxWs : Nat) (queueSize : Int)
    (actions : List BrokerAction) :
    ∀ sub, ((create maxSse maxWs queueSize).run watchedId actions).broker.subscription?
        watchedId = some sub →
      Coherent ((create maxSse maxWs queueSize).run watchedId actions) sub := by
  induction actions using List.reverseRecOn with
  | nil =>
      intro sub hfound
      cases hfound
  | append_singleton actions last ih =>
      unfold run at ih ⊢
      rw [List.foldl_append]
      exact coherent_step ih last

/-- What was consumed is in the order of the sequence numbers, without repetition. -/
theorem increasing_run {watchedId : String} {maxSse maxWs : Nat} {queueSize : Int}
    {actions : List BrokerAction} (hincreasing : IncreasingSequences actions)
    {sub : Subscription}
    (hcoherent : Coherent ((create maxSse maxWs queueSize).run watchedId actions) sub) :
    (((create maxSse maxWs queueSize).run watchedId actions).consumed.map
      (·.sequence)).Pairwise (· < ·) := by
  have hoffered := offered_run watchedId (create maxSse maxWs queueSize) actions
  have hconsumed := (List.sublist_append_left _ sub.queued).trans
    (hcoherent.received.trans hoffered)
  exact hincreasing.sublist (hconsumed.map (·.sequence))

end Watch

/-- The part of the promise that one step can break. -/
def Kept (watchedId : String) (watch : Watch) : Prop :=
  (∀ sub, watch.broker.subscription? watchedId = some sub → Coherent watch sub) ∧
    ∀ sub, watch.broker.subscription? watchedId = some sub → Accounted watch sub

theorem kept_step_iff (watchedId : String) (watch : Watch) (action : BrokerAction)
    (hkept : Kept watchedId watch) :
    Kept watchedId (watch.step watchedId action) ↔
      NeverDisplaces watchedId watch action :=
  (and_iff_right (coherent_step hkept.1 action)).trans
    (accounted_step_iff hkept.1 hkept.2 action)

/-- The subscriber gets what the broker promises in every state of a run exactly
when no critical event for it ever finds its queue full. -/
theorem delivered_iff (maxSse maxWs : Nat) (queueSize : Int) (watchedId : String)
    (actions : List BrokerAction) (hincreasing : IncreasingSequences actions) :
    (∀ earlier, earlier <+: actions → ∀ sub,
      ((Watch.create maxSse maxWs queueSize).run watchedId earlier).broker.subscription?
          watchedId = some sub →
        sub.closed = false →
        Delivered ((Watch.create maxSse maxWs queueSize).run watchedId earlier) sub) ↔
      Runs.Along (Watch.step watchedId) (NeverDisplaces watchedId)
        (Watch.create maxSse maxWs queueSize) actions := by
  have hinitial : Kept watchedId (Watch.create maxSse maxWs queueSize) :=
    ⟨fun _ hfound => (nomatch hfound), fun _ hfound => (nomatch hfound)⟩
  have hrun : (∀ earlier, earlier <+: actions →
      Kept watchedId ((Watch.create maxSse maxWs queueSize).run watchedId earlier)) ↔ _ :=
    Runs.forall_prefix_iff_along (kept_step_iff watchedId) hinitial
  rw [← hrun]
  constructor
  · intro hdelivered earlier hearlier
    have hcoherent := Watch.coherent_run watchedId maxSse maxWs queueSize earlier
    refine ⟨hcoherent, ?_⟩
    intro sub hfound
    exact (hdelivered earlier hearlier sub hfound (hcoherent sub hfound).opened).accounted
  · intro hkept earlier hearlier sub hfound _
    obtain ⟨hcoherent, haccounted⟩ := hkept earlier hearlier
    have hsequences : IncreasingSequences earlier :=
      List.Pairwise.sublist ((hearlier.sublist.filterMap _).map _) hincreasing
    exact ⟨Watch.increasing_run hsequences (hcoherent sub hfound),
      (hcoherent sub hfound).received, haccounted sub hfound⟩

/-- An event of a given type, for the runs below. -/
def sampleEvent (eventType : LiveEventType) (sequence : Nat) : LiveEvent where
  eventId := ""
  eventType := eventType
  stationId := "s"
  simulated := true
  sequence := sequence
  pumpId := none
  severity := none

/-- A queue of two: the third event finds it full and is dropped, and an alarm comes when
the first one has been read. -/
def slowReader : List BrokerAction :=
  [.subscribe "a" "sse" none, .publish (sampleEvent .PUMP_STATE_CHANGED 1),
    .publish (sampleEvent .FILLING_UPDATED 2), .publish (sampleEvent .FILLING_UPDATED 3),
    .consume "a", .publish (sampleEvent .ALARM_RAISED 4), .consume "a",
    .publish (sampleEvent .TRANSACTION_COMPLETED 5), .consume "a"]

theorem delivered_iff_slow_reader :
    ((Watch.create 2 2 2).run "a" slowReader).consumed.map (·.sequence) = [1, 2, 4] ∧
      (((Watch.create 2 2 2).run "a" slowReader).broker.subscription? "a").map
        (fun sub => (sub.dropped, sub.queued.map (·.sequence))) = some (1, [5]) ∧
      ∀ earlier, earlier <+: slowReader → ∀ sub,
        ((Watch.create 2 2 2).run "a" earlier).broker.subscription? "a" = some sub →
          sub.closed = false → Delivered ((Watch.create 2 2 2).run "a" earlier) sub :=
  ⟨by decide +kernel, by decide +kernel,
    (delivered_iff 2 2 2 "a" slowReader (by decide)).mpr (by decide +kernel)⟩

/-- A queue of one, two alarms and nothing read: the first alarm is gone and
not counted. -/
theorem not_delivered_displaced :
    ¬ ∀ (queueSize : Int) (actions : List BrokerAction), IncreasingSequences actions →
      ∀ sub, ((Watch.create 2 2 queueSize).run "a" actions).broker.subscription? "a" = some sub →
        sub.closed = false → Delivered ((Watch.create 2 2 queueSize).run "a" actions) sub := by
  intro hall
  have hdelivered := hall 1 [.subscribe "a" "sse" none, .publish (sampleEvent .ALARM_RAISED 1),
    .publish (sampleEvent .ALARM_RAISED 2)] (by decide)
    { subscriptionId := "a"
      queue := { maxsize := 1, items := [some (sampleEvent .ALARM_RAISED 2)] }
      eventFilter := {}
      kind := "sse" } (by decide +kernel) rfl
  exact absurd hdelivered.accounted.critical (by decide +kernel)

end Events
end Intelipump
