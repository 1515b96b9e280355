import Mathlib.Data.List.Induction
import Intelipump.Controller.Outbound
import Intelipump.Foundation.NumberedHistory

namespace Intelipump
namespace Controller

open Dart.Line
open Foundation.NumberedHistory

/-!
# The discipline of the outbound queue

Runs of the queue beside the history of what it accepted and what left it.  The
queue holds the present items of its history in the order of their acceptance;
an item leaves by one pop, for its own address before its expiry, or in a pop
after its expiry.
-/

/-- How an item left the queue, with the clock reading of the call. -/
inductive Departure where
  | popped (now : Int) (address : Byte)
  | expired (now : Int)
deriving DecidableEq, Repr

def Departure.isPopped : Departure → Bool
  | .popped _ _ => true
  | .expired _ => false

/-- A call on the queue, with the clock reading that it makes. -/
inductive QueueCall where
  | enqueue (now : Int) (item : OutboundDataItem) (safety : ControllerSafetyContext)
  | popForAddress (now : Int) (address : Byte)
deriving DecidableEq, Repr

def QueueCall.now : QueueCall → Int
  | .enqueue now _ _ => now
  | .popForAddress now _ => now

abbrev QueueHistory := History OutboundDataItem Departure

/-- The number was handed out by a pop. -/
def wasPopped (history : QueueHistory) (number : Nat) : Bool :=
  history.departed.any fun departure => departure.1 = number && departure.2.isPopped

/-- A queue, its history, and what its pops returned. -/
structure QueueRun where
  queue : OutboundQueue
  history : QueueHistory
  returned : List (Int × Byte × OutboundDataItem)
deriving DecidableEq, Repr

namespace QueueRun

def start (queue : OutboundQueue) : QueueRun where
  queue := queue
  history := .empty
  returned := []

/-- The items that a pop drops, and the ones it looks for. -/
def expiredAt (now : Int) (item : OutboundDataItem) : Bool := item.isExpired now
def sentTo (address : Byte) (item : OutboundDataItem) : Bool := item.address = address

/-- One call: the queue answers, and the history says which items left. -/
def step (run : QueueRun) : QueueCall → QueueRun
  | .enqueue now item safety =>
      match run.queue.enqueue now item safety with
      | .error _ => run
      | .ok queue => { run with queue := queue, history := run.history.accept item }
  | .popForAddress now address =>
      let answer := run.queue.popForAddress now address
      { queue := answer.2
        history :=
          run.history.serve (expiredAt now) (sentTo address) (.expired now)
            (.popped now address)
        returned := run.returned ++ answer.1.toList.map fun item => (now, address, item) }

def after (queue : OutboundQueue) (calls : List QueueCall) : QueueRun :=
  calls.foldl step (start queue)

theorem after_concat (queue : OutboundQueue) (calls : List QueueCall) (call : QueueCall) :
    after queue (calls ++ [call]) = (after queue calls).step call := by
  unfold after
  rw [List.foldl_append]
  rfl

/-! ## What one call does -/

theorem step_enqueue (run : QueueRun) (now : Int) (item : OutboundDataItem)
    (safety : ControllerSafetyContext) :
    run.step (.enqueue now item safety) = run ∨
      (run.queue.items.length : Int) < run.queue.maxSize ∧
        run.step (.enqueue now item safety) =
          { run with
            queue := { run.queue with items := run.queue.items ++ [item] }
            history := run.history.accept item } := by
  unfold step
  dsimp only
  cases hqueue : run.queue.enqueue now item safety with
  | error raised => exact Or.inl rfl
  | ok queue =>
      obtain ⟨-, -, hroom, rfl⟩ := OutboundQueue.enqueue_ok hqueue
      exact Or.inr ⟨hroom, rfl⟩

/-- A pop hands out the first item for its address that has not expired. -/
theorem pop_answer (queue : OutboundQueue) (now : Int) (address : Byte) :
    (queue.popForAddress now address).1 =
      queue.items.find? fun item => !expiredAt now item && sentTo address item := by
  unfold OutboundQueue.popForAddress
  rw [OutboundQueue.popLoop_none]
  refine List.find?_congr fun item _ => ?_
  rw [expiredAt, sentTo, ← decide_not, Bool.decide_and]

/-- A pop keeps the other items that have not expired, in their order. -/
theorem pop_items (queue : OutboundQueue) (now : Int) (address : Byte) :
    (queue.popForAddress now address).2 =
      { queue with items :=
        (queue.items.filter (!expiredAt now ·)).eraseP (sentTo address) } := by
  have hfilter : (queue.items.filter fun item => decide (¬ item.isExpired now)) =
      queue.items.filter (!expiredAt now ·) :=
    List.filter_congr fun item _ => decide_not
  unfold OutboundQueue.popForAddress
  rw [OutboundQueue.popLoop_none]
  dsimp only
  rw [hfilter]
  rfl

/-- The item that a pop hands out is the one that its history serves. -/
theorem pop_next {run : QueueRun} (hcontents : run.queue.items = run.history.items)
    (now : Int) (address : Byte) :
    (run.queue.popForAddress now address).1 =
      (run.history.next (expiredAt now) (sentTo address)).map Prod.fst := by
  rw [pop_answer, hcontents, History.next_item]

/-! ## What a run keeps -/

/-- The departure of an item was due: to a pop for its address before its expiry, or to
a pop after its expiry. -/
def Due (calls : List QueueCall) (item : OutboundDataItem) : Departure → Prop
  | .popped now address =>
      .popForAddress now address ∈ calls ∧ item.address = address ∧ ¬ item.isExpired now
  | .expired now => (∃ address, .popForAddress now address ∈ calls) ∧ item.isExpired now

theorem Due.concat {calls : List QueueCall} {item : OutboundDataItem}
    {departure : Departure} (hdue : Due calls item departure) (call : QueueCall) :
    Due (calls ++ [call]) item departure := by
  cases departure with
  | popped now address => exact ⟨List.mem_append_left _ hdue.1, hdue.2⟩
  | expired now =>
      obtain ⟨⟨address, hcall⟩, hexpired⟩ := hdue
      exact ⟨⟨address, List.mem_append_left _ hcall⟩, hexpired⟩

/-- What the pops returned, read off the history. -/
def handedOut (accepted : List OutboundDataItem) (departure : Nat × Departure) :
    Option (Int × Byte × OutboundDataItem) :=
  match departure.2 with
  | .popped now address => accepted[departure.1]?.map fun item => (now, address, item)
  | .expired _ => none

structure Kept (maxSize : Int) (calls : List QueueCall) (run : QueueRun) : Prop where
  sound : run.history.Sound
  size : run.queue.maxSize = maxSize
  bounded : (run.queue.items.length : Int) ≤ maxSize
  contents : run.queue.items = run.history.items
  due : ∀ departure ∈ run.history.departed, ∃ item,
    run.history.accepted[departure.1]? = some item ∧ Due calls item departure.2
  returned : run.returned =
    run.history.departed.filterMap (handedOut run.history.accepted)

theorem Kept.start {maxSize : Int} {queue : OutboundQueue}
    (hcreate : OutboundQueue.create maxSize = .ok queue) :
    Kept maxSize [] (start queue) := by
  unfold OutboundQueue.create at hcreate
  split at hcreate
  · cases hcreate
  · rename_i hsize
    obtain rfl := Except.ok.inj hcreate
    refine ⟨History.sound_empty, rfl, ?_, rfl, fun _ h => absurd h List.not_mem_nil, rfl⟩
    change (0 : Int) ≤ maxSize
    omega

theorem Kept.accept {maxSize : Int} {calls : List QueueCall} {run : QueueRun}
    (hkept : Kept maxSize calls run) {item : OutboundDataItem}
    (hroom : (run.queue.items.length : Int) < run.queue.maxSize) (call : QueueCall) :
    Kept maxSize (calls ++ [call])
      { run with
        queue := { run.queue with items := run.queue.items ++ [item] }
        history := run.history.accept item } := by
  -- what was accepted before keeps its number
  have hold : ∀ departure ∈ run.history.departed,
      (run.history.accepted ++ [item])[departure.1]? = run.history.accepted[departure.1]? := by
    intro departure hdeparture
    have hless := hkept.sound.known departure.1 (List.mem_map_of_mem hdeparture)
    exact List.getElem?_append_left hless
  have hhanded : ∀ departure ∈ run.history.departed,
      handedOut run.history.accepted departure =
        handedOut (run.history.accepted ++ [item]) departure := by
    intro departure hdeparture
    unfold handedOut
    rw [hold departure hdeparture]
  have hsize := hkept.size
  refine ⟨hkept.sound.accept, hsize, ?_, ?_, ?_, ?_⟩
  · change ((run.queue.items ++ [item]).length : Int) ≤ maxSize
    rw [List.length_append, List.length_singleton]
    omega
  · rw [History.items_accept hkept.sound, ← hkept.contents]
  · intro departure hdeparture
    obtain ⟨left, hleft, hdue⟩ := hkept.due departure hdeparture
    exact ⟨left, (hold departure hdeparture).trans hleft, hdue.concat call⟩
  · exact hkept.returned.trans (List.filterMap_congr hhanded)

/-- What a pop returns is what its history hands out. -/
theorem handedOut_serve {run : QueueRun} (hcontents : run.queue.items = run.history.items)
    (now : Int) (address : Byte) :
    (run.history.serve (expiredAt now) (sentTo address) (.expired now)
        (.popped now address)).departed.filterMap (handedOut run.history.accepted) =
      run.history.departed.filterMap (handedOut run.history.accepted) ++
        (run.queue.popForAddress now address).1.toList.map
          fun item => (now, address, item) := by
  have hdropped : (((run.history.present.filter (expiredAt now ·.1)).map
      fun entry => (entry.2, Departure.expired now)).filterMap
        (handedOut run.history.accepted)) = [] := by
    rw [List.filterMap_map]
    exact List.filterMap_eq_nil_iff.mpr fun _ _ => rfl
  have hserved : (((run.history.next (expiredAt now) (sentTo address)).toList.map
      fun entry => (entry.2, Departure.popped now address)).filterMap
        (handedOut run.history.accepted)) =
      (run.queue.popForAddress now address).1.toList.map
        fun item => (now, address, item) := by
    rw [pop_next hcontents]
    cases hnext : run.history.next (expiredAt now) (sentTo address) with
    | none => rfl
    | some entry =>
        have hentry := (History.mem_present.mp (History.next_spec hnext).1).1
        have hhanded : handedOut run.history.accepted (entry.2, .popped now address) =
            some (now, address, entry.1) := by
          unfold handedOut
          dsimp only
          rw [hentry]
          rfl
        simp only [Option.toList_some, List.map_cons, List.map_nil, Option.map_some]
        rw [List.filterMap_cons_some hhanded, List.filterMap_nil]
  unfold History.serve
  dsimp only
  rw [List.filterMap_append, List.filterMap_append, hdropped, hserved, List.append_nil]

theorem Kept.pop {maxSize : Int} {calls : List QueueCall} {run : QueueRun}
    (hkept : Kept maxSize calls run) (now : Int) (address : Byte) :
    Kept maxSize (calls ++ [.popForAddress now address])
      (run.step (.popForAddress now address)) := by
  have hcall : QueueCall.popForAddress now address ∈
      calls ++ [.popForAddress now address] :=
    List.mem_append_right _ (List.mem_singleton_self _)
  have hitems : (run.step (.popForAddress now address)).queue =
      { run.queue with items :=
        (run.queue.items.filter (!expiredAt now ·)).eraseP (sentTo address) } :=
    pop_items run.queue now address
  refine ⟨hkept.sound.serve, ?_, ?_, ?_, ?_, ?_⟩
  · rw [hitems]
    exact hkept.size
  · have herase := (List.eraseP_sublist (p := sentTo address)
      (l := run.queue.items.filter (!expiredAt now ·))).length_le
    have hfilter := List.length_filter_le (!expiredAt now ·) run.queue.items
    have hbounded := hkept.bounded
    rw [hitems]
    dsimp only
    omega
  · rw [hitems]
    dsimp only
    rw [hkept.contents]
    exact (History.items_serve run.history).symm
  · intro departure hdeparture
    rcases History.departed_serve hdeparture with
      hold | ⟨item, hpresent, hexpired, hcause⟩ | ⟨item, hnext, hcause⟩
    · obtain ⟨item, hitem, hdue⟩ := hkept.due departure hold
      exact ⟨item, hitem, hdue.concat _⟩
    · refine ⟨item, (History.mem_present.mp hpresent).1, ?_⟩
      rw [hcause]
      exact ⟨⟨address, hcall⟩, of_decide_eq_true hexpired⟩
    · obtain ⟨hpresent, hfresh, haddress⟩ := History.next_spec hnext
      refine ⟨item, (History.mem_present.mp hpresent).1, ?_⟩
      rw [hcause]
      exact ⟨hcall, of_decide_eq_true haddress, of_decide_eq_false hfresh⟩
  · change run.returned ++ _ = _
    rw [hkept.returned]
    exact (handedOut_serve hkept.contents now address).symm

theorem kept_after {maxSize : Int} {queue : OutboundQueue}
    (hcreate : OutboundQueue.create maxSize = .ok queue) (calls : List QueueCall) :
    Kept maxSize calls (after queue calls) := by
  induction calls using List.reverseRecOn with
  | nil => exact Kept.start hcreate
  | append_singleton calls call ih =>
      rw [after_concat]
      cases call with
      | enqueue now item safety =>
          rcases step_enqueue (after queue calls) now item safety with
            hsame | ⟨hroom, haccepted⟩
          · rw [hsame]
            have hdue : ∀ departure ∈ (after queue calls).history.departed, ∃ item',
                (after queue calls).history.accepted[departure.1]? = some item' ∧
                  Due (calls ++ [.enqueue now item safety]) item' departure.2 := by
              intro departure hdeparture
              obtain ⟨item', hitem, hdue⟩ := ih.due departure hdeparture
              exact ⟨item', hitem, hdue.concat _⟩
            exact { ih with due := hdue }
          · rw [haccepted]
            exact ih.accept hroom _
      | popForAddress now address => exact ih.pop now address

/-- What has left stays away. -/
theorem gone_step (run : QueueRun) (call : QueueCall) :
    run.history.gone ⊆ (run.step call).history.gone := by
  cases call with
  | enqueue now item safety =>
      rcases step_enqueue run now item safety with hsame | ⟨-, haccepted⟩
      · rw [hsame]
        exact List.Subset.refl _
      · rw [haccepted]
        exact List.Subset.refl _
  | popForAddress now address =>
      have hgone : (run.step (.popForAddress now address)).history.gone = _ :=
        History.gone_serve run.history
      rw [hgone, List.append_assoc]
      exact List.subset_append_left _ _

theorem gone_after (queue : OutboundQueue) (before later : List QueueCall) :
    (after queue before).history.gone ⊆ (after queue (before ++ later)).history.gone := by
  induction later using List.reverseRecOn with
  | nil => rw [List.append_nil]; exact List.Subset.refl _
  | append_singleton later call ih =>
      rw [← List.append_assoc, after_concat]
      exact fun number hnumber => gone_step _ call (ih hnumber)

/-- A pop drops what has expired, whether it was accepted first or last. -/
theorem gone_of_expired {queue : OutboundQueue} {before later : List QueueCall} {now : Int}
    {address : Byte} {number : Nat} {item : OutboundDataItem}
    (hitem : (after queue before).history.accepted[number]? = some item)
    (hexpired : item.isExpired now) :
    number ∈ (after queue (before ++ .popForAddress now address :: later)).history.gone := by
  have hpopped : number ∈
      (after queue (before ++ [.popForAddress now address])).history.gone := by
    rw [after_concat]
    exact History.mem_gone_serve hitem (decide_eq_true hexpired)
  have hlater := gone_after queue (before ++ [.popForAddress now address]) later
  rw [List.append_assoc] at hlater
  exact hlater hpopped

/-- With a clock that has not run back, what was dropped as expired is still expired: the
next item is the first one of all accepted that is for the address, has not expired and
was not handed out before. -/
theorem next_of_clock {maxSize now : Int} {calls : List QueueCall} {run : QueueRun}
    (hkept : Kept maxSize calls run) (hclock : ∀ call ∈ calls, call.now ≤ now)
    (address : Byte) :
    run.history.next (expiredAt now) (sentTo address) =
      run.history.accepted.zipIdx.find? fun entry =>
        entry.1.address = address ∧ ¬ entry.1.isExpired now ∧
          wasPopped run.history entry.2 = false := by
  refine History.next_eq_find?_accepted fun entry hentry => ?_
  have haccepted := List.mem_zipIdx_iff_getElem?.mp hentry
  have hgone : ¬ entry.1.isExpired now →
      (entry.2 ∈ run.history.gone ↔ wasPopped run.history entry.2 = true) := by
    intro hfresh
    unfold wasPopped
    rw [List.any_eq_true]
    constructor
    · intro hnumber
      obtain ⟨departure, hdeparture, hsame⟩ := List.mem_map.mp hnumber
      obtain ⟨item, hitem, hdue⟩ := hkept.due departure hdeparture
      rw [hsame] at hitem
      obtain rfl : entry.1 = item := Option.some.inj (haccepted.symm.trans hitem)
      refine ⟨departure, hdeparture, ?_⟩
      rw [Bool.and_eq_true]
      refine ⟨decide_eq_true hsame, ?_⟩
      cases hcause : departure.2 with
      | popped reading other => rfl
      | expired reading =>
          rw [hcause] at hdue
          obtain ⟨⟨other, hcall⟩, hexpired⟩ := hdue
          have hbefore : reading ≤ now := hclock _ hcall
          exact absurd (Int.le_trans hexpired hbefore) hfresh
    · rintro ⟨departure, hdeparture, hpopped⟩
      obtain ⟨hsame, -⟩ := Bool.and_eq_true_iff.mp hpopped
      exact of_decide_eq_true hsame ▸ List.mem_map_of_mem hdeparture
  rw [decide_eq_true_iff, expiredAt, sentTo, decide_eq_false_iff_not, decide_eq_true_iff]
  constructor
  · rintro ⟨haddress, hfresh, hpopped⟩
    refine ⟨fun hnumber => ?_, hfresh, haddress⟩
    rw [(hgone hfresh).mp hnumber] at hpopped
    cases hpopped
  · rintro ⟨hpresent, hfresh, haddress⟩
    exact ⟨haddress, hfresh, Bool.eq_false_iff.mpr fun h => hpresent ((hgone hfresh).mpr h)⟩

/-! ## The discipline -/

/-- A pop hands out the earliest accepted item for its address that was not handed out
and has not expired; in the queue this is the first item of that kind, and the others
that have not expired stay in their order. -/
structure PopsEarliest (run : QueueRun) (now : Int) (address : Byte) : Prop where
  earliest : (run.queue.popForAddress now address).1 =
    (run.history.accepted.zipIdx.find? fun entry =>
      entry.1.address = address ∧ ¬ entry.1.isExpired now ∧
        wasPopped run.history entry.2 = false).map Prod.fst
  first : (run.queue.popForAddress now address).1 =
    run.queue.items.find? fun item => ¬ item.isExpired now ∧ item.address = address
  rest : (run.queue.popForAddress now address).2.items =
    (run.queue.items.filter fun item => ¬ item.isExpired now).eraseP fun item =>
      item.address = address

structure Disciplined (maxSize : Int) (queue : OutboundQueue) (calls : List QueueCall) :
    Prop where
  /-- Every pop of the run. -/
  pops : ∀ before now address later,
    calls = before ++ .popForAddress now address :: later →
      PopsEarliest (after queue before) now address
  /-- The queue holds what is present, in the order of acceptance. -/
  contents : (after queue calls).queue.items = (after queue calls).history.items
  /-- An accepted item is present or has left once. -/
  once : (List.range (after queue calls).history.accepted.length).Perm
    ((after queue calls).history.present.map Prod.snd ++ (after queue calls).history.gone)
  /-- It left by a pop for its address before its expiry, or in a pop after it. -/
  due : ∀ departure ∈ (after queue calls).history.departed, ∃ item,
    (after queue calls).history.accepted[departure.1]? = some item ∧
      Due calls item departure.2
  /-- What the pops returned is what left by a pop. -/
  returned : (after queue calls).returned =
    (after queue calls).history.departed.filterMap
      (handedOut (after queue calls).history.accepted)
  /-- No item outlasts a pop after its expiry. -/
  leaves : ∀ before now address later number item,
    calls = before ++ .popForAddress now address :: later →
    (after queue before).history.accepted[number]? = some item → item.isExpired now →
      number ∈ (after queue calls).history.gone
  bounded : ((after queue calls).queue.items.length : Int) ≤ maxSize

/-- Every run of calls with a clock that does not run back keeps the discipline. -/
theorem outboundQueue_disciplined {maxSize : Int} {queue : OutboundQueue}
    (hcreate : OutboundQueue.create maxSize = .ok queue) (calls : List QueueCall)
    (hclock : calls.Pairwise fun earlier later => earlier.now ≤ later.now) :
    Disciplined maxSize queue calls := by
  have hkept := kept_after hcreate calls
  refine ⟨?_, hkept.contents, History.perm_range hkept.sound, hkept.due, hkept.returned,
    ?_, hkept.bounded⟩
  · rintro before now address later rfl
    have hbefore := kept_after hcreate before
    have hreading : ∀ call ∈ before, call.now ≤ now := by
      intro call hcall
      exact (List.pairwise_append.mp hclock).2.2 call hcall _ List.mem_cons_self
    refine ⟨?_, ?_, ?_⟩
    · rw [pop_next hbefore.contents, next_of_clock hbefore hreading]
    · unfold OutboundQueue.popForAddress
      rw [OutboundQueue.popLoop_none]
    · unfold OutboundQueue.popForAddress
      rw [OutboundQueue.popLoop_none]
  · rintro before now address later number item rfl hitem hexpired
    exact gone_of_expired hitem hexpired

def statusRequest (uuid4 : String) (now : Int) (address : Byte) (ttlMs : Int) :
    OutboundDataItem :=
  OutboundDataItem.create uuid4 now address [0x01, 0x01, 0x00] .READ_STATUS true .IDEMPOTENT
    ttlMs

def listenOnlyLab : ControllerSafetyContext where
  environment := "LAB"
  mode := .LISTEN_ONLY
  activeCommandsEnabled := false
  requirePhysicalControlEnable := true

/-- Two pumps, and a request that expires before the first pop. -/
def twoPumpCalls : List QueueCall :=
  [.enqueue 0 (statusRequest "a" 0 0x51 40) listenOnlyLab,
    .enqueue 10 (statusRequest "b" 10 0x50 100) listenOnlyLab,
    .enqueue 20 (statusRequest "c" 20 0x51 100) listenOnlyLab,
    .popForAddress 50 0x51, .popForAddress 60 0x51]

theorem outboundQueue_disciplined_two_pumps :
    Disciplined 3 { maxSize := 3, items := [] } twoPumpCalls ∧
      (after { maxSize := 3, items := [] } twoPumpCalls).history.departed =
        [(0, .expired 50), (2, .popped 50 0x51)] :=
  ⟨outboundQueue_disciplined rfl twoPumpCalls (by decide), by decide +kernel⟩

end QueueRun

end Controller
end Intelipump
