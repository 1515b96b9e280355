import Mathlib.Data.Multiset.DershowitzManna
import Mathlib.Data.Prod.Lex
import Mathlib.Tactic.Common
import Intelipump.Exceptions
import Intelipump.Foundation.PriorityQueue

namespace Intelipump
namespace Simulator

open Foundation

/-!
# The simulated clock

Callbacks wait in a heap for their time.  Advancing the clock fires the ones that
are due, and a callback may schedule further ones, due at once if it likes; the
loop then goes on with them, so it is bounded here by fuel.  A callback that
raises leaves the clock at its own time and the others in the heap.  Callbacks
that move the clock themselves are not covered.
-/

/-- A callback with its time and its number. -/
structure Scheduled (Callback : Type) where
  dueMs : Int
  seq : Nat
  callback : Callback
deriving DecidableEq, Repr

/-- The order of the heap: by time, then by number. -/
def Scheduled.key {Callback : Type} (item : Scheduled Callback) : Int ×ₗ Nat :=
  toLex (item.dueMs, item.seq)

theorem dueMs_le_of_key_lt {Callback : Type} {first second : Scheduled Callback}
    (hkey : first.key < second.key) : first.dueMs ≤ second.dueMs :=
  (Prod.Lex.lt_iff.mp hkey).elim le_of_lt fun htie => htie.1.le

/-- The heap is kept in the order in which it is emptied. -/
@[ext] structure SimulatedClock (Callback : Type) where
  nowMs : Int
  seq : Nat
  heap : List (Scheduled Callback)
  sorted : heap.Pairwise (·.key < ·.key)
  numbered : ∀ item ∈ heap, item.seq ≤ seq

variable {Callback World : Type}

namespace SimulatedClock

def create (startMs : Int) : SimulatedClock Callback where
  nowMs := startMs
  seq := 0
  heap := []
  sorted := List.Pairwise.nil
  numbered := fun _ hitem => absurd hitem List.not_mem_nil

def pendingCount (clock : SimulatedClock Callback) : Nat := clock.heap.length

/-- The next number for a callback. -/
def number (clock : SimulatedClock Callback) (delayMs : Int) (callback : Callback) :
    Scheduled Callback :=
  ⟨clock.nowMs + delayMs, clock.seq + 1, callback⟩

theorem number_key_ne (clock : SimulatedClock Callback) (delayMs : Int)
    (callback : Callback) (other : Scheduled Callback) (hother : other ∈ clock.heap) :
    other.key ≠ (clock.number delayMs callback).key := by
  intro hkey
  have hseq : other.seq = clock.seq + 1 :=
    (Prod.mk.injEq .. ▸ (toLex.injective hkey)).2
  have hle := clock.numbered other hother
  omega

def push (clock : SimulatedClock Callback) (delayMs : Int) (callback : Callback) :
    SimulatedClock Callback where
  nowMs := clock.nowMs
  seq := clock.seq + 1
  heap := PriorityQueue.put Scheduled.key (clock.number delayMs callback) clock.heap
  sorted := PriorityQueue.sorted_put clock.sorted (clock.number_key_ne delayMs callback)
  numbered := by
    intro item hitem
    rcases PriorityQueue.mem_put.mp hitem with rfl | hold
    · exact le_refl _
    · exact (clock.numbered item hold).trans (Nat.le_succ _)

/-- Schedule a callback after a delay from now. -/
def schedule (clock : SimulatedClock Callback) (delayMs : Int) (callback : Callback) :
    Except Raised (SimulatedClock Callback) :=
  if delayMs < 0 then .error (.valueError "delay_ms must be non-negative")
  else .ok (clock.push delayMs callback)

/-- The clock without the first callback of its heap, at the time of this one. -/
def drop (clock : SimulatedClock Callback) (item : Scheduled Callback) :
    SimulatedClock Callback where
  nowMs := item.dueMs
  seq := clock.seq
  heap := clock.heap.tail
  sorted := clock.sorted.sublist (List.tail_sublist _)
  numbered := fun other hother => clock.numbered other (List.mem_of_mem_tail hother)

/-- The first callback of the heap, when it is due. -/
def pop? (clock : SimulatedClock Callback) (deadline : Int) :
    Option (Scheduled Callback × SimulatedClock Callback) :=
  match clock.heap.head? with
  | none => none
  | some item => if item.dueMs ≤ deadline then some (item, clock.drop item) else none

def setNow (clock : SimulatedClock Callback) (nowMs : Int) : SimulatedClock Callback :=
  { clock with nowMs := nowMs }

end SimulatedClock

/-- What a callback does: to the world, to the clock in order, and how it ends. -/
structure CallbackEffect (Callback World : Type) where
  world : World
  schedules : List (Int × Callback)
  raises : Option Raised

/-- A clock and the world its callbacks act on, with every callback that was
scheduled and the ones that were fired, in order. -/
@[ext] structure Timeline (Callback World : Type) where
  clock : SimulatedClock Callback
  world : World
  scheduled : List (Scheduled Callback)
  fired : List (Scheduled Callback)

namespace Timeline

def start (startMs : Int) (world : World) : Timeline Callback World :=
  ⟨SimulatedClock.create startMs, world, [], []⟩

def schedule (line : Timeline Callback World) (delayMs : Int) (callback : Callback) :
    Timeline Callback World × Option Raised :=
  match line.clock.schedule delayMs callback with
  | .error raised => (line, some raised)
  | .ok clock =>
      ({ line with
          clock := clock
          scheduled := line.scheduled ++ [line.clock.number delayMs callback] }, none)

/-- The calls of a callback, up to the first one that raises. -/
def scheduleAll : Timeline Callback World → List (Int × Callback) →
    Timeline Callback World × Option Raised
  | line, [] => (line, none)
  | line, (delayMs, callback) :: rest =>
      match line.schedule delayMs callback with
      | (line, some raised) => (line, some raised)
      | (line, none) => scheduleAll line rest

variable (behaviour : Callback → Int → World → CallbackEffect Callback World)

/-- Call a callback that was taken from the heap. -/
def fire (line : Timeline Callback World) (item : Scheduled Callback)
    (clock : SimulatedClock Callback) : Timeline Callback World × Option Raised :=
  let effect := behaviour item.callback clock.nowMs line.world
  let line := { line with
    clock := clock, world := effect.world, fired := line.fired ++ [item] }
  match line.scheduleAll effect.schedules with
  | (line, some raised) => (line, some raised)
  | (line, none) => (line, effect.raises)

/-- Fire what is due until a deadline, in order. -/
def fireUntil : Nat → Int → Timeline Callback World →
    Option (Timeline Callback World × Option Raised)
  | 0, _, _ => none
  | fuel + 1, deadline, line =>
      match line.clock.pop? deadline with
      | none => some (line, none)
      | some (item, clock) =>
          match line.fire behaviour item clock with
          | (line, some raised) => some (line, some raised)
          | (line, none) => fireUntil fuel deadline line

def setNow (line : Timeline Callback World) (nowMs : Int) : Timeline Callback World :=
  { line with clock := line.clock.setNow nowMs }

/-- The end of `advance`: the clock stands at the target unless a callback raised. -/
def arrive (target : Int) : Timeline Callback World × Option Raised →
    Timeline Callback World × Option Raised
  | (line, none) => (line.setNow target, none)
  | (line, some raised) => (line, some raised)

/-- Fire what is due until a target, and stand there. -/
def advanceTo (fuel : Nat) (target : Int) (line : Timeline Callback World) :
    Option (Timeline Callback World × Option Raised) :=
  (fireUntil behaviour fuel target line).map (arrive target)

def advance (fuel : Nat) (milliseconds : Int) (line : Timeline Callback World) :
    Option (Timeline Callback World × Option Raised) :=
  if milliseconds < 0 then
    some (line, some (.valueError "milliseconds must be non-negative"))
  else advanceTo behaviour fuel (line.clock.nowMs + milliseconds) line

/-- The end of `run_until_idle`: the result is the time that passed. -/
def elapsedSince (start : Int) : Timeline Callback World × Option Raised →
    Timeline Callback World × Except Raised Int
  | (line, none) => (line, .ok (line.clock.nowMs - start))
  | (line, some raised) => (line, .error raised)

/-- Advance until nothing is left, or the time is over. -/
def runUntilIdle (fuel : Nat) (maxMs : Int) (line : Timeline Callback World) :
    Option (Timeline Callback World × Except Raised Int) :=
  if line.clock.heap = [] then some (line, .ok 0)
  else
    let start := line.clock.nowMs
    (fireUntil behaviour fuel (start + maxMs) line).map (elapsedSince start)

/-! ## One callback -/

section

variable {behaviour : Callback → Int → World → CallbackEffect Callback World}
  {line next : Timeline Callback World} {deadline : Int}

theorem pop?_eq_some {clock rest : SimulatedClock Callback} {item : Scheduled Callback}
    (hpop : clock.pop? deadline = some (item, rest)) :
    clock.heap = item :: rest.heap ∧ rest = clock.drop item ∧ item.dueMs ≤ deadline := by
  unfold SimulatedClock.pop? at hpop
  split at hpop
  · cases hpop
  · rename_i first hfirst
    split at hpop
    · rename_i hdue
      obtain ⟨rfl, rfl⟩ := Prod.mk.inj (Option.some.inj hpop)
      exact ⟨(List.cons_head?_tail hfirst).symm, rfl, hdue⟩
    · cases hpop

/-- Nothing is taken exactly when nothing is due. -/
theorem pop?_eq_none_iff {clock : SimulatedClock Callback} :
    clock.pop? deadline = none ↔ ∀ item ∈ clock.heap, deadline < item.dueMs := by
  unfold SimulatedClock.pop?
  cases hheap : clock.heap with
  | nil => exact iff_of_true rfl fun item hitem => absurd hitem List.not_mem_nil
  | cons first rest =>
      have hsorted := clock.sorted
      rw [hheap] at hsorted
      have hfirst := (List.pairwise_cons.mp hsorted).1
      dsimp only [List.head?_cons]
      split
      · rename_i hdue
        refine iff_of_false (Option.some_ne_none _) fun hall => ?_
        exact absurd (hall first List.mem_cons_self) (not_lt.mpr hdue)
      · rename_i hdue
        refine iff_of_true rfl fun item hitem => ?_
        rcases List.mem_cons.mp hitem with rfl | hlater
        · exact not_le.mp hdue
        · exact (not_le.mp hdue).trans_le (dueMs_le_of_key_lt (hfirst item hlater))

/-- What is due by an earlier deadline is due by a later one. -/
theorem pop?_later {clock rest : SimulatedClock Callback} {item : Scheduled Callback}
    {later : Int} (hle : deadline ≤ later) (hpop : clock.pop? deadline = some (item, rest)) :
    clock.pop? later = some (item, rest) := by
  obtain ⟨hheap, rfl, hdue⟩ := pop?_eq_some hpop
  unfold SimulatedClock.pop?
  rw [hheap]
  exact if_pos (hdue.trans hle)

/-! ## Order -/

/-- The callbacks that were fired and then the ones that wait, each of them once, in the
order of their times and numbers; the clock stands between the two. -/
structure Orderly (line : Timeline Callback World) : Prop where
  ordered : (line.fired ++ line.clock.heap).Pairwise (·.key < ·.key)
  accounted : (line.fired ++ line.clock.heap).Perm line.scheduled
  numbers : line.scheduled.map (·.seq) = List.range' 1 line.clock.seq
  past : ∀ item ∈ line.fired, item.dueMs ≤ line.clock.nowMs
  ahead : ∀ item ∈ line.clock.heap, line.clock.nowMs ≤ item.dueMs

theorem orderly_start (startMs : Int) (world : World) :
    (start startMs world : Timeline Callback World).Orderly where
  ordered := List.Pairwise.nil
  accounted := List.Perm.refl _
  numbers := rfl
  past := fun _ hitem => absurd hitem List.not_mem_nil
  ahead := fun _ hitem => absurd hitem List.not_mem_nil

/-- A callback that was fired has an earlier key than one that is scheduled now. -/
theorem Orderly.key_lt_number (horderly : line.Orderly) {delayMs : Int}
    (hdelay : 0 ≤ delayMs) (callback : Callback) :
    ∀ item ∈ line.fired, item.key < (line.clock.number delayMs callback).key := by
  intro item hitem
  have hscheduled : item ∈ line.scheduled :=
    horderly.accounted.subset (List.mem_append_left _ hitem)
  have hseq : item.seq ∈ List.range' 1 line.clock.seq :=
    horderly.numbers ▸ List.mem_map_of_mem hscheduled
  have hlt : item.seq < line.clock.seq + 1 := by
    rw [List.mem_range'_1] at hseq
    omega
  have hdue : item.dueMs ≤ line.clock.nowMs + delayMs := by
    have hpast := horderly.past item hitem
    omega
  rcases hdue.lt_or_eq with hbefore | hsame
  · exact Prod.Lex.lt_iff.mpr (Or.inl hbefore)
  · exact Prod.Lex.lt_iff.mpr (Or.inr ⟨hsame, hlt⟩)

theorem Orderly.schedule (horderly : line.Orderly) (delayMs : Int) (callback : Callback) :
    (line.schedule delayMs callback).1.Orderly := by
  unfold Timeline.schedule SimulatedClock.schedule
  by_cases hdelay : delayMs < 0
  · rw [if_pos hdelay]
    exact horderly
  · rw [if_neg hdelay]
    have hnonneg : 0 ≤ delayMs := not_lt.mp hdelay
    have hput := PriorityQueue.perm_put Scheduled.key (line.clock.number delayMs callback)
      line.clock.heap
    obtain ⟨hfired, -, hcross⟩ := List.pairwise_append.mp horderly.ordered
    constructor
    · refine List.pairwise_append.mpr ⟨hfired, (line.clock.push delayMs callback).sorted, ?_⟩
      intro item hitem other hother
      rcases PriorityQueue.mem_put.mp hother with rfl | hold
      · exact horderly.key_lt_number hnonneg callback item hitem
      · exact hcross item hitem other hold
    · refine (hput.append_left line.fired).trans ?_
      refine List.perm_middle.trans ?_
      refine (horderly.accounted.cons _).trans ?_
      exact (List.perm_append_singleton _ _).symm
    · change (line.scheduled ++ [_]).map _ = List.range' 1 (line.clock.seq + 1)
      rw [List.map_append, horderly.numbers, List.range'_concat]
      change _ ++ [line.clock.seq + 1] = _ ++ [1 + 1 * line.clock.seq]
      rw [Nat.one_mul, Nat.add_comm]
    · exact horderly.past
    · intro item hitem
      rcases PriorityQueue.mem_put.mp hitem with rfl | hold
      · exact Int.le_add_of_nonneg_right hnonneg
      · exact horderly.ahead item hold

theorem Orderly.scheduleAll (horderly : line.Orderly) (schedules : List (Int × Callback)) :
    (line.scheduleAll schedules).1.Orderly := by
  induction schedules generalizing line with
  | nil => exact horderly
  | cons request rest ih =>
      obtain ⟨delayMs, callback⟩ := request
      have hone := horderly.schedule delayMs callback
      unfold Timeline.scheduleAll
      split
      · rename_i heq
        rw [heq] at hone
        exact hone
      · rename_i heq
        rw [heq] at hone
        exact ih hone

/-- Taking the first callback and calling it keeps the order. -/
theorem Orderly.fire (horderly : line.Orderly)
    (behaviour : Callback → Int → World → CallbackEffect Callback World)
    {item : Scheduled Callback} {rest : SimulatedClock Callback}
    (hpop : line.clock.pop? deadline = some (item, rest)) :
    (line.fire behaviour item rest).1.Orderly := by
  obtain ⟨hheap, rfl, -⟩ := pop?_eq_some hpop
  have hmoved : line.fired ++ line.clock.heap =
      line.fired ++ [item] ++ (line.clock.drop item).heap := by
    rw [hheap, List.append_assoc]
    rfl
  have hdue := horderly.ahead item (hheap ▸ List.mem_cons_self)
  have htaken : Orderly { line with
      clock := line.clock.drop item
      world := (behaviour item.callback (line.clock.drop item).nowMs line.world).world
      fired := line.fired ++ [item] } := by
    constructor
    · exact hmoved ▸ horderly.ordered
    · exact hmoved ▸ horderly.accounted
    · exact horderly.numbers
    · intro other hother
      rcases List.mem_append.mp hother with hold | hnew
      · exact (horderly.past other hold).trans hdue
      · rw [List.mem_singleton.mp hnew]
        exact le_refl _
    · intro other hother
      have hsorted := line.clock.sorted
      rw [hheap] at hsorted
      exact dueMs_le_of_key_lt ((List.pairwise_cons.mp hsorted).1 other hother)
  -- what the callback schedules comes behind it, in the order of the heap
  have hall := htaken.scheduleAll
    (behaviour item.callback (line.clock.drop item).nowMs line.world).schedules
  unfold Timeline.fire
  dsimp only
  split <;> rename_i heq <;> rw [heq] at hall <;> exact hall

/-- The clock may be set to any time at which nothing overdue is left. -/
theorem Orderly.setNow (horderly : line.Orderly) {nowMs : Int}
    (hforward : line.clock.nowMs ≤ nowMs) (hleft : ∀ item ∈ line.clock.heap, nowMs ≤ item.dueMs) :
    (line.setNow nowMs).Orderly where
  ordered := horderly.ordered
  accounted := horderly.accounted
  numbers := horderly.numbers
  past := fun item hitem => (horderly.past item hitem).trans hforward
  ahead := hleft

/-! ## The loop -/

theorem Orderly.fireUntil (horderly : line.Orderly) {fuel : Nat} {raised : Option Raised}
    (hfired : fireUntil behaviour fuel deadline line = some (next, raised)) :
    next.Orderly := by
  induction fuel generalizing line with
  | zero => cases hfired
  | succ fuel ih =>
      unfold Timeline.fireUntil at hfired
      split at hfired
      · cases hfired
        exact horderly
      · rename_i item rest hpop
        have hone := horderly.fire behaviour hpop
        split at hfired <;> rename_i heq <;> rw [heq] at hone
        · cases hfired
          exact hone
        · exact ih hone hfired

/-- A loop that ends without an exception leaves nothing that is due. -/
theorem left_of_fireUntil {fuel : Nat}
    (hfired : fireUntil behaviour fuel deadline line = some (next, none)) :
    ∀ item ∈ next.clock.heap, deadline < item.dueMs := by
  induction fuel generalizing line with
  | zero => cases hfired
  | succ fuel ih =>
      unfold fireUntil at hfired
      split at hfired
      · rename_i hpop
        cases hfired
        exact pop?_eq_none_iff.mp hpop
      · split at hfired
        · cases hfired
        · exact ih hfired

/-- What happens between two times: callbacks are fired, all of them due, and the ones that
waited or were scheduled meanwhile were fired or wait. -/
structure Passes (deadline : Int) (line next : Timeline Callback World)
    (calls added : List (Scheduled Callback)) : Prop where
  fired : next.fired = line.fired ++ calls
  scheduled : next.scheduled = line.scheduled ++ added
  conserved : (calls ++ next.clock.heap).Perm (line.clock.heap ++ added)
  due : ∀ item ∈ calls, item.dueMs ≤ deadline

theorem Passes.refl (deadline : Int) (line : Timeline Callback World) :
    Passes deadline line line [] [] where
  fired := (List.append_nil _).symm
  scheduled := (List.append_nil _).symm
  conserved := List.Perm.of_eq (List.append_nil _).symm
  due := fun _ hitem => absurd hitem List.not_mem_nil

theorem Passes.trans {middle : Timeline Callback World}
    {calls added calls' added' : List (Scheduled Callback)}
    (hfirst : Passes deadline line middle calls added)
    (hsecond : Passes deadline middle next calls' added') :
    Passes deadline line next (calls ++ calls') (added ++ added') where
  fired := by rw [hsecond.fired, hfirst.fired, List.append_assoc]
  scheduled := by rw [hsecond.scheduled, hfirst.scheduled, List.append_assoc]
  conserved := by
    rw [List.append_assoc, ← List.append_assoc _ added added']
    refine (hsecond.conserved.append_left calls).trans ?_
    rw [← List.append_assoc]
    exact hfirst.conserved.append_right added'
  due := fun item hitem => (List.mem_append.mp hitem).elim (hfirst.due item) (hsecond.due item)

theorem passes_schedule (deadline : Int) (line : Timeline Callback World) (delayMs : Int)
    (callback : Callback) :
    ∃ added, Passes deadline line (line.schedule delayMs callback).1 [] added := by
  unfold schedule SimulatedClock.schedule
  by_cases hdelay : delayMs < 0
  · rw [if_pos hdelay]
    exact ⟨[], Passes.refl deadline line⟩
  · rw [if_neg hdelay]
    refine ⟨[line.clock.number delayMs callback], ⟨(List.append_nil _).symm, rfl, ?_, ?_⟩⟩
    · exact (PriorityQueue.perm_put ..).trans (List.perm_append_singleton _ _).symm
    · exact fun _ hitem => absurd hitem List.not_mem_nil

theorem passes_scheduleAll (deadline : Int) (line : Timeline Callback World)
    (schedules : List (Int × Callback)) :
    ∃ added, Passes deadline line (line.scheduleAll schedules).1 [] added := by
  induction schedules generalizing line with
  | nil => exact ⟨[], Passes.refl deadline line⟩
  | cons request rest ih =>
      obtain ⟨delayMs, callback⟩ := request
      obtain ⟨added, hone⟩ := passes_schedule deadline line delayMs callback
      unfold scheduleAll
      split <;> rename_i heq <;> rw [heq] at hone
      · exact ⟨added, hone⟩
      · obtain ⟨later, hrest⟩ := ih _
        exact ⟨added ++ later, hone.trans hrest⟩

/-- The callback that is called was the first one of the heap. -/
theorem passes_fire (behaviour : Callback → Int → World → CallbackEffect Callback World)
    {item : Scheduled Callback} {rest : SimulatedClock Callback}
    (hpop : line.clock.pop? deadline = some (item, rest)) :
    ∃ added, Passes deadline line (line.fire behaviour item rest).1 [item] added := by
  obtain ⟨hheap, rfl, hdue⟩ := pop?_eq_some hpop
  have htaken : Passes deadline line { line with
      clock := line.clock.drop item
      world := (behaviour item.callback (line.clock.drop item).nowMs line.world).world
      fired := line.fired ++ [item] } [item] [] := by
    refine ⟨rfl, (List.append_nil _).symm, ?_, ?_⟩
    · rw [List.append_nil, hheap]
      rfl
    · intro other hother
      rw [List.mem_singleton.mp hother]
      exact hdue
  obtain ⟨added, hall⟩ := passes_scheduleAll deadline { line with
      clock := line.clock.drop item
      world := (behaviour item.callback (line.clock.drop item).nowMs line.world).world
      fired := line.fired ++ [item] }
    (behaviour item.callback (line.clock.drop item).nowMs line.world).schedules
  refine ⟨added, ?_⟩
  unfold fire
  dsimp only
  split <;> rename_i heq <;> rw [heq] at hall <;> exact htaken.trans hall

theorem passes_fireUntil {fuel : Nat} {raised : Option Raised}
    (hfired : fireUntil behaviour fuel deadline line = some (next, raised)) :
    ∃ calls added, Passes deadline line next calls added := by
  -- one callback for each unit of fuel
  induction fuel generalizing line with
  | zero => cases hfired
  | succ fuel ih =>
      unfold fireUntil at hfired
      split at hfired
      · cases hfired
        exact ⟨[], [], Passes.refl deadline _⟩
      · rename_i item rest hpop
        obtain ⟨added, hone⟩ := passes_fire behaviour hpop
        split at hfired <;> rename_i heq <;> rw [heq] at hone
        · cases hfired
          exact ⟨[item], added, hone⟩
        · obtain ⟨calls, later, hrest⟩ := ih hfired
          exact ⟨[item] ++ calls, added ++ later, hone.trans hrest⟩

/-- When nothing that waits is due, exactly the callbacks that were due have been fired. -/
theorem Passes.mem_calls_iff {calls added : List (Scheduled Callback)}
    (hpasses : Passes deadline line next calls added)
    (hleft : ∀ item ∈ next.clock.heap, deadline < item.dueMs) (item : Scheduled Callback) :
    item ∈ calls ↔ item ∈ line.clock.heap ++ added ∧ item.dueMs ≤ deadline := by
  constructor
  · intro hitem
    exact ⟨hpasses.conserved.subset (List.mem_append_left _ hitem), hpasses.due item hitem⟩
  · rintro ⟨hitem, hdue⟩
    -- what was there is fired or waits, and nothing that waits is due
    rcases List.mem_append.mp (hpasses.conserved.symm.subset hitem) with hfired | hwaits
    · exact hfired
    · exact absurd (hleft item hwaits) (not_lt.mpr hdue)

theorem scheduleAll_nowMs (line : Timeline Callback World) (schedules : List (Int × Callback)) :
    (line.scheduleAll schedules).1.clock.nowMs = line.clock.nowMs := by
  induction schedules generalizing line with
  | nil => rfl
  | cons request rest ih =>
      obtain ⟨delayMs, callback⟩ := request
      have hone : (line.schedule delayMs callback).1.clock.nowMs = line.clock.nowMs := by
        unfold schedule SimulatedClock.schedule
        by_cases hdelay : delayMs < 0
        · rw [if_pos hdelay]
        · rw [if_neg hdelay]
          rfl
      unfold scheduleAll
      split <;> rename_i heq <;> rw [heq] at hone
      · exact hone
      · exact (ih _).trans hone

/-- A callback is called at its own time. -/
theorem fire_nowMs (behaviour : Callback → Int → World → CallbackEffect Callback World)
    {item : Scheduled Callback} {rest : SimulatedClock Callback}
    (hpop : line.clock.pop? deadline = some (item, rest)) :
    (line.fire behaviour item rest).1.clock.nowMs = item.dueMs := by
  obtain ⟨-, rfl, -⟩ := pop?_eq_some hpop
  have hall := scheduleAll_nowMs { line with
      clock := line.clock.drop item
      world := (behaviour item.callback (line.clock.drop item).nowMs line.world).world
      fired := line.fired ++ [item] }
    (behaviour item.callback (line.clock.drop item).nowMs line.world).schedules
  unfold fire
  dsimp only
  split <;> rename_i heq <;> rw [heq] at hall <;> exact hall

/-- The loop does not take the clock past the deadline. -/
theorem nowMs_le_of_fireUntil {fuel : Nat} {raised : Option Raised}
    (hbefore : line.clock.nowMs ≤ deadline)
    (hfired : fireUntil behaviour fuel deadline line = some (next, raised)) :
    next.clock.nowMs ≤ deadline := by
  induction fuel generalizing line with
  | zero => cases hfired
  | succ fuel ih =>
      unfold fireUntil at hfired
      split at hfired
      · cases hfired
        exact hbefore
      · rename_i item rest hpop
        have hnow := fire_nowMs behaviour hpop
        have hdue := (pop?_eq_some hpop).2.2
        split at hfired <;> rename_i heq <;> rw [heq] at hnow
        · cases hfired
          exact hnow.trans_le hdue
        · exact ih (hnow.trans_le hdue) hfired

/-- More fuel changes nothing. -/
theorem fireUntil_mono {fuel : Nat} (more : Nat)
    {outcome : Timeline Callback World × Option Raised}
    (hfired : fireUntil behaviour fuel deadline line = some outcome) :
    fireUntil behaviour (fuel + more) deadline line = some outcome := by
  induction fuel generalizing line with
  | zero => cases hfired
  | succ fuel ih =>
      rw [Nat.succ_add]
      unfold fireUntil at hfired ⊢
      split at hfired
      · exact hfired
      · split at hfired
        · exact hfired
        · exact ih hfired

/-- The loop until a later deadline first does what the loop until the earlier one does. -/
theorem fireUntil_trans {fuel more : Nat} {later : Int} (hle : deadline ≤ later)
    {outcome : Timeline Callback World × Option Raised}
    (hfirst : fireUntil behaviour fuel deadline line = some (next, none))
    (hsecond : fireUntil behaviour more later next = some outcome) :
    fireUntil behaviour (fuel + more) later line = some outcome := by
  induction fuel generalizing line with
  | zero => cases hfirst
  | succ fuel ih =>
      unfold fireUntil at hfirst
      split at hfirst
      · cases hfirst
        rw [Nat.add_comm]
        exact fireUntil_mono _ hsecond
      · rename_i item rest hpop
        rw [Nat.succ_add]
        unfold fireUntil
        -- what is due at the deadline is due later too, and comes first
        rw [pop?_later hle hpop]
        dsimp only
        split at hfirst
        · cases hfirst
        · exact ih hfirst

theorem fireUntil_raised {fuel : Nat} {later : Int} {raised : Raised}
    (hle : deadline ≤ later)
    (hfirst : fireUntil behaviour fuel deadline line = some (next, some raised)) :
    fireUntil behaviour fuel later line = some (next, some raised) := by
  induction fuel generalizing line with
  | zero => cases hfirst
  | succ fuel ih =>
      unfold fireUntil at hfirst ⊢
      split at hfirst
      · cases hfirst
      · rename_i item rest hpop
        rw [pop?_later hle hpop]
        dsimp only
        split at hfirst
        · exact hfirst
        · exact ih hfirst

/-- A loop that ends can be stopped at any earlier deadline and resumed there. -/
theorem fireUntil_split {fuel : Nat} {later : Int}
    {outcome : Timeline Callback World × Option Raised} (deadline : Int)
    (hfired : fireUntil behaviour fuel later line = some outcome) (hle : deadline ≤ later) :
    (∃ middle, fireUntil behaviour fuel deadline line = some (middle, none) ∧
        fireUntil behaviour fuel later middle = some outcome) ∨
      ∃ raised, outcome.2 = some raised ∧
        fireUntil behaviour fuel deadline line = some outcome := by
  induction fuel generalizing line with
  | zero => cases hfired
  | succ fuel ih =>
      -- the first callback that is not due at the deadline is where the loop stops
      cases hpop : line.clock.pop? deadline with
      | none =>
          refine Or.inl ⟨line, ?_, hfired⟩
          unfold fireUntil
          rw [hpop]
      | some taken =>
          obtain ⟨item, rest⟩ := taken
          unfold fireUntil at hfired ⊢
          rw [pop?_later hle hpop] at hfired
          rw [hpop]
          dsimp only at hfired ⊢
          split at hfired <;> rename_i heq
          · rename_i raised
            refine Or.inr ⟨raised, ?_, hfired⟩
            rw [← Option.some.inj hfired]
          · rcases ih hfired with ⟨middle, hfirst, hsecond⟩ | ⟨raised, hraised, hfirst⟩
            · exact Or.inl ⟨middle, hfirst, fireUntil_mono 1 hsecond⟩
            · exact Or.inr ⟨raised, hraised, hfirst⟩

/-- Where the clock stood before the loop is forgotten in the end. -/
theorem advanceTo_setNow (fuel : Nat) (nowMs : Int) :
    advanceTo behaviour fuel deadline (line.setNow nowMs) =
      advanceTo behaviour fuel deadline line := by
  unfold advanceTo
  cases fuel with
  | zero => rfl
  | succ fuel =>
      unfold fireUntil
      have hpop : (line.setNow nowMs).clock.pop? deadline = line.clock.pop? deadline := rfl
      rw [hpop]
      split <;> rfl

theorem advance_of_nonneg (line : Timeline Callback World) {milliseconds : Int}
    (hnonneg : 0 ≤ milliseconds) {fuel : Nat} :
    line.advance behaviour fuel milliseconds =
      advanceTo behaviour fuel (line.clock.nowMs + milliseconds) line :=
  if_neg (not_lt.mpr hnonneg)

theorem nowMs_of_advanceTo {fuel : Nat} {target : Int}
    (harrived : advanceTo behaviour fuel target line = some (next, none)) :
    next.clock.nowMs = target := by
  obtain ⟨⟨stopped, raised⟩, -, hstopped⟩ := Option.map_eq_some_iff.mp harrived
  cases raised with
  | none =>
      cases hstopped
      rfl
  | some exception => cases hstopped

/-- The way to a target can be interrupted at any time before it. -/
theorem advanceTo_trans {early late : Int} (hle : early ≤ late)
    {outcome : Timeline Callback World × Option Raised} :
    (∃ fuel, advanceTo behaviour fuel late line = some outcome) ↔
      (∃ fuel middle, advanceTo behaviour fuel early line = some (middle, none) ∧
        advanceTo behaviour fuel late middle = some outcome) ∨
      ∃ fuel raised, outcome.2 = some raised ∧
        advanceTo behaviour fuel early line = some outcome := by
  constructor
  · rintro ⟨fuel, harrived⟩
    obtain ⟨ended, hfired, rfl⟩ := Option.map_eq_some_iff.mp harrived
    rcases fireUntil_split _ hfired hle with
      ⟨middle, hbefore, hafter⟩ | ⟨raised, hraised, hbefore⟩
    · refine Or.inl ⟨fuel, middle.setNow early, Option.map_eq_some_iff.mpr ⟨_, hbefore, rfl⟩, ?_⟩
      rw [advanceTo_setNow]
      exact Option.map_eq_some_iff.mpr ⟨ended, hafter, rfl⟩
    · obtain ⟨stopped, result⟩ := ended
      obtain rfl := hraised
      exact Or.inr ⟨fuel, raised, rfl, Option.map_eq_some_iff.mpr ⟨_, hbefore, rfl⟩⟩
  · rintro (⟨fuel, middle, hbefore, hafter⟩ | ⟨fuel, raised, hraised, hbefore⟩)
    · obtain ⟨⟨stopped, ended⟩, hfired, hmiddle⟩ := Option.map_eq_some_iff.mp hbefore
      cases ended with
      | some exception => cases hmiddle
      | none =>
          cases hmiddle
          rw [advanceTo_setNow] at hafter
          obtain ⟨ended, hlate, harrives⟩ := Option.map_eq_some_iff.mp hafter
          exact ⟨fuel + fuel, Option.map_eq_some_iff.mpr
            ⟨ended, fireUntil_trans hle hfired hlate, harrives⟩⟩
    · obtain ⟨⟨stopped, ended⟩, hfired, rfl⟩ := Option.map_eq_some_iff.mp hbefore
      cases ended with
      | none => cases hraised
      | some exception =>
          exact ⟨fuel, Option.map_eq_some_iff.mpr ⟨_, fireUntil_raised hle hfired, rfl⟩⟩

/-! ## Termination -/

/-- No callback schedules another one for the time at which it is called. -/
def SchedulesLater (behaviour : Callback → Int → World → CallbackEffect Callback World) : Prop :=
  ∀ callback nowMs world, ∀ request ∈ (behaviour callback nowMs world).schedules, 0 < request.1

/-- What scheduling adds to the heap. -/
theorem scheduleAll_heap (line : Timeline Callback World) (schedules : List (Int × Callback))
    (hlater : ∀ request ∈ schedules, 0 < request.1) :
    ∃ added : List (Scheduled Callback),
      (line.scheduleAll schedules).1.clock.heap.Perm (line.clock.heap ++ added) ∧
        ∀ item ∈ added, line.clock.nowMs < item.dueMs := by
  induction schedules generalizing line with
  | nil => exact ⟨[], by rw [List.append_nil]; rfl, fun _ hitem => absurd hitem List.not_mem_nil⟩
  | cons request rest ih =>
      obtain ⟨delayMs, callback⟩ := request
      obtain ⟨hdelay, hrest⟩ := List.forall_mem_cons.mp hlater
      have hpush : line.schedule delayMs callback = ({ line with
          clock := line.clock.push delayMs callback
          scheduled := line.scheduled ++ [line.clock.number delayMs callback] }, none) := by
        unfold schedule SimulatedClock.schedule
        rw [if_neg (not_lt.mpr hdelay.le)]
      unfold scheduleAll
      rw [hpush]
      obtain ⟨added, hperm, hadded⟩ := ih { line with
          clock := line.clock.push delayMs callback
          scheduled := line.scheduled ++ [line.clock.number delayMs callback] } hrest
      refine ⟨line.clock.number delayMs callback :: added, ?_, ?_⟩
      · refine hperm.trans (((PriorityQueue.perm_put ..).append_right added).trans ?_)
        exact List.perm_middle.symm
      · refine List.forall_mem_cons.mpr ⟨?_, hadded⟩
        exact Int.lt_add_of_pos_right _ hdelay

/-- How far before the deadline the waiting callbacks are. -/
def leads (deadline : Int) (heap : List (Scheduled Callback)) : Multiset Nat :=
  ((heap.filter (·.dueMs ≤ deadline)).map fun item => (deadline - item.dueMs).toNat : List Nat)

theorem leads_append (first second : List (Scheduled Callback)) :
    leads deadline (first ++ second) = leads deadline first + leads deadline second := by
  unfold leads
  rw [List.filter_append, List.map_append, Multiset.coe_add]

theorem leads_perm {first second : List (Scheduled Callback)} (hperm : first.Perm second) :
    leads deadline first = leads deadline second :=
  Multiset.coe_eq_coe.mpr ((hperm.filter _).map _)

/-- A callback that schedules into the future only is replaced by nearer ones. -/
theorem leads_fire_lt
    (hfuture : SchedulesLater behaviour) {item : Scheduled Callback}
    {rest : SimulatedClock Callback}
    (hpop : line.clock.pop? deadline = some (item, rest)) :
    Multiset.IsDershowitzMannaLT
      (leads deadline (line.fire behaviour item rest).1.clock.heap)
      (leads deadline line.clock.heap) := by
  obtain ⟨hheap, rfl, hdue⟩ := pop?_eq_some hpop
  obtain ⟨added, hperm, hadded⟩ := scheduleAll_heap { line with
      clock := line.clock.drop item
      world := (behaviour item.callback (line.clock.drop item).nowMs line.world).world
      fired := line.fired ++ [item] } _
    (hfuture item.callback (line.clock.drop item).nowMs line.world)
  have hfire : (line.fire behaviour item (line.clock.drop item)).1.clock.heap.Perm
      ((line.clock.drop item).heap ++ added) := by
    unfold fire
    dsimp only
    split <;> rename_i heq <;> rw [heq] at hperm <;> exact hperm
  refine ⟨leads deadline (line.clock.drop item).heap, leads deadline added,
    {(deadline - item.dueMs).toNat}, Multiset.singleton_ne_zero _, ?_, ?_, ?_⟩
  · rw [leads_perm hfire, leads_append]
  · have hone : leads deadline [item] = {(deadline - item.dueMs).toNat} := by
      have hkept : [item].filter (fun other => decide (other.dueMs ≤ deadline)) = [item] :=
        List.filter_cons_of_pos (decide_eq_true hdue)
      unfold leads
      rw [hkept]
      rfl
    rw [hheap, ← List.singleton_append, leads_append, hone, add_comm]
  · intro lead hlead
    refine ⟨_, Multiset.mem_singleton_self _, ?_⟩
    unfold leads at hlead
    obtain ⟨other, hother, rfl⟩ := List.mem_map.mp (Multiset.mem_coe.mp hlead)
    obtain ⟨hmem, hbefore⟩ := List.mem_filter.mp hother
    have hlt : item.dueMs < other.dueMs := hadded other hmem
    have hle : other.dueMs ≤ deadline := of_decide_eq_true hbefore
    omega

/-- The loop ends when callbacks schedule into the future only. -/
theorem fireUntil_returns
    (hfuture : SchedulesLater behaviour) (deadline : Int) (line : Timeline Callback World) :
    ∃ fuel outcome, fireUntil behaviour fuel deadline line = some outcome := by
  -- the leads of the callbacks that are due decrease in the multiset order
  have hwf := InvImage.wf (fun line : Timeline Callback World => leads deadline line.clock.heap)
    (Multiset.wellFounded_isDershowitzMannaLT (α := Nat))
  induction line using hwf.induction with
  | _ line ih =>
      cases hpop : line.clock.pop? deadline with
      | none =>
          refine ⟨1, (line, none), ?_⟩
          unfold fireUntil
          rw [hpop]
      | some taken =>
          obtain ⟨item, rest⟩ := taken
          have hless := leads_fire_lt hfuture hpop
          cases hfire : line.fire behaviour item rest with
          | mk next raised =>
              rw [hfire] at hless
              cases raised with
              | some exception =>
                  refine ⟨1, (next, some exception), ?_⟩
                  unfold fireUntil
                  rw [hpop]
                  dsimp only
                  rw [hfire]
              | none =>
                  obtain ⟨fuel, outcome, hrest⟩ := ih next hless
                  refine ⟨fuel + 1, outcome, ?_⟩
                  unfold fireUntil
                  rw [hpop]
                  dsimp only
                  rw [hfire]
                  exact hrest

/-! ## Whole runs -/

/-- The calls on a clock. -/
inductive ClockCall (Callback : Type) where
  | schedule (delayMs : Int) (callback : Callback)
  | advance (milliseconds : Int)
  | runUntilIdle (maxMs : Int)
deriving DecidableEq, Repr

variable (behaviour) in
/-- One call; the caller goes on after an exception. -/
def call (fuel : Nat) (line : Timeline Callback World) :
    ClockCall Callback → Option (Timeline Callback World)
  | .schedule delayMs callback => some (line.schedule delayMs callback).1
  | .advance milliseconds => (line.advance behaviour fuel milliseconds).map (·.1)
  | .runUntilIdle maxMs => (line.runUntilIdle behaviour fuel maxMs).map (·.1)

variable (behaviour) in
def run (fuel : Nat) (line : Timeline Callback World) (calls : List (ClockCall Callback)) :
    Option (Timeline Callback World) :=
  calls.foldlM (fun line => line.call behaviour fuel) line

theorem Orderly.advance (horderly : line.Orderly) {fuel : Nat} {milliseconds : Int}
    {raised : Option Raised}
    (hadvanced : line.advance behaviour fuel milliseconds = some (next, raised)) :
    next.Orderly := by
  unfold Timeline.advance at hadvanced
  split at hadvanced
  · cases hadvanced
    exact horderly
  · rename_i hnonneg
    obtain ⟨⟨stopped, ended⟩, hfired, harrived⟩ := Option.map_eq_some_iff.mp hadvanced
    have hstopped := horderly.fireUntil hfired
    cases ended with
    | some exception =>
        cases harrived
        exact hstopped
    | none =>
        cases harrived
        have hforward := nowMs_le_of_fireUntil
          (Int.le_add_of_nonneg_right (not_lt.mp hnonneg)) hfired
        exact hstopped.setNow hforward fun item hitem => (left_of_fireUntil hfired item hitem).le

theorem Orderly.runUntilIdle (horderly : line.Orderly) {fuel : Nat} {maxMs : Int}
    {elapsed : Except Raised Int}
    (hidle : line.runUntilIdle behaviour fuel maxMs = some (next, elapsed)) :
    next.Orderly := by
  unfold Timeline.runUntilIdle at hidle
  split at hidle
  · cases hidle
    exact horderly
  · obtain ⟨⟨stopped, ended⟩, hfired, hresult⟩ := Option.map_eq_some_iff.mp hidle
    have hstopped := horderly.fireUntil hfired
    cases ended <;> cases hresult <;> exact hstopped

theorem Orderly.call (horderly : line.Orderly) {fuel : Nat} {issued : ClockCall Callback}
    (hcall : line.call behaviour fuel issued = some next) : next.Orderly := by
  cases issued with
  | schedule delayMs callback =>
      cases hcall
      exact horderly.schedule delayMs callback
  | advance milliseconds =>
      obtain ⟨outcome, hadvanced, rfl⟩ := Option.map_eq_some_iff.mp hcall
      exact horderly.advance hadvanced
  | runUntilIdle maxMs =>
      obtain ⟨outcome, hidle, rfl⟩ := Option.map_eq_some_iff.mp hcall
      exact horderly.runUntilIdle hidle

theorem Orderly.run (horderly : line.Orderly) {fuel : Nat} {calls : List (ClockCall Callback)}
    (hrun : line.run behaviour fuel calls = some next) : next.Orderly := by
  induction calls generalizing line with
  | nil =>
      cases hrun
      exact horderly
  | cons issued rest ih =>
      unfold Timeline.run at hrun
      rw [List.foldlM_cons] at hrun
      obtain ⟨middle, hcall, hrest⟩ := Option.bind_eq_some_iff.mp hrun
      exact ih (horderly.call hcall) hrest

/-- Through any calls on a new clock, and whatever the callbacks do, every callback that
was scheduled either was fired once or waits, the fired ones in the order of their times
and, at one time, of their numbers, and before everything that waits. -/
theorem callbacks_in_order (behaviour : Callback → Int → World → CallbackEffect Callback World)
    (startMs : Int) (world : World) (fuel : Nat) (calls : List (ClockCall Callback))
    {reached : Timeline Callback World}
    (hrun : (start startMs world).run behaviour fuel calls = some reached) :
    reached.Orderly :=
  (orderly_start startMs world).run hrun

/-- A callback that counts, and comes back after its own number of milliseconds; the
callback 0 comes only once. -/
def periodic (callback : Nat) (_nowMs : Int) (count : Nat) : CallbackEffect Nat Nat :=
  ⟨count + 1, if callback = 0 then [] else [(callback, callback)], none⟩

/-- A period of five milliseconds, and a callback at ten that was scheduled first. -/
theorem callbacks_in_order_periodic :
    ∃ reached : Timeline Nat Nat,
      (start 0 0).run periodic 9 [.schedule 10 0, .schedule 5 5, .advance 12] = some reached ∧
        reached.fired.map (·.callback) = [5, 0, 5] ∧ reached.Orderly := by
  refine ⟨_, rfl, rfl, ?_⟩
  exact callbacks_in_order periodic 0 0 9 [.schedule 10 0, .schedule 5 5, .advance 12] rfl

/-- Advancing by two times, one after the other, is advancing by their sum, whatever the
callbacks schedule: one returns when the other does, in the same state, and raises what
the other raises at the same place. -/
theorem advance_add (behaviour : Callback → Int → World → CallbackEffect Callback World)
    (line : Timeline Callback World) {first second : Int} (hfirst : 0 ≤ first)
    (hsecond : 0 ≤ second) (outcome : Timeline Callback World × Option Raised) :
    (∃ fuel, line.advance behaviour fuel (first + second) = some outcome) ↔
      (∃ fuel middle, line.advance behaviour fuel first = some (middle, none) ∧
        middle.advance behaviour fuel second = some outcome) ∨
      ∃ fuel raised, outcome.2 = some raised ∧
        line.advance behaviour fuel first = some outcome := by
  have hle : line.clock.nowMs + first ≤ line.clock.nowMs + (first + second) := by omega
  simp only [advance_of_nonneg _ hfirst, advance_of_nonneg _ hsecond,
    advance_of_nonneg _ (Int.add_nonneg hfirst hsecond)]
  rw [advanceTo_trans hle]
  refine or_congr (exists₂_congr fun fuel middle => and_congr_right fun hmiddle => ?_) Iff.rfl
  rw [nowMs_of_advanceTo hmiddle, Int.add_assoc]

theorem advance_add_periodic :
    ∃ outcome fuel, ((start 0 0).schedule 5 5).1.advance periodic fuel (7 + 8) = some outcome ∧
      outcome.1.world = 3 := by
  have hparts := advance_add periodic ((start 0 0).schedule 5 5).1 (show (0 : Int) ≤ 7 by decide)
    (show (0 : Int) ≤ 8 by decide)
  obtain ⟨fuel, hadvanced⟩ := (hparts _).mpr (Or.inl ⟨9, _, rfl, rfl⟩)
  exact ⟨_, fuel, hadvanced, rfl⟩

/-- A loop with nothing to fire ends where it is. -/
theorem fireUntil_of_left (hleft : ∀ item ∈ line.clock.heap, deadline < item.dueMs)
    {fuel : Nat} (hfuel : fuel ≠ 0) :
    fireUntil behaviour fuel deadline line = some (line, none) := by
  obtain ⟨fuel, rfl⟩ := Nat.exists_eq_succ_of_ne_zero hfuel
  unfold fireUntil
  rw [pop?_eq_none_iff.mpr hleft]

/-- Running until nothing is left, and then letting the rest of the time pass, is
advancing by the whole time. -/
theorem runUntilIdle_advance
    (behaviour : Callback → Int → World → CallbackEffect Callback World)
    (line : Timeline Callback World) {maxMs : Int} (hmax : 0 ≤ maxMs)
    (outcome : Timeline Callback World × Option Raised) :
    (∃ fuel, line.advance behaviour fuel maxMs = some outcome) ↔
      (∃ fuel middle elapsed,
        line.runUntilIdle behaviour fuel maxMs = some (middle, .ok elapsed) ∧
        middle.advance behaviour fuel (maxMs - elapsed) = some outcome) ∨
      ∃ fuel raised, outcome.2 = some raised ∧
        line.runUntilIdle behaviour fuel maxMs = some (outcome.1, .error raised) := by
  by_cases hempty : line.clock.heap = []
  · simp only [runUntilIdle, if_pos hempty, Option.some.injEq, Prod.mk.injEq, Except.ok.injEq,
      exists_and_left, reduceCtorEq, and_false, exists_false, or_false, and_assoc,
      exists_eq_left', Int.sub_zero]
  · have htarget : ∀ stopped : Timeline Callback World,
        stopped.clock.nowMs + (maxMs - (stopped.clock.nowMs - line.clock.nowMs)) =
          line.clock.nowMs + maxMs := fun stopped => by omega
    -- what is left when the loop ends is not due for the rest of the time
    have hrest : ∀ {fuel stopped}, fireUntil behaviour fuel (line.clock.nowMs + maxMs) line =
        some (stopped, none) → stopped.advance behaviour fuel
          (maxMs - (stopped.clock.nowMs - line.clock.nowMs)) =
            some (stopped.setNow (line.clock.nowMs + maxMs), none) := by
      intro fuel stopped hfired
      have hle := nowMs_le_of_fireUntil (Int.le_add_of_nonneg_right hmax) hfired
      have hfuel : fuel ≠ 0 := by
        rintro rfl
        cases hfired
      rw [advance_of_nonneg _ (by omega), htarget]
      unfold advanceTo
      rw [fireUntil_of_left (left_of_fireUntil hfired) hfuel]
      rfl
    unfold runUntilIdle
    simp only [advance_of_nonneg line hmax, if_neg hempty, advanceTo, Option.map_eq_some_iff]
    constructor
    · rintro ⟨fuel, ⟨stopped, raised⟩, hfired, rfl⟩
      cases raised with
      | none => exact Or.inl ⟨fuel, stopped, _, ⟨_, hfired, rfl⟩, hrest hfired⟩
      | some exception => exact Or.inr ⟨fuel, exception, rfl, _, hfired, rfl⟩
    · rintro (⟨fuel, middle, elapsed, ⟨⟨stopped, raised⟩, hfired, hresult⟩, hadvanced⟩ |
        ⟨fuel, exception, hraised, ⟨stopped, raised⟩, hfired, hresult⟩)
      · cases raised with
        | some exception => cases hresult
        | none =>
            cases hresult
            rw [hrest hfired] at hadvanced
            exact ⟨fuel, _, hfired, Option.some.inj hadvanced⟩
      · cases raised with
        | none => cases hresult
        | some raisedIn =>
            obtain ⟨ended, result⟩ := outcome
            cases hresult
            obtain rfl := hraised
            exact ⟨fuel, _, hfired, rfl⟩

theorem runUntilIdle_advance_once :
    ∃ outcome fuel, ((start 0 0).schedule 5 0).1.advance periodic fuel 20 = some outcome ∧
      outcome.1.clock.nowMs = 20 := by
  have hparts := runUntilIdle_advance periodic ((start 0 0).schedule 5 0).1
    (show (0 : Int) ≤ 20 by decide)
  obtain ⟨fuel, hadvanced⟩ := (hparts _).mpr (Or.inl ⟨9, _, _, rfl, rfl⟩)
  exact ⟨_, fuel, hadvanced, rfl⟩

/-- When callbacks schedule into the future only, advancing returns; without an exception
the clock stands at the target, and of the callbacks that waited or were scheduled
meanwhile exactly the ones that were due have been fired. -/
theorem advance_returns
    (behaviour : Callback → Int → World → CallbackEffect Callback World)
    (hfuture : SchedulesLater behaviour) (line : Timeline Callback World) (milliseconds : Int) :
    ∃ fuel stopped raised,
      line.advance behaviour fuel milliseconds = some (stopped, raised) ∧
        (raised = none → stopped.clock.nowMs = line.clock.nowMs + milliseconds ∧
          ∃ calls added, stopped.fired = line.fired ++ calls ∧
            stopped.scheduled = line.scheduled ++ added ∧
            ∀ item, item ∈ calls ↔ item ∈ line.clock.heap ++ added ∧
              item.dueMs ≤ line.clock.nowMs + milliseconds) := by
  by_cases hnegative : milliseconds < 0
  · exact ⟨0, line, _, if_pos hnegative, fun hraised => absurd hraised (Option.some_ne_none _)⟩
  · obtain ⟨fuel, ⟨stopped, raised⟩, hfired⟩ :=
      fireUntil_returns hfuture (line.clock.nowMs + milliseconds) line
    have hadvanced : line.advance behaviour fuel milliseconds =
        some (arrive (line.clock.nowMs + milliseconds) (stopped, raised)) := by
      rw [advance_of_nonneg line (not_lt.mp hnegative)]
      exact Option.map_eq_some_iff.mpr ⟨_, hfired, rfl⟩
    cases raised with
    | none =>
        obtain ⟨calls, added, hpasses⟩ := passes_fireUntil hfired
        refine ⟨fuel, _, none, hadvanced, fun _ => ⟨rfl, calls, added, ?_⟩⟩
        exact ⟨hpasses.fired, hpasses.scheduled, hpasses.mem_calls_iff (left_of_fireUntil hfired)⟩
    | some exception =>
        exact ⟨fuel, _, some exception, hadvanced, fun hraised =>
          absurd hraised (Option.some_ne_none _)⟩

/-- A period of five milliseconds in twenty. -/
theorem advance_returns_periodic :
    ∃ fuel stopped raised,
      ((start 0 0).schedule 5 5).1.advance periodic fuel 20 = some (stopped, raised) ∧
        (raised = none → stopped.clock.nowMs = 0 + 20 ∧
          ∃ calls added, stopped.fired = [] ++ calls ∧
            stopped.scheduled = [⟨5, 1, 5⟩] ++ added ∧
            ∀ item, item ∈ calls ↔ item ∈ [⟨5, 1, 5⟩] ++ added ∧ item.dueMs ≤ (0 : Int) + 20) := by
  refine advance_returns periodic ?_ ((start 0 0).schedule 5 5).1 20
  intro callback nowMs world request hrequest
  unfold periodic at hrequest
  split at hrequest
  · exact absurd hrequest List.not_mem_nil
  · rw [List.mem_singleton.mp hrequest]
    change (0 : Int) < (callback : Int)
    omega

end

end Timeline

end Simulator
end Intelipump
