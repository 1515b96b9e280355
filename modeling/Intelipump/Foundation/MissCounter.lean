import Mathlib.Data.List.DropRight
import Mathlib.Tactic.Common

namespace Intelipump
namespace Foundation
namespace MissCounter

/-!
# Alarms after consecutive misses

A watch counts misses and gives its alarm from a limit on; some entries clear the
count.  When every alarm is to follow that many quiet entries, an entry that is
neither quiet nor clears the count is harmless only while the count is zero.
-/

variable {α : Type*} {Quiet : α → Prop}

/-- The last entries, that many of them, all have the property. -/
def Streak (Quiet : α → Prop) (count : Nat) (history : List α) : Prop :=
  count ≤ history.length ∧ ∀ entry ∈ history.rtake count, Quiet entry

instance [DecidablePred Quiet] (count : Nat) (history : List α) :
    Decidable (Streak Quiet count history) :=
  inferInstanceAs (Decidable (_ ∧ _))

theorem streak_zero (history : List α) : Streak Quiet 0 history := by
  refine ⟨Nat.zero_le _, fun entry hentry => ?_⟩
  rw [List.rtake_zero] at hentry
  exact absurd hentry List.not_mem_nil

theorem streak_concat_succ {count : Nat} {history : List α} {entry : α} :
    Streak Quiet (count + 1) (history ++ [entry]) ↔
      Streak Quiet count history ∧ Quiet entry := by
  unfold Streak
  rw [List.rtake_concat_succ, List.length_append, List.length_singleton,
    Nat.add_le_add_iff_right, List.forall_mem_append, and_assoc]
  simp only [List.mem_singleton, forall_eq]

theorem Streak.mono {count fewer : Nat} {history : List α}
    (hstreak : Streak Quiet count history) (hfewer : fewer ≤ count) :
    Streak Quiet fewer history := by
  refine ⟨hfewer.trans hstreak.1, fun entry hentry => hstreak.2 entry ?_⟩
  exact (List.drop_sublist_drop_left _ (Nat.sub_le_sub_left hfewer _)).mem hentry

/-- A streak that reaches back behind the last entries. -/
theorem Streak.of_append {count : Nat} {history later : List α}
    (hstreak : Streak Quiet (count + later.length) (history ++ later)) :
    Streak Quiet count history := by
  induction later using List.reverseRecOn with
  | nil => rwa [List.append_nil] at hstreak
  | append_singleton later last ih =>
      rw [List.length_append, List.length_singleton, ← Nat.add_assoc, ← List.append_assoc,
        streak_concat_succ] at hstreak
      exact ih hstreak.1

/-- An entry that is not quiet ends every streak. -/
theorem streak_concat_of_not {count : Nat} {history : List α} {entry : α}
    (hloud : ¬ Quiet entry) : Streak Quiet count (history ++ [entry]) ↔ count = 0 := by
  cases count with
  | zero => exact iff_of_true (streak_zero _) rfl
  | succ count =>
      rw [streak_concat_succ]
      exact iff_of_false (fun h => hloud h.2) (Nat.succ_ne_zero count)

/-! ## The watch -/

/-- An entry, and whether the watch gave its alarm with it. -/
structure Seen (α : Type*) where
  entry : α
  alarmed : Bool := false
deriving DecidableEq, Repr

structure Watch (α : Type*) where
  count : Nat := 0
  history : List (Seen α) := []

/-- What an entry does to the count. -/
inductive Sight (α : Type*) where
  | missed (entry : α) | passed (entry : α) | cleared (entry : α)

def Watch.see (limit : Nat) (watch : Watch α) : Sight α → Watch α
  | .missed entry =>
      { count := watch.count + 1
        history := watch.history ++ [⟨entry, decide (limit ≤ watch.count + 1)⟩] }
  | .passed entry => { watch with history := watch.history ++ [⟨entry, false⟩] }
  | .cleared entry => { count := 0, history := watch.history ++ [⟨entry, false⟩] }

/-- The same entry is missed again and again. -/
def Watch.misses (limit : Nat) (entry : α) : Nat → Watch α → Watch α
  | 0, watch => watch
  | number + 1, watch => (watch.misses limit entry number).see limit (.missed entry)

/-- Every alarm follows that many quiet entries, its own one among them. -/
def AlarmsLate (Quiet : α → Prop) (limit : Nat) (history : List (Seen α)) : Prop :=
  ∀ earlier, earlier <+: history → (∃ last ∈ earlier.getLast?, last.alarmed = true) →
    Streak (fun seen => Quiet seen.entry) limit earlier

variable {limit : Nat} {watch : Watch α} {entry : α}

theorem AlarmsLate.before {history earlier : List (Seen α)}
    (hlate : AlarmsLate Quiet limit history) (hearlier : earlier <+: history) :
    AlarmsLate Quiet limit earlier :=
  fun first hfirst => hlate first (hfirst.trans hearlier)

theorem alarmsLate_concat {history : List (Seen α)} {seen : Seen α} :
    AlarmsLate Quiet limit (history ++ [seen]) ↔
      AlarmsLate Quiet limit history ∧
        (seen.alarmed = true →
          Streak (fun seen => Quiet seen.entry) limit (history ++ [seen])) := by
  have hlast : (history ++ [seen]).getLast? = some seen := List.getLast?_concat
  constructor
  · intro hlate
    refine ⟨hlate.before (List.prefix_append _ _), fun halarmed => ?_⟩
    exact hlate _ List.prefix_rfl ⟨seen, hlast, halarmed⟩
  · rintro ⟨hlate, hstreak⟩ earlier hearlier ⟨last, hmember, halarmed⟩
    rcases List.prefix_concat_iff.mp hearlier with rfl | hbefore
    · rw [hlast] at hmember
      obtain rfl := Option.some.inj hmember
      exact hstreak halarmed
    · exact hlate earlier hbefore ⟨last, hmember, halarmed⟩

/-- The alarms came late, and the next one will when only misses follow. -/
structure Watch.Safe (Quiet : α → Prop) (limit : Nat) (watch : Watch α) : Prop where
  late : AlarmsLate Quiet limit watch.history
  streak : Streak (fun seen => Quiet seen.entry) (min watch.count (limit - 1)) watch.history

theorem Watch.safe_start : ({} : Watch α).Safe Quiet limit := by
  refine ⟨fun earlier hearlier hlast => ?_, ?_⟩
  · obtain ⟨last, hmember, -⟩ := hlast
    rw [List.prefix_nil.mp hearlier] at hmember
    exact absurd hmember (Option.not_mem_none last)
  · rw [Nat.zero_min]
    exact streak_zero _

theorem Watch.Safe.missed (hsafe : watch.Safe Quiet limit) (hquiet : Quiet entry) :
    (watch.see limit (.missed entry)).Safe Quiet limit := by
  have hlonger : ∀ alarmed, Streak (fun seen => Quiet seen.entry)
      (min watch.count (limit - 1) + 1) (watch.history ++ [⟨entry, alarmed⟩]) :=
    fun alarmed => streak_concat_succ.mpr ⟨hsafe.streak, hquiet⟩
  refine ⟨alarmsLate_concat.mpr ⟨hsafe.late, fun halarmed => ?_⟩, ?_⟩
  · have hlimit : limit ≤ watch.count + 1 := of_decide_eq_true halarmed
    exact (hlonger _).mono (by omega)
  · exact (hlonger _).mono (by dsimp only [Watch.see]; omega)

theorem Watch.Safe.cleared (hsafe : watch.Safe Quiet limit) :
    (watch.see limit (.cleared entry)).Safe Quiet limit := by
  refine ⟨alarmsLate_concat.mpr ⟨hsafe.late, Bool.noConfusion⟩, ?_⟩
  dsimp only [Watch.see]
  rw [Nat.zero_min]
  exact streak_zero _

/-- The rule of an entry that leaves the count. -/
theorem Watch.safe_passed_iff (hsafe : watch.Safe Quiet limit) :
    (watch.see limit (.passed entry)).Safe Quiet limit ↔
      (Quiet entry ∨ watch.count = 0 ∨ limit < 2) := by
  have hlate : AlarmsLate Quiet limit (watch.history ++ [⟨entry, false⟩]) :=
    alarmsLate_concat.mpr ⟨hsafe.late, Bool.noConfusion⟩
  by_cases hquiet : Quiet entry
  · refine iff_of_true ⟨hlate, ?_⟩ (Or.inl hquiet)
    exact (streak_concat_succ.mpr ⟨hsafe.streak, hquiet⟩).mono (Nat.le_succ _)
  · have hstreak : Streak (fun seen => Quiet seen.entry) (min watch.count (limit - 1))
        (watch.history ++ [⟨entry, false⟩]) ↔ min watch.count (limit - 1) = 0 :=
      streak_concat_of_not hquiet
    rw [or_iff_right hquiet]
    constructor
    · intro hnext
      have hzero := hstreak.mp hnext.streak
      omega
    · intro hcount
      exact ⟨hlate, hstreak.mpr (by omega)⟩

/-! ## Silence -/

theorem Watch.count_misses (number : Nat) :
    (watch.misses limit entry number).count = watch.count + number := by
  induction number with
  | zero => rfl
  | succ number ih => exact congrArg (· + 1) ih

theorem Watch.history_misses (watch : Watch α) (limit : Nat) (entry : α) (number : Nat) :
    ∃ later, later.length = number ∧
      (watch.misses limit entry number).history = watch.history ++ later := by
  induction number with
  | zero => exact ⟨[], rfl, (List.append_nil _).symm⟩
  | succ number ih =>
      obtain ⟨later, hlength, hhistory⟩ := ih
      refine ⟨later ++ [⟨entry, decide (limit ≤
        (watch.misses limit entry number).count + 1)⟩], ?_, ?_⟩
      · rw [List.length_append, List.length_singleton, hlength]
      · rw [← List.append_assoc, ← hhistory]
        rfl

theorem Watch.misses_add (number more : Nat) :
    watch.misses limit entry (number + more) =
      (watch.misses limit entry number).misses limit entry more := by
  induction more with
  | zero => rfl
  | succ more ih => exact congrArg (Watch.see limit · (.missed entry)) ih

theorem Watch.Safe.misses (hsafe : watch.Safe Quiet limit) (hquiet : Quiet entry)
    (number : Nat) : (watch.misses limit entry number).Safe Quiet limit := by
  induction number with
  | zero => exact hsafe
  | succ number ih => exact ih.missed hquiet

/-- A watch is safe exactly when its alarms come late in every silence that may follow. -/
theorem Watch.safe_iff_misses (hquiet : Quiet entry) :
    watch.Safe Quiet limit ↔
      ∀ number, AlarmsLate Quiet limit (watch.misses limit entry number).history := by
  constructor
  · exact fun hsafe number => (hsafe.misses hquiet number).late
  · intro hlate
    refine ⟨hlate 0, ?_⟩
    by_cases hlimit : limit = 0
    · rw [hlimit, Nat.zero_sub, Nat.min_zero]
      exact streak_zero _
    · -- the first miss of the silence that gives the alarm
      obtain ⟨number, hnumber⟩ : ∃ number,
          number + 1 + min watch.count (limit - 1) = limit :=
        ⟨limit - 1 - min watch.count (limit - 1), by omega⟩
      have halarm : limit ≤ (watch.misses limit entry number).count + 1 := by
        rw [Watch.count_misses]
        omega
      have hlast : (watch.misses limit entry (number + 1)).history.getLast? =
          some ⟨entry, true⟩ := by
        refine List.getLast?_concat.trans ?_
        rw [decide_eq_true halarm]
      have hstreak := hlate (number + 1) _ List.prefix_rfl ⟨_, hlast, rfl⟩
      obtain ⟨later, hlength, hhistory⟩ := watch.history_misses limit entry (number + 1)
      rw [hhistory] at hstreak
      have hlonger : Streak (fun seen => Quiet seen.entry)
          (min watch.count (limit - 1) + later.length) (watch.history ++ later) := by
        rw [hlength, Nat.add_comm, hnumber]
        exact hstreak
      exact hlonger.of_append

/-- A longer silence begins with the shorter one. -/
theorem Watch.history_misses_prefix {number more : Nat} (hmore : number ≤ more) :
    (watch.misses limit entry number).history <+: (watch.misses limit entry more).history := by
  obtain ⟨rest, rfl⟩ := Nat.exists_eq_add_of_le hmore
  obtain ⟨later, -, hhistory⟩ :=
    (watch.misses limit entry number).history_misses limit entry rest
  rw [Watch.misses_add, hhistory]
  exact List.prefix_append _ _

/-- It is enough to look at silences of several misses at a time. -/
theorem Watch.safe_iff_misses_mul (hquiet : Quiet entry) (stride : Nat) :
    watch.Safe Quiet limit ↔ ∀ number,
      AlarmsLate Quiet limit (watch.misses limit entry (number * (stride + 1))).history := by
  rw [Watch.safe_iff_misses hquiet]
  constructor
  · exact fun hlate number => hlate _
  · intro hlate number
    have hshorter : number ≤ number * (stride + 1) := Nat.le_mul_of_pos_right _ stride.succ_pos
    exact (hlate number).before (Watch.history_misses_prefix hshorter)

end MissCounter
end Foundation
end Intelipump
