import Mathlib.Algebra.GroupWithZero.Nat
import Mathlib.Data.List.MinMax
import Mathlib.Data.List.Nodup
import Mathlib.Data.List.Perm.Basic
import Mathlib.Tactic.Common

namespace Intelipump
namespace Foundation
namespace Tables

/-!
# Tables as lists of rows

A table is the list of its rows in the order of insertion.  `key` is a column
with a uniqueness constraint, or several columns together.
-/

variable {ρ κ : Type*}

/-- `insert … on conflict do nothing`. -/
def insertNew [DecidableEq κ] (key : ρ → κ) (row : ρ) (rows : List ρ) : List ρ :=
  if key row ∈ rows.map key then rows else rows ++ [row]

/-- Write back the row that was selected by its key. -/
def updateBy [DecidableEq κ] (key : ρ → κ) (row : ρ) (rows : List ρ) : List ρ :=
  rows.map fun old => if key old = key row then row else old

/-- `select … order by key desc limit 1`; of rows with one key the first of the
table. -/
def latestBy [LinearOrder κ] (key : ρ → κ) (rows : List ρ) : Option ρ :=
  rows.argmax key

section

variable [DecidableEq κ] {key : ρ → κ} {row old : ρ} {rows : List ρ}

theorem insertNew_of_notMem (hnew : key row ∉ rows.map key) :
    insertNew key row rows = rows ++ [row] :=
  if_neg hnew

theorem insertNew_of_mem (hold : key row ∈ rows.map key) : insertNew key row rows = rows :=
  if_pos hold

theorem insertNew_cases (key : ρ → κ) (row : ρ) (rows : List ρ) :
    insertNew key row rows = rows ∨
      key row ∉ rows.map key ∧ insertNew key row rows = rows ++ [row] := by
  by_cases hold : key row ∈ rows.map key
  · exact Or.inl (insertNew_of_mem hold)
  · exact Or.inr ⟨hold, insertNew_of_notMem hold⟩

/-- A filter that a row fails does not see its insertion. -/
theorem filter_insertNew {p : ρ → Bool} (hrow : p row = false) :
    (insertNew key row rows).filter p = rows.filter p := by
  rcases insertNew_cases key row rows with hsame | ⟨-, hnew⟩
  · rw [hsame]
  · rw [hnew, List.filter_append, List.filter_cons_of_neg (by rw [hrow]; exact Bool.false_ne_true),
      List.filter_nil, List.append_nil]

theorem updateBy_of_notMem (hnew : key row ∉ rows.map key) :
    updateBy key row rows = rows := by
  unfold updateBy
  have hsame : rows.map (fun old => if key old = key row then row else old) =
      rows.map id := by
    refine List.map_congr_left fun other hother => if_neg fun hkey => ?_
    exact hnew (hkey ▸ List.mem_map_of_mem hother)
  rw [hsame, List.map_id]

/-- With unique keys exactly the selected row is written. -/
theorem updateBy_split (hunique : (rows.map key).Nodup) (hold : old ∈ rows)
    (hkey : key row = key old) :
    ∃ before after, rows = before ++ old :: after ∧
      updateBy key row rows = before ++ row :: after := by
  obtain ⟨before, after, rfl⟩ := List.append_of_mem hold
  refine ⟨before, after, rfl, ?_⟩
  rw [List.map_append, List.map_cons, List.nodup_middle, ← List.map_append,
    List.nodup_cons] at hunique
  have hothers : key row ∉ before.map key ∧ key row ∉ after.map key := by
    rw [hkey, ← not_or, ← List.mem_append, ← List.map_append]
    exact hunique.1
  unfold updateBy
  rw [List.map_append, List.map_cons, if_pos hkey.symm]
  have hbefore := updateBy_of_notMem hothers.1
  have hafter := updateBy_of_notMem hothers.2
  unfold updateBy at hbefore hafter
  rw [hbefore, hafter]

/-- A row in the place of another keeps the columns that the two share. -/
theorem map_replaced {γ : Type*} {column : ρ → γ} (hsame : column row = column old)
    (before after : List ρ) :
    (before ++ row :: after).map column = (before ++ old :: after).map column := by
  rw [List.map_append, List.map_append, List.map_cons, List.map_cons, hsame]

theorem forall_mem_replaced {P : ρ → Prop} {before after : List ρ}
    (hrows : ∀ other ∈ before ++ old :: after, P other) (hrow : P row) :
    ∀ other ∈ before ++ row :: after, P other := by
  intro other hother
  rcases List.mem_append.mp hother with hbefore | hrest
  · exact hrows other (List.mem_append_left _ hbefore)
  · rcases List.mem_cons.mp hrest with rfl | hafter
    · exact hrow
    · exact hrows other (List.mem_append_right _ (List.mem_cons_of_mem _ hafter))

/-- A row that enters a selection in the place of one outside of it. -/
theorem filter_replaced {p : ρ → Bool} (hrow : p row = true) (hold : p old = false)
    (before after : List ρ) :
    ((before ++ row :: after).filter p).Perm ((before ++ old :: after).filter p ++ [row]) := by
  rw [List.filter_append, List.filter_append, List.filter_cons, List.filter_cons,
    if_pos hrow, hold, if_neg Bool.false_ne_true]
  exact List.perm_middle.trans (List.perm_append_singleton row _).symm

/-- Writing a row back changes no key. -/
theorem map_key_updateBy (key : ρ → κ) (row : ρ) (rows : List ρ) :
    (updateBy key row rows).map key = rows.map key := by
  unfold updateBy
  rw [List.map_map]
  refine List.map_congr_left fun other _ => ?_
  dsimp only [Function.comp]
  split
  · rename_i hkey
    exact hkey.symm
  · rfl

/-- Looking a row up after a row was written back. -/
theorem find?_updateBy {value : κ} (hold : key row ∈ rows.map key) :
    (updateBy key row rows).find? (key · = value) =
      if key row = value then some row else rows.find? (key · = value) := by
  unfold updateBy
  induction rows with
  | nil => cases hold
  | cons first rest ih =>
      rw [List.map_cons, List.find?_cons, List.find?_cons]
      by_cases hfirst : key first = key row
      · rw [if_pos hfirst, hfirst]
        by_cases hvalue : key row = value
        · simp [hvalue]
        · simp only [hvalue, decide_false, if_false]
          by_cases hrest : key row ∈ rest.map key
          · rw [ih hrest, if_neg hvalue]
          · exact congrArg (List.find? (key · = value)) (updateBy_of_notMem hrest)
      · have hrest : key row ∈ rest.map key := by
          rw [List.map_cons, List.mem_cons] at hold
          exact hold.resolve_left (Ne.symm hfirst)
        rw [if_neg hfirst, ih hrest]
        by_cases hvalue : key row = value
        · simp [hvalue ▸ hfirst, hvalue]
        · simp only [if_neg hvalue]

/-- A filter that a row passes sees its insertion, unless its key was there. -/
theorem filter_insertNew_eq_iff {p : ρ → Bool} (hrow : p row = true) :
    (insertNew key row rows).filter p = rows.filter p ↔ key row ∈ rows.map key := by
  constructor
  · intro hsame
    by_contra hnew
    rw [insertNew_of_notMem hnew, List.filter_append,
      List.filter_cons_of_pos (by exact hrow)] at hsame
    exact List.cons_ne_nil _ _ (List.append_right_eq_self.mp hsame)
  · intro hold
    rw [insertNew_of_mem hold]

theorem key_of_find? {value : κ} (hfound : rows.find? (key · = value) = some row) :
    key row = value := by
  simpa using List.find?_some hfound

theorem find?_eq_none_iff {value : κ} :
    rows.find? (key · = value) = none ↔ value ∉ rows.map key := by
  rw [List.find?_eq_none, List.mem_map]
  simp only [decide_eq_true_eq, not_exists, not_and]

end

/-- A row with a greater key becomes the latest. -/
theorem latestBy_concat [LinearOrder κ] {key : ρ → κ} {row : ρ} {rows : List ρ} :
    latestBy key (rows ++ [row]) =
      match latestBy key rows with
      | none => some row
      | some latest => if key latest < key row then some row else some latest := by
  unfold latestBy
  rw [List.argmax_concat]
  cases rows.argmax key <;> rfl

/-- With the oldest rows of a table every older row is taken, and there are fewer of those
than rows are taken. -/
theorem take_of_pairwise [LinearOrder κ] {time : ρ → κ} {rows : List ρ}
    (hordered : rows.Pairwise (time · < time ·)) {limit : Nat} {row : ρ}
    (hrow : row ∈ rows.take limit) :
    (∀ older ∈ rows, time older < time row → older ∈ rows.take limit) ∧
      rows.countP (fun other => decide (time other < time row)) < limit := by
  induction rows generalizing limit with
  | nil =>
      rw [List.take_nil] at hrow
      exact absurd hrow List.not_mem_nil
  | cons first rest ih =>
      obtain ⟨hfirst, hrest⟩ := List.pairwise_cons.mp hordered
      cases limit with
      | zero => exact absurd hrow List.not_mem_nil
      | succ limit =>
          rw [List.take_succ_cons] at hrow ⊢
          rcases List.mem_cons.mp hrow with rfl | hmem
          · constructor
            · intro older holder hlt
              rcases List.mem_cons.mp holder with rfl | hlater
              · exact absurd hlt (lt_irrefl _)
              · exact absurd hlt (hfirst older hlater).asymm
            · have hnone : (row :: rest).countP
                  (fun other => decide (time other < time row)) = 0 := by
                refine List.countP_eq_zero.mpr fun other hother => ?_
                rw [decide_eq_true_eq]
                rcases List.mem_cons.mp hother with rfl | hlater
                · exact lt_irrefl _
                · exact (hfirst other hlater).asymm
              rw [hnone]
              exact limit.succ_pos
          · obtain ⟨holder, hcount⟩ := ih hrest hmem
            constructor
            · intro older hmem' hlt
              rcases List.mem_cons.mp hmem' with rfl | hlater
              · exact List.mem_cons_self
              · exact List.mem_cons_of_mem _ (holder older hlater hlt)
            · rw [List.countP_cons]
              split <;> omega

/-! ## Dictionaries -/

section

variable [BEq κ] [LawfulBEq κ] [DecidableEq κ]

/-- Writing the value of a key that is there. -/
theorem lookup_replace (entries : List (κ × ρ)) (key other : κ) (value : ρ) :
    (entries.map fun entry => if entry.1 = key then (entry.1, value) else entry).lookup other =
      if other = key then (entries.lookup key).map fun _ => value
      else entries.lookup other := by
  induction entries with
  | nil => split <;> rfl
  | cons entry rest ih =>
      obtain ⟨first, kept⟩ := entry
      rw [List.map_cons]
      by_cases hfirst : first = key
      · subst hfirst
        rw [if_pos rfl, List.lookup_cons, List.lookup_cons, List.lookup_cons, ih]
        by_cases hother : other = first
        · subst hother
          rw [if_pos rfl, if_pos rfl, beq_self_eq_true]
          rfl
        · rw [if_neg hother, if_neg hother, beq_false_of_ne hother]
      · rw [if_neg hfirst, List.lookup_cons, List.lookup_cons, List.lookup_cons, ih]
        by_cases hother : other = key
        · subst hother
          rw [if_pos rfl, if_pos rfl, beq_false_of_ne (Ne.symm hfirst)]
        · rw [if_neg hother, if_neg hother]

/-- A sum over the entries changes by the value that is replaced. -/
theorem sum_replace {entries : List (κ × ρ)} (hkeys : (entries.map Prod.fst).Nodup)
    {key : κ} {old : ρ} (hold : entries.lookup key = some old) (value : ρ) (weight : ρ → Nat) :
    ((entries.map fun entry => if entry.1 = key then (entry.1, value) else entry).map
      fun entry => weight entry.2).sum + weight old =
        (entries.map fun entry => weight entry.2).sum + weight value := by
  induction entries with
  | nil => cases hold
  | cons entry rest ih =>
      obtain ⟨first, kept⟩ := entry
      rw [List.map_cons] at hkeys
      obtain ⟨hnew, hrest⟩ := List.nodup_cons.mp hkeys
      rw [List.lookup_cons] at hold
      simp only [List.map_cons, List.sum_cons]
      by_cases hfirst : first = key
      · subst hfirst
        rw [beq_self_eq_true] at hold
        obtain rfl := Option.some.inj hold
        have hothers : (rest.map fun entry =>
            if entry.1 = first then (entry.1, value) else entry) = rest := by
          refine (List.map_congr_left fun entry hentry => if_neg ?_).trans (List.map_id' rest)
          intro heq
          have hmem : entry.1 ∈ rest.map Prod.fst := List.mem_map_of_mem hentry
          exact hnew (heq ▸ hmem)
        rw [if_pos rfl, hothers]
        dsimp only
        omega
      · rw [beq_false_of_ne (Ne.symm hfirst)] at hold
        have hrest := ih hrest hold
        rw [if_neg hfirst]
        dsimp only
        omega

/-- A value for each of some keys. -/
theorem lookup_map_key (keys : List κ) (value : κ → ρ) (key : κ) :
    (keys.map fun key => (key, value key)).lookup key =
      if key ∈ keys then some (value key) else none := by
  induction keys with
  | nil => rfl
  | cons first rest ih =>
      rw [List.map_cons, List.lookup_cons, ih]
      by_cases hfirst : key = first
      · subst hfirst
        rw [beq_self_eq_true, if_pos List.mem_cons_self]
      · rw [beq_false_of_ne hfirst]
        simp only [List.mem_cons, hfirst, false_or]

end

end Tables
end Foundation
end Intelipump
