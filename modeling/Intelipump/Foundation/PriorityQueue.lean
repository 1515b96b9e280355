import Mathlib.Data.List.Sort
import Mathlib.Tactic.Common

namespace Intelipump
namespace Foundation
namespace PriorityQueue

/-!
# Priority queues as sorted lists

Items are handed out by their keys, least first.  With distinct keys the queue is sorted
strictly, and the number of items ahead of one says how many turns it waits.
-/

variable {α κ : Type*} [LinearOrder κ]

/-- Insert an item by its key. -/
def put (key : α → κ) (item : α) (items : List α) : List α :=
  items.orderedInsert (fun first second => key first ≤ key second) item

/-- The number of items that are handed out before an item. -/
def ahead (key : α → κ) (item : α) (items : List α) : Nat :=
  items.countP fun other => decide (key other < key item)

section

variable {key : α → κ} {item other : α} {items : List α}

theorem perm_put (key : α → κ) (item : α) (items : List α) :
    (put key item items).Perm (item :: items) :=
  List.perm_orderedInsert _ item items

theorem mem_put : other ∈ put key item items ↔ other = item ∨ other ∈ items := by
  rw [(perm_put key item items).mem_iff, List.mem_cons]

/-- An item with a new key keeps a strictly sorted queue so. -/
theorem sorted_put (hsorted : items.Pairwise (key · < key ·))
    (hnew : ∀ other ∈ items, key other ≠ key item) :
    (put key item items).Pairwise (key · < key ·) := by
  induction items with
  | nil => exact List.pairwise_singleton _ _
  | cons first rest ih =>
      obtain ⟨hfirst, hrest⟩ := List.pairwise_cons.mp hsorted
      have hne := hnew first List.mem_cons_self
      unfold put
      rw [List.orderedInsert_cons]
      split
      · rename_i hle
        have hlt : key item < key first := lt_of_le_of_ne hle hne.symm
        refine List.pairwise_cons.mpr ⟨fun later hlater => ?_, hsorted⟩
        rcases List.mem_cons.mp hlater with rfl | hmem
        · exact hlt
        · exact hlt.trans (hfirst later hmem)
      · rename_i hle
        refine List.pairwise_cons.mpr ⟨fun later hlater => ?_, ?_⟩
        · rcases mem_put.mp hlater with rfl | hmem
          · exact lt_of_not_ge hle
          · exact hfirst later hmem
        · exact ih hrest fun later hlater => hnew later (List.mem_cons_of_mem _ hlater)

/-- Only an item with a smaller key gets ahead. -/
theorem ahead_put (key : α → κ) (item other : α) (items : List α) :
    ahead key item (put key other items) =
      ahead key item items + if key other < key item then 1 else 0 := by
  unfold ahead
  rw [(perm_put key other items).countP_eq, List.countP_cons]
  simp only [decide_eq_true_eq]

/-- When the first item is handed out, every other one moves up. -/
theorem ahead_cons (hsorted : (other :: items).Pairwise (key · < key ·))
    (hitem : item ∈ items) :
    ahead key item (other :: items) = ahead key item items + 1 := by
  have hlt := (List.pairwise_cons.mp hsorted).1 item hitem
  unfold ahead
  rw [List.countP_cons, decide_eq_true hlt]
  rfl

end

end PriorityQueue
end Foundation
end Intelipump
