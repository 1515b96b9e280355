import Mathlib.Data.List.Find
import Mathlib.Data.List.Nodup
import Mathlib.Data.List.Perm.Basic
import Mathlib.Tactic.Common

namespace Intelipump
namespace Foundation
namespace NumberedHistory

/-!
# What a store has accepted and what has left it

An item is known by the number of its acceptance, so that equal items stay
apart.  A store serves by dropping some of its items and handing out the first
wanted one of the others; its history is sound when every number has left at
most once and only after its acceptance.
-/

structure History (α Cause : Type*) where
  /-- The accepted items in order; the number of an item is its place. -/
  accepted : List α
  /-- The numbers of the items that left, with the cause. -/
  departed : List (Nat × Cause)
deriving DecidableEq, Repr

variable {α Cause : Type*}

namespace History

def empty : History α Cause where
  accepted := []
  departed := []

def gone (history : History α Cause) : List Nat := history.departed.map Prod.fst

/-- The items that have not left, in the order of acceptance, with their numbers. -/
def present (history : History α Cause) : List (α × Nat) :=
  history.accepted.zipIdx.filter fun entry => entry.2 ∉ history.gone

def items (history : History α Cause) : List α := history.present.map Prod.fst

def accept (history : History α Cause) (item : α) : History α Cause :=
  { history with accepted := history.accepted ++ [item] }

/-- The first wanted item that is not to be dropped. -/
def next (drop want : α → Bool) (history : History α Cause) : Option (α × Nat) :=
  history.present.find? fun entry => !drop entry.1 && want entry.1

/-- The items to drop leave, and so does the first wanted one of the others. -/
def serve (drop want : α → Bool) (dropped served : Cause) (history : History α Cause) :
    History α Cause :=
  { history with
    departed := history.departed ++
      ((history.present.filter (drop ·.1)).map fun entry => (entry.2, dropped)) ++
      ((history.next drop want).toList.map fun entry => (entry.2, served)) }

/-- Every number has left at most once, and was given before. -/
structure Sound (history : History α Cause) : Prop where
  once : history.gone.Nodup
  known : ∀ number ∈ history.gone, number < history.accepted.length

variable {history : History α Cause} {item : α} {number : Nat} {drop want : α → Bool}
  {dropped served cause : Cause}

theorem sound_empty : (empty : History α Cause).Sound :=
  ⟨List.nodup_nil, fun _ h => absurd h List.not_mem_nil⟩

theorem mem_present :
    (item, number) ∈ history.present ↔
      history.accepted[number]? = some item ∧ number ∉ history.gone := by
  unfold present
  rw [List.mem_filter, List.mem_zipIdx_iff_getElem?, decide_eq_true_iff]

theorem nodup_numbers (history : History α Cause) :
    (history.present.map Prod.snd).Nodup := by
  have hall : (history.accepted.zipIdx.map Prod.snd).Nodup := by
    rw [List.zipIdx_map_snd]
    exact List.nodup_range'
  exact hall.sublist (List.filter_sublist.map _)

/-- An accepted number is present or has left, and not both. -/
theorem perm_range (hsound : history.Sound) :
    (List.range history.accepted.length).Perm
      (history.present.map Prod.snd ++ history.gone) := by
  have hdisjoint : List.Disjoint (history.present.map Prod.snd) history.gone := by
    intro number hpresent hgone
    obtain ⟨entry, hentry, rfl⟩ := List.mem_map.mp hpresent
    exact (mem_present.mp hentry).2 hgone
  refine (List.perm_ext_iff_of_nodup List.nodup_range
    (List.nodup_append'.mpr ⟨nodup_numbers history, hsound.once, hdisjoint⟩)).mpr ?_
  intro number
  rw [List.mem_range, List.mem_append]
  constructor
  · intro hless
    by_cases hgone : number ∈ history.gone
    · exact Or.inr hgone
    · have hitem := List.getElem?_eq_getElem hless
      exact Or.inl (List.mem_map.mpr ⟨_, mem_present.mpr ⟨hitem, hgone⟩, rfl⟩)
  · rintro (hpresent | hgone)
    · obtain ⟨entry, hentry, rfl⟩ := List.mem_map.mp hpresent
      exact (List.getElem?_eq_some_iff.mp (mem_present.mp hentry).1).1
    · exact hsound.known number hgone

/-! ## Acceptance -/

theorem Sound.accept (hsound : history.Sound) : (history.accept item).Sound := by
  refine ⟨hsound.once, fun number hnumber => ?_⟩
  have hless := hsound.known number hnumber
  change number < (history.accepted ++ [item]).length
  rw [List.length_append]
  omega

/-- An accepted item is present behind all others. -/
theorem present_accept (hsound : history.Sound) :
    (history.accept item).present =
      history.present ++ [(item, history.accepted.length)] := by
  have hnew : history.accepted.length ∉ history.gone :=
    fun hgone => Nat.lt_irrefl _ (hsound.known _ hgone)
  change ((history.accepted ++ [item]).zipIdx.filter fun entry => entry.2 ∉ history.gone) = _
  rw [List.zipIdx_append, List.filter_append, List.zipIdx_singleton, Nat.zero_add,
    List.filter_cons, if_pos (decide_eq_true hnew), List.filter_nil]
  rfl

theorem items_accept (hsound : history.Sound) :
    (history.accept item).items = history.items ++ [item] := by
  unfold items
  rw [present_accept hsound, List.map_append]
  rfl

/-! ## Service -/

/-- Without the number of the first wanted entry, a list of numbered entries is without
this entry. -/
theorem filter_first {wanted : α × Nat → Bool} {entries : List (α × Nat)}
    (hnodup : (entries.map Prod.snd).Nodup) :
    (entries.filter fun entry => entry.2 ∉ (entries.find? wanted).toList.map Prod.snd) =
      entries.eraseP wanted := by
  induction entries with
  | nil => rfl
  | cons first rest ih =>
      obtain ⟨hfirst, hrest⟩ := List.nodup_cons.mp hnodup
      by_cases hwanted : wanted first = true
      · have hkept : ∀ entry ∈ rest, entry.2 ∉ [first.2] := by
          intro entry hentry hequal
          rw [List.mem_singleton] at hequal
          exact hfirst (hequal ▸ List.mem_map_of_mem hentry)
        rw [List.find?_cons_of_pos hwanted, List.eraseP_cons_of_pos hwanted, Option.toList_some,
          List.map_singleton, List.filter_cons_of_neg (by simp)]
        exact List.filter_eq_self.mpr fun entry hentry => decide_eq_true (hkept entry hentry)
      · have hstays : first.2 ∉ (rest.find? wanted).toList.map Prod.snd := by
          intro hfound
          obtain ⟨entry, hentry, hequal⟩ := List.mem_map.mp hfound
          have hmember := List.mem_of_find?_eq_some (Option.mem_toList.mp hentry)
          exact hfirst (hequal ▸ List.mem_map_of_mem hmember)
        rw [List.find?_cons_of_neg hwanted, List.eraseP_cons_of_neg hwanted,
          List.filter_cons, if_pos (decide_eq_true hstays), ih hrest]

theorem gone_serve (history : History α Cause) :
    (history.serve drop want dropped served).gone =
      history.gone ++ (history.present.filter (drop ·.1)).map Prod.snd ++
        (history.next drop want).toList.map Prod.snd := by
  unfold gone serve
  rw [List.map_append, List.map_append, List.map_map, List.map_map]
  rfl

theorem next_eq_find?_filter (history : History α Cause) :
    history.next drop want =
      (history.present.filter (!drop ·.1)).find? (want ·.1) := by
  rw [List.find?_filter]
  exact List.find?_congr fun entry _ => by simp

/-- A present entry has the number of a dropped one when it is to be dropped. -/
theorem mem_dropped {entry : α × Nat} (hentry : entry ∈ history.present) :
    entry.2 ∈ (history.present.filter (drop ·.1)).map Prod.snd ↔ drop entry.1 = true := by
  constructor
  · intro hnumber
    obtain ⟨other, hother, hequal⟩ := List.mem_map.mp hnumber
    obtain ⟨hmember, hdrop⟩ := List.mem_filter.mp hother
    have hsame := List.inj_on_of_nodup_map (nodup_numbers history) hmember hentry hequal
    exact hsame ▸ hdrop
  · intro hdrop
    exact List.mem_map_of_mem (List.mem_filter.mpr ⟨hentry, hdrop⟩)

/-- What stays are the items not to be dropped without the first wanted one, in their
order. -/
theorem present_serve (history : History α Cause) :
    (history.serve drop want dropped served).present =
      (history.present.filter (!drop ·.1)).eraseP (want ·.1) := by
  have hnodup : ((history.present.filter (!drop ·.1)).map Prod.snd).Nodup :=
    (nodup_numbers history).sublist (List.filter_sublist.map _)
  have hsplit : (history.serve drop want dropped served).present =
      (history.present.filter fun entry =>
        entry.2 ∉ (history.present.filter (drop ·.1)).map Prod.snd).filter fun entry =>
          entry.2 ∉ (history.next drop want).toList.map Prod.snd := by
    unfold present
    rw [gone_serve, List.filter_filter, List.filter_filter]
    refine List.filter_congr fun entry _ => ?_
    rw [← Bool.decide_and, ← Bool.decide_and]
    refine decide_eq_decide.mpr ?_
    rw [List.mem_append, List.mem_append]
    tauto
  have hdropped : (history.present.filter fun entry =>
      entry.2 ∉ (history.present.filter (drop ·.1)).map Prod.snd) =
        history.present.filter (!drop ·.1) := by
    refine List.filter_congr fun entry hentry => ?_
    rw [decide_not, decide_eq_decide.mpr (mem_dropped hentry), Bool.decide_coe]
  rw [hsplit, hdropped, next_eq_find?_filter]
  exact filter_first hnodup

theorem items_serve (history : History α Cause) :
    (history.serve drop want dropped served).items =
      (history.items.filter (!drop ·)).eraseP want := by
  unfold items
  rw [present_serve, List.filter_map, List.eraseP_map]
  rfl

theorem next_item (history : History α Cause) :
    (history.next drop want).map Prod.fst =
      history.items.find? fun item => !drop item && want item := by
  unfold items next
  rw [List.find?_map]
  rfl

/-- What left before has left, and what leaves now was present, for its cause. -/
theorem departed_serve {departure : Nat × Cause}
    (hdeparted : departure ∈ (history.serve drop want dropped served).departed) :
    departure ∈ history.departed ∨
      (∃ item, (item, departure.1) ∈ history.present ∧ drop item = true ∧
        departure.2 = dropped) ∨
      ∃ item, history.next drop want = some (item, departure.1) ∧ departure.2 = served := by
  rcases List.mem_append.mp hdeparted with hbefore | hserved
  · rcases List.mem_append.mp hbefore with hold | hdropped
    · exact Or.inl hold
    · obtain ⟨entry, hentry, rfl⟩ := List.mem_map.mp hdropped
      obtain ⟨hpresent, hdrop⟩ := List.mem_filter.mp hentry
      exact Or.inr (Or.inl ⟨entry.1, hpresent, hdrop, rfl⟩)
  · obtain ⟨entry, hentry, rfl⟩ := List.mem_map.mp hserved
    exact Or.inr (Or.inr ⟨entry.1, Option.mem_toList.mp hentry, rfl⟩)

theorem next_spec {entry : α × Nat} (hnext : history.next drop want = some entry) :
    entry ∈ history.present ∧ drop entry.1 = false ∧ want entry.1 = true := by
  have hfound := List.find?_some hnext
  rw [Bool.and_eq_true, Bool.not_eq_true'] at hfound
  exact ⟨List.mem_of_find?_eq_some hnext, hfound⟩

theorem Sound.serve (hsound : history.Sound) :
    (history.serve drop want dropped served).Sound := by
  constructor
  · rw [gone_serve]
    have hdropped : ((history.present.filter (drop ·.1)).map Prod.snd).Nodup :=
      (nodup_numbers history).sublist (List.filter_sublist.map _)
    refine List.nodup_append'.mpr ⟨List.nodup_append'.mpr ⟨hsound.once, hdropped, ?_⟩, ?_, ?_⟩
    · intro number hgone hnumber
      obtain ⟨entry, hentry, rfl⟩ := List.mem_map.mp hnumber
      exact (mem_present.mp (List.mem_of_mem_filter hentry)).2 hgone
    · cases history.next drop want with
      | none => exact List.nodup_nil
      | some entry => exact List.nodup_singleton _
    · intro number hbefore hnumber
      obtain ⟨entry, hentry, rfl⟩ := List.mem_map.mp hnumber
      obtain ⟨hpresent, hdrop, -⟩ := next_spec (Option.mem_toList.mp hentry)
      rcases List.mem_append.mp hbefore with hgone | hdropped
      · exact (mem_present.mp hpresent).2 hgone
      · rw [mem_dropped hpresent, hdrop] at hdropped
        cases hdropped
  · intro number hnumber
    obtain ⟨departure, hdeparture, rfl⟩ := List.mem_map.mp hnumber
    have hless : ∀ {item}, (item, departure.1) ∈ history.present →
        departure.1 < history.accepted.length :=
      fun hpresent => (List.getElem?_eq_some_iff.mp (mem_present.mp hpresent).1).1
    rcases departed_serve hdeparture with hold | ⟨item, hpresent, -⟩ | ⟨item, hnext, -⟩
    · exact hsound.known _ (List.mem_map_of_mem hold)
    · exact hless hpresent
    · exact hless (next_spec hnext).1

/-- An accepted item that is to be dropped has left after the service. -/
theorem mem_gone_serve (hitem : history.accepted[number]? = some item)
    (hdrop : drop item = true) :
    number ∈ (history.serve drop want dropped served).gone := by
  rw [gone_serve]
  by_cases hgone : number ∈ history.gone
  · exact List.mem_append_left _ (List.mem_append_left _ hgone)
  · have hpresent := mem_present.mpr ⟨hitem, hgone⟩
    exact List.mem_append_left _ (List.mem_append_right _ ((mem_dropped hpresent).mpr hdrop))

/-- The next item is the first one among all accepted that meets a condition which says
of each that it is present, wanted and not to be dropped. -/
theorem next_eq_find?_accepted {condition : α × Nat → Bool}
    (hcondition : ∀ entry ∈ history.accepted.zipIdx, condition entry = true ↔
      entry.2 ∉ history.gone ∧ drop entry.1 = false ∧ want entry.1 = true) :
    history.next drop want = history.accepted.zipIdx.find? condition := by
  unfold next present
  rw [List.find?_filter]
  refine List.find?_congr fun entry hentry => ?_
  rw [Bool.eq_iff_iff, hcondition entry hentry, decide_eq_true_iff, decide_eq_true_iff,
    Bool.and_eq_true, Bool.not_eq_true']

end History
end NumberedHistory
end Foundation
end Intelipump
