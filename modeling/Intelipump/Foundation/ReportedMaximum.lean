import Mathlib.Order.Lattice
import Mathlib.Tactic.Common

namespace Intelipump
namespace Foundation
namespace ReportedMaximum

/-!
# Reports of a running maximum

A value is stored as the join of what was brought to it.  Beside it stand the
reports that were sent of it and the final ones.  A report of what was brought
tells the stored value, and keeps the reports rising and below the final ones,
exactly when it is not below the value stored before and not above a final one.
-/

structure Reported (α : Type*) where
  stored : Option α := none
  reports : List α := []
  finals : List α := []
deriving DecidableEq

namespace Reported

variable {α : Type*} [SemilatticeSup α]

/-- A value is stored, unless there is one. -/
def start (value : α) (view : Reported α) : Reported α :=
  { view with stored := view.stored.or (some value) }

/-- A value is brought, and reported as it was brought when it is to be sent. -/
def report (value : α) (sent : Bool) (view : Reported α) : Reported α :=
  { view with
    stored := view.stored.map (· ⊔ value)
    reports := if sent then view.reports ++ [value] else view.reports }

/-- A value is brought, and the stored one is the final report when it is to be sent. -/
def close (value : α) (sent : Bool) (view : Reported α) : Reported α :=
  { view with
    stored := view.stored.map (· ⊔ value)
    finals :=
      if sent then view.finals ++ (view.stored.map (· ⊔ value)).toList else view.finals }

/-- The reports rise, and none is above a final one. -/
structure Agrees (view : Reported α) : Prop where
  rising : view.reports.Pairwise (· ≤ ·)
  capped : ∀ report ∈ view.reports, ∀ final ∈ view.finals, report ≤ final

/-- No report is above the stored value. -/
def Covered (view : Reported α) : Prop :=
  ∀ report ∈ view.reports, ∃ value, view.stored = some value ∧ report ≤ value

variable {view : Reported α} {value stored : α}

omit [SemilatticeSup α] in
theorem pairwise_concat {R : α → α → Prop} {values : List α} {last : α} :
    (values ++ [last]).Pairwise R ↔ values.Pairwise R ∧ ∀ earlier ∈ values, R earlier last := by
  rw [List.pairwise_append]
  simp only [List.pairwise_singleton, true_and, List.mem_singleton, forall_eq]

theorem Covered.start (hcovered : view.Covered) : (view.start value).Covered := by
  intro report hreport
  obtain ⟨old, hold, hle⟩ := hcovered report hreport
  refine ⟨old, ?_, hle⟩
  change view.stored.or (some value) = some old
  rw [hold, Option.some_or]

theorem Covered.raise (hcovered : view.Covered) {report : α} (hreport : report ∈ view.reports) :
    ∃ raised, view.stored.map (· ⊔ value) = some raised ∧ report ≤ raised := by
  obtain ⟨old, hold, hle⟩ := hcovered report hreport
  refine ⟨old ⊔ value, ?_, hle.trans le_sup_left⟩
  rw [hold, Option.map_some]

theorem Covered.report (hcovered : view.Covered) (hstored : view.stored = some stored)
    (sent : Bool) : (view.report value sent).Covered := by
  intro told htold
  have hcases : told ∈ view.reports ∨ told = value := by
    unfold Reported.report at htold
    dsimp only at htold
    split at htold
    · rcases List.mem_append.mp htold with hold | hnew
      · exact Or.inl hold
      · exact Or.inr (List.mem_singleton.mp hnew)
    · exact Or.inl htold
  rcases hcases with hold | rfl
  · exact hcovered.raise hold
  · refine ⟨stored ⊔ told, ?_, le_sup_right⟩
    change view.stored.map (· ⊔ told) = _
    rw [hstored, Option.map_some]

theorem Covered.close (hcovered : view.Covered) (sent : Bool) :
    (view.close value sent).Covered :=
  fun _ hreport => hcovered.raise hreport

theorem Agrees.start (hagrees : view.Agrees) : (view.start value).Agrees :=
  ⟨hagrees.rising, hagrees.capped⟩

/-- The final report of a value is above all reports of it. -/
theorem Agrees.close (hagrees : view.Agrees) (hcovered : view.Covered) (sent : Bool) :
    (view.close value sent).Agrees := by
  refine ⟨hagrees.rising, fun told htold final hfinal => ?_⟩
  unfold Reported.close at hfinal
  dsimp only at hfinal
  split at hfinal
  · rcases List.mem_append.mp hfinal with hold | hnew
    · exact hagrees.capped told htold final hold
    · obtain ⟨raised, hraised, hle⟩ := hcovered.raise htold
      rw [hraised, Option.toList_some, List.mem_singleton] at hnew
      exact hnew ▸ hle
  · exact hagrees.capped told htold final hfinal

/-- A value that is not sent changes no report. -/
theorem agrees_report_false (hagrees : view.Agrees) : (view.report value false).Agrees :=
  ⟨hagrees.rising, hagrees.capped⟩

/-- The rule of a report that is sent. -/
theorem agrees_report_true_iff (hagrees : view.Agrees) (hcovered : view.Covered)
    (hstored : view.stored = some stored) :
    (view.report value true).Agrees ∧ (view.report value true).stored = some value ↔
      stored ≤ value ∧ ∀ final ∈ view.finals, value ≤ final := by
  have hraised : (view.report value true).stored = some (stored ⊔ value) := by
    change view.stored.map (· ⊔ value) = _
    rw [hstored, Option.map_some]
  rw [hraised, Option.some.injEq, sup_eq_right]
  constructor
  · rintro ⟨hlater, hle⟩
    exact ⟨hle, hlater.capped value (List.mem_append_right _ (List.mem_singleton_self _))⟩
  · rintro ⟨hle, hcapped⟩
    refine ⟨⟨?_, ?_⟩, hle⟩
    · refine pairwise_concat.mpr ⟨hagrees.rising, fun told htold => ?_⟩
      obtain ⟨old, hold, hbelow⟩ := hcovered told htold
      obtain rfl := Option.some.inj (hstored.symm.trans hold)
      exact hbelow.trans hle
    · intro told htold final hfinal
      rcases List.mem_append.mp htold with hold | hnew
      · exact hagrees.capped told hold final hfinal
      · exact List.mem_singleton.mp hnew ▸ hcapped final hfinal

end Reported
end ReportedMaximum
end Foundation
end Intelipump
