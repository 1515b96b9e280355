import Mathlib.Order.Monotone.Basic
import Mathlib.Tactic.Common

namespace Intelipump
namespace Foundation

/-!
# Filling in equal steps

A quantity grows by a fixed step up to a limit, and what it costs is capped.  A plan is
reached when the limit or the cap is; until then the quantity after `n` steps has a closed
form, whatever the steps are grouped into.
-/

/-- How a filling proceeds: the step, the limit of the volume, what a volume costs, and the
cap of the cost when there is one. -/
structure FillPlan where
  step : Nat
  limit : Nat
  amountOf : Nat → Nat
  cap : Option Nat
  monotone : Monotone amountOf

namespace FillPlan

variable (plan : FillPlan)

/-- The volume after a number of steps. -/
def volumeAfter (volume steps : Nat) : Nat := min (volume + steps * plan.step) plan.limit

/-- The cost of a volume, up to the cap. -/
def charged (volume : Nat) : Nat :=
  match plan.cap with
  | some cap => min cap (plan.amountOf volume)
  | none => plan.amountOf volume

/-- The limit or the cap is reached. -/
def Reached (volume : Nat) : Prop :=
  plan.limit ≤ volume ∨ ∃ cap ∈ plan.cap, cap ≤ plan.amountOf volume

instance (volume : Nat) : Decidable (plan.Reached volume) :=
  inferInstanceAs (Decidable (_ ∨ _))

/-- No step before the last one reaches the plan. -/
def OpenUntil (volume steps : Nat) : Prop :=
  ∀ taken < steps, 0 < taken → ¬ plan.Reached (plan.volumeAfter volume taken)

instance (volume steps : Nat) : Decidable (plan.OpenUntil volume steps) :=
  inferInstanceAs (Decidable (∀ taken < steps, 0 < taken → _))

variable {plan} {volume steps : Nat}

theorem volumeAfter_le_limit : plan.volumeAfter volume steps ≤ plan.limit :=
  Nat.min_le_right _ _

theorem volumeAfter_mono {fewer more : Nat} (hle : fewer ≤ more) :
    plan.volumeAfter volume fewer ≤ plan.volumeAfter volume more := by
  have hsteps : fewer * plan.step ≤ more * plan.step := Nat.mul_le_mul_right _ hle
  unfold volumeAfter
  omega

theorem le_volumeAfter (hlimit : volume ≤ plan.limit) (steps : Nat) :
    volume ≤ plan.volumeAfter volume steps :=
  Nat.le_min.mpr ⟨Nat.le_add_right _ _, hlimit⟩

/-- Steps may be grouped. -/
theorem volumeAfter_volumeAfter (first later : Nat) :
    plan.volumeAfter (plan.volumeAfter volume first) later =
      plan.volumeAfter volume (first + later) := by
  unfold volumeAfter
  rw [Nat.add_mul]
  omega

theorem charged_le_amountOf : plan.charged volume ≤ plan.amountOf volume := by
  unfold charged
  split
  · exact Nat.min_le_right _ _
  · exact le_rfl

theorem charged_le_cap {cap : Nat} (hcap : plan.cap = some cap) :
    plan.charged volume ≤ cap := by
  unfold charged
  rw [hcap]
  exact Nat.min_le_left _ _

/-- What is below the cap and the cost is below the charge. -/
theorem le_charged {amount : Nat} (hcap : ∀ cap ∈ plan.cap, amount ≤ cap)
    (hamount : amount ≤ plan.amountOf volume) : amount ≤ plan.charged volume := by
  unfold charged
  split
  · rename_i cap hsome
    exact Nat.le_min.mpr ⟨hcap cap hsome, hamount⟩
  · exact hamount

theorem charged_mono {less more : Nat} (hle : less ≤ more) :
    plan.charged less ≤ plan.charged more := by
  have hamount := plan.monotone hle
  unfold charged
  split
  · exact Nat.le_min.mpr ⟨Nat.min_le_left _ _, (Nat.min_le_right _ _).trans hamount⟩
  · exact hamount

/-- A plan that is not reached charges the whole cost, below the cap. -/
theorem charged_of_not_reached (hopen : ¬ plan.Reached volume) :
    plan.charged volume = plan.amountOf volume ∧
      ∀ cap ∈ plan.cap, plan.amountOf volume < cap := by
  have hbelow : ∀ cap ∈ plan.cap, plan.amountOf volume < cap := fun cap hcap =>
    Nat.lt_of_not_le fun hle => hopen (Or.inr ⟨cap, hcap, hle⟩)
  refine ⟨?_, hbelow⟩
  unfold charged
  split
  · rename_i cap hsome
    exact Nat.min_eq_right (hbelow cap hsome).le
  · rfl

theorem lt_limit_of_not_reached (hopen : ¬ plan.Reached volume) : volume < plan.limit :=
  Nat.lt_of_not_le fun hle => hopen (Or.inl hle)

/-- The first step of a plan, and the ones after it. -/
theorem openUntil_succ (hfirst : 0 < steps → ¬ plan.Reached (plan.volumeAfter volume 1))
    (hlater : plan.OpenUntil (plan.volumeAfter volume 1) steps) :
    plan.OpenUntil volume (steps + 1) := by
  intro taken hless hpositive
  obtain ⟨later, rfl⟩ := Nat.exists_eq_add_of_le' hpositive
  rcases Nat.eq_zero_or_pos later with rfl | hmore
  · exact hfirst (Nat.lt_of_succ_lt_succ hless)
  · have hgrouped := hlater later (Nat.lt_of_succ_lt_succ hless) hmore
    rwa [volumeAfter_volumeAfter, Nat.add_comm] at hgrouped

theorem OpenUntil.tail (hopen : plan.OpenUntil volume (steps + 1)) :
    plan.OpenUntil (plan.volumeAfter volume 1) steps := by
  intro taken hless _
  rw [volumeAfter_volumeAfter, Nat.add_comm]
  exact hopen (taken + 1) (Nat.succ_lt_succ hless) (Nat.succ_pos taken)

/-- Some step is the last one: it is the last of them all, or it reaches the plan. -/
theorem exists_last (hpositive : 0 < steps) :
    ∃ taken ≤ steps, 0 < taken ∧ plan.OpenUntil volume taken ∧
      (taken = steps ∨ plan.Reached (plan.volumeAfter volume taken)) := by
  induction steps generalizing volume with
  | zero => exact absurd hpositive (Nat.lt_irrefl 0)
  | succ steps ih =>
      have hnone : plan.OpenUntil volume 1 := fun taken hless hfirst =>
        absurd hfirst (by omega)
      by_cases hreached : plan.Reached (plan.volumeAfter volume 1)
      · exact ⟨1, Nat.succ_pos steps, Nat.one_pos, hnone, Or.inr hreached⟩
      rcases Nat.eq_zero_or_pos steps with rfl | hmore
      · exact ⟨1, le_rfl, Nat.one_pos, hnone, Or.inl rfl⟩
      · obtain ⟨taken, hle, _, hopen, hlast⟩ := ih hmore
        rw [volumeAfter_volumeAfter, Nat.add_comm] at hlast
        exact ⟨taken + 1, Nat.succ_le_succ hle, Nat.succ_pos taken,
          openUntil_succ (fun _ => hreached) hopen,
          hlast.imp_left fun h => congrArg (· + 1) h⟩

/-- Past the limit the volume stays. -/
theorem volumeAfter_of_limit {fewer more : Nat} (hle : fewer ≤ more)
    (hlimit : plan.limit ≤ plan.volumeAfter volume fewer) :
    plan.volumeAfter volume more = plan.volumeAfter volume fewer :=
  Nat.le_antisymm (volumeAfter_le_limit.trans hlimit) (volumeAfter_mono hle)

end FillPlan
end Foundation
end Intelipump
