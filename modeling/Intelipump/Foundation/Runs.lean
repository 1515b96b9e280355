import Mathlib.Data.List.Induction
import Mathlib.Order.Defs.Unbundled
import Mathlib.Tactic.Common

namespace Intelipump
namespace Foundation
namespace Runs

/-!
# Runs whose steps meet a condition

A run is a fold of a step function over a list of actions.  `Along` says that
every step of a run meets a condition on the state before it; an invariant
that such steps preserve holds at the end of every such run.
-/

variable {State Action : Type} (step : State → Action → State)
  (Condition : State → Action → Prop)

/-- Every step of the run meets the condition. -/
def Along : State → List Action → Prop
  | _, [] => True
  | state, action :: rest => Condition state action ∧ Along (step state action) rest

instance decidableAlong [∀ state action, Decidable (Condition state action)] :
    ∀ (state : State) (actions : List Action),
      Decidable (Along step Condition state actions)
  | _, [] => isTrue trivial
  | state, action :: rest =>
      have := decidableAlong (step state action) rest
      inferInstanceAs (Decidable (Condition state action ∧
        Along step Condition (step state action) rest))

variable {step Condition}

theorem along_append {state : State} {first second : List Action} :
    Along step Condition state (first ++ second) ↔
      Along step Condition state first ∧
        Along step Condition (first.foldl step state) second := by
  induction first generalizing state with
  | nil => exact (true_and _).symm ▸ Iff.rfl
  | cons action rest ih =>
      change (_ ∧ Along step Condition (step state action) (rest ++ second)) ↔ _
      rw [ih, ← and_assoc]
      rfl

theorem along_and {First Second : State → Action → Prop} {state : State}
    {actions : List Action} :
    Along step (fun state action => First state action ∧ Second state action) state actions ↔
      Along step First state actions ∧ Along step Second state actions := by
  induction actions generalizing state with
  | nil => exact (and_self_iff).symm
  | cons action rest ih =>
      change (_ ∧ Along step _ (step state action) rest) ↔ _
      rw [ih]
      exact and_and_and_comm

/-- A condition on the actions alone holds along every run of such actions. -/
theorem along_of_forall {state : State} {actions : List Action}
    (hall : ∀ action ∈ actions, ∀ current, Condition current action) :
    Along step Condition state actions := by
  induction actions generalizing state with
  | nil => trivial
  | cons action rest ih =>
      obtain ⟨hfirst, hrest⟩ := List.forall_mem_cons.mp hall
      exact ⟨hfirst state, ih hrest⟩

/-- Conditions that say the same of every step hold along the same runs. -/
theorem along_congr {First Second : State → Action → Prop}
    (hcondition : ∀ state action, First state action ↔ Second state action)
    (state : State) (actions : List Action) :
    Along step First state actions ↔ Along step Second state actions := by
  induction actions generalizing state with
  | nil => exact Iff.rfl
  | cons action rest ih => exact and_congr (hcondition state action) (ih _)

/-- Conditions that say the same of every step where an invariant holds that one of them
keeps: they hold along the same runs. -/
theorem along_congr_of {Invariant : State → Prop} {First Second : State → Action → Prop}
    (hcondition : ∀ state action, Invariant state → (First state action ↔ Second state action))
    (hstep : ∀ state action, Invariant state → Second state action →
      Invariant (step state action))
    {state : State} {actions : List Action} (hinitial : Invariant state) :
    Along step First state actions ↔ Along step Second state actions := by
  induction actions generalizing state with
  | nil => exact Iff.rfl
  | cons action rest ih =>
      have hiff := hcondition state action hinitial
      constructor
      · rintro ⟨hfirst, hrest⟩
        have hsecond := hiff.mp hfirst
        exact ⟨hsecond, (ih (hstep state action hinitial hsecond)).mp hrest⟩
      · rintro ⟨hsecond, hrest⟩
        exact ⟨hiff.mpr hsecond, (ih (hstep state action hinitial hsecond)).mpr hrest⟩

/-- The invariant rule. -/
theorem invariant_of_along {Invariant : State → Prop}
    (hstep : ∀ state action, Invariant state → Condition state action →
      Invariant (step state action))
    {state : State} {actions : List Action} (hinitial : Invariant state)
    (halong : Along step Condition state actions) :
    Invariant (actions.foldl step state) := by
  induction actions generalizing state with
  | nil => exact hinitial
  | cons action rest ih => exact ih (hstep state action hinitial halong.1) halong.2

/-- A step that keeps the invariant exactly when it meets the condition: among the
runs whose steps meet what is assumed, the invariant holds all along exactly those
whose steps meet the condition. -/
theorem forall_prefix_iff_along_of {Assumed : State → Action → Prop}
    {Invariant : State → Prop}
    (hstep : ∀ state action, Assumed state action → Invariant state →
      (Invariant (step state action) ↔ Condition state action))
    {state : State} {actions : List Action} (hassumed : Along step Assumed state actions)
    (hinitial : Invariant state) :
    (∀ earlier, earlier <+: actions → Invariant (earlier.foldl step state)) ↔
      Along step Condition state actions := by
  induction actions generalizing state with
  | nil =>
      refine iff_of_true (fun earlier hearlier => ?_) trivial
      rw [List.prefix_nil.mp hearlier]
      exact hinitial
  | cons action rest ih =>
      have hiff := hstep state action hassumed.1 hinitial
      constructor
      · intro hall
        have hfirst : Invariant (step state action) :=
          hall [action] (List.cons_prefix_cons.mpr ⟨rfl, List.nil_prefix⟩)
        refine ⟨hiff.mp hfirst, (ih hassumed.2 hfirst).mp ?_⟩
        intro earlier hearlier
        exact hall (action :: earlier) (List.cons_prefix_cons.mpr ⟨rfl, hearlier⟩)
      · intro halong earlier hearlier
        cases earlier with
        | nil => exact hinitial
        | cons first later =>
            obtain ⟨rfl, hlater⟩ := List.cons_prefix_cons.mp hearlier
            exact (ih hassumed.2 (hiff.mpr halong.1)).mpr halong.2 later hlater

theorem forall_prefix_iff_along {Invariant : State → Prop}
    (hstep : ∀ state action, Invariant state →
      (Invariant (step state action) ↔ Condition state action))
    {state : State} {actions : List Action} (hinitial : Invariant state) :
    (∀ earlier, earlier <+: actions → Invariant (earlier.foldl step state)) ↔
      Along step Condition state actions :=
  forall_prefix_iff_along_of (fun state action _ => hstep state action)
    (along_of_forall fun _ _ _ => trivial) hinitial

/-- A step that keeps the invariant and has a property exactly when it meets the
condition. -/
theorem forall_prefix_and_along_iff {Invariant : State → Prop}
    {Property : State → Action → Prop}
    (hstep : ∀ state action, Invariant state →
      (Invariant (step state action) ∧ Property state action ↔ Condition state action))
    {state : State} {actions : List Action} (hinitial : Invariant state) :
    (∀ earlier, earlier <+: actions → Invariant (earlier.foldl step state)) ∧
        Along step Property state actions ↔
      Along step Condition state actions := by
  induction actions generalizing state with
  | nil =>
      refine iff_of_true ⟨fun earlier hearlier => ?_, trivial⟩ trivial
      rw [List.prefix_nil.mp hearlier]
      exact hinitial
  | cons action rest ih =>
      have hiff := hstep state action hinitial
      constructor
      · rintro ⟨hall, hproperty, hrest⟩
        have hfirst : Invariant (step state action) :=
          hall [action] (List.cons_prefix_cons.mpr ⟨rfl, List.nil_prefix⟩)
        refine ⟨hiff.mp ⟨hfirst, hproperty⟩, (ih hfirst).mp ⟨fun earlier hearlier => ?_, hrest⟩⟩
        exact hall (action :: earlier) (List.cons_prefix_cons.mpr ⟨rfl, hearlier⟩)
      · rintro ⟨hcondition, hrest⟩
        obtain ⟨hnext, hproperty⟩ := hiff.mpr hcondition
        obtain ⟨hlater, hproperties⟩ := (ih hnext).mpr hrest
        refine ⟨fun earlier hearlier => ?_, hproperty, hproperties⟩
        cases earlier with
        | nil => exact hinitial
        | cons first later =>
            obtain ⟨rfl, hprefix⟩ := List.cons_prefix_cons.mp hearlier
            exact hlater later hprefix

/-- A relation that a step keeps exactly when it meets the condition: it holds from every
state of a run to every later one exactly when all steps meet the condition. -/
theorem forall_prefixes_iff_along {R : State → State → Prop} [IsPreorder State R]
    {Invariant : State → Prop}
    (hinvariant : ∀ state action, Invariant state → Invariant (step state action))
    (hstep : ∀ state action, Invariant state →
      (R state (step state action) ↔ Condition state action))
    {state : State} {actions : List Action} (hinitial : Invariant state) :
    (∀ earlier later, earlier <+: later → later <+: actions →
      R (earlier.foldl step state) (later.foldl step state)) ↔
      Along step Condition state actions := by
  induction actions generalizing state with
  | nil =>
      refine iff_of_true (fun earlier later hearlier hlater => ?_) trivial
      cases List.prefix_nil.mp hlater
      cases List.prefix_nil.mp hearlier
      exact refl_of R state
  | cons action rest ih =>
      have hiff := hstep state action hinitial
      have hnext := hinvariant state action hinitial
      constructor
      · intro hall
        refine ⟨hiff.mp (hall [] [action] List.nil_prefix ?_), (ih hnext).mp ?_⟩
        · exact List.cons_prefix_cons.mpr ⟨rfl, List.nil_prefix⟩
        · intro earlier later hearlier hlater
          exact hall (action :: earlier) (action :: later)
            (List.cons_prefix_cons.mpr ⟨rfl, hearlier⟩)
            (List.cons_prefix_cons.mpr ⟨rfl, hlater⟩)
      · intro halong earlier later hearlier hlater
        have hrest := (ih hnext).mpr halong.2
        cases later with
        | nil =>
            cases List.prefix_nil.mp hearlier
            exact refl_of R state
        | cons first later =>
            obtain ⟨rfl, htail⟩ := List.cons_prefix_cons.mp hlater
            cases earlier with
            | nil =>
                exact trans_of R (hiff.mpr halong.1) (hrest [] later List.nil_prefix htail)
            | cons other earlier =>
                obtain ⟨rfl, hprefix⟩ := List.cons_prefix_cons.mp hearlier
                exact hrest earlier later hprefix htail

/-- What the steps of a run satisfy that meet a condition and keep an invariant. -/
theorem along_of_invariant {Invariant : State → Prop} {Property : State → Action → Prop}
    (hstep : ∀ state action, Invariant state → Condition state action →
      Property state action ∧ Invariant (step state action))
    {state : State} {actions : List Action} (hinitial : Invariant state)
    (halong : Along step Condition state actions) : Along step Property state actions := by
  induction actions generalizing state with
  | nil => trivial
  | cons action rest ih =>
      obtain ⟨hproperty, hnext⟩ := hstep state action hinitial halong.1
      exact ⟨hproperty, ih hnext halong.2⟩

/-- An action that leaves a mark which no step takes away, and which is not taken where the
mark is: a run takes it at one place at most. -/
theorem taken_once {Taken : State → Action → Prop} {Marked : State → Prop}
    (hmarks : ∀ state action, Taken state action → Marked (step state action))
    (hkeeps : ∀ state action, Marked state → Marked (step state action))
    (hrefuses : ∀ state action, Marked state → ¬ Taken state action)
    {state : State} {actions first second : List Action} {action other : Action}
    (hfirst : first ++ [action] <+: actions) (hsecond : second ++ [other] <+: actions)
    (htaken : Taken (first.foldl step state) action)
    (hother : Taken (second.foldl step state) other) : first = second := by
  -- a place strictly before another one leaves its mark there
  have hmarked : ∀ {before after : List Action} {taken later : Action},
      before ++ [taken] <+: actions → after ++ [later] <+: actions →
      before.length < after.length → Taken (before.foldl step state) taken →
      Marked (after.foldl step state) := by
    intro before after taken later hbefore hafter hlength hmark
    have hprefix : before ++ [taken] <+: after := by
      have hshort := (List.prefix_append after [later]).trans hafter
      refine List.prefix_of_prefix_length_le hbefore hshort ?_
      rw [List.length_append]
      exact hlength
    obtain ⟨between, rfl⟩ := hprefix
    have hstep : ∀ current next, Marked current → True → Marked (step current next) :=
      fun current next hcurrent _ => hkeeps current next hcurrent
    rw [List.foldl_append, List.foldl_append]
    exact invariant_of_along hstep (hmarks _ _ hmark) (along_of_forall fun _ _ _ => trivial)
  have hlengths : first.length = second.length := by
    rcases Nat.lt_trichotomy first.length second.length with hless | hequal | hgreater
    · exact absurd hother (hrefuses _ _ (hmarked hfirst hsecond hless htaken))
    · exact hequal
    · exact absurd htaken (hrefuses _ _ (hmarked hsecond hfirst hgreater hother))
  have hshort := (List.prefix_append first [action]).trans hfirst
  have hlong := (List.prefix_append second [other]).trans hsecond
  exact (List.prefix_of_prefix_length_le hshort hlong (Nat.le_of_eq hlengths)).eq_of_length
    hlengths

/-! ## What has held since an action -/

variable (step) in
/-- An entering action was taken, and everything after it was inside. -/
def Since (Enters : State → Action → Prop) (Inside : State → Prop) (state : State)
    (actions : List Action) : Prop :=
  ∃ before action after, actions = before ++ action :: after ∧
    Enters (before.foldl step state) action ∧
    ∀ earlier, earlier <+: after →
      Inside ((before ++ action :: earlier).foldl step state)

/-- One more action that stays inside. -/
theorem Since.concat {Enters : State → Action → Prop} {Inside : State → Prop}
    {state : State} {actions : List Action} {last : Action}
    (hsince : Since step Enters Inside state actions)
    (hinside : Inside ((actions ++ [last]).foldl step state)) :
    Since step Enters Inside state (actions ++ [last]) := by
  obtain ⟨before, action, after, rfl, henters, hafter⟩ := hsince
  have hassoc : before ++ action :: after ++ [last] = before ++ action :: (after ++ [last]) :=
    List.append_assoc before (action :: after) [last]
  refine ⟨before, action, after ++ [last], hassoc, henters, ?_⟩
  intro earlier hearlier
  rcases List.prefix_concat_iff.mp hearlier with rfl | hearlier
  · rw [← hassoc]
    exact hinside
  · exact hafter earlier hearlier

/-- A region that is entered by certain actions only: a run that starts outside and ends
inside has been inside since such an action. -/
theorem since_of_along {Enters : State → Action → Prop} {Inside : State → Prop}
    (hstep : ∀ state action, Condition state action → Inside (step state action) →
      Inside state ∨ Enters state action)
    {state : State} {actions : List Action} (houtside : ¬ Inside state)
    (halong : Along step Condition state actions)
    (hinside : Inside (actions.foldl step state)) :
    Since step Enters Inside state actions := by
  induction actions using List.reverseRecOn with
  | nil => exact absurd hinside houtside
  | append_singleton actions last ih =>
      obtain ⟨hbefore, hlast, -⟩ := along_append.mp halong
      have hended : Inside (step (actions.foldl step state) last) := by
        rw [List.foldl_append] at hinside
        exact hinside
      rcases hstep _ last hlast hended with hstayed | henters
      · exact (ih hbefore hstayed).concat hinside
      · refine ⟨actions, last, [], rfl, henters, ?_⟩
        intro earlier hearlier
        rw [List.prefix_nil.mp hearlier]
        exact hinside

end Runs
end Foundation
end Intelipump
