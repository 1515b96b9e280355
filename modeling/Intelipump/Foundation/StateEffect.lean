import Mathlib.Order.Defs.Unbundled
import Mathlib.Tactic.Common

namespace Intelipump
namespace Foundation
namespace StateEffect

/-!
# What a failing stateful action leaves behind

An action of `EStateM` may raise half way, and the state then stays as it was
written so far.  `Preserves R action` relates the state before with the state
after, whichever way the action ended.  The rules follow the ways actions are
put together.
-/

variable {ε σ α β : Type}

/-- The state after an action, whether it returned or raised. -/
def finalState (action : EStateM ε σ α) (state : σ) : σ :=
  match action state with
  | .ok _ next => next
  | .error _ next => next

/-- The value of an action that returned. -/
def returned (action : EStateM ε σ α) (state : σ) : Option α :=
  match action state with
  | .ok value _ => some value
  | .error _ _ => none

/-- Raise the error of a pure computation. -/
def fromExcept (result : Except ε α) : EStateM ε σ α := fun state =>
  match result with
  | .ok value => .ok value state
  | .error error => .error error state

/-- Two runs with one result leave one state. -/
theorem finalState_congr {action : EStateM ε σ α} {other : EStateM ε σ α} {state start : σ}
    (hresult : action state = other start) :
    finalState action state = finalState other start := by
  unfold finalState
  rw [hresult]

theorem finalState_of_ok {action : EStateM ε σ α} {state after : σ} {value : α}
    (hreturned : action state = .ok value after) : finalState action state = after := by
  unfold finalState
  rw [hreturned]

theorem finalState_of_error {action : EStateM ε σ α} {state after : σ} {error : ε}
    (hraised : action state = .error error after) : finalState action state = after := by
  unfold finalState
  rw [hraised]

theorem returned_of_ok {action : EStateM ε σ α} {state after : σ} {value : α}
    (hreturned : action state = .ok value after) : returned action state = some value := by
  unfold returned
  rw [hreturned]

theorem returned_of_error {action : EStateM ε σ α} {state after : σ} {error : ε}
    (hraised : action state = .error error after) : returned action state = none := by
  unfold returned
  rw [hraised]

theorem returned_congr {action : EStateM ε σ α} {other : EStateM ε σ α} {state start : σ}
    (hresult : action state = other start) : returned action state = returned other start := by
  unfold returned
  rw [hresult]

/-- Every run relates its first state to its last one. -/
def Preserves (R : σ → σ → Prop) (action : EStateM ε σ α) : Prop :=
  ∀ state, R state (finalState action state)

theorem bind_ok {first : EStateM ε σ α} {state after : σ} {value : α}
    (hfirst : first state = .ok value after) (next : α → EStateM ε σ β) :
    (first >>= next) state = next value after := by
  change EStateM.bind first next state = _
  unfold EStateM.bind
  rw [hfirst]

theorem bind_error {first : EStateM ε σ α} {state after : σ} {error : ε}
    (hfirst : first state = .error error after) (next : α → EStateM ε σ β) :
    (first >>= next) state = .error error after := by
  change EStateM.bind first next state = _
  unfold EStateM.bind
  rw [hfirst]

theorem bind_run_congr {first other : EStateM ε σ α} {state start : σ}
    (hresult : first state = other start) (next : α → EStateM ε σ β) :
    (first >>= next) state = (other >>= next) start := by
  change EStateM.bind first next state = EStateM.bind other next start
  unfold EStateM.bind
  rw [hresult]

/-- A sequence that returned is made of parts that returned. -/
theorem bind_eq_ok {first : EStateM ε σ α} {next : α → EStateM ε σ β} {state after : σ}
    {value : β} (hbind : (first >>= next) state = .ok value after) :
    ∃ result between, first state = .ok result between ∧
      next result between = .ok value after := by
  cases hfirst : first state with
  | ok result between =>
      rw [bind_ok hfirst] at hbind
      exact ⟨result, between, rfl, hbind⟩
  | error error between =>
      rw [bind_error hfirst] at hbind
      cases hbind

/-- An action that returned a value ended well. -/
theorem eq_ok_of_returned {action : EStateM ε σ α} {state : σ} {value : α}
    (hreturned : returned action state = some value) :
    action state = .ok value (finalState action state) := by
  unfold returned at hreturned
  unfold finalState
  cases haction : action state with
  | ok result next =>
      rw [haction] at hreturned
      cases hreturned
      rfl
  | error error next =>
      rw [haction] at hreturned
      cases hreturned

theorem fromExcept_ok {result : Except ε α} {value : α} (hresult : result = .ok value)
    (state : σ) : fromExcept result state = .ok value state := by
  rw [hresult]
  rfl

theorem fromExcept_error {result : Except ε α} {error : ε} (hresult : result = .error error)
    (state : σ) : fromExcept result state = .error error state := by
  rw [hresult]
  rfl

theorem get_bind (next : σ → EStateM ε σ α) (state : σ) :
    (get >>= next) state = next state state := rfl

@[simp] theorem finalState_pure (value : α) (state : σ) :
    finalState (pure value : EStateM ε σ α) state = state := rfl

@[simp] theorem finalState_throw (error : ε) (state : σ) :
    finalState (throw error : EStateM ε σ α) state = state := rfl

@[simp] theorem finalState_modify (f : σ → σ) (state : σ) :
    finalState (modify f : EStateM ε σ PUnit) state = f state := rfl

@[simp] theorem finalState_get (state : σ) :
    finalState (get : EStateM ε σ σ) state = state := rfl

@[simp] theorem finalState_fromExcept (result : Except ε α) (state : σ) :
    finalState (fromExcept result) state = state := by
  cases result <;> rfl

@[simp] theorem returned_pure (value : α) (state : σ) :
    returned (pure value : EStateM ε σ α) state = some value := rfl

@[simp] theorem returned_throw (error : ε) (state : σ) :
    returned (throw error : EStateM ε σ α) state = none := rfl

@[simp] theorem returned_modify (f : σ → σ) (state : σ) :
    returned (modify f : EStateM ε σ PUnit) state = some ⟨⟩ := rfl

@[simp] theorem returned_get (state : σ) :
    returned (get : EStateM ε σ σ) state = some state := rfl

@[simp] theorem returned_fromExcept (result : Except ε α) (state : σ) :
    returned (fromExcept result) state = result.toOption := by
  cases result <;> rfl

/-- The last state of a sequence. -/
theorem finalState_bind (first : EStateM ε σ α) (next : α → EStateM ε σ β)
    (state : σ) :
    finalState (first >>= next) state =
      match returned first state with
      | some value => finalState (next value) (finalState first state)
      | none => finalState first state := by
  unfold finalState returned
  change (match EStateM.bind first next state with
    | .ok _ s => s | .error _ s => s) = _
  unfold EStateM.bind
  cases first state <;> rfl

theorem returned_bind (first : EStateM ε σ α) (next : α → EStateM ε σ β)
    (state : σ) :
    returned (first >>= next) state =
      (returned first state).bind fun value =>
        returned (next value) (finalState first state) := by
  unfold finalState returned
  change (match EStateM.bind first next state with
    | .ok v _ => some v | .error _ _ => none) = _
  unfold EStateM.bind
  cases first state <;> rfl

/-- A pure last step leaves the state. -/
@[simp] theorem finalState_bind_pure (first : EStateM ε σ α) (value : α → β) (state : σ) :
    finalState (first >>= fun result => pure (value result)) state =
      finalState first state := by
  rw [finalState_bind]
  cases returned first state <;> rfl

@[simp] theorem finalState_modify_bind (f : σ → σ) (next : PUnit → EStateM ε σ β)
    (state : σ) :
    finalState ((modify f : EStateM ε σ PUnit) >>= next) state =
      finalState (next ⟨⟩) (f state) := rfl

@[simp] theorem finalState_get_bind (next : σ → EStateM ε σ β) (state : σ) :
    finalState (get >>= next) state = finalState (next state) state := rfl

/-! ## Actions that return -/

/-- The action does not raise. -/
def Returns (action : EStateM ε σ α) (state : σ) : Prop :=
  (returned action state).isSome = true

instance (action : EStateM ε σ α) (state : σ) : Decidable (Returns action state) :=
  inferInstanceAs (Decidable (_ = true))

theorem returns_congr {action : EStateM ε σ α} {other : EStateM ε σ α} {state start : σ}
    (hresult : action state = other start) : Returns action state ↔ Returns other start := by
  unfold Returns
  rw [returned_congr hresult]

theorem Returns.exists {action : EStateM ε σ α} {state : σ}
    (hreturns : Returns action state) : ∃ value, returned action state = some value :=
  Option.isSome_iff_exists.mp hreturns

theorem returned_eq_none_of_not {action : EStateM ε σ α} {state : σ}
    (hraises : ¬ Returns action state) : returned action state = none :=
  Option.not_isSome_iff_eq_none.mp hraises

@[simp] theorem returns_pure (value : α) (state : σ) :
    Returns (pure value : EStateM ε σ α) state := rfl

@[simp] theorem returns_modify (f : σ → σ) (state : σ) :
    Returns (modify f : EStateM ε σ PUnit) state := rfl

@[simp] theorem returns_modify_bind (f : σ → σ) (next : PUnit → EStateM ε σ β)
    (state : σ) :
    Returns ((modify f : EStateM ε σ PUnit) >>= next) state ↔ Returns (next ⟨⟩) (f state) :=
  Iff.rfl

@[simp] theorem returns_get_bind (next : σ → EStateM ε σ β) (state : σ) :
    Returns (get >>= next) state ↔ Returns (next state) state :=
  Iff.rfl

theorem returns_fromExcept_iff (result : Except ε α) (state : σ) :
    Returns (fromExcept result) state ↔ ∃ value, result = .ok value := by
  unfold Returns
  rw [returned_fromExcept]
  cases result with
  | ok value => exact iff_of_true rfl ⟨value, rfl⟩
  | error error => exact iff_of_false Bool.noConfusion fun ⟨_, h⟩ => (nomatch h)

/-- A sequence returns exactly when both of its parts do; `hnext` describes the second
part for every value the first one may give. -/
theorem returns_bind_iff {first : EStateM ε σ α} {next : α → EStateM ε σ β} {state : σ}
    {P : Prop} (hnext : ∀ value, returned first state = some value →
      (Returns (next value) (finalState first state) ↔ P)) :
    Returns (first >>= next) state ↔ Returns first state ∧ P := by
  unfold Returns at *
  rw [returned_bind]
  cases hfirst : returned first state with
  | none => exact iff_of_false Bool.noConfusion fun h => Bool.noConfusion h.1
  | some value => exact (hnext value hfirst).trans ⟨fun h => ⟨rfl, h⟩, And.right⟩

/-- A second part that always returns leaves it to the first one. -/
theorem returns_bind_iff_left {first : EStateM ε σ α} {next : α → EStateM ε σ β} {state : σ}
    (hnext : ∀ value, Returns (next value) (finalState first state)) :
    Returns (first >>= next) state ↔ Returns first state :=
  (returns_bind_iff fun value _ => iff_of_true (hnext value) trivial).trans
    (iff_of_eq (and_true _))

/-- A pure last step changes nothing. -/
@[simp] theorem returns_bind_pure_iff (first : EStateM ε σ α) (value : α → β) (state : σ) :
    Returns (first >>= fun result => pure (value result)) state ↔ Returns first state :=
  returns_bind_iff_left fun _ => returns_pure _ _

namespace Preserves

variable {R : σ → σ → Prop} [IsPreorder σ R]

theorem of_pure (value : α) : Preserves R (pure value : EStateM ε σ α) :=
  fun state => refl_of R state

theorem of_throw (error : ε) : Preserves R (throw error : EStateM ε σ α) :=
  fun state => refl_of R state

theorem of_get : Preserves R (get : EStateM ε σ σ) :=
  fun state => refl_of R state

theorem of_fromExcept (result : Except ε α) :
    Preserves R (fromExcept result : EStateM ε σ α) := by
  intro state
  rw [finalState_fromExcept]
  exact refl_of R state

omit [IsPreorder σ R] in
theorem of_modify {f : σ → σ} (hstep : ∀ state, R state (f state)) :
    Preserves R (modify f : EStateM ε σ PUnit) := hstep

/-- A sequence preserves what each of its parts preserves. -/
theorem of_bind {first : EStateM ε σ α} {next : α → EStateM ε σ β}
    (hfirst : Preserves R first) (hnext : ∀ value, Preserves R (next value)) :
    Preserves R (first >>= next) := by
  intro state
  rw [finalState_bind]
  cases returned first state with
  | none => exact hfirst state
  | some value => exact trans_of R (hfirst state) (hnext value _)

omit [IsPreorder σ R] in
theorem of_ite {condition : Prop} [Decidable condition] {yes no : EStateM ε σ α}
    (hyes : Preserves R yes) (hno : Preserves R no) :
    Preserves R (if condition then yes else no) := by
  split
  · exact hyes
  · exact hno

/-- A loop preserves what each of its turns preserves. -/
theorem of_foldlM {γ : Type} {turn : α → γ → EStateM ε σ α}
    (hturn : ∀ result item, Preserves R (turn result item)) (items : List γ) (result : α) :
    Preserves R (items.foldlM turn result) := by
  induction items generalizing result with
  | nil => exact of_pure result
  | cons item rest ih =>
      rw [List.foldlM_cons]
      exact of_bind (hturn result item) ih

end Preserves

/-! ## Values that are returned -/

/-- Every value that the action returns meets a condition. -/
def Yields (P : α → Prop) (action : EStateM ε σ α) : Prop :=
  ∀ state value, returned action state = some value → P value

namespace Yields

variable {P : α → Prop} {Q : β → Prop}

theorem of_pure {value : α} (hvalue : P value) : Yields P (pure value : EStateM ε σ α) := by
  intro state result hreturned
  rw [returned_pure] at hreturned
  cases hreturned
  exact hvalue

theorem of_throw (error : ε) : Yields P (throw error : EStateM ε σ α) := by
  intro state result hreturned
  rw [returned_throw] at hreturned
  cases hreturned

/-- A sequence yields what its second part yields from the values of the first. -/
theorem of_bind {first : EStateM ε σ α} {next : α → EStateM ε σ β} (hfirst : Yields P first)
    (hnext : ∀ value, P value → Yields Q (next value)) : Yields Q (first >>= next) := by
  intro state result hreturned
  rw [returned_bind] at hreturned
  obtain ⟨value, hvalue, hresult⟩ := Option.bind_eq_some_iff.mp hreturned
  exact hnext value (hfirst state value hvalue) _ result hresult

/-- A second part that yields it from every value leaves the first part free. -/
theorem of_next {first : EStateM ε σ α} {next : α → EStateM ε σ β}
    (hnext : ∀ value, Yields Q (next value)) : Yields Q (first >>= next) :=
  of_bind (fun _ _ _ => trivial) fun value (_ : True) => hnext value

theorem of_ite {condition : Prop} [Decidable condition] {yes no : EStateM ε σ α}
    (hyes : Yields P yes) (hno : Yields P no) : Yields P (if condition then yes else no) := by
  split
  · exact hyes
  · exact hno

end Yields

/-! ## Errors that are raised -/

/-- Every error that the action raises meets a condition. -/
def RaisesOnly (P : ε → Prop) (action : EStateM ε σ α) : Prop :=
  ∀ state error after, action state = .error error after → P error

namespace RaisesOnly

variable {P : ε → Prop}

theorem of_pure (value : α) : RaisesOnly P (pure value : EStateM ε σ α) :=
  fun _ _ _ h => nomatch h

theorem of_get : RaisesOnly P (get : EStateM ε σ σ) := fun _ _ _ h => nomatch h

theorem of_modify (f : σ → σ) : RaisesOnly P (modify f : EStateM ε σ PUnit) :=
  fun _ _ _ h => nomatch h

theorem of_fromExcept {result : Except ε α} (herror : ∀ error, result = .error error → P error) :
    RaisesOnly P (fromExcept result : EStateM ε σ α) := by
  intro state error after hraised
  cases hresult : result with
  | ok value =>
      rw [fromExcept_ok hresult] at hraised
      cases hraised
  | error found =>
      rw [fromExcept_error hresult] at hraised
      cases hraised
      exact herror _ hresult

/-- A sequence raises what its parts raise. -/
theorem of_bind {first : EStateM ε σ α} {next : α → EStateM ε σ β}
    (hfirst : RaisesOnly P first) (hnext : ∀ value, RaisesOnly P (next value)) :
    RaisesOnly P (first >>= next) := by
  intro state error after hraised
  cases hresult : first state with
  | ok value between =>
      rw [bind_ok hresult] at hraised
      exact hnext value between error after hraised
  | error found between =>
      rw [bind_error hresult] at hraised
      cases hraised
      exact hfirst state _ _ hresult

theorem of_ite {condition : Prop} [Decidable condition] {yes no : EStateM ε σ α}
    (hyes : RaisesOnly P yes) (hno : RaisesOnly P no) :
    RaisesOnly P (if condition then yes else no) := by
  split
  · exact hyes
  · exact hno

end RaisesOnly

/-! ## Parts of the state that an action leaves alone -/

/-- The action does to a changed state what it does to the state. -/
structure Commutes (change : σ → σ) (action : EStateM ε σ α) : Prop where
  finalState : ∀ state, finalState action (change state) = change (finalState action state)
  returned : ∀ state, returned action (change state) = returned action state

namespace Commutes

variable {change : σ → σ}

theorem of_pure (value : α) : Commutes change (pure value : EStateM ε σ α) :=
  ⟨fun _ => rfl, fun _ => rfl⟩

theorem of_fromExcept (result : Except ε α) :
    Commutes change (fromExcept result : EStateM ε σ α) := by
  constructor
  · intro state
    rw [finalState_fromExcept, finalState_fromExcept]
  · intro state
    rw [returned_fromExcept, returned_fromExcept]

theorem of_modify {f : σ → σ} (hcommutes : ∀ state, f (change state) = change (f state)) :
    Commutes change (modify f : EStateM ε σ PUnit) :=
  ⟨hcommutes, fun _ => rfl⟩

theorem of_bind {first : EStateM ε σ α} {next : α → EStateM ε σ β}
    (hfirst : Commutes change first) (hnext : ∀ value, Commutes change (next value)) :
    Commutes change (first >>= next) := by
  constructor
  · intro state
    rw [finalState_bind, finalState_bind, hfirst.returned, hfirst.finalState]
    cases StateEffect.returned first state with
    | none => rfl
    | some value => exact (hnext value).finalState _
  · intro state
    rw [returned_bind, returned_bind, hfirst.returned, hfirst.finalState]
    exact congrArg _ (funext fun value => (hnext value).returned _)

/-- A reader that sees no difference. -/
theorem of_get_bind {next : σ → EStateM ε σ α} (hreads : ∀ state, next (change state) = next state)
    (hnext : ∀ state, Commutes change (next state)) : Commutes change (get >>= next) := by
  constructor
  · intro state
    rw [finalState_get_bind, finalState_get_bind, hreads]
    exact (hnext state).finalState state
  · intro state
    rw [returned_bind, returned_bind, returned_get, returned_get]
    change StateEffect.returned (next (change state)) (change state) =
      StateEffect.returned (next state) state
    rw [hreads]
    exact (hnext state).returned state

theorem of_ite {condition : Prop} [Decidable condition] {yes no : EStateM ε σ α}
    (hyes : Commutes change yes) (hno : Commutes change no) :
    Commutes change (if condition then yes else no) := by
  split
  · exact hyes
  · exact hno

end Commutes

/-- An action that returns raises nothing. -/
theorem Returns.ne_error {action : EStateM ε σ α} {state after : σ} {error : ε}
    (hreturns : Returns action state) : action state ≠ .error error after := by
  intro hraised
  unfold Returns returned at hreturns
  rw [hraised] at hreturns
  exact Bool.noConfusion hreturns

end StateEffect
end Foundation
end Intelipump
