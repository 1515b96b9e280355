import Mathlib.Data.List.Basic
import Mathlib.Tactic.Common

namespace Intelipump
namespace Foundation
namespace StopAndWait

/-!
# Stop-and-wait transfer with wrapping sequence numbers

One sender repeats a numbered block until it is acknowledged, one receiver
takes the block with the expected number and acknowledges the last one again.
Sequence numbers come from any type with a successor that moves (`next`), so
they may wrap.  The medium holds one frame and may lose it.  Either end may
lose its own numbers, alone.

Three invariants are given with the steps that keep them: `ExactlyOnce` for
runs without resets, `AckedDelivered` when no block is sent under the number
that was accepted last, and `InStep` when resets keep the numbers together.
-/

/-- The frame on its way. -/
inductive Medium (σ ι : Type) where
  | idle
  | block (seq : σ) (item : ι)
  | ack (seq : σ)
deriving DecidableEq, Repr

structure Line (σ ι : Type) where
  tx : σ
  waiting : Option ι
  expected : σ
  last : Option σ
  medium : Medium σ ι
  sent : List ι
  delivered : List ι
  acked : List ι
deriving DecidableEq, Repr

/-- What happens on a line.  `keep` is a step that the line does not see. -/
inductive Action (ι : Type) where
  | keep | lose
  | send (item : ι)
  | repeatBlock | receive | acknowledge
  | resetSender | forget | resetReceiver
deriving DecidableEq, Repr

variable {σ ι : Type}

namespace Line

/-- The receiver gets a block. -/
def takeBlock [DecidableEq σ] (next : σ → σ) (line : Line σ ι) (seq : σ) (item : ι) :
    Line σ ι :=
  if line.last = some seq then
    { line with medium := .ack seq, acked := line.acked ++ [item] }
  else if seq = line.expected then
    { line with
      expected := next seq
      last := some seq
      medium := .ack seq
      delivered := line.delivered ++ [item]
      acked := line.acked ++ [item] }
  else { line with medium := .idle }

/-- The sender gets an ACK. -/
def takeAck [DecidableEq σ] (next : σ → σ) (line : Line σ ι) (seq : σ) : Line σ ι :=
  if line.waiting ≠ none ∧ seq = line.tx then
    { line with tx := next line.tx, waiting := none, medium := .idle }
  else { line with medium := .idle }

/-- The sender puts its block on the medium again. -/
def offerAgain (line : Line σ ι) : Line σ ι :=
  match line.waiting with
  | some item => { line with medium := .block line.tx item }
  | none => line

theorem offerAgain_eq {line : Line σ ι} {item : ι} (hwaiting : line.waiting = some item) :
    line.offerAgain = { line with medium := .block line.tx item } := by
  unfold offerAgain
  split
  · rename_i other hother
    rw [hwaiting] at hother
    cases hother
    rfl
  · rename_i hnone
    rw [hwaiting] at hnone
    cases hnone

theorem offerAgain_cases (line : Line σ ι) :
    line.offerAgain = line ∨ ∃ item, line.waiting = some item ∧
      line.offerAgain = { line with medium := .block line.tx item } := by
  unfold offerAgain
  split
  · rename_i item hwaiting
    exact Or.inr ⟨item, hwaiting, rfl⟩
  · exact Or.inl rfl

def step [DecidableEq σ] (next : σ → σ) (start : σ) (line : Line σ ι) :
    Action ι → Line σ ι
  | .keep => line
  | .lose => { line with medium := .idle }
  | .send item =>
      { line with
        waiting := some item
        medium := .block line.tx item
        sent := line.sent ++ [item] }
  | .repeatBlock => line.offerAgain
  | .receive =>
      match line.medium with
      | .block seq item => line.takeBlock next seq item
      | _ => { line with medium := .idle }
  | .acknowledge =>
      match line.medium with
      | .ack seq => line.takeAck next seq
      | _ => { line with medium := .idle }
  | .resetSender => { line with tx := start, waiting := none }
  | .forget => { line with waiting := none }
  | .resetReceiver => { line with expected := start, last := none }

/-- A sender sends one block at a time. -/
def Allowed (line : Line σ ι) : Action ι → Prop
  | .send _ => line.waiting = none
  | _ => True

/-- Neither end loses its numbers or its block. -/
def Lasting : Action ι → Prop
  | .resetSender | .forget | .resetReceiver => False
  | _ => True

/-- No block is sent under the number that was accepted last. -/
def FreshNumber (line : Line σ ι) : Action ι → Prop
  | .send _ => line.last ≠ some line.tx
  | _ => True

instance [DecidableEq σ] (line : Line σ ι) (action : Action ι) :
    Decidable (line.FreshNumber action) := by
  unfold FreshNumber
  cases action <;> infer_instance

/-- When the block on its way is taken, the numbers are still together. -/
def BlockAgrees [DecidableEq σ] (next : σ → σ) (tx expected : σ) (last : Option σ) :
    Medium σ ι → Prop
  | .block seq _ => seq = expected → last ≠ some seq → seq = tx ∨ next seq = tx
  | _ => True

/-- A reset leaves the numbers together, and the frame on its way does not
change that. -/
def ResetAgrees [DecidableEq σ] (next : σ → σ) (start : σ) (line : Line σ ι) :
    Action ι → Prop
  | .resetSender =>
      (line.expected = start ∨ line.last = some start) ∧
        BlockAgrees next start line.expected line.last line.medium
  | .resetReceiver =>
      line.tx = start ∧
        match line.medium with
        | .ack seq => line.waiting.isSome → seq = line.tx → next line.tx = start
        | _ => True
  | _ => True

instance [DecidableEq σ] (next : σ → σ) (start : σ) (line : Line σ ι)
    (action : Action ι) : Decidable (line.ResetAgrees next start action) := by
  unfold ResetAgrees BlockAgrees
  cases action with
  | resetSender => cases line.medium <;> infer_instance
  | resetReceiver => cases line.medium <;> infer_instance
  | _ => infer_instance

/-! ## Exactly once, in order -/

structure ExactlyOnce (next : σ → σ) (line : Line σ ι) : Prop where
  idle : line.waiting = none →
    line.expected = line.tx ∧ line.last ≠ some line.tx ∧ line.sent = line.delivered
  waiting : ∀ item, line.waiting = some item →
    (line.expected = line.tx ∧ line.last ≠ some line.tx ∧
        line.sent = line.delivered ++ [item]) ∨
      (line.expected = next line.tx ∧ line.last = some line.tx ∧
        line.sent = line.delivered)
  block : ∀ seq item, line.medium = .block seq item →
    seq = line.tx ∧ line.waiting = some item
  ack : ∀ seq, line.medium = .ack seq → line.last = some seq

/-- An invariant that asks for nothing on an idle medium survives a loss. -/
theorem ExactlyOnce.lose {next : σ → σ} {line : Line σ ι}
    (hinv : line.ExactlyOnce next) : ExactlyOnce next { line with medium := .idle } where
  idle := hinv.idle
  waiting := hinv.waiting
  block := fun _ _ hmedium => (nomatch hmedium)
  ack := fun _ hmedium => (nomatch hmedium)

theorem ExactlyOnce.takeBlock [DecidableEq σ] {next : σ → σ} {line : Line σ ι}
    (hinv : line.ExactlyOnce next) {seq : σ} {item : ι}
    (hmedium : line.medium = .block seq item) :
    (line.takeBlock next seq item).ExactlyOnce next := by
  obtain ⟨rfl, hwaiting⟩ := hinv.block seq item hmedium
  unfold Line.takeBlock
  rcases hinv.waiting item hwaiting with ⟨hexpected, hlast, hsent⟩ |
    ⟨hexpected, hlast, hsent⟩
  · rw [if_neg hlast, if_pos hexpected.symm]
    refine ⟨fun hnone => ?_, fun other hother => ?_, fun _ _ h => (nomatch h), ?_⟩
    · change line.waiting = none at hnone
      rw [hwaiting] at hnone
      cases hnone
    · exact Or.inr ⟨rfl, rfl, hsent⟩
    · intro seq hack
      cases hack
      rfl
  · rw [if_pos hlast]
    refine ⟨hinv.idle, hinv.waiting, fun _ _ h => (nomatch h), ?_⟩
    intro seq hack
    cases hack
    exact hlast

theorem ExactlyOnce.takeAck [DecidableEq σ] {next : σ → σ}
    (hnext : ∀ seq, next seq ≠ seq) {line : Line σ ι} (hinv : line.ExactlyOnce next)
    {seq : σ} (hmedium : line.medium = .ack seq) :
    (line.takeAck next seq).ExactlyOnce next := by
  unfold Line.takeAck
  split
  · rename_i htaken
    obtain ⟨hwaits, rfl⟩ := htaken
    obtain ⟨item, hwaiting⟩ := Option.ne_none_iff_exists'.mp hwaits
    have hlast := hinv.ack _ hmedium
    rcases hinv.waiting item hwaiting with ⟨-, hother, -⟩ | ⟨hexpected, -, hsent⟩
    · exact absurd hlast hother
    · refine ⟨fun _ => ⟨hexpected, fun h => ?_, hsent⟩, fun _ h => (nomatch h),
        fun _ _ h => (nomatch h), fun _ h => (nomatch h)⟩
      change line.last = some (next line.tx) at h
      rw [hlast] at h
      exact hnext _ (Option.some.inj h).symm
  · exact hinv.lose

/-- Without resets every step keeps the order and the count. -/
theorem ExactlyOnce.step [DecidableEq σ] {next : σ → σ}
    (hnext : ∀ seq, next seq ≠ seq) (start : σ) {line : Line σ ι}
    (hinv : line.ExactlyOnce next) {action : Action ι} (hallowed : line.Allowed action)
    (hlasting : Lasting action) :
    (line.step next start action).ExactlyOnce next := by
  cases action with
  | keep => exact hinv
  | lose => exact hinv.lose
  | send item =>
      obtain ⟨hexpected, hlast, hsent⟩ := hinv.idle hallowed
      refine ⟨fun h => (nomatch h), fun other hother => ?_, fun seq other hblock => ?_,
        fun _ h => (nomatch h)⟩
      · cases hother
        exact Or.inl ⟨hexpected, hlast, congrArg (· ++ [item]) hsent⟩
      · cases hblock
        exact ⟨rfl, rfl⟩
  | repeatBlock =>
      change ExactlyOnce next line.offerAgain
      rcases line.offerAgain_cases with hkept | ⟨item, hwaiting, hoffered⟩
      · rw [hkept]
        exact hinv
      · rw [hoffered]
        refine ⟨hinv.idle, hinv.waiting, fun seq other hblock => ?_,
          fun _ h => (nomatch h)⟩
        cases hblock
        exact ⟨rfl, hwaiting⟩
  | receive =>
      unfold Line.step
      dsimp only
      cases hmedium : line.medium with
      | block seq item => exact hinv.takeBlock hmedium
      | idle => exact hinv.lose
      | ack seq => exact hinv.lose
  | acknowledge =>
      unfold Line.step
      dsimp only
      cases hmedium : line.medium with
      | ack seq => exact hinv.takeAck hnext hmedium
      | idle => exact hinv.lose
      | block seq item => exact hinv.lose
  | resetSender => exact hlasting.elim
  | forget => exact hlasting.elim
  | resetReceiver => exact hlasting.elim

/-- What was delivered is what was sent, in order, up to the block on its
way. -/
theorem ExactlyOnce.delivered_prefix {next : σ → σ} {line : Line σ ι}
    (hinv : line.ExactlyOnce next) :
    line.delivered <+: line.sent ∧ line.sent.length ≤ line.delivered.length + 1 := by
  cases hwaiting : line.waiting with
  | none =>
      rw [(hinv.idle hwaiting).2.2]
      exact ⟨List.prefix_refl _, Nat.le_succ _⟩
  | some item =>
      rcases hinv.waiting item hwaiting with ⟨-, -, hsent⟩ | ⟨-, -, hsent⟩
      · rw [hsent, List.length_append]
        exact ⟨List.prefix_append _ _, Nat.le_refl _⟩
      · rw [hsent]
        exact ⟨List.prefix_refl _, Nat.le_succ _⟩

/-! ## Acknowledged blocks were delivered -/

structure AckedDelivered (line : Line σ ι) : Prop where
  acked : ∀ item ∈ line.acked, item ∈ line.delivered
  waiting : ∀ item, line.waiting = some item →
    item ∈ line.delivered ∨ line.last ≠ some line.tx
  block : ∀ seq item, line.medium = .block seq item →
    item ∈ line.delivered ∨ line.last ≠ some seq
  same : ∀ seq item other, line.medium = .block seq item → line.waiting = some other →
    seq = line.tx ∧ item = other

theorem AckedDelivered.lose {line : Line σ ι} (hinv : line.AckedDelivered) :
    AckedDelivered { line with medium := .idle } where
  acked := hinv.acked
  waiting := hinv.waiting
  block := fun _ _ hmedium => (nomatch hmedium)
  same := fun _ _ _ hmedium => (nomatch hmedium)

theorem AckedDelivered.takeBlock [DecidableEq σ] (next : σ → σ) {line : Line σ ι}
    (hinv : line.AckedDelivered) {seq : σ} {item : ι}
    (hmedium : line.medium = .block seq item) :
    (line.takeBlock next seq item).AckedDelivered := by
  unfold Line.takeBlock
  split
  · rename_i hlast
    have hdelivered := (hinv.block seq item hmedium).resolve_right (not_not.mpr hlast)
    refine ⟨fun other hother => ?_, hinv.waiting, fun _ _ h => (nomatch h),
      fun _ _ _ h => (nomatch h)⟩
    rcases List.mem_append.mp hother with hold | hnew
    · exact hinv.acked other hold
    · rw [List.mem_singleton.mp hnew]
      exact hdelivered
  · split
    · refine ⟨fun other hother => ?_, fun other hother => ?_, fun _ _ h => (nomatch h),
        fun _ _ _ h => (nomatch h)⟩
      · rcases List.mem_append.mp hother with hold | hnew
        · exact List.mem_append_left _ (hinv.acked other hold)
        · exact List.mem_append_right _ hnew
      · obtain ⟨-, rfl⟩ := hinv.same seq item other hmedium hother
        exact Or.inl (List.mem_append_right _ (List.mem_singleton_self _))
    · exact hinv.lose

/-- As long as blocks get a number other than the accepted one, an
acknowledged block was delivered, whatever either end forgets. -/
theorem AckedDelivered.step [DecidableEq σ] (next : σ → σ) (start : σ) {line : Line σ ι}
    (hinv : line.AckedDelivered) {action : Action ι} (hfresh : line.FreshNumber action) :
    (line.step next start action).AckedDelivered := by
  cases action with
  | keep => exact hinv
  | lose => exact hinv.lose
  -- a new block carries a number that was not acknowledged
  | send item =>
      refine ⟨hinv.acked, fun _ _ => Or.inr hfresh, fun seq other hblock => ?_,
        fun seq other third hblock hwaiting => ?_⟩
      · cases hblock
        exact Or.inr hfresh
      · cases hblock
        cases hwaiting
        exact ⟨rfl, rfl⟩
  | repeatBlock =>
      change AckedDelivered line.offerAgain
      rcases line.offerAgain_cases with hkept | ⟨item, hwaiting, hoffered⟩
      · rw [hkept]
        exact hinv
      · rw [hoffered]
        refine ⟨hinv.acked, hinv.waiting, fun seq other hblock => ?_,
          fun seq other third hblock hthird => ?_⟩
        · cases hblock
          exact hinv.waiting item hwaiting
        · cases hblock
          exact ⟨rfl, Option.some.inj (hwaiting.symm.trans hthird)⟩
  | receive =>
      unfold Line.step
      dsimp only
      cases hmedium : line.medium with
      | block seq item => exact hinv.takeBlock next hmedium
      | idle => exact hinv.lose
      | ack seq => exact hinv.lose
  | acknowledge =>
      have hcleared : AckedDelivered
          { line with tx := next line.tx, waiting := none, medium := .idle } :=
        ⟨hinv.acked, fun _ h => (nomatch h), fun _ _ h => (nomatch h),
          fun _ _ _ h => (nomatch h)⟩
      unfold Line.step Line.takeAck
      dsimp only
      cases line.medium with
      | ack seq =>
          dsimp only
          split
          · exact hcleared
          · exact hinv.lose
      | idle => exact hinv.lose
      | block seq item => exact hinv.lose
  | resetSender =>
      exact ⟨hinv.acked, fun _ h => (nomatch h), hinv.block, fun _ _ _ _ h => (nomatch h)⟩
  | forget =>
      exact ⟨hinv.acked, fun _ h => (nomatch h), hinv.block, fun _ _ _ _ h => (nomatch h)⟩
  | resetReceiver =>
      exact ⟨hinv.acked, fun _ _ => Or.inr fun h => (nomatch h),
        fun _ _ _ => Or.inr fun h => (nomatch h), hinv.same⟩

/-! ## Nothing comes from nowhere -/

structure Sourced (line : Line σ ι) : Prop where
  waiting : ∀ item, line.waiting = some item → item ∈ line.sent
  block : ∀ seq item, line.medium = .block seq item → item ∈ line.sent
  delivered : ∀ item ∈ line.delivered, item ∈ line.sent
  acked : ∀ item ∈ line.acked, item ∈ line.sent

theorem Sourced.lose {line : Line σ ι} (hinv : line.Sourced) :
    Sourced { line with medium := .idle } :=
  ⟨hinv.waiting, fun _ _ h => (nomatch h), hinv.delivered, hinv.acked⟩

/-- Whatever either end forgets, only sent items arrive. -/
theorem Sourced.step [DecidableEq σ] (next : σ → σ) (start : σ) {line : Line σ ι}
    (hinv : line.Sourced) (action : Action ι) : (line.step next start action).Sourced := by
  -- the receiving side only takes over what is on the medium
  have hsnoc : ∀ {items : List ι} {item : ι}, (∀ other ∈ items, other ∈ line.sent) →
      item ∈ line.sent → ∀ other ∈ items ++ [item], other ∈ line.sent := by
    intro items item hitems hitem other hother
    rcases List.mem_append.mp hother with hold | hnew
    · exact hitems other hold
    · rw [List.mem_singleton.mp hnew]
      exact hitem
  cases action with
  | keep => exact hinv
  | lose => exact hinv.lose
  | send item =>
      have hnew : item ∈ line.sent ++ [item] := List.mem_append_right _ List.mem_cons_self
      refine ⟨fun other h => ?_, fun seq other h => ?_, fun other h => ?_,
        fun other h => ?_⟩
      · cases h
        exact hnew
      · cases h
        exact hnew
      · exact List.mem_append_left _ (hinv.delivered other h)
      · exact List.mem_append_left _ (hinv.acked other h)
  | repeatBlock =>
      change Sourced line.offerAgain
      rcases line.offerAgain_cases with hkept | ⟨item, hwaiting, hoffered⟩
      · rw [hkept]
        exact hinv
      · rw [hoffered]
        refine ⟨hinv.waiting, fun seq other h => ?_, hinv.delivered, hinv.acked⟩
        cases h
        exact hinv.waiting item hwaiting
  | receive =>
      unfold Line.step Line.takeBlock
      dsimp only
      cases hmedium : line.medium with
      | block seq item =>
          have hitem := hinv.block seq item hmedium
          dsimp only
          split
          · -- a repeat is acknowledged and not delivered
            exact ⟨hinv.waiting, fun _ _ h => (nomatch h), hinv.delivered,
              hsnoc hinv.acked hitem⟩
          · split
            · exact ⟨hinv.waiting, fun _ _ h => (nomatch h), hsnoc hinv.delivered hitem,
                hsnoc hinv.acked hitem⟩
            · exact hinv.lose
      | idle => exact hinv.lose
      | ack seq => exact hinv.lose
  | acknowledge =>
      unfold Line.step Line.takeAck
      dsimp only
      cases line.medium with
      | ack seq =>
          dsimp only
          split
          · exact ⟨fun _ h => (nomatch h), fun _ _ h => (nomatch h), hinv.delivered,
              hinv.acked⟩
          · exact hinv.lose
      | idle => exact hinv.lose
      | block seq item => exact hinv.lose
  | resetSender =>
      exact ⟨fun _ h => (nomatch h), hinv.block, hinv.delivered, hinv.acked⟩
  | forget => exact ⟨fun _ h => (nomatch h), hinv.block, hinv.delivered, hinv.acked⟩
  | resetReceiver => exact ⟨hinv.waiting, hinv.block, hinv.delivered, hinv.acked⟩

/-! ## Numbers that stay together -/

structure InStep [DecidableEq σ] (next : σ → σ) (line : Line σ ι) : Prop where
  follows : ∀ seq, line.last = some seq → line.expected = next seq
  agree : line.expected = line.tx ∨ line.last = some line.tx
  block : BlockAgrees next line.tx line.expected line.last line.medium
  ack : ∀ seq, line.medium = .ack seq → line.waiting.isSome → seq = line.tx →
    line.expected = next line.tx ∨ line.last = some (next line.tx)

theorem InStep.lose [DecidableEq σ] {next : σ → σ} {line : Line σ ι}
    (hinv : line.InStep next) : InStep next { line with medium := .idle } where
  follows := hinv.follows
  agree := hinv.agree
  block := trivial
  ack := fun _ hmedium => (nomatch hmedium)

theorem InStep.takeBlock [DecidableEq σ] {next : σ → σ} {line : Line σ ι}
    (hinv : line.InStep next) {seq : σ} {item : ι}
    (hmedium : line.medium = .block seq item) :
    (line.takeBlock next seq item).InStep next := by
  have hblock := hinv.block
  rw [hmedium] at hblock
  unfold Line.takeBlock
  split
  · rename_i hlast
    refine ⟨hinv.follows, hinv.agree, trivial, ?_⟩
    intro other hack _ hother
    cases hack
    change seq = line.tx at hother
    subst hother
    exact Or.inl (hinv.follows _ hlast)
  · rename_i hlast
    split
    · rename_i hexpected
      refine ⟨fun other hother => ?_, ?_, trivial, ?_⟩
      · cases hother
        rfl
      · rcases hblock hexpected hlast with hsame | hbefore
        · exact Or.inr (congrArg some hsame)
        · exact Or.inl hbefore
      · intro other hack _ hother
        cases hack
        change seq = line.tx at hother
        subst hother
        exact Or.inl rfl
    · exact hinv.lose

theorem InStep.takeAck [DecidableEq σ] {next : σ → σ} {line : Line σ ι}
    (hinv : line.InStep next) {seq : σ} (hmedium : line.medium = .ack seq) :
    (line.takeAck next seq).InStep next := by
  unfold Line.takeAck
  split
  · rename_i htaken
    have hwaiting := Option.isSome_iff_ne_none.mpr htaken.1
    exact ⟨hinv.follows, hinv.ack seq hmedium hwaiting htaken.2, trivial,
      fun _ h => (nomatch h)⟩
  · exact hinv.lose

/-- As long as resets agree with the other end, so do the numbers. -/
theorem InStep.step [DecidableEq σ] {next : σ → σ} {start : σ} {line : Line σ ι}
    (hinv : line.InStep next) {action : Action ι}
    (hagrees : line.ResetAgrees next start action) :
    (line.step next start action).InStep next := by
  cases action with
  | keep => exact hinv
  | lose => exact hinv.lose
  | send item =>
      exact ⟨hinv.follows, hinv.agree, fun _ _ => Or.inl rfl, fun _ h => (nomatch h)⟩
  | repeatBlock =>
      change InStep next line.offerAgain
      rcases line.offerAgain_cases with hkept | ⟨item, -, hoffered⟩
      · rw [hkept]
        exact hinv
      · rw [hoffered]
        exact ⟨hinv.follows, hinv.agree, fun _ _ => Or.inl rfl, fun _ h => (nomatch h)⟩
  | receive =>
      unfold Line.step
      dsimp only
      cases hmedium : line.medium with
      | block seq item => exact hinv.takeBlock hmedium
      | idle => exact hinv.lose
      | ack seq => exact hinv.lose
  | acknowledge =>
      unfold Line.step
      dsimp only
      cases hmedium : line.medium with
      | ack seq => exact hinv.takeAck hmedium
      | idle => exact hinv.lose
      | block seq item => exact hinv.lose
  | resetSender => exact ⟨hinv.follows, hagrees.1, hagrees.2, fun _ _ h => (nomatch h)⟩
  | forget => exact ⟨hinv.follows, hinv.agree, hinv.block, fun _ _ h => (nomatch h)⟩
  | resetReceiver =>
      obtain ⟨htx, hack⟩ := hagrees
      refine ⟨fun _ h => (nomatch h), Or.inl htx.symm, ?_, ?_⟩
      · change BlockAgrees next line.tx start none line.medium
        unfold BlockAgrees
        split
        · exact fun hseq _ => Or.inl (hseq.trans htx.symm)
        · trivial
      · intro seq hmedium hwaiting hseq
        change line.medium = .ack seq at hmedium
        rw [hmedium] at hack
        exact Or.inl (hack hwaiting hseq).symm

end Line
end StopAndWait
end Foundation
end Intelipump
