import Mathlib.Tactic.Common
import Intelipump.Foundation.StopAndWait

namespace Intelipump
namespace Foundation
namespace StopAndWait

/-!
# Stop-and-wait transfer over two queues

The two ends of a stop-and-wait line with any number of frames on their way in each
direction.  A frame that is repeated or acknowledged too early is not withdrawn, so
stale blocks and stale ACKs arrive later, behind the ones sent before them; any frame
may be lost.

`Ordered` is the invariant: what is under way is a run of stale frames and behind it a
run of current ones.  Because neither queue reorders, two different numbers are enough
to tell them apart.  The frame that an end handles is on the medium of its line for
the step, and what the end answers is there after it.
-/

variable {σ ι : Type}

namespace Medium

/-- The blocks on a medium. -/
def blocks : Medium σ ι → List (σ × ι)
  | .block seq item => [(seq, item)]
  | _ => []

/-- The ACKs on a medium. -/
def acks : Medium σ ι → List σ
  | .ack seq => [seq]
  | _ => []

end Medium

namespace Line

/-- Behind a current number only current ones follow. -/
def CurrentLast (tx : σ) (numbers : List σ) : Prop :=
  numbers.Pairwise fun first second => first = tx → second = tx

theorem CurrentLast.concat {tx : σ} {numbers : List σ} (hlast : CurrentLast tx numbers) :
    CurrentLast tx (numbers ++ [tx]) := by
  refine List.pairwise_append.mpr ⟨hlast, List.pairwise_singleton _ _, ?_⟩
  intro first _ second hsecond _
  exact List.mem_singleton.mp hsecond

/-- Stale numbers, and the current one behind them. -/
theorem currentLast_of_stale {tx : σ} {numbers : List σ} (hstale : ∀ seq ∈ numbers, seq ≠ tx) :
    CurrentLast tx (numbers ++ [tx]) :=
  CurrentLast.concat (List.pairwise_of_forall_mem_list fun first hfirst _ _ hsame =>
    absurd hsame (hstale first hfirst))

/-- Where the transfer of the current block stands, with the blocks and the ACKs that are
on their way. -/
inductive Phase (next : σ → σ) (line : Line σ ι) (blocks : List (σ × ι)) (acks : List σ) :
    Prop where
  /-- Nothing is offered; all that is under way belongs to the last block. -/
  | resting (hwaiting : line.waiting = none) (hexpected : line.expected = line.tx)
      (hfresh : line.last ≠ some line.tx) (hsent : line.sent = line.delivered)
      (hblocks : ∀ block ∈ blocks, line.last = some block.1 ∧ block.2 ∈ line.delivered)
      (hacks : ∀ seq ∈ acks, line.last = some seq) : Phase next line blocks acks
  /-- A block is offered and not taken; the ACKs are all stale. -/
  | offered (item : ι) (hwaiting : line.waiting = some item)
      (hexpected : line.expected = line.tx) (hfresh : line.last ≠ some line.tx)
      (hsent : line.sent = line.delivered ++ [item])
      (hblocks : ∀ block ∈ blocks,
        (line.last = some block.1 ∧ block.2 ∈ line.delivered) ∨ block = (line.tx, item))
      (horder : CurrentLast line.tx (blocks.map (·.1)))
      (hacks : ∀ seq ∈ acks, line.last = some seq) : Phase next line blocks acks
  /-- The block is taken, and its ACK has not arrived; no block is stale. -/
  | taken (item : ι) (hwaiting : line.waiting = some item)
      (hexpected : line.expected = next line.tx) (hlast : line.last = some line.tx)
      (hsent : line.sent = line.delivered) (hitem : item ∈ line.delivered)
      (hblocks : ∀ block ∈ blocks, block.1 = line.tx ∧ block.2 ∈ line.delivered)
      (horder : CurrentLast line.tx acks) : Phase next line blocks acks

/-- The invariant of a line with two queues. -/
structure Ordered (next : σ → σ) (line : Line σ ι) (blocks : List (σ × ι))
    (acks : List σ) : Prop where
  phase : Phase next line blocks acks
  acked : ∀ item ∈ line.acked, item ∈ line.delivered

namespace Ordered

variable {next : σ → σ} {line : Line σ ι} {blocks : List (σ × ι)} {acks : List σ}

/-- Frames may be lost anywhere. -/
theorem lose (hordered : Ordered next line blocks acks) {blocks' : List (σ × ι)}
    {acks' : List σ} (hblocks' : blocks'.Sublist blocks) (hacks' : acks'.Sublist acks) :
    Ordered next line blocks' acks' := by
  refine ⟨?_, hordered.acked⟩
  cases hordered.phase with
  | resting hwaiting hexpected hfresh hsent hblocks hacks =>
      exact .resting hwaiting hexpected hfresh hsent
        (fun block hblock => hblocks block (hblocks'.subset hblock))
        (fun seq hseq => hacks seq (hacks'.subset hseq))
  | offered item hwaiting hexpected hfresh hsent hblocks horder hacks =>
      exact .offered item hwaiting hexpected hfresh hsent
        (fun block hblock => hblocks block (hblocks'.subset hblock))
        (horder.sublist (hblocks'.map _))
        (fun seq hseq => hacks seq (hacks'.subset hseq))
  | taken item hwaiting hexpected hlast hsent hitem hblocks horder =>
      exact .taken item hwaiting hexpected hlast hsent hitem
        (fun block hblock => hblocks block (hblocks'.subset hblock))
        (horder.sublist hacks')

/-- The medium is not part of the invariant. -/
theorem onMedium (hordered : Ordered next line blocks acks) (medium : Medium σ ι) :
    Ordered next { line with medium := medium } blocks acks := by
  refine ⟨?_, hordered.acked⟩
  cases hordered.phase with
  | resting hwaiting hexpected hfresh hsent hblocks hacks =>
      exact .resting hwaiting hexpected hfresh hsent hblocks hacks
  | offered item hwaiting hexpected hfresh hsent hblocks horder hacks =>
      exact .offered item hwaiting hexpected hfresh hsent hblocks horder hacks
  | taken item hwaiting hexpected hlast hsent hitem hblocks horder =>
      exact .taken item hwaiting hexpected hlast hsent hitem hblocks horder

/-- A new block goes behind what is under way, all of which is then stale. -/
theorem send (hordered : Ordered next line blocks acks) (hidle : line.waiting = none)
    (item : ι) :
    Ordered next { line with waiting := some item, sent := line.sent ++ [item] }
      (blocks ++ [(line.tx, item)]) acks := by
  refine ⟨?_, hordered.acked⟩
  cases hordered.phase with
  | resting hwaiting hexpected hfresh hsent hblocks hacks =>
      have hstale : ∀ seq ∈ blocks.map (·.1), seq ≠ line.tx := by
        intro seq hseq hsame
        obtain ⟨block, hblock, rfl⟩ := List.mem_map.mp hseq
        exact hfresh (hsame ▸ (hblocks block hblock).1)
      refine .offered item rfl hexpected hfresh (congrArg (· ++ [item]) hsent) ?_ ?_ hacks
      · intro block hblock
        rcases List.mem_append.mp hblock with hold | hnew
        · exact Or.inl (hblocks block hold)
        · exact Or.inr (List.mem_singleton.mp hnew)
      · rw [List.map_append]
        exact currentLast_of_stale hstale
  | offered _ hwaiting => exact absurd (hidle.symm.trans hwaiting) (Option.some_ne_none _).symm
  | taken _ hwaiting => exact absurd (hidle.symm.trans hwaiting) (Option.some_ne_none _).symm

/-- The block that waits goes out once more. -/
theorem repeatBlock (hordered : Ordered next line blocks acks) {item : ι}
    (hwaits : line.waiting = some item) :
    Ordered next line (blocks ++ [(line.tx, item)]) acks := by
  refine ⟨?_, hordered.acked⟩
  cases hordered.phase with
  | resting hwaiting => exact absurd (hwaiting.symm.trans hwaits) (Option.some_ne_none _).symm
  | offered other hwaiting hexpected hfresh hsent hblocks horder hacks =>
      obtain rfl := Option.some.inj (hwaiting.symm.trans hwaits)
      refine .offered other hwaiting hexpected hfresh hsent ?_ ?_ hacks
      · intro block hblock
        rcases List.mem_append.mp hblock with hold | hnew
        · exact hblocks block hold
        · exact Or.inr (List.mem_singleton.mp hnew)
      · rw [List.map_append]
        exact horder.concat
  | taken other hwaiting hexpected hlast hsent hitem hblocks horder =>
      obtain rfl := Option.some.inj (hwaiting.symm.trans hwaits)
      refine .taken other hwaiting hexpected hlast hsent hitem ?_ horder
      intro block hblock
      rcases List.mem_append.mp hblock with hold | hnew
      · exact hblocks block hold
      · rw [List.mem_singleton.mp hnew]
        exact ⟨rfl, hitem⟩

/-- A block of the number taken last is acknowledged again. -/
theorem receive_again [DecidableEq σ] {seq : σ} {item : ι}
    (hordered : Ordered next line ((seq, item) :: blocks) acks)
    (hlast : line.last = some seq) (hdelivered : item ∈ line.delivered)
    (hphase : Phase next line blocks (acks ++ [seq])) :
    Ordered next (line.takeBlock next seq item) blocks
      (acks ++ (line.takeBlock next seq item).medium.acks) := by
  have htake : line.takeBlock next seq item =
      { line with medium := .ack seq, acked := line.acked ++ [item] } := if_pos hlast
  rw [htake]
  refine ⟨?_, fun other hother => ?_⟩
  · cases hphase with
    | resting hwaiting hexpected hfresh hsent hblocks hacks =>
        exact .resting hwaiting hexpected hfresh hsent hblocks hacks
    | offered item hwaiting hexpected hfresh hsent hblocks horder hacks =>
        exact .offered item hwaiting hexpected hfresh hsent hblocks horder hacks
    | taken item hwaiting hexpected hlast hsent hitem hblocks horder =>
        exact .taken item hwaiting hexpected hlast hsent hitem hblocks horder
  · rcases List.mem_append.mp hother with hold | hnew
    · exact hordered.acked other hold
    · rw [List.mem_singleton.mp hnew]
      exact hdelivered

/-- The receiver takes the oldest block: a stale one is acknowledged again, the current one
is delivered, and from then on no block under way is stale. -/
theorem receive [DecidableEq σ] {seq : σ} {item : ι}
    (hordered : Ordered next line ((seq, item) :: blocks) acks) :
    Ordered next (line.takeBlock next seq item) blocks
      (acks ++ (line.takeBlock next seq item).medium.acks) := by
  cases hordered.phase with
  | resting hwaiting hexpected hfresh hsent hblocks hacks =>
      rw [List.forall_mem_cons] at hblocks
      obtain ⟨⟨hlast, hdelivered⟩, hblocks⟩ := hblocks
      refine hordered.receive_again hlast hdelivered ?_
      refine .resting hwaiting hexpected hfresh hsent hblocks fun other hother => ?_
      rcases List.mem_append.mp hother with hold | hnew
      · exact hacks other hold
      · rw [List.mem_singleton.mp hnew]
        exact hlast
  | taken offer hwaiting hexpected hlast hsent hitem hblocks horder =>
      rw [List.forall_mem_cons] at hblocks
      obtain ⟨⟨hseq, hdelivered⟩, hblocks⟩ := hblocks
      change seq = line.tx at hseq
      subst hseq
      refine hordered.receive_again hlast hdelivered ?_
      exact .taken offer hwaiting hexpected hlast hsent hitem hblocks horder.concat
  | offered offer hwaiting hexpected hfresh hsent hblocks horder hacks =>
      rw [List.forall_mem_cons] at hblocks
      rw [List.map_cons] at horder
      obtain ⟨hfirst, hblocks⟩ := hblocks
      obtain ⟨hbehind, horder⟩ := List.pairwise_cons.mp horder
      rcases hfirst with ⟨hlast, hdelivered⟩ | hcurrent
      · -- a stale block
        refine hordered.receive_again hlast hdelivered ?_
        refine .offered offer hwaiting hexpected hfresh hsent hblocks horder ?_
        intro other hother
        rcases List.mem_append.mp hother with hold | hnew
        · exact hacks other hold
        · rw [List.mem_singleton.mp hnew]
          exact hlast
      · -- the block that is expected
        obtain ⟨rfl, rfl⟩ := Prod.mk.inj hcurrent
        have htake : line.takeBlock next line.tx item =
            { line with
              expected := next line.tx
              last := some line.tx
              medium := .ack line.tx
              delivered := line.delivered ++ [item]
              acked := line.acked ++ [item] } := by
          unfold Line.takeBlock
          rw [if_neg hfresh, if_pos hexpected.symm]
        have hnew : item ∈ line.delivered ++ [item] :=
          List.mem_append_right _ (List.mem_singleton_self item)
        rw [htake]
        refine ⟨.taken item hwaiting rfl rfl hsent hnew ?_ ?_, fun other hother => ?_⟩
        · intro block hblock
          have hnumber := hbehind block.1 (List.mem_map_of_mem hblock) rfl
          refine ⟨hnumber, ?_⟩
          rcases hblocks block hblock with ⟨hlast, -⟩ | rfl
          · exact absurd (hnumber ▸ hlast) hfresh
          · exact hnew
        · exact currentLast_of_stale fun seq hseq hsame => hfresh (hsame ▸ hacks seq hseq)
        · rcases List.mem_append.mp hother with hold | hlast
          · exact List.mem_append_left _ (hordered.acked other hold)
          · exact List.mem_append_right _ hlast

/-- The sender takes the oldest ACK: the current one ends the transfer, and from then on
no ACK under way is of another number. -/
theorem acknowledge [DecidableEq σ] (hnext : ∀ seq, next seq ≠ seq) {seq : σ}
    (hordered : Ordered next line blocks (seq :: acks)) :
    Ordered next (line.takeAck next seq) blocks acks := by
  have hrest := hordered.lose (List.Sublist.refl blocks) (List.sublist_cons_self _ acks)
  have hkept : ¬ (line.waiting ≠ none ∧ seq = line.tx) →
      Ordered next (line.takeAck next seq) blocks acks := by
    intro hnot
    rw [Line.takeAck, if_neg hnot]
    exact hrest.onMedium .idle
  cases hordered.phase with
  | resting hwaiting => exact hkept fun htaken => htaken.1 hwaiting
  | offered item hwaiting hexpected hfresh hsent hblocks horder hacks =>
      refine hkept fun htaken => hfresh ?_
      rw [hacks seq List.mem_cons_self, htaken.2]
  | taken item hwaiting hexpected hlast hsent hitem hblocks horder =>
      by_cases hcurrent : seq = line.tx
      · subst hcurrent
        obtain ⟨hbehind, -⟩ := List.pairwise_cons.mp horder
        have htake : line.takeAck next line.tx =
            { line with tx := next line.tx, waiting := none, medium := .idle } :=
          if_pos ⟨by rw [hwaiting]; exact Option.some_ne_none item, rfl⟩
        rw [htake]
        refine ⟨.resting rfl hexpected ?_ hsent ?_ ?_, hordered.acked⟩
        · change line.last ≠ some (next line.tx)
          rw [hlast]
          exact fun hsame => hnext _ (Option.some.inj hsame).symm
        · intro block hblock
          obtain ⟨hnumber, hdelivered⟩ := hblocks block hblock
          exact ⟨hnumber ▸ hlast, hdelivered⟩
        · intro other hother
          rw [hbehind other hother rfl]
          exact hlast
      · exact hkept fun htaken => hcurrent htaken.2

/-- One step of either end, with the frame that it handles taken from the front of its
queue and the frame that it sends put at the end of the other one. -/
theorem step [DecidableEq σ] (hnext : ∀ seq, next seq ≠ seq) (start : σ)
    (hordered : Ordered next line (line.medium.blocks ++ blocks) (line.medium.acks ++ acks))
    {action : Action ι} (hallowed : line.Allowed action) (hlasting : Lasting action)
    (hquiet : action = .keep ∨ action = .repeatBlock → line.medium = .idle) :
    Ordered next (line.step next start action)
      (blocks ++ (line.step next start action).medium.blocks)
      (acks ++ (line.step next start action).medium.acks) := by
  have hdropped := hordered.lose (List.sublist_append_right line.medium.blocks blocks)
    (List.sublist_append_right line.medium.acks acks)
  have hsilent : Ordered next { line with medium := .idle } (blocks ++ []) (acks ++ []) := by
    rw [List.append_nil, List.append_nil]
    exact hdropped.onMedium .idle
  cases action with
  | keep =>
      have hidle := hquiet (Or.inl rfl)
      change Ordered next line (blocks ++ line.medium.blocks) (acks ++ line.medium.acks)
      rw [hidle]
      change Ordered next line (blocks ++ []) (acks ++ [])
      rw [List.append_nil, List.append_nil]
      exact hdropped
  | lose => exact hsilent
  | send item =>
      change Ordered next _ (blocks ++ [(line.tx, item)]) (acks ++ [])
      rw [List.append_nil]
      exact (hdropped.send hallowed item).onMedium (.block line.tx item)
  | repeatBlock =>
      change Ordered next line.offerAgain (blocks ++ line.offerAgain.medium.blocks)
        (acks ++ line.offerAgain.medium.acks)
      rcases line.offerAgain_cases with hkept | ⟨item, hwaiting, hoffered⟩
      · rw [hkept, hquiet (Or.inr rfl)]
        change Ordered next line (blocks ++ []) (acks ++ [])
        rw [List.append_nil, List.append_nil]
        exact hdropped
      · rw [hoffered]
        change Ordered next _ (blocks ++ [(line.tx, item)]) (acks ++ [])
        rw [List.append_nil]
        exact (hdropped.repeatBlock hwaiting).onMedium (.block line.tx item)
  | receive =>
      unfold Line.step
      dsimp only
      cases hmedium : line.medium with
      | idle => exact hsilent
      | ack seq => exact hsilent
      | block seq item =>
          rw [hmedium] at hordered
          have hacks := hordered.receive
          have hblocks : (line.takeBlock next seq item).medium.blocks = [] := by
            unfold Line.takeBlock
            split
            · rfl
            · split <;> rfl
          dsimp only
          rw [hblocks, List.append_nil]
          exact hacks
  | acknowledge =>
      unfold Line.step
      dsimp only
      cases hmedium : line.medium with
      | idle => exact hsilent
      | block seq item => exact hsilent
      | ack seq =>
          rw [hmedium] at hordered
          have htaken := Ordered.acknowledge hnext hordered
          have hidle : (line.takeAck next seq).medium = .idle := by
            unfold Line.takeAck
            split <;> rfl
          dsimp only
          rw [hidle]
          change Ordered next _ (blocks ++ []) (acks ++ [])
          rw [List.append_nil, List.append_nil]
          exact htaken
  | resetSender => exact hlasting.elim
  | forget => exact hlasting.elim
  | resetReceiver => exact hlasting.elim

/-- What was delivered is what was sent, in order, up to one block. -/
theorem delivered_prefix (hordered : Ordered next line blocks acks) :
    line.delivered <+: line.sent ∧ line.sent.length ≤ line.delivered.length + 1 := by
  cases hordered.phase with
  | resting _ _ _ hsent =>
      rw [hsent]
      exact ⟨List.prefix_refl _, Nat.le_succ _⟩
  | offered item _ _ _ hsent =>
      rw [hsent, List.length_append]
      exact ⟨List.prefix_append _ _, Nat.le_refl _⟩
  | taken _ _ _ _ hsent =>
      rw [hsent]
      exact ⟨List.prefix_refl _, Nat.le_succ _⟩

end Ordered
end Line
end StopAndWait
end Foundation
end Intelipump
