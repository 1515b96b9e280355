import Mathlib.Data.List.MinMax
import Mathlib.Data.List.Sort
import Mathlib.Tactic.Common

namespace Intelipump
namespace Foundation
namespace HashChain

/-!
# Hash chains whose order is a time stamp

Every row carries the hash of the row before it, its own hash and a time.  A
new row takes the hash of the latest row; the chain is read back in the order
of the times.  Rows of one time keep the order of the table.
-/

section

variable {ρ δ τ : Type*} [LinearOrder τ]

/-- Each row names the hash of the row before it. -/
def Linked (previous hash : ρ → δ) : δ → List ρ → Prop
  | _, [] => True
  | expected, row :: rest => previous row = expected ∧ Linked previous hash (hash row) rest

/-- The hash a row after these has to name. -/
def lastHash (hash : ρ → δ) (expected : δ) (rows : List ρ) : δ :=
  (rows.getLast?.map hash).getD expected

/-- The hash of the latest row. -/
def latestHash (hash : ρ → δ) (time : ρ → τ) (genesis : δ) (rows : List ρ) : δ :=
  ((rows.argmax time).map hash).getD genesis

/-- The rows in the order they are read back. -/
def byTime (time : ρ → τ) (rows : List ρ) : List ρ :=
  rows.insertionSort (time · ≤ time ·)

/-- The table was built by appending after the latest row. -/
inductive Appended (previous hash : ρ → δ) (time : ρ → τ) (genesis : δ) :
    List ρ → Prop where
  | nil : Appended previous hash time genesis []
  | concat {rows : List ρ} {row : ρ}
      (happended : Appended previous hash time genesis rows)
      (hprevious : previous row = latestHash hash time genesis rows) :
      Appended previous hash time genesis (rows ++ [row])

/-- The times increase with every row but the last, which may repeat the one
before it. -/
def InOrder (time : ρ → τ) (rows : List ρ) : Prop :=
  rows.Pairwise (time · ≤ time ·) ∧ rows.dropLast.Pairwise (time · < time ·)

instance (time : ρ → τ) (rows : List ρ) : Decidable (InOrder time rows) :=
  inferInstanceAs (Decidable (_ ∧ _))

variable {previous hash : ρ → δ} {time : ρ → τ} {genesis expected : δ} {rows : List ρ}
  {row : ρ}

@[simp] theorem lastHash_concat : lastHash hash expected (rows ++ [row]) = hash row := by
  unfold lastHash
  rw [List.getLast?_append, List.getLast?_singleton]
  rfl

theorem linked_concat_iff : Linked previous hash expected (rows ++ [row]) ↔
    Linked previous hash expected rows ∧ previous row = lastHash hash expected rows := by
  induction rows generalizing expected with
  | nil => exact ⟨fun h => ⟨trivial, h.1⟩, fun h => ⟨h.2, trivial⟩⟩
  | cons first rest ih =>
      have hlast : lastHash hash expected (first :: rest) = lastHash hash (hash first) rest := by
        unfold lastHash
        cases rest with
        | nil => rfl
        | cons second rest => rw [List.getLast?_cons_cons, List.getLast?_cons]; rfl
      rw [List.cons_append, Linked, Linked, ih, hlast, and_assoc]

theorem byTime_of_pairwise (hordered : rows.Pairwise (time · ≤ time ·)) :
    byTime time rows = rows :=
  hordered.insertionSort_eq

theorem byTime_perm : (byTime time rows).Perm rows :=
  List.perm_insertionSort _ rows

theorem byTime_pairwise : (byTime time rows).Pairwise (time · ≤ time ·) := by
  have : Std.Total fun left right : ρ => time left ≤ time right :=
    ⟨fun left right => le_total (time left) (time right)⟩
  have : IsTrans ρ fun left right => time left ≤ time right :=
    ⟨fun _ _ _ => le_trans⟩
  exact List.pairwise_insertionSort _ rows

/-! ## The last hash fixes the chain -/

/-- Two linked chains with one last hash are the same, when no two rows have one hash and
no row has the hash the chains start from. -/
theorem Linked.eq_of_lastHash {first second : List ρ}
    (hfirst : Linked previous hash expected first)
    (hsecond : Linked previous hash expected second)
    (hinjective : ∀ left ∈ first, ∀ right ∈ second, hash left = hash right → left = right)
    (hstart : expected ∉ first.map hash ∧ expected ∉ second.map hash)
    (hlast : lastHash hash expected first = lastHash hash expected second) :
    first = second := by
  induction first using List.reverseRecOn generalizing second with
  | nil =>
      rcases List.eq_nil_or_concat' second with rfl | ⟨before, row, rfl⟩
      · rfl
      · rw [lastHash_concat] at hlast
        refine absurd (List.mem_map.mpr ⟨row, ?_, hlast.symm⟩) hstart.2
        exact List.mem_append_right _ (List.mem_singleton_self row)
  | append_singleton earlier left ih =>
      rcases List.eq_nil_or_concat' second with rfl | ⟨before, right, rfl⟩
      · rw [lastHash_concat] at hlast
        refine absurd (List.mem_map.mpr ⟨left, ?_, hlast⟩) hstart.1
        exact List.mem_append_right _ (List.mem_singleton_self left)
      · rw [lastHash_concat, lastHash_concat] at hlast
        have hsame : left = right := hinjective left
          (List.mem_append_right _ (List.mem_singleton_self left)) right
          (List.mem_append_right _ (List.mem_singleton_self right)) hlast
        obtain ⟨hearlier, hleft⟩ := linked_concat_iff.mp hfirst
        obtain ⟨hbefore, hright⟩ := linked_concat_iff.mp hsecond
        rw [List.map_append, List.map_append, List.mem_append, List.mem_append, not_or,
          not_or] at hstart
        have hrest : earlier = before := ih hearlier hbefore
          (fun one hone two htwo => hinjective one (List.mem_append_left _ hone) two
            (List.mem_append_left _ htwo))
          ⟨hstart.1.1, hstart.2.1⟩ (by rw [← hleft, ← hright, hsame])
        rw [hrest, hsame]

/-! ## In order, the chain is linked -/

/-- In a strictly ordered table the latest row is the last. -/
theorem latestHash_of_pairwise (hordered : rows.Pairwise (time · < time ·)) :
    latestHash hash time genesis rows = lastHash hash genesis rows := by
  induction rows using List.reverseRecOn with
  | nil => rfl
  | append_singleton rows row _ =>
      have hlater : ∀ other ∈ rows, time other < time row := fun other hother =>
        (List.pairwise_append.mp hordered).2.2 other hother row (List.mem_singleton_self row)
      rw [lastHash_concat]
      unfold latestHash
      rw [List.argmax_concat]
      cases hlatest : rows.argmax time with
      | none => rfl
      | some latest =>
          dsimp only
          rw [if_pos (hlater latest (List.argmax_mem hlatest))]
          rfl

theorem InOrder.of_concat (hordered : InOrder time (rows ++ [row])) :
    rows.Pairwise (time · < time ·) := by
  have hstrict := hordered.2
  rwa [List.dropLast_concat] at hstrict

theorem inOrder_of_pairwise (hordered : rows.Pairwise (time · < time ·)) :
    InOrder time rows :=
  ⟨hordered.imp le_of_lt, hordered.sublist (List.dropLast_sublist rows)⟩

theorem Appended.linked_rows (happended : Appended previous hash time genesis rows)
    (hordered : InOrder time rows) : Linked previous hash genesis rows := by
  induction happended with
  | nil => trivial
  | concat _ hprevious ih =>
      have hstrict := hordered.of_concat
      refine linked_concat_iff.mpr ⟨ih (inOrder_of_pairwise hstrict), ?_⟩
      rw [hprevious, latestHash_of_pairwise hstrict]

/-- Appends in order are read back as a linked chain. -/
theorem Appended.linked (happended : Appended previous hash time genesis rows)
    (hordered : InOrder time rows) : Linked previous hash genesis (byTime time rows) := by
  rw [byTime_of_pairwise hordered.1]
  exact happended.linked_rows hordered

/-! ## A linked chain was appended in order -/

/-- No row has the genesis hash, and no two rows have one hash. -/
def NoCollision (hash : ρ → δ) (genesis : δ) (rows : List ρ) : Prop :=
  (genesis :: rows.map hash).Nodup

theorem NoCollision.of_concat (hdistinct : NoCollision hash genesis (rows ++ [row])) :
    NoCollision hash genesis rows ∧ hash row ∉ genesis :: rows.map hash := by
  unfold NoCollision at hdistinct
  rw [List.map_append, ← List.cons_append, List.nodup_append] at hdistinct
  exact ⟨hdistinct.1, fun hmem => hdistinct.2.2 _ hmem _ (List.mem_singleton_self _) rfl⟩

theorem latestHash_mem : latestHash hash time genesis rows ∈ genesis :: rows.map hash := by
  unfold latestHash
  cases hlatest : rows.argmax time with
  | none => exact List.mem_cons_self
  | some latest =>
      exact List.mem_cons_of_mem _ (List.mem_map_of_mem (List.argmax_mem hlatest))

/-- Every row names the genesis hash or the hash of a row. -/
theorem Appended.previous_mem (happended : Appended previous hash time genesis rows) :
    ∀ row ∈ rows, previous row ∈ genesis :: rows.map hash := by
  induction happended with
  | nil => exact fun _ h => absurd h List.not_mem_nil
  | @concat rows last _ hprevious ih =>
      have hgrows : ∀ {digest : δ}, digest ∈ genesis :: rows.map hash →
          digest ∈ genesis :: (rows ++ [last]).map hash := by
        intro digest hmem
        rw [List.map_append, ← List.cons_append]
        exact List.mem_append_left _ hmem
      intro row hrow
      rcases List.mem_append.mp hrow with hold | hnew
      · exact hgrows (ih row hold)
      · rw [List.mem_singleton.mp hnew, hprevious]
        exact hgrows latestHash_mem

/-- In a linked chain a row that no row names is the last one. -/
theorem Linked.eq_concat {chain : List ρ} (hlinked : Linked previous hash expected chain)
    (hrow : row ∈ chain) (hunnamed : ∀ other ∈ chain, previous other ≠ hash row) :
    ∃ before, chain = before ++ [row] ∧ Linked previous hash expected before := by
  obtain ⟨before, after, rfl⟩ := List.append_of_mem hrow
  cases after with
  | nil => exact ⟨before, rfl, (linked_concat_iff.mp hlinked).1⟩
  | cons next rest =>
      exfalso
      have hnext : previous next = hash row := by
        clear hunnamed hrow
        induction before generalizing expected with
        | nil => exact hlinked.2.1
        | cons first before ih => exact ih hlinked.2
      exact hunnamed next (by simp) hnext

/-- The appended rows can be linked in one order only. -/
theorem Appended.eq_of_perm (happended : Appended previous hash time genesis rows)
    (hdistinct : NoCollision hash genesis rows) {chain : List ρ} (hperm : chain.Perm rows)
    (hlinked : Linked previous hash genesis chain) : chain = rows := by
  induction happended generalizing chain with
  | nil => exact hperm.eq_nil
  | @concat rows last happended hprevious ih =>
      obtain ⟨hbefore, hfresh⟩ := hdistinct.of_concat
      have hunnamed : ∀ other ∈ chain, previous other ≠ hash last := by
        intro other hother hsame
        rcases List.mem_append.mp (hperm.mem_iff.mp hother) with hold | hnew
        · exact hfresh (hsame ▸ happended.previous_mem other hold)
        · rw [List.mem_singleton.mp hnew, hprevious] at hsame
          exact hfresh (hsame ▸ latestHash_mem)
      have hlast : last ∈ chain := hperm.mem_iff.mpr (List.mem_append_right _ (by simp))
      obtain ⟨before, rfl, hlinked'⟩ := hlinked.eq_concat hlast hunnamed
      rw [ih hbefore ((List.perm_append_right_iff _).mp hperm) hlinked']

/-- When the latest hash is that of the last row, that row is later than all. -/
theorem lt_of_latestHash (hfresh : hash row ∉ genesis :: rows.map hash)
    (hlatest : latestHash hash time genesis (rows ++ [row]) = hash row) :
    ∀ other ∈ rows, time other < time row := by
  intro other hother
  unfold latestHash at hlatest
  rw [List.argmax_concat] at hlatest
  cases hmax : rows.argmax time with
  | none =>
      rw [List.argmax_eq_none.mp hmax] at hother
      cases hother
  | some latest =>
      rw [hmax] at hlatest
      dsimp only at hlatest
      by_cases hlater : time latest < time row
      · exact (List.le_of_mem_argmax hother hmax).trans_lt hlater
      · rw [if_neg hlater] at hlatest
        exact absurd (List.mem_cons_of_mem genesis
          (hlatest ▸ List.mem_map_of_mem (List.argmax_mem hmax))) hfresh

/-- Without collisions, appends that are read back as a linked chain were made
in order. -/
theorem Appended.inOrder_rows (happended : Appended previous hash time genesis rows)
    (hdistinct : NoCollision hash genesis rows)
    (hordered : rows.Pairwise (time · ≤ time ·))
    (hlinked : Linked previous hash genesis rows) : InOrder time rows := by
  refine ⟨hordered, ?_⟩
  induction happended with
  | nil => exact List.Pairwise.nil
  | @concat rows last happended hprevious ih =>
      rw [List.dropLast_concat]
      have hbefore := hdistinct.of_concat.1
      obtain ⟨hlinked', hnamed⟩ := linked_concat_iff.mp hlinked
      have hstrict := ih hbefore (List.pairwise_append.mp hordered).1 hlinked'
      induction rows using List.reverseRecOn with
      | nil => exact List.Pairwise.nil
      | append_singleton rows second _ =>
          rw [List.dropLast_concat] at hstrict
          rw [lastHash_concat, hprevious] at hnamed
          refine List.pairwise_append.mpr ⟨hstrict, List.pairwise_singleton _ _, ?_⟩
          intro other hother final hfinal
          rw [List.mem_singleton.mp hfinal]
          exact lt_of_latestHash hbefore.of_concat.2 hnamed other hother

/-- Without collisions, appends are read back as a linked chain exactly when
they were made in order. -/
theorem Appended.linked_iff (happended : Appended previous hash time genesis rows)
    (hdistinct : NoCollision hash genesis rows) :
    Linked previous hash genesis (byTime time rows) ↔ InOrder time rows := by
  refine ⟨fun hlinked => ?_, happended.linked⟩
  have hsame := happended.eq_of_perm hdistinct byTime_perm hlinked
  have hordered : rows.Pairwise (time · ≤ time ·) := hsame ▸ byTime_pairwise
  exact happended.inOrder_rows hdistinct hordered (hsame ▸ hlinked)

end

end HashChain
end Foundation
end Intelipump
