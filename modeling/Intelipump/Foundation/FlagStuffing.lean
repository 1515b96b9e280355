import Mathlib.Data.List.Basic
import Mathlib.Tactic.Common

namespace Intelipump
namespace Foundation
namespace FlagStuffing

/-!
# Flag stuffing over an arbitrary alphabet

A line code with one flag symbol and one escape symbol.  The sender puts the
escape in front of every flag of its data and leaves everything else alone, so
a literal escape is *not* doubled.  Two receivers are studied:

* `unstuff`, which looks one symbol ahead and removes an escape only when a
  flag follows it;
* `Delimiter`, which works symbol by symbol, lets an escape swallow whatever
  follows it, and ends a candidate at the first flag that is not swallowed.

`unstuff` inverts `stuff` on every data that does not end in an escape.  The
delimiter agrees with it only on *aligned* data: in front of every flag the
maximal run of escapes has even length (`not_aligned_false_iff`).  On aligned data
the delimiter keeps the whole stuffed text (`run_stuff_of_aligned`), on all
other data it cuts right after an escape (`run_stuff_of_not_aligned`).
-/

variable {α : Type*} [DecidableEq α]

/-- Put `esc` in front of every `flag`. -/
def stuff (esc flag : α) : List α → List α
  | [] => []
  | symbol :: rest =>
      if symbol = flag then esc :: symbol :: stuff esc flag rest
      else symbol :: stuff esc flag rest

@[simp] theorem stuff_nil (esc flag : α) : stuff esc flag [] = [] := rfl

theorem stuff_cons (esc flag symbol : α) (rest : List α) :
    stuff esc flag (symbol :: rest) =
      if symbol = flag then esc :: symbol :: stuff esc flag rest
      else symbol :: stuff esc flag rest := rfl

@[simp] theorem stuff_append (esc flag : α) (left right : List α) :
    stuff esc flag (left ++ right) =
      stuff esc flag left ++ stuff esc flag right := by
  induction left with
  | nil => rfl
  | cons symbol rest ih =>
      rw [List.cons_append, stuff_cons, stuff_cons, ih]
      split <;> rfl

/-- Stuffing at most doubles the data. -/
theorem length_stuff_le (esc flag : α) (data : List α) :
    (stuff esc flag data).length ≤ 2 * data.length := by
  induction data with
  | nil => simp
  | cons symbol rest ih =>
      rw [stuff_cons]
      split <;> simp only [List.length_cons] <;> omega

theorem length_le_length_stuff (esc flag : α) (data : List α) :
    data.length ≤ (stuff esc flag data).length := by
  induction data with
  | nil => simp
  | cons symbol rest ih =>
      rw [stuff_cons]
      split <;> simp only [List.length_cons] <;> omega

/-- Remove `esc` where `flag` follows it.  A bare flag, and an escape with
nothing behind it, are refused. -/
def unstuff (esc flag : α) : List α → Option (List α)
  | [] => some []
  | [symbol] =>
      if symbol = esc then none
      else if symbol = flag then none
      else some [symbol]
  | symbol :: next :: rest =>
      if symbol = esc then
        if next ≠ flag then (unstuff esc flag (next :: rest)).map (esc :: ·)
        else (unstuff esc flag rest).map (flag :: ·)
      else if symbol = flag then none
      else (unstuff esc flag (next :: rest)).map (symbol :: ·)

@[simp] theorem unstuff_nil (esc flag : α) :
    unstuff esc flag [] = some [] := rfl

theorem unstuff_escaped_flag (esc flag : α) (rest : List α) :
    unstuff esc flag (esc :: flag :: rest) =
      (unstuff esc flag rest).map (flag :: ·) := by
  simp [unstuff]

theorem unstuff_literal_escape {esc flag next : α} (rest : List α)
    (hnext : next ≠ flag) :
    unstuff esc flag (esc :: next :: rest) =
      (unstuff esc flag (next :: rest)).map (esc :: ·) := by
  simp [unstuff, hnext]

theorem unstuff_plain {esc flag symbol : α} (rest : List α)
    (hesc : symbol ≠ esc) (hflag : symbol ≠ flag) :
    unstuff esc flag (symbol :: rest) =
      (unstuff esc flag rest).map (symbol :: ·) := by
  cases rest <;> simp [unstuff, hesc, hflag]

omit [DecidableEq α] in
private theorem getLast?_tail_ne {symbol : α} {esc : α} {rest : List α}
    (hlast : (symbol :: rest).getLast? ≠ some esc) :
    rest.getLast? ≠ some esc := by
  cases rest with
  | nil => simp
  | cons next rest' => simpa using hlast

/-- Looking ahead undoes the stuffing.  Only data that ends in an escape is
lost: its last symbol reads as a truncated escape. -/
theorem unstuff_stuff {esc flag : α} (hne : esc ≠ flag) (data : List α)
    (hlast : data.getLast? ≠ some esc) :
    unstuff esc flag (stuff esc flag data) = some data := by
  induction data with
  | nil => rfl
  | cons symbol rest ih =>
      have hih := ih (getLast?_tail_ne hlast)
      rw [stuff_cons]
      by_cases hflag : symbol = flag
      · rw [if_pos hflag, hflag, unstuff_escaped_flag, hih]
        rfl
      · rw [if_neg hflag]
        by_cases hesc : symbol = esc
        · subst hesc
          cases rest with
          | nil => simp at hlast
          | cons next rest' =>
              rw [stuff_cons] at hih ⊢
              by_cases hnext : next = flag
              · -- the data reads `esc flag`, the wire `esc esc flag`
                rw [if_pos hnext] at hih ⊢
                rw [unstuff_literal_escape _ hne, hih]
                rfl
              · rw [if_neg hnext] at hih ⊢
                rw [unstuff_literal_escape _ hnext, hih]
                rfl
        · rw [unstuff_plain _ hesc hflag, hih]
          rfl

/-- Whatever `unstuff` accepts is the stuffing of what it returns. -/
theorem stuff_of_unstuff {esc flag : α} (hne : esc ≠ flag)
    (wire data : List α) (haccepted : unstuff esc flag wire = some data) :
    stuff esc flag data = wire := by
  fun_induction unstuff esc flag wire generalizing data with
  | case1 =>
      obtain rfl : [] = data := by simpa using haccepted
      rfl
  | case2 => simp at haccepted
  | case3 => simp at haccepted
  | case4 symbol hesc hflag =>
      obtain rfl : [symbol] = data := by simpa using haccepted
      simp [stuff_cons, hflag]
  | case5 next rest hnext ih =>
      obtain ⟨tail, htail, rfl⟩ := Option.map_eq_some_iff.mp haccepted
      rw [stuff_cons, if_neg hne, ih tail htail]
  | case6 next rest hnext ih =>
      obtain ⟨tail, htail, rfl⟩ := Option.map_eq_some_iff.mp haccepted
      have hflag : next = flag := by simpa using hnext
      rw [stuff_cons, if_pos rfl, ih tail htail, hflag]
  | case7 => simp at haccepted
  | case8 symbol next rest hesc hflag ih =>
      obtain ⟨tail, htail, rfl⟩ := Option.map_eq_some_iff.mp haccepted
      rw [stuff_cons, if_neg hflag, ih tail htail]

/-! ## Alignment of the data with a swallowing receiver -/

/-- Scan data the way a swallowing receiver meets it on the wire.  `armed`
says that the symbol before left an escape which will swallow the next wire
symbol.  A flag met while armed is cut: its own escape is swallowed. -/
def Aligned (esc flag : α) : Bool → List α → Prop
  | _, [] => True
  | armed, symbol :: rest =>
      if symbol = flag then armed = false ∧ Aligned esc flag false rest
      else if symbol = esc then Aligned esc flag (!armed) rest
      else Aligned esc flag false rest

instance decidableAligned (esc flag : α) :
    (armed : Bool) → (data : List α) → Decidable (Aligned esc flag armed data)
  | _, [] => isTrue trivial
  | armed, symbol :: rest =>
      have := decidableAligned esc flag false rest
      have := decidableAligned esc flag (!armed) rest
      inferInstanceAs (Decidable
        (if symbol = flag then armed = false ∧ Aligned esc flag false rest
          else if symbol = esc then Aligned esc flag (!armed) rest
          else Aligned esc flag false rest))

theorem aligned_flag (esc flag : α) (armed : Bool) (rest : List α) :
    Aligned esc flag armed (flag :: rest) ↔
      armed = false ∧ Aligned esc flag false rest := by
  simp [Aligned]

theorem aligned_escape {esc flag : α} (hne : esc ≠ flag) (armed : Bool)
    (rest : List α) :
    Aligned esc flag armed (esc :: rest) ↔ Aligned esc flag (!armed) rest := by
  simp [Aligned, hne]

theorem aligned_plain {esc flag symbol : α} (hesc : symbol ≠ esc)
    (hflag : symbol ≠ flag) (armed : Bool) (rest : List α) :
    Aligned esc flag armed (symbol :: rest) ↔ Aligned esc flag false rest := by
  simp [Aligned, hesc, hflag]

/-- Data that breaks alignment, stated without the scan: some flag has a
maximal run of escapes of odd length right in front of it. -/
def OddEscapeRun (esc flag : α) (data : List α) : Prop :=
  ∃ before count after,
    data = before ++ List.replicate count esc ++ flag :: after ∧
      count % 2 = 1 ∧ before.getLast? ≠ some esc

/-- The same for a scan that starts armed: the run at the very beginning of
the data counts the escape that armed the scan. -/
private def BrokenRun (esc flag : α) (armed : Bool) (data : List α) : Prop :=
  ∃ before count after,
    data = before ++ List.replicate count esc ++ flag :: after ∧
      (if before = [] then armed ^^ decide (count % 2 = 1)
        else decide (count % 2 = 1)) = true ∧
      before.getLast? ≠ some esc

omit [DecidableEq α] in
private theorem brokenRun_false_iff (esc flag : α) (data : List α) :
    BrokenRun esc flag false data ↔ OddEscapeRun esc flag data := by
  simp [BrokenRun, OddEscapeRun]

omit [DecidableEq α] in
/-- In front of a plain symbol or a well placed flag nothing is carried over:
the run sits in the tail. -/
private theorem brokenRun_cons_iff_tail {esc flag symbol : α} {armed : Bool}
    (hesc : symbol ≠ esc) (rest : List α)
    (hhead : symbol = flag → armed = false) :
    BrokenRun esc flag armed (symbol :: rest) ↔
      BrokenRun esc flag false rest := by
  constructor
  · rintro ⟨before, count, after, hdata, hodd, hlast⟩
    cases before with
    | nil =>
        exfalso
        cases count with
        | zero =>
            have hsymbol : symbol = flag := by
              simpa using (List.cons.inj hdata).1
            simp [hhead hsymbol] at hodd
        | succ count =>
            exact hesc (by simpa [List.replicate_succ] using (List.cons.inj hdata).1)
    | cons first tail =>
        obtain ⟨-, htail⟩ := List.cons.inj hdata
        exact ⟨tail, count, after, htail, by simpa using hodd,
          getLast?_tail_ne hlast⟩
  · rintro ⟨before, count, after, rfl, hodd, hlast⟩
    refine ⟨symbol :: before, count, after, rfl, by simpa using hodd, ?_⟩
    cases before with
    | nil => simpa using hesc
    | cons next tail => simpa using hlast

omit [DecidableEq α] in
private theorem brokenRun_escape_iff {esc flag : α} (hne : esc ≠ flag)
    (armed : Bool) (rest : List α) :
    BrokenRun esc flag armed (esc :: rest) ↔
      BrokenRun esc flag (!armed) rest := by
  constructor
  · rintro ⟨before, count, after, hdata, hodd, hlast⟩
    cases before with
    | nil =>
        cases count with
        | zero => exact absurd (by simpa using (List.cons.inj hdata).1) hne
        | succ count =>
            obtain ⟨-, htail⟩ := List.cons.inj hdata
            refine ⟨[], count, after, htail, ?_, by simp⟩
            rcases Nat.mod_two_eq_zero_or_one count with hcount | hcount <;>
              cases armed <;> simp_all [Nat.add_mod]
    | cons first tail =>
        obtain ⟨hfirst, htail⟩ := List.cons.inj hdata
        subst hfirst
        cases tail with
        | nil => simp at hlast
        | cons next tail' =>
            exact ⟨next :: tail', count, after, htail, by simpa using hodd,
              by simpa using hlast⟩
  · rintro ⟨before, count, after, rfl, hodd, hlast⟩
    cases before with
    | nil =>
        refine ⟨[], count + 1, after, by simp [List.replicate_succ], ?_, by simp⟩
        rcases Nat.mod_two_eq_zero_or_one count with hcount | hcount <;>
          cases armed <;> simp_all [Nat.add_mod]
    | cons next tail =>
        exact ⟨esc :: next :: tail, count, after, rfl, by simpa using hodd,
          by simpa using hlast⟩

private theorem not_aligned_iff_brokenRun {esc flag : α} (hne : esc ≠ flag)
    (armed : Bool) (data : List α) :
    ¬ Aligned esc flag armed data ↔ BrokenRun esc flag armed data := by
  induction data generalizing armed with
  | nil => simp [Aligned, BrokenRun]
  | cons symbol rest ih =>
      by_cases hflag : symbol = flag
      · subst hflag
        rw [aligned_flag]
        cases armed with
        | true =>
            simp only [Bool.true_eq_false, false_and, not_false_eq_true, true_iff]
            exact ⟨[], 0, rest, rfl, by simp, by simp⟩
        | false =>
            rw [brokenRun_cons_iff_tail (Ne.symm hne) rest (fun _ => rfl), ← ih]
            simp
      · by_cases hesc : symbol = esc
        · subst hesc
          rw [aligned_escape hne, brokenRun_escape_iff hne, ih]
        · rw [aligned_plain hesc hflag, ih,
            brokenRun_cons_iff_tail hesc rest (fun h => absurd h hflag)]

/-- The scan fails exactly on an odd run of escapes in front of a flag. -/
theorem not_aligned_false_iff {esc flag : α} (hne : esc ≠ flag) (data : List α) :
    ¬ Aligned esc flag false data ↔ OddEscapeRun esc flag data := by
  rw [not_aligned_iff_brokenRun hne, brokenRun_false_iff]

/-! ## The swallowing receiver -/

/-- A receiver that collects symbols up to a flag; `armed` after an escape. -/
structure Delimiter (α : Type*) where
  buffer : List α
  armed : Bool

/-- One symbol: the new state and the candidate it closes, if any. -/
def Delimiter.step (esc flag : α) (state : Delimiter α) (symbol : α) :
    Delimiter α × Option (List α) :=
  if state.armed then (⟨state.buffer ++ [symbol], false⟩, none)
  else if symbol = esc then (⟨state.buffer ++ [symbol], true⟩, none)
  else if symbol = flag then (⟨[], false⟩, some (state.buffer ++ [symbol]))
  else (⟨state.buffer ++ [symbol], false⟩, none)

/-- Feed a whole text and collect the candidates in order. -/
def Delimiter.run (esc flag : α) :
    Delimiter α → List α → Delimiter α × List (List α)
  | state, [] => (state, [])
  | state, symbol :: rest =>
      let (next, candidate) := state.step esc flag symbol
      let (final, candidates) := Delimiter.run esc flag next rest
      (final, candidate.toList ++ candidates)

@[simp] theorem Delimiter.run_nil (esc flag : α) (state : Delimiter α) :
    state.run esc flag [] = (state, []) := rfl

theorem Delimiter.run_cons (esc flag : α) (state : Delimiter α) (symbol : α)
    (rest : List α) :
    state.run esc flag (symbol :: rest) =
      (((state.step esc flag symbol).1.run esc flag rest).1,
        (state.step esc flag symbol).2.toList ++
          ((state.step esc flag symbol).1.run esc flag rest).2) := rfl

/-- Whether the receiver is left armed by data whose scan starts at `armed`. -/
def armedAfter (esc : α) (armed : Bool) (data : List α) : Bool :=
  data.foldl (fun armed symbol => if symbol = esc then !armed else false) armed

/-- Data that ends in a symbol other than the escape leaves nothing armed. -/
theorem armedAfter_concat {esc last : α} (armed : Bool) (data : List α)
    (hlast : last ≠ esc) : armedAfter esc armed (data ++ [last]) = false := by
  simp [armedAfter, hlast]

/-- On aligned data the receiver keeps the stuffed text whole. -/
theorem Delimiter.run_stuff_of_aligned {esc flag : α} (hne : esc ≠ flag)
    (buffer : List α) (armed : Bool) (data : List α)
    (haligned : Aligned esc flag armed data) :
    (Delimiter.mk buffer armed).run esc flag (stuff esc flag data) =
      (⟨buffer ++ stuff esc flag data, armedAfter esc armed data⟩, []) := by
  induction data generalizing buffer armed with
  | nil => simp [armedAfter]
  | cons symbol rest ih =>
      by_cases hflag : symbol = flag
      · subst hflag
        obtain ⟨rfl, hrest⟩ := (aligned_flag esc symbol armed rest).mp haligned
        rw [stuff_cons, if_pos rfl, Delimiter.run_cons, Delimiter.run_cons]
        simp [Delimiter.step, ih _ false hrest, armedAfter, Ne.symm hne]
      · rw [stuff_cons, if_neg hflag, Delimiter.run_cons]
        by_cases hesc : symbol = esc
        · subst hesc
          have hrest := (aligned_escape hne armed rest).mp haligned
          cases armed with
          | true =>
              rw [Bool.not_true] at hrest
              simp [Delimiter.step, ih _ _ hrest, armedAfter]
          | false =>
              rw [Bool.not_false] at hrest
              simp [Delimiter.step, ih _ _ hrest, armedAfter]
        · have hrest := (aligned_plain hesc hflag armed rest).mp haligned
          cases armed <;>
            simp [Delimiter.step, ih _ _ hrest, armedAfter, hesc, hflag]

/-- On any other data it closes a candidate right behind an escape. -/
theorem Delimiter.run_stuff_of_not_aligned {esc flag : α} (hne : esc ≠ flag)
    (buffer : List α) (armed : Bool) (data : List α)
    (hnot : ¬ Aligned esc flag armed data) :
    ∃ front rest candidates,
      ((Delimiter.mk buffer armed).run esc flag (stuff esc flag data)).2 =
        (buffer ++ front ++ [esc, flag]) :: candidates ∧
      stuff esc flag data = front ++ [esc, flag] ++ rest := by
  induction data generalizing buffer armed with
  | nil => exact absurd trivial hnot
  | cons symbol rest ih =>
      by_cases hflag : symbol = flag
      · subst hflag
        rw [aligned_flag] at hnot
        rw [stuff_cons, if_pos rfl, Delimiter.run_cons, Delimiter.run_cons]
        cases armed with
        | true =>
            -- the escape of this flag is swallowed, the flag closes the frame
            exact ⟨[], stuff esc symbol rest,
              ((Delimiter.mk [] false).run esc symbol (stuff esc symbol rest)).2,
              by simp [Delimiter.step, Ne.symm hne], by simp⟩
        | false =>
            obtain ⟨front, tail, candidates, hrun, htext⟩ :=
              ih (buffer ++ [esc, symbol]) false (fun h => hnot ⟨rfl, h⟩)
            exact ⟨esc :: symbol :: front, tail, candidates,
              by simpa [Delimiter.step, Ne.symm hne] using hrun, by simp [htext]⟩
      · rw [stuff_cons, if_neg hflag, Delimiter.run_cons]
        have hnext : ∀ armed', ¬ Aligned esc flag armed' rest →
            ((Delimiter.mk buffer armed).step esc flag symbol) =
              (⟨buffer ++ [symbol], armed'⟩, none) →
            ∃ front rest' candidates,
              ((Delimiter.mk buffer armed).step esc flag symbol).2.toList ++
                  (((Delimiter.mk buffer armed).step esc flag symbol).1.run esc flag
                    (stuff esc flag rest)).2 =
                (buffer ++ front ++ [esc, flag]) :: candidates ∧
              symbol :: stuff esc flag rest = front ++ [esc, flag] ++ rest' := by
          intro armed' hrest hstep
          obtain ⟨front, tail, candidates, hrun, htext⟩ :=
            ih (buffer ++ [symbol]) armed' hrest
          refine ⟨symbol :: front, tail, candidates, ?_, by simp [htext]⟩
          rw [hstep]
          simpa using hrun
        by_cases hesc : symbol = esc
        · subst hesc
          rw [aligned_escape hne] at hnot
          refine hnext _ hnot ?_
          cases armed <;> simp [Delimiter.step]
        · rw [aligned_plain hesc hflag] at hnot
          refine hnext _ hnot ?_
          cases armed <;> simp [Delimiter.step, hesc, hflag]

end FlagStuffing
end Foundation
end Intelipump
