import Mathlib

namespace Intelipump
namespace Foundation
namespace ShiftRegister

/-!
# Division by a polynomial in a shift register

A register of `n` bits that shifts right and subtracts a polynomial when a one
falls out, fed bit by bit.  Everything is linear over exclusive or, so what a
register says about a damaged text depends on the damage alone:

* a polynomial with its top bit set keeps a nonzero register nonzero, and
  damage within `n` consecutive bits never cancels (`feed_burst_ne_zero`);
* a polynomial with an odd number of bits keeps the parity of what was fed,
  so an odd number of damaged bits never cancels (`feed_odd_ne_zero`).
-/

variable {n : Nat}

/-- One shift. -/
def step (poly reg : BitVec n) : BitVec n :=
  reg >>> 1 ^^^ if reg.getLsbD 0 then poly else 0#n

/-- A bit at the end where bits fall out. -/
def lowBit (bit : Bool) : BitVec n := if bit then BitVec.twoPow n 0 else 0#n

def feedBit (poly reg : BitVec n) (bit : Bool) : BitVec n :=
  step poly (reg ^^^ lowBit bit)

def feed (poly reg : BitVec n) (bits : List Bool) : BitVec n :=
  bits.foldl (feedBit poly) reg

@[simp] theorem feed_nil (poly reg : BitVec n) : feed poly reg [] = reg := rfl

theorem feed_cons (poly reg : BitVec n) (bit : Bool) (rest : List Bool) :
    feed poly reg (bit :: rest) = feed poly (feedBit poly reg bit) rest := rfl

theorem feed_append (poly reg : BitVec n) (left right : List Bool) :
    feed poly reg (left ++ right) = feed poly (feed poly reg left) right :=
  List.foldl_append

@[simp] theorem getLsbD_lowBit (bit : Bool) (index : Nat) :
    (lowBit bit : BitVec n).getLsbD index =
      (bit && decide (index < n) && decide (index = 0)) := by
  unfold lowBit
  cases bit with
  | false => simp
  | true =>
      rw [if_pos rfl, BitVec.getLsbD_twoPow]
      cases index <;> simp

theorem getLsbD_step (poly reg : BitVec n) (index : Nat) :
    (step poly reg).getLsbD index =
      (reg.getLsbD (index + 1) ^^ (reg.getLsbD 0 && poly.getLsbD index)) := by
  unfold step
  rw [BitVec.getLsbD_xor, BitVec.getLsbD_ushiftRight, Nat.add_comm 1 index]
  cases reg.getLsbD 0 <;> simp

/-! ## Linearity -/

theorem step_xor (poly left right : BitVec n) :
    step poly (left ^^^ right) = step poly left ^^^ step poly right := by
  apply BitVec.eq_of_getLsbD_eq
  intro index _
  simp only [getLsbD_step, BitVec.getLsbD_xor]
  cases left.getLsbD 0 <;> cases right.getLsbD 0 <;>
    cases left.getLsbD (index + 1) <;> cases right.getLsbD (index + 1) <;>
    cases poly.getLsbD index <;> rfl

@[simp] theorem step_zero (poly : BitVec n) : step poly 0#n = 0#n := by
  apply BitVec.eq_of_getLsbD_eq
  intro index _
  simp [getLsbD_step]

theorem lowBit_xor (left right : Bool) :
    (lowBit (left ^^ right) : BitVec n) = lowBit left ^^^ lowBit right := by
  apply BitVec.eq_of_getLsbD_eq
  intro index _
  cases left <;> cases right <;> simp

/-- Two texts of one length, added bit by bit. -/
theorem feed_xor (poly left right : BitVec n) (bits errors : List Bool)
    (hlength : bits.length = errors.length) :
    feed poly (left ^^^ right) (List.zipWith xor bits errors) =
      feed poly left bits ^^^ feed poly right errors := by
  induction bits generalizing left right errors with
  | nil =>
      obtain rfl := List.length_eq_zero_iff.mp hlength.symm
      rfl
  | cons bit rest ih =>
      cases errors with
      | nil => simp at hlength
      | cons error errors =>
          have hbit : feedBit poly (left ^^^ right) (bit ^^ error) =
              feedBit poly left bit ^^^ feedBit poly right error := by
            unfold feedBit
            rw [← step_xor, lowBit_xor]
            congr 1
            ac_rfl
          rw [List.zipWith_cons_cons, feed_cons, hbit,
            ih _ _ errors (by simpa using hlength)]
          rfl

/-- Undamaged bits leave the zero register alone. -/
theorem feed_zero_of_clean (poly : BitVec n) (bits : List Bool)
    (hclean : ∀ bit ∈ bits, bit = false) : feed poly 0#n bits = 0#n := by
  induction bits with
  | nil => rfl
  | cons bit rest ih =>
      rw [List.forall_mem_cons] at hclean
      obtain ⟨rfl, hrest⟩ := hclean
      have hbit : feedBit poly 0#n false = 0#n := by
        simp [feedBit, lowBit]
      rw [feed_cons, hbit, ih hrest]

/-! ## The bits as one word -/

/-- The word a short text adds to the register, first bit lowest. -/
def pack : List Bool → BitVec n
  | [] => 0#n
  | bit :: rest => lowBit bit ^^^ pack rest <<< 1

theorem getLsbD_pack (bits : List Bool) (index : Nat) :
    (pack bits : BitVec n).getLsbD index =
      (decide (index < n) && bits.getD index false) := by
  induction bits generalizing index with
  | nil => simp [pack]
  | cons bit rest ih =>
      rw [pack, BitVec.getLsbD_xor, getLsbD_lowBit, BitVec.getLsbD_shiftLeft]
      cases index with
      | zero => simp [Bool.and_comm]
      | succ index =>
          rw [Nat.add_sub_cancel, ih, List.getD_cons_succ]
          by_cases hindex : index + 1 < n
          · have hprevious : index < n := by omega
            simp [hindex, hprevious]
          · simp [hindex]

/-- Shifting in nothing and shifting it out again. -/
theorem step_shiftLeft (poly word : BitVec n) (htop : word.getLsbD (n - 1) = false) :
    step poly (word <<< 1) = word := by
  apply BitVec.eq_of_getLsbD_eq
  intro index hindex
  rw [getLsbD_step, BitVec.getLsbD_shiftLeft, BitVec.getLsbD_shiftLeft]
  by_cases hlast : index + 1 < n
  · simp [hlast]
  · obtain rfl : index = n - 1 := by omega
    simp [hlast, htop]

/-- A text no longer than the register, added at once and shifted through. -/
theorem feed_eq_iterate (poly reg : BitVec n) (bits : List Bool)
    (hlength : bits.length ≤ n) :
    feed poly reg bits = (step poly)^[bits.length] (reg ^^^ pack bits) := by
  induction bits generalizing reg with
  | nil => simp [pack]
  | cons bit rest ih =>
      rw [List.length_cons] at hlength
      have htop : (pack rest : BitVec n).getLsbD (n - 1) = false := by
        rw [getLsbD_pack, List.getD_eq_default _ _ (by omega)]
        simp
      rw [feed_cons, ih _ (by omega), List.length_cons, Function.iterate_succ_apply, pack,
        ← BitVec.xor_assoc, step_xor poly (reg ^^^ lowBit bit), step_shiftLeft poly _ htop]
      rfl

/-! ## Bursts -/

/-- The shift loses nothing when the polynomial has its top bit. -/
theorem step_eq_zero_iff {poly : BitVec n} (hpoly : poly.msb = true) (reg : BitVec n) :
    step poly reg = 0#n ↔ reg = 0#n := by
  constructor
  · intro hstep
    have hbit : ∀ index, (reg.getLsbD (index + 1) ^^
        (reg.getLsbD 0 && poly.getLsbD index)) = false := by
      intro index
      rw [← getLsbD_step, hstep]
      simp
    -- the top bit of the result is the top bit of what was subtracted
    have hlow : reg.getLsbD 0 = false := by
      have htop := hbit (n - 1)
      rw [BitVec.getLsbD_of_ge reg (n - 1 + 1) (by omega), ← BitVec.msb_eq_getLsbD_last,
        hpoly] at htop
      simpa using htop
    apply BitVec.eq_of_getLsbD_eq
    intro index _
    cases index with
    | zero => simpa using hlow
    | succ index => simpa [hlow] using hbit index
  · rintro rfl
    exact step_zero poly

theorem iterate_step_eq_zero_iff {poly : BitVec n} (hpoly : poly.msb = true)
    (count : Nat) (reg : BitVec n) : (step poly)^[count] reg = 0#n ↔ reg = 0#n := by
  induction count generalizing reg with
  | zero => rfl
  | succ count ih =>
      rw [Function.iterate_succ_apply, ih, step_eq_zero_iff hpoly]

theorem feed_clean_eq_zero_iff {poly : BitVec n} (hpoly : poly.msb = true)
    (reg : BitVec n) (bits : List Bool) (hclean : ∀ bit ∈ bits, bit = false) :
    feed poly reg bits = 0#n ↔ reg = 0#n := by
  induction bits generalizing reg with
  | nil => rfl
  | cons bit rest ih =>
      rw [List.forall_mem_cons] at hclean
      obtain ⟨rfl, hrest⟩ := hclean
      have hbit : feedBit poly reg false = step poly reg := by
        simp [feedBit, lowBit]
      rw [feed_cons, ih _ hrest, hbit, step_eq_zero_iff hpoly]

theorem pack_ne_zero {bits : List Bool} (hlength : bits.length ≤ n)
    (hdamaged : true ∈ bits) : (pack bits : BitVec n) ≠ 0#n := by
  intro hzero
  obtain ⟨index, hindex, hbit⟩ := List.mem_iff_getElem.mp hdamaged
  have hpacked := getLsbD_pack (n := n) bits index
  rw [hzero, List.getD_eq_getElem _ _ hindex, hbit] at hpacked
  have hroom : index < n := by omega
  simp [hroom] at hpacked

/-- Damage within `n` consecutive bits leaves a nonzero register. -/
theorem feed_burst_ne_zero {poly : BitVec n} (hpoly : poly.msb = true)
    {before window after : List Bool} (hbefore : ∀ bit ∈ before, bit = false)
    (hafter : ∀ bit ∈ after, bit = false) (hlength : window.length ≤ n)
    (hdamaged : true ∈ window) :
    feed poly 0#n (before ++ window ++ after) ≠ 0#n := by
  rw [feed_append, feed_append, feed_zero_of_clean poly before hbefore]
  intro hzero
  rw [feed_clean_eq_zero_iff hpoly _ after hafter, feed_eq_iterate poly _ window hlength,
    iterate_step_eq_zero_iff hpoly, BitVec.zero_xor] at hzero
  exact pack_ne_zero hlength hdamaged hzero

/-! ## Parity -/

/-- One or zero, modulo two. -/
def weight (bit : Bool) : ZMod 2 := if bit then 1 else 0

@[simp] theorem weight_false : weight false = 0 := rfl

@[simp] theorem weight_true : weight true = 1 := rfl

theorem weight_xor (left right : Bool) :
    weight (left ^^ right) = weight left + weight right := by
  cases left <;> cases right <;> decide

def parity (reg : BitVec n) : ZMod 2 :=
  ∑ index ∈ Finset.range n, weight (reg.getLsbD index)

@[simp] theorem parity_zero : parity 0#n = 0 := by
  simp [parity]

theorem parity_xor (left right : BitVec n) :
    parity (left ^^^ right) = parity left + parity right := by
  unfold parity
  rw [← Finset.sum_add_distrib]
  apply Finset.sum_congr rfl
  intro index _
  rw [BitVec.getLsbD_xor, weight_xor]

/-- The bit that falls out is the one the shift loses. -/
theorem parity_shift (reg : BitVec n) :
    parity reg = parity (reg >>> 1) + weight (reg.getLsbD 0) := by
  have hshifted : parity (reg >>> 1) =
      ∑ index ∈ Finset.range n, weight (reg.getLsbD (index + 1)) := by
    unfold parity
    apply Finset.sum_congr rfl
    intro index _
    rw [BitVec.getLsbD_ushiftRight, Nat.add_comm]
  have hover : reg.getLsbD n = false := BitVec.getLsbD_of_ge reg n le_rfl
  rw [hshifted, ← Finset.sum_range_succ' (fun index => weight (reg.getLsbD index)),
    Finset.sum_range_succ, hover, weight_false, add_zero]
  rfl

/-- A polynomial of odd weight replaces the bit that fell out. -/
theorem parity_step {poly : BitVec n} (hpoly : parity poly = 1) (reg : BitVec n) :
    parity (step poly reg) = parity reg := by
  rw [parity_shift reg]
  unfold step
  rw [parity_xor]
  cases reg.getLsbD 0 with
  | false => simp
  | true => simp [hpoly]

theorem parity_lowBit (hn : 0 < n) (bit : Bool) :
    parity (lowBit bit : BitVec n) = weight bit := by
  unfold parity
  rw [Finset.sum_eq_single 0]
  · rw [getLsbD_lowBit]
    simp [hn]
  · intro index _ hindex
    simp [hindex]
  · intro hnot
    exact absurd (Finset.mem_range.mpr hn) hnot

theorem parity_feed (hn : 0 < n) {poly : BitVec n} (hpoly : parity poly = 1)
    (reg : BitVec n) (bits : List Bool) :
    parity (feed poly reg bits) = parity reg + (bits.map weight).sum := by
  induction bits generalizing reg with
  | nil => simp
  | cons bit rest ih =>
      rw [feed_cons, ih, feedBit, parity_step hpoly, parity_xor, parity_lowBit hn,
        List.map_cons, List.sum_cons, add_assoc]

/-- An odd number of damaged bits leaves a nonzero register. -/
theorem feed_odd_ne_zero (hn : 0 < n) {poly : BitVec n} (hpoly : parity poly = 1)
    {bits : List Bool} (hodd : (bits.map weight).sum = 1) : feed poly 0#n bits ≠ 0#n := by
  intro hzero
  have hparity := parity_feed hn hpoly 0#n bits
  rw [hzero, hodd, parity_zero, zero_add] at hparity
  exact absurd hparity (by decide)

end ShiftRegister
end Foundation
end Intelipump
