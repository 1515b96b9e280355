import Mathlib.Data.Nat.Digits.Lemmas
import Mathlib.Tactic.Common
import Intelipump.Dart.Line.Control
import Intelipump.Text

namespace Intelipump
namespace Dart
namespace Application

open Line

/-!
# Packed BCD

Two decimal digits a byte, most significant byte first.  The length of an
encoding is a `Nat` here, so the check on a negative length holds by type.
-/

/-- The loop of the decoder, from the digits read so far. -/
def decodePackedFrom (value : Nat) : List Byte → Except Raised Nat
  | [] => .ok value
  | byte :: rest =>
      let high := byte.toNat / 16
      let low := byte.toNat % 16
      if high > 9 ∨ low > 9 then
        .error (.bcdError s!"invalid BCD nibble in byte 0x{byteHexUpper byte}")
      else decodePackedFrom (value * 100 + high * 10 + low) rest

def decodePackedBcd (data : List Byte) : Except Raised Nat :=
  if data = [] then .error (.bcdError "empty packed BCD")
  else decodePackedFrom 0 data

/-- Two decimal digits in one byte. -/
def packedByte (pair : Nat) : Byte := UInt8.ofNat (pair / 10 * 16 + pair % 10)

/-- The decimal digits of a number in pairs, padded in front to an even count:
its digits in base 100. -/
def packedDigits (value : Nat) : List Byte :=
  if value = 0 then [0x00]
  else (Nat.digits 100 value).reverse.map packedByte

def encodePackedBcd (value : Int) (length : Option Nat) :
    Except Raised (List Byte) :=
  if value < 0 then .error (.bcdError "BCD value must be non-negative")
  else
    let raw := packedDigits value.toNat
    match length with
    | none => .ok raw
    | some length =>
        if raw.length > length then
          .error (.bcdError
            s!"value {value} does not fit in {length} packed BCD bytes")
        else .ok (List.replicate (length - raw.length) 0x00 ++ raw)

theorem packedByte_digits {pair : Nat} (hpair : pair < 100) :
    (packedByte pair).toNat / 16 = pair / 10 ∧
      (packedByte pair).toNat % 16 = pair % 10 := by
  have hsmall : pair / 10 * 16 + pair % 10 < 256 := by omega
  have hvalue : (packedByte pair).toNat = pair / 10 * 16 + pair % 10 := by
    rw [packedByte, UInt8.toNat_ofNat']
    exact Nat.mod_eq_of_lt hsmall
  omega

/-- Decoding packed pairs accumulates them in base 100. -/
theorem decodePackedFrom_map (value : Nat) (pairs : List Nat)
    (hpairs : ∀ pair ∈ pairs, pair < 100) :
    decodePackedFrom value (pairs.map packedByte) =
      .ok (pairs.foldl (fun acc pair => acc * 100 + pair) value) := by
  induction pairs generalizing value with
  | nil => rfl
  | cons pair rest ih =>
      obtain ⟨hpair, hrest⟩ := List.forall_mem_cons.mp hpairs
      obtain ⟨hhigh, hlow⟩ := packedByte_digits hpair
      have hnibbles : ¬ ((packedByte pair).toNat / 16 > 9 ∨
          (packedByte pair).toNat % 16 > 9) := by
        rw [hhigh, hlow]
        omega
      have hsum : value * 100 + (packedByte pair).toNat / 16 * 10 +
          (packedByte pair).toNat % 16 = value * 100 + pair := by
        rw [hhigh, hlow]
        omega
      rw [List.map_cons, decodePackedFrom]
      simp only [hnibbles, if_false, hsum]
      rw [ih _ hrest, List.foldl_cons]

theorem foldl_digits (value : Nat) :
    (Nat.digits 100 value).reverse.foldl (fun acc pair => acc * 100 + pair) 0 =
      value := by
  have hfold : ∀ digits : List Nat,
      digits.reverse.foldl (fun acc pair => acc * 100 + pair) 0 =
        Nat.ofDigits 100 digits := by
    intro digits
    induction digits with
    | nil => rfl
    | cons digit rest ih =>
        rw [List.reverse_cons, List.foldl_append, ih, Nat.ofDigits_cons]
        simp only [List.foldl_cons, List.foldl_nil]
        omega
  rw [hfold, Nat.ofDigits_digits]

theorem decodePackedFrom_zeros (count : Nat) (rest : List Byte) :
    decodePackedFrom 0 (List.replicate count 0x00 ++ rest) = decodePackedFrom 0 rest := by
  induction count with
  | zero => rfl
  | succ count ih =>
      rw [List.replicate_succ, List.cons_append]
      exact ih

/-- What the encoder accepts, the decoder reads back. -/
theorem decodePackedBcd_encodePackedBcd {value : Nat} {length : Nat}
    {data : List Byte} (hlength : length ≠ 0)
    (hencoded : encodePackedBcd value (some length) = .ok data) :
    decodePackedBcd data = .ok value := by
  -- the zeros in front do not count
  have hdigits : decodePackedFrom 0 (packedDigits value) = .ok value := by
    unfold packedDigits
    split
    · rename_i hzero
      rw [hzero]
      rfl
    · rw [decodePackedFrom_map, foldl_digits]
      intro pair hpair
      exact Nat.digits_lt_base (by decide) (List.mem_reverse.mp hpair)
  have hnonneg : ¬ ((value : Int) < 0) := by omega
  unfold encodePackedBcd at hencoded
  rw [if_neg hnonneg] at hencoded
  dsimp only at hencoded
  rw [Int.toNat_natCast] at hencoded
  split at hencoded
  · cases hencoded
  · rename_i hfits
    obtain rfl := Except.ok.inj hencoded
    have hne : List.replicate (length - (packedDigits value).length) 0x00 ++
        packedDigits value ≠ [] := by
      intro hnil
      have hlen := congrArg List.length hnil
      simp only [List.length_append, List.length_replicate, List.length_nil] at hlen
      omega
    rw [decodePackedBcd, if_neg hne, decodePackedFrom_zeros, hdigits]

/-- An encoding has the length it was asked for. -/
theorem length_encodePackedBcd {value : Int} {length : Nat} {data : List Byte}
    (hencoded : encodePackedBcd value (some length) = .ok data) :
    data.length = length := by
  unfold encodePackedBcd at hencoded
  split at hencoded
  · cases hencoded
  · dsimp only at hencoded
    split at hencoded
    · cases hencoded
    · obtain rfl := Except.ok.inj hencoded
      simp only [List.length_append, List.length_replicate]
      omega

/-- The encoder accepts what has at most two digits a byte. -/
theorem encodePackedBcd_isOk_iff (value : Nat) {length : Nat} (hlength : length ≠ 0) :
    (∃ data, encodePackedBcd value (some length) = .ok data) ↔ value < 100 ^ length := by
  have hnonneg : ¬ ((value : Int) < 0) := by omega
  have hdigits : (packedDigits value).length ≤ length ↔ value < 100 ^ length := by
    unfold packedDigits
    split
    · rename_i hzero
      subst hzero
      have hpositive : 0 < 100 ^ length := Nat.pow_pos (by decide)
      simp only [List.length_singleton]
      omega
    · rw [List.length_map, List.length_reverse]
      exact Nat.digits_length_le_iff (by decide) value
  unfold encodePackedBcd
  rw [if_neg hnonneg]
  dsimp only
  rw [Int.toNat_natCast, ← hdigits]
  split
  · rename_i hlong
    exact ⟨fun ⟨_, h⟩ => (nomatch h), fun h => absurd h (by omega)⟩
  · rename_i hfits
    exact ⟨fun _ => by omega, fun _ => ⟨_, rfl⟩⟩

theorem decodePackedFrom_lt {bytes : List Byte} {start value : Nat}
    (hdecoded : decodePackedFrom start bytes = .ok value) :
    value < (start + 1) * 100 ^ bytes.length := by
  induction bytes generalizing start with
  | nil =>
      obtain rfl := Except.ok.inj hdecoded
      simp
  | cons byte rest ih =>
      rw [decodePackedFrom] at hdecoded
      split at hdecoded
      · cases hdecoded
      · have hrest := ih hdecoded
        have hstep : start * 100 + byte.toNat / 16 * 10 + byte.toNat % 16 + 1 ≤
            (start + 1) * 100 := by omega
        calc value
            < (start * 100 + byte.toNat / 16 * 10 + byte.toNat % 16 + 1) *
                100 ^ rest.length := hrest
          _ ≤ (start + 1) * 100 * 100 ^ rest.length := Nat.mul_le_mul_right _ hstep
          _ = (start + 1) * 100 ^ (rest.length + 1) := by
              rw [Nat.mul_assoc, Nat.pow_succ']

/-- A decoded number has at most two digits a byte. -/
theorem decodePackedBcd_lt {data : List Byte} {value : Nat}
    (hdecoded : decodePackedBcd data = .ok value) : value < 100 ^ data.length := by
  unfold decodePackedBcd at hdecoded
  split at hdecoded
  · cases hdecoded
  · have h := decodePackedFrom_lt hdecoded
    rwa [Nat.zero_add, Nat.one_mul] at h

/-- Every nibble is a decimal digit. -/
def IsBcd (data : List Byte) : Prop :=
  ∀ byte ∈ data, byte.toNat / 16 ≤ 9 ∧ byte.toNat % 16 ≤ 9

instance (data : List Byte) : Decidable (IsBcd data) :=
  inferInstanceAs (Decidable (∀ byte ∈ data, _))

theorem isBcd_append {first second : List Byte} :
    IsBcd (first ++ second) ↔ IsBcd first ∧ IsBcd second :=
  List.forall_mem_append

/-- The decoder accepts decimal digits. -/
theorem decodePackedBcd_isOk_iff {data : List Byte} (hdata : data ≠ []) :
    (∃ value, decodePackedBcd data = .ok value) ↔ IsBcd data := by
  have hfrom : ∀ (bytes : List Byte) (start : Nat),
      (∃ value, decodePackedFrom start bytes = .ok value) ↔ IsBcd bytes := by
    intro bytes
    induction bytes with
    | nil => exact fun start => iff_of_true ⟨start, rfl⟩ fun _ h => absurd h List.not_mem_nil
    | cons byte rest ih =>
        intro start
        unfold decodePackedFrom IsBcd
        rw [List.forall_mem_cons]
        dsimp only
        split
        · rename_i hnibble
          exact ⟨fun ⟨_, h⟩ => (nomatch h), fun h => by omega⟩
        · rename_i hnibble
          rw [ih]
          exact ⟨fun h => ⟨by omega, h⟩, And.right⟩
  unfold decodePackedBcd
  rw [if_neg hdata]
  exact hfrom data 0

end Application
end Dart
end Intelipump
