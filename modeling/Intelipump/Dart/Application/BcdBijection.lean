import Intelipump.Dart.Application.Bcd

namespace Intelipump
namespace Dart
namespace Application

open Line

/-!
# Packed BCD as a bijection

The encoder of the source goes through the decimal string of its value: the
string is padded to an even count and read in pairs.  The pairs are the digits
in base 100 that `packedDigits` takes.  At a given length the decoder reads no
two byte strings as one value, so that encoding and decoding undo each other.

Values are unbounded integers; a limit that an interpreter sets on the length
of decimal strings is not modelled.
-/

def isValidPackedBcd (data : List Byte) : Except Raised Bool :=
  match decodePackedBcd data with
  | .ok _ => .ok true
  | .error (.bcdError _) => .ok false
  | .error raised => .error raised

/-! ## The decimal string in pairs -/

/-- The digits of `f"{value:d}"`. -/
def decimalDigits (value : Nat) : List Nat :=
  if value = 0 then [0] else (Nat.digits 10 value).reverse

/-- One more `0` in front of an odd number of digits. -/
def padToEven (digits : List Nat) : List Nat :=
  if digits.length % 2 = 1 then 0 :: digits else digits

/-- The bytes of the digits in pairs, high nibble first. -/
def packPairs : List Nat → List Byte
  | high :: low :: rest => UInt8.ofNat (high <<< 4 ||| low) :: packPairs rest
  | _ => []

theorem packPairs_append {front : List Nat} (heven : front.length % 2 = 0)
    (digits : List Nat) :
    packPairs (front ++ digits) = packPairs front ++ packPairs digits := by
  fun_induction packPairs front with
  | case1 high low rest ih =>
      have hrest : rest.length % 2 = 0 := by
        simp only [List.length_cons] at heven
        omega
      rw [List.cons_append, List.cons_append, packPairs, ih hrest, List.cons_append]
  | case2 front hshort =>
      cases front with
      | nil => rfl
      | cons first rest =>
          cases rest with
          | nil => cases heven
          | cons second rest => exact absurd rfl (hshort first second rest)

theorem length_padToEven (digits : List Nat) : (padToEven digits).length % 2 = 0 := by
  unfold padToEven
  split
  · rw [List.length_cons]
    omega
  · omega

/-- Two more digits at the end do not change the padding. -/
theorem padToEven_append_pair (digits : List Nat) (high low : Nat) :
    padToEven (digits ++ [high, low]) = padToEven digits ++ [high, low] := by
  have hlength : (digits ++ [high, low]).length % 2 = digits.length % 2 := by
    rw [List.length_append]
    simp only [List.length_cons, List.length_nil]
    omega
  unfold padToEven
  rw [hlength]
  split
  · rfl
  · rfl

/-- A pair of decimal digits is the packed byte of its value. -/
theorem packedByte_pair (pair : Nat) :
    UInt8.ofNat ((pair / 10) <<< 4 ||| pair % 10) = packedByte pair := by
  have hor : (pair / 10) <<< 4 ||| pair % 10 = (pair / 10) <<< 4 + pair % 10 :=
    (Nat.shiftLeft_add_eq_or_of_lt (by omega) _).symm
  rw [hor, Nat.shiftLeft_eq]
  rfl

/-- The last two decimal digits are the last digit in base 100. -/
theorem decimalDigits_of_le {value : Nat} (hvalue : 100 ≤ value) :
    decimalDigits value =
      decimalDigits (value / 100) ++ [value % 100 / 10, value % 100 % 10] := by
  have htens : value / 10 ≠ 0 := by omega
  have hhundreds : value / 10 / 10 = value / 100 := Nat.div_div_eq_div_mul value 10 10
  have hhigh : value / 10 % 10 = value % 100 / 10 := by omega
  have hlow : value % 10 = value % 100 % 10 := by omega
  unfold decimalDigits
  rw [if_neg (by omega), if_neg (by omega), Nat.digits_def' (by decide) (by omega),
    Nat.digits_def' (by decide) (Nat.pos_of_ne_zero htens), hhundreds, hhigh, hlow,
    List.reverse_cons, List.reverse_cons, List.append_assoc]
  rfl

theorem packedDigits_of_le {value : Nat} (hvalue : 100 ≤ value) :
    packedDigits value = packedDigits (value / 100) ++ [packedByte (value % 100)] := by
  unfold packedDigits
  rw [if_neg (by omega), if_neg (by omega), Nat.digits_def' (by decide) (by omega),
    List.reverse_cons, List.map_append]
  rfl

/-- The digits in base 100 are the decimal digits in pairs. -/
theorem packedDigits_eq_packPairs (value : Nat) :
    packedDigits value = packPairs (padToEven (decimalDigits value)) := by
  induction value using Nat.strongRecOn with
  | ind value ih =>
      rcases Nat.lt_or_ge value 100 with hsmall | hlarge
      · have hall : ∀ small < 100,
            packedDigits small = packPairs (padToEven (decimalDigits small)) := by
          decide +kernel
        exact hall value hsmall
      · have hless : value / 100 < value := Nat.div_lt_self (by omega) (by decide)
        rw [packedDigits_of_le hlarge, decimalDigits_of_le hlarge, padToEven_append_pair,
          packPairs_append (length_padToEven _), ih _ hless, packPairs, packedByte_pair]
        rfl

/-! ## One byte string for one value and length -/

/-- At one length the decoder reads every value from one byte string. -/
theorem decodePackedFrom_injective {first second : List Byte} {start other value : Nat}
    (hlength : first.length = second.length)
    (hfirst : decodePackedFrom start first = .ok value)
    (hsecond : decodePackedFrom other second = .ok value) :
    start = other ∧ first = second := by
  induction first generalizing second start other with
  | nil =>
      obtain rfl := List.length_eq_zero_iff.mp hlength.symm
      exact ⟨Except.ok.inj (hfirst.trans hsecond.symm), rfl⟩
  | cons byte rest ih =>
      cases second with
      | nil => cases hlength
      | cons byte' rest' =>
          rw [decodePackedFrom] at hfirst hsecond
          split at hfirst
          · cases hfirst
          · split at hsecond
            · cases hsecond
            · obtain ⟨hsum, rfl⟩ := ih (Nat.succ.inj hlength) hfirst hsecond
              -- two digits of at most 9 are read off their sum in base 100
              have hbyte : byte.toNat = byte'.toNat := by omega
              exact ⟨by omega, by rw [UInt8.toNat_inj.mp hbyte]⟩

theorem decodePackedBcd_injective {first second : List Byte} {value : Nat}
    (hlength : first.length = second.length)
    (hfirst : decodePackedBcd first = .ok value)
    (hsecond : decodePackedBcd second = .ok value) : first = second := by
  unfold decodePackedBcd at hfirst hsecond
  split at hfirst
  · cases hfirst
  · split at hsecond
    · cases hsecond
    · exact (decodePackedFrom_injective hlength hfirst hsecond).2

/-- The encoder at a positive length accepts the integers from 0 below 100 to that
length. -/
theorem encodePackedBcd_isOk_iff_bounds {length : Nat} (hlength : 1 ≤ length) (value : Int) :
    (∃ data, encodePackedBcd value (some length) = .ok data) ↔
      0 ≤ value ∧ value < 100 ^ length := by
  rcases lt_or_ge value 0 with hnegative | hnonneg
  · refine iff_of_false ?_ (by omega)
    rintro ⟨data, hencoded⟩
    rw [encodePackedBcd, if_pos hnegative] at hencoded
    cases hencoded
  · obtain ⟨natural, rfl⟩ := Int.eq_ofNat_of_zero_le hnonneg
    rw [encodePackedBcd_isOk_iff natural (by omega)]
    have hcast : ((natural : Int) < 100 ^ length) ↔ natural < 100 ^ length := by
      exact_mod_cast Iff.rfl
    rw [hcast]
    exact ⟨fun h => ⟨hnonneg, h⟩, And.right⟩

/-- What the decoder accepts, the encoder gives back at the same length. -/
theorem encodePackedBcd_decodePackedBcd {data : List Byte} {value : Nat}
    (hdecoded : decodePackedBcd data = .ok value) :
    encodePackedBcd value (some data.length) = .ok data := by
  have hdata : data ≠ [] := by
    rintro rfl
    cases hdecoded
  have hlength : data.length ≠ 0 := fun h => hdata (List.length_eq_zero_iff.mp h)
  obtain ⟨encoded, hencoded⟩ :=
    (encodePackedBcd_isOk_iff value hlength).mpr (decodePackedBcd_lt hdecoded)
  have hback := decodePackedBcd_encodePackedBcd hlength hencoded
  have hsame := decodePackedBcd_injective (length_encodePackedBcd hencoded) hback hdecoded
  rw [hencoded, hsame]

/-! ## The accepted strings -/

/-- The decoder raises `BcdError` and nothing else. -/
theorem decodePackedBcd_error {data : List Byte} {raised : Raised}
    (hraised : decodePackedBcd data = .error raised) :
    ∃ message, raised = .bcdError message := by
  have hfrom : ∀ (bytes : List Byte) (start : Nat),
      decodePackedFrom start bytes = .error raised → ∃ message, raised = .bcdError message := by
    intro bytes start hbytes
    fun_induction decodePackedFrom start bytes with
    | case1 start => cases hbytes
    | case2 start byte rest high low hnibble => exact ⟨_, (Except.error.inj hbytes).symm⟩
    | case3 start byte rest high low hnibble ih => exact ih hbytes
  unfold decodePackedBcd at hraised
  split at hraised
  · exact ⟨_, (Except.error.inj hraised).symm⟩
  · exact hfrom data 0 hraised

theorem isValidPackedBcd_of_ok {data : List Byte} {value : Nat}
    (hdecoded : decodePackedBcd data = .ok value) : isValidPackedBcd data = .ok true := by
  rw [isValidPackedBcd, hdecoded]

theorem isValidPackedBcd_of_error {data : List Byte} {raised : Raised}
    (hraised : decodePackedBcd data = .error raised) : isValidPackedBcd data = .ok false := by
  obtain ⟨message, rfl⟩ := decodePackedBcd_error hraised
  rw [isValidPackedBcd, hraised]

/-- The check accepts what the decoder reads. -/
theorem isValidPackedBcd_true_iff {data : List Byte} :
    isValidPackedBcd data = .ok true ↔ ∃ value, decodePackedBcd data = .ok value := by
  constructor
  · intro hvalid
    cases hdecoded : decodePackedBcd data with
    | ok value => exact ⟨value, rfl⟩
    | error raised =>
        rw [isValidPackedBcd_of_error hdecoded] at hvalid
        cases hvalid
  · rintro ⟨value, hdecoded⟩
    exact isValidPackedBcd_of_ok hdecoded

/-- The check rejects a nibble above 9. -/
theorem isValidPackedBcd_of_not_isBcd {data : List Byte} (hnibble : ¬ IsBcd data) :
    isValidPackedBcd data = .ok false := by
  have hdata : data ≠ [] := by
    rintro rfl
    exact hnibble fun byte hbyte => absurd hbyte List.not_mem_nil
  cases hdecoded : decodePackedBcd data with
  | ok value => exact absurd ((decodePackedBcd_isOk_iff hdata).mp ⟨value, hdecoded⟩) hnibble
  | error raised => exact isValidPackedBcd_of_error hdecoded

/-- Encoding at a positive length and decoding are inverse to each other: between the
integers from 0 below 100 to that length and the accepted byte strings of that length. -/
theorem packedBcd_bijective :
    (∀ length : Nat, 1 ≤ length → ∀ value : Int,
      ((∃ data, encodePackedBcd value (some length) = .ok data) ↔
        0 ≤ value ∧ value < 100 ^ length) ∧
      ∀ data, encodePackedBcd value (some length) = .ok data →
        data.length = length ∧
          ∃ decoded : Nat, decodePackedBcd data = .ok decoded ∧ (decoded : Int) = value) ∧
    (∀ data : List Byte, data ≠ [] → isValidPackedBcd data = .ok true →
      ∃ value : Nat, decodePackedBcd data = .ok value ∧
        encodePackedBcd value (some data.length) = .ok data) ∧
    ∀ data : List Byte,
      (∃ byte ∈ data, byte.toNat / 16 > 9 ∨ byte.toNat % 16 > 9) →
        isValidPackedBcd data = .ok false ∧
          ∃ message, decodePackedBcd data = .error (.bcdError message) := by
  refine ⟨?_, ?_, ?_⟩
  · intro length hlength value
    have hiff := encodePackedBcd_isOk_iff_bounds hlength value
    refine ⟨hiff, fun data hencoded => ⟨length_encodePackedBcd hencoded, ?_⟩⟩
    obtain ⟨natural, rfl⟩ := Int.eq_ofNat_of_zero_le (hiff.mp ⟨data, hencoded⟩).1
    exact ⟨natural, decodePackedBcd_encodePackedBcd (by omega) hencoded, rfl⟩
  · intro data _ hvalid
    obtain ⟨value, hdecoded⟩ := isValidPackedBcd_true_iff.mp hvalid
    exact ⟨value, hdecoded, encodePackedBcd_decodePackedBcd hdecoded⟩
  · rintro data ⟨byte, hbyte, hnibble⟩
    have hnot : ¬ IsBcd data := by
      intro hdata
      have hdigits := hdata byte hbyte
      omega
    have hinvalid := isValidPackedBcd_of_not_isBcd hnot
    refine ⟨hinvalid, ?_⟩
    cases hdecoded : decodePackedBcd data with
    | ok value =>
        rw [isValidPackedBcd_of_ok hdecoded] at hinvalid
        cases hinvalid
    | error raised =>
        obtain ⟨message, rfl⟩ := decodePackedBcd_error hdecoded
        exact ⟨message, rfl⟩

theorem packedBcd_bijective_1250 :
    (∃ data, encodePackedBcd 1250 (some 4) = .ok data) ∧
      (∃ value : Nat, decodePackedBcd [0x00, 0x00, 0x12, 0x50] = .ok value ∧
        encodePackedBcd value (some 4) = .ok [0x00, 0x00, 0x12, 0x50]) ∧
      isValidPackedBcd [0x12, 0x5A] = .ok false := by
  refine ⟨?_, ?_, ?_⟩
  · exact (packedBcd_bijective.1 4 (by decide) 1250).1.mpr (by decide)
  · exact packedBcd_bijective.2.1 [0x00, 0x00, 0x12, 0x50] (by decide) (by decide +kernel)
  · exact (packedBcd_bijective.2.2 [0x12, 0x5A] ⟨0x5A, by decide⟩).1

end Application
end Dart
end Intelipump
