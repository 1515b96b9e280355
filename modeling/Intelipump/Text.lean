import Mathlib.Tactic.Common

namespace Intelipump

/-!
# Text

Rendering bytes, and telling texts apart.

`bytes.hex(" ")` and the `02X` format, which the source uses to name frames in
events, keys and fault messages.  The rendering is injective
(`bytesHex_injective`): two source references are equal only when the wire
bytes are.
-/

/-- A lower-case hexadecimal digit. -/
def hexDigit (value : Nat) : Char :=
  if value < 10 then Char.ofNat (48 + value) else Char.ofNat (87 + value)

/-- An upper-case hexadecimal digit. -/
def hexDigitUpper (value : Nat) : Char :=
  if value < 10 then Char.ofNat (48 + value) else Char.ofNat (55 + value)

/-- The format `02X` of a byte. -/
def byteHexUpper (byte : UInt8) : String :=
  String.ofList [hexDigitUpper (byte.toNat / 16), hexDigitUpper (byte.toNat % 16)]

/-- The characters of `bytes.hex(" ")`. -/
def hexChars : List UInt8 → List Char
  | [] => []
  | [byte] => [hexDigit (byte.toNat / 16), hexDigit (byte.toNat % 16)]
  | byte :: rest =>
      hexDigit (byte.toNat / 16) :: hexDigit (byte.toNat % 16) :: ' ' ::
        hexChars rest

/-- `bytes.hex(" ")`. -/
def bytesHex (bytes : List UInt8) : String := String.ofList (hexChars bytes)

theorem hexDigit_inj {left right : Nat} (hleft : left < 16) (hright : right < 16)
    (heq : hexDigit left = hexDigit right) : left = right := by
  have hall : ∀ x y : Fin 16, hexDigit x.val = hexDigit y.val → x = y := by decide
  exact Fin.mk.inj (hall ⟨left, hleft⟩ ⟨right, hright⟩ heq)

private theorem byte_eq_of_digits {left right : UInt8}
    (hhigh : hexDigit (left.toNat / 16) = hexDigit (right.toNat / 16))
    (hlow : hexDigit (left.toNat % 16) = hexDigit (right.toNat % 16)) :
    left = right := by
  have hleft : left.toNat < 256 := left.toNat_lt
  have hright : right.toNat < 256 := right.toNat_lt
  have hdiv := hexDigit_inj (by omega) (by omega) hhigh
  have hmod := hexDigit_inj (by omega) (by omega) hlow
  apply UInt8.toNat_inj.mp
  omega

theorem hexChars_cons_cons (first second : UInt8) (rest : List UInt8) :
    hexChars (first :: second :: rest) =
      hexDigit (first.toNat / 16) :: hexDigit (first.toNat % 16) :: ' ' ::
        hexChars (second :: rest) := rfl

theorem hexChars_injective : Function.Injective hexChars := by
  intro left
  induction left with
  | nil =>
      intro right heq
      cases right with
      | nil => rfl
      | cons byte rest => cases rest <;> simp [hexChars] at heq
  | cons byte rest ih =>
      intro right heq
      cases right with
      | nil => cases rest <;> simp [hexChars] at heq
      | cons byte' rest' =>
          cases rest with
          | nil =>
              cases rest' with
              | nil =>
                  simp only [hexChars, List.cons.injEq, and_true] at heq
                  rw [byte_eq_of_digits heq.1 heq.2]
              | cons next' tail' =>
                  rw [hexChars_cons_cons] at heq
                  simp [hexChars] at heq
          | cons next tail =>
              cases rest' with
              | nil =>
                  rw [hexChars_cons_cons] at heq
                  simp [hexChars] at heq
              | cons next' tail' =>
                  rw [hexChars_cons_cons, hexChars_cons_cons] at heq
                  simp only [List.cons.injEq, true_and] at heq
                  obtain ⟨hhigh, hlow, hrest⟩ := heq
                  rw [byte_eq_of_digits hhigh hlow, ih hrest]

theorem bytesHex_injective : Function.Injective bytesHex := by
  intro left right heq
  exact hexChars_injective (String.ofList_injective heq)

@[simp] theorem bytesHex_inj {left right : List UInt8} :
    bytesHex left = bytesHex right ↔ left = right :=
  bytesHex_injective.eq_iff

theorem bytesHex_ne_empty {bytes : List UInt8} (hne : bytes ≠ []) :
    bytesHex bytes ≠ "" := by
  intro heq
  exact hne (bytesHex_injective (heq.trans rfl))

/-- Texts whose fixed beginnings differ are different. -/
theorem append_ne_append (count : Nat) {first second : String}
    (hfirst : count ≤ first.toList.length) (hsecond : count ≤ second.toList.length)
    (hdiffer : first.toList.take count ≠ second.toList.take count) (left right : String) :
    first ++ left ≠ second ++ right := by
  intro hsame
  have htexts := congrArg (fun text => text.toList.take count) hsame
  rw [String.toList_append, String.toList_append, List.take_append_of_le_length hfirst,
    List.take_append_of_le_length hsecond] at htexts
  exact hdiffer htexts

/-- A number is written without a colon. -/
theorem toString_not_mem_colon (value : Nat) : ':' ∉ (toString value).toList := by
  intro hmem
  rw [Nat.toString_eq_repr, Nat.toList_repr] at hmem
  exact absurd (Nat.isDigit_of_mem_toDigits (by decide) (by decide) hmem) (by decide)

/-- What stands before the last separator. -/
theorem eq_of_append_separator {separator : Char} {first second rest rest' : List Char}
    (hrest : separator ∉ rest) (hrest' : separator ∉ rest')
    (heq : first ++ separator :: rest = second ++ separator :: rest') : first = second := by
  rcases List.append_eq_append_iff.mp heq with ⟨added, rfl, hadded⟩ | ⟨added, rfl, hadded⟩
  · cases added with
    | nil => exact (List.append_nil _).symm
    | cons head tail =>
        obtain ⟨-, rfl⟩ := List.cons.inj hadded
        exact absurd (List.mem_append_right tail (List.mem_cons_self ..)) hrest
  · cases added with
    | nil => exact List.append_nil _
    | cons head tail =>
        obtain ⟨-, rfl⟩ := List.cons.inj hadded
        exact absurd (List.mem_append_right tail (List.mem_cons_self ..)) hrest'

end Intelipump
