import Mathlib.Tactic.Common
import Intelipump.Exceptions

namespace Intelipump
namespace Dart
namespace Line

/-!
# Control bytes of the DART line

The constants of the line protocol and the classification of a CTRL byte.  An
address is a `Byte` and a block sequence number TX# is a `Fin 16`, so the
range checks which the source makes on plain integers hold by type and their
error branches do not appear here.
-/

/-- One byte on the wire. -/
abbrev Byte := UInt8

/-- The instance that the literals of TX# go through. -/
instance neZeroSequence : @NeZero Nat Zero.ofOfNat0 16 := Nat.instNeZeroSucc

def ETX : Byte := 0x03
def DLE : Byte := 0x10
def SF : Byte := 0xFA

def POLL : Byte := 0x20
def DATA_BASE : Byte := 0x30
def IAP : Byte := 0x40
def NAK_BASE : Byte := 0x50
def EOT_BASE : Byte := 0x70
def ACK_BASE : Byte := 0xC0
def ACKPOLL_BASE : Byte := 0xE0

def SEQUENCE_MASK : Byte := 0x0F
def CONTROL_TYPE_MASK : Byte := 0xF0

/-- Largest unescaped buffer, control characters included. -/
def MAX_BUFFER_SIZE : Nat := 256

/-- ADR + CTRL + CRC1 + CRC2 + ETX. -/
def MIN_DATA_FRAME_SIZE : Nat := 5

inductive ControlType where
  | POLL | DATA | IAP | NAK | EOT | ACK | ACKPOLL | UNKNOWN
deriving DecidableEq, Repr

def ControlType.value : ControlType → String
  | .POLL => "POLL"
  | .DATA => "DATA"
  | .IAP => "IAP"
  | .NAK => "NAK"
  | .EOT => "EOT"
  | .ACK => "ACK"
  | .ACKPOLL => "ACKPOLL"
  | .UNKNOWN => "UNKNOWN"

/-- The high-nibble base of a control type; `UNKNOWN` has none. -/
def controlTypeBase : ControlType → Except Raised Byte
  | .POLL => .ok POLL
  | .DATA => .ok DATA_BASE
  | .IAP => .ok IAP
  | .NAK => .ok NAK_BASE
  | .EOT => .ok EOT_BASE
  | .ACK => .ok ACK_BASE
  | .ACKPOLL => .ok ACKPOLL_BASE
  | .UNKNOWN => .error (.valueError "No base defined for control type UNKNOWN")

/-- Classify a CTRL byte.  POLL and IAP are single values, the other families
are the sixteen values of a high nibble. -/
def classifyControl (control : Byte) : ControlType :=
  if control = POLL then .POLL
  else if control = IAP then .IAP
  else
    let high := control &&& CONTROL_TYPE_MASK
    if high = DATA_BASE then .DATA
    else if high = NAK_BASE then .NAK
    else if high = EOT_BASE then .EOT
    else if high = ACK_BASE then .ACK
    else if high = ACKPOLL_BASE then .ACKPOLL
    else .UNKNOWN

/-- TX#, the low nibble of a CTRL byte. -/
def extractSequence (control : Byte) : Fin 16 :=
  ⟨(control &&& SEQUENCE_MASK).toNat, by
    have hle : control.toNat &&& 15 ≤ 15 := Nat.and_le_right
    have hmask : SEQUENCE_MASK.toNat = 15 := rfl
    rw [UInt8.toNat_and, hmask]
    omega⟩

/-- A TX# as the low nibble of a byte. -/
def sequenceBits (sequence : Fin 16) : Byte := UInt8.ofNat sequence.val

/-- Compose a CTRL byte.  POLL and IAP are fixed values with TX# 0. -/
def composeControl (controlType : ControlType) (sequence : Fin 16) :
    Except Raised Byte :=
  if controlType = .UNKNOWN then
    .error (.valueError "cannot compose UNKNOWN control type")
  else if (controlType = .POLL ∨ controlType = .IAP) ∧ sequence ≠ 0 then
    .error (.valueError
      s!"{controlType.value} is a fixed control byte; sequence must be 0")
  else do
    let base ← controlTypeBase controlType
    return base ||| sequenceBits sequence

/-- Control types and sequences that have a CTRL byte. -/
def Composable (controlType : ControlType) (sequence : Fin 16) : Prop :=
  controlType ≠ .UNKNOWN ∧
    ((controlType = .POLL ∨ controlType = .IAP) → sequence = 0)

instance (controlType : ControlType) (sequence : Fin 16) :
    Decidable (Composable controlType sequence) :=
  inferInstanceAs (Decidable (_ ∧ _))

/-- The CTRL byte a composable pair has. -/
def controlByte (controlType : ControlType) (sequence : Fin 16) : Byte :=
  match controlTypeBase controlType with
  | .ok base => base ||| sequenceBits sequence
  | .error _ => 0

theorem composeControl_eq_ok {controlType : ControlType} {sequence : Fin 16}
    (hcomposable : Composable controlType sequence) :
    composeControl controlType sequence =
      .ok (controlByte controlType sequence) := by
  obtain ⟨hknown, hfixed⟩ := hcomposable
  have hsequence :
      ¬ ((controlType = .POLL ∨ controlType = .IAP) ∧ sequence ≠ 0) :=
    fun h => h.2 (hfixed h.1)
  unfold composeControl
  rw [if_neg hknown, if_neg hsequence]
  cases controlType <;> first | rfl | exact absurd rfl hknown

/-- What a composed byte says when it is read back. -/
theorem classify_controlByte {controlType : ControlType} {sequence : Fin 16}
    (hcomposable : Composable controlType sequence) :
    classifyControl (controlByte controlType sequence) = controlType ∧
      extractSequence (controlByte controlType sequence) = sequence := by
  obtain ⟨hknown, hfixed⟩ := hcomposable
  cases controlType with
  | POLL => obtain rfl := hfixed (Or.inl rfl); decide
  | IAP => obtain rfl := hfixed (Or.inr rfl); decide
  | UNKNOWN => exact absurd rfl hknown
  | DATA => revert sequence; decide
  | NAK => revert sequence; decide
  | EOT => revert sequence; decide
  | ACK => revert sequence; decide
  | ACKPOLL => revert sequence; decide

/-- No CTRL byte is a framing byte. -/
theorem controlByte_ne {controlType : ControlType} {sequence : Fin 16}
    (hcomposable : Composable controlType sequence) :
    controlByte controlType sequence ≠ SF ∧
      controlByte controlType sequence ≠ DLE := by
  obtain ⟨hknown, hfixed⟩ := hcomposable
  cases controlType with
  | POLL => obtain rfl := hfixed (Or.inl rfl); decide
  | IAP => obtain rfl := hfixed (Or.inr rfl); decide
  | UNKNOWN => exact absurd rfl hknown
  | DATA => revert sequence; decide
  | NAK => revert sequence; decide
  | EOT => revert sequence; decide
  | ACK => revert sequence; decide
  | ACKPOLL => revert sequence; decide

theorem composable_data (sequence : Fin 16) : Composable .DATA sequence := by
  simp [Composable]

theorem composable_ack (sequence : Fin 16) : Composable .ACK sequence := by
  simp [Composable]

theorem composable_nak (sequence : Fin 16) : Composable .NAK sequence := by
  simp [Composable]

theorem composable_eot (sequence : Fin 16) : Composable .EOT sequence := by
  simp [Composable]

theorem composable_poll : Composable .POLL 0 := by
  simp [Composable]

end Line
end Dart
end Intelipump
