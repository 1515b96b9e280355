import Mathlib.Tactic.Common
import Intelipump.Dart.Line.Crc
import Intelipump.Dart.Line.Escaping

namespace Intelipump
namespace Dart
namespace Line

/-!
# Building wire frames

Control frames are `ADR CTRL SF`, DATA frames are
`ADR CTRL DATA… CRC1 CRC2 ETX SF`, both with DLE escaping of everything before
the final SF.  `controlBuffer` and `dataBuffer` name the unescaped buffers.
-/

/-- ADR CTRL. -/
def controlBuffer (address : Byte) (controlType : ControlType)
    (sequence : Fin 16) : List Byte :=
  [address, controlByte controlType sequence]

/-- Build a POLL, ACK, NAK, EOT, IAP or ACKPOLL frame. -/
def buildControlFrame (address : Byte) (controlType : ControlType)
    (sequence : Fin 16) : Except Raised (List Byte) :=
  if controlType = .DATA then
    .error (.frameBuildError "use build_data_frame for DATA")
  else if controlType = .UNKNOWN then
    .error (.frameBuildError "cannot build UNKNOWN control type")
  else do
    let control ← composeControl controlType sequence
    let buffer := [address, control]
    if buffer.length > MAX_BUFFER_SIZE then
      .error (.frameBuildError "control buffer exceeds MAX_BUFFER_SIZE")
    else
      return escapeDle buffer ++ [SF]

def buildPoll (address : Byte) : Except Raised (List Byte) :=
  buildControlFrame address .POLL 0

def buildAck (address : Byte) (sequence : Fin 16) : Except Raised (List Byte) :=
  buildControlFrame address .ACK sequence

def buildNak (address : Byte) (sequence : Fin 16) : Except Raised (List Byte) :=
  buildControlFrame address .NAK sequence

def buildEot (address : Byte) (sequence : Fin 16) : Except Raised (List Byte) :=
  buildControlFrame address .EOT sequence

def buildAckpoll (address : Byte) (sequence : Fin 16) :
    Except Raised (List Byte) :=
  buildControlFrame address .ACKPOLL sequence

def buildIap (address : Byte) : Except Raised (List Byte) :=
  buildControlFrame address .IAP 0

/-- ADR CTRL DATA, the bytes the CRC is computed over. -/
def crcInput (address : Byte) (sequence : Fin 16) (payload : List Byte) :
    List Byte :=
  [address, controlByte .DATA sequence] ++ payload

/-- ADR CTRL DATA CRC1 CRC2 ETX. -/
def dataBuffer (address : Byte) (sequence : Fin 16) (payload : List Byte) :
    List Byte :=
  crcInput address sequence payload ++
    crcBytesLe (dartCrc16 (crcInput address sequence payload)) ++ [ETX]

/-- Build a DATA frame. -/
def buildDataFrame (address : Byte) (sequence : Fin 16) (payload : List Byte) :
    Except Raised (List Byte) := do
  let control ← composeControl .DATA sequence
  let crcInput := [address, control] ++ payload
  let crc := dartCrc16 crcInput
  let buffer := crcInput ++ crcBytesLe crc ++ [ETX]
  if buffer.length > MAX_BUFFER_SIZE then
    .error (.frameBuildError
      s!"DATA buffer length {buffer.length} exceeds MAX_BUFFER_SIZE {MAX_BUFFER_SIZE}")
  else
    return escapeDle buffer ++ [SF]

@[simp] theorem length_dataBuffer (address : Byte) (sequence : Fin 16)
    (payload : List Byte) :
    (dataBuffer address sequence payload).length = payload.length + 5 := by
  simp [dataBuffer, crcInput]

/-- The control types `buildControlFrame` accepts, with their sequences. -/
def Buildable (controlType : ControlType) (sequence : Fin 16) : Prop :=
  controlType ≠ .DATA ∧ Composable controlType sequence

instance (controlType : ControlType) (sequence : Fin 16) :
    Decidable (Buildable controlType sequence) :=
  inferInstanceAs (Decidable (_ ∧ _))

theorem buildControlFrame_eq_ok {controlType : ControlType} {sequence : Fin 16}
    (address : Byte) (hbuildable : Buildable controlType sequence) :
    buildControlFrame address controlType sequence =
      .ok (escapeDle (controlBuffer address controlType sequence) ++ [SF]) := by
  obtain ⟨hdata, hcomposable⟩ := hbuildable
  unfold buildControlFrame
  rw [if_neg hdata, if_neg hcomposable.1, composeControl_eq_ok hcomposable]
  rfl

/-- Nothing else is built. -/
theorem buildable_of_buildControlFrame {controlType : ControlType}
    {sequence : Fin 16} {address : Byte} {wire : List Byte}
    (hbuilt : buildControlFrame address controlType sequence = .ok wire) :
    Buildable controlType sequence := by
  by_contra hnot
  unfold buildControlFrame at hbuilt
  split at hbuilt
  · cases hbuilt
  · split at hbuilt
    · cases hbuilt
    · rename_i hdata hunknown
      have hfixed : (controlType = .POLL ∨ controlType = .IAP) ∧ sequence ≠ 0 := by
        by_contra hfixed
        exact hnot ⟨hdata, hunknown, fun h => by
          by_contra hsequence
          exact hfixed ⟨h, hsequence⟩⟩
      rw [composeControl, if_neg hunknown, if_pos hfixed] at hbuilt
      cases hbuilt

theorem buildDataFrame_eq_ok {payload : List Byte} (address : Byte)
    (sequence : Fin 16) (hlength : payload.length + 5 ≤ MAX_BUFFER_SIZE) :
    buildDataFrame address sequence payload =
      .ok (escapeDle (dataBuffer address sequence payload) ++ [SF]) := by
  have hbuffer : ¬ (dataBuffer address sequence payload).length > MAX_BUFFER_SIZE := by
    rw [length_dataBuffer]
    omega
  unfold buildDataFrame
  rw [composeControl_eq_ok (composable_data sequence)]
  exact if_neg hbuffer

theorem length_le_of_buildDataFrame {address : Byte} {sequence : Fin 16}
    {payload wire : List Byte}
    (hbuilt : buildDataFrame address sequence payload = .ok wire) :
    payload.length + 5 ≤ MAX_BUFFER_SIZE := by
  by_contra hlong
  have hbuffer : (dataBuffer address sequence payload).length > MAX_BUFFER_SIZE := by
    rw [length_dataBuffer]
    omega
  unfold buildDataFrame at hbuilt
  rw [composeControl_eq_ok (composable_data sequence)] at hbuilt
  replace hbuilt : (if (dataBuffer address sequence payload).length >
      MAX_BUFFER_SIZE then _ else _) = Except.ok wire := hbuilt
  rw [if_pos hbuffer] at hbuilt
  cases hbuilt

/-- The wire image of an ACK. -/
def ackWire (address : Byte) (sequence : Fin 16) : List Byte :=
  escapeDle (controlBuffer address .ACK sequence) ++ [SF]

theorem buildAck_eq_ok (address : Byte) (sequence : Fin 16) :
    buildAck address sequence = .ok (ackWire address sequence) :=
  buildControlFrame_eq_ok address ⟨by decide, composable_ack sequence⟩

/-- The wire image of a NAK. -/
def nakWire (address : Byte) (sequence : Fin 16) : List Byte :=
  escapeDle (controlBuffer address .NAK sequence) ++ [SF]

theorem buildNak_eq_ok (address : Byte) (sequence : Fin 16) :
    buildNak address sequence = .ok (nakWire address sequence) :=
  buildControlFrame_eq_ok address ⟨by decide, composable_nak sequence⟩

/-- The wire image of an EOT. -/
def eotWire (address : Byte) (sequence : Fin 16) : List Byte :=
  escapeDle (controlBuffer address .EOT sequence) ++ [SF]

theorem buildEot_eq_ok (address : Byte) (sequence : Fin 16) :
    buildEot address sequence = .ok (eotWire address sequence) :=
  buildControlFrame_eq_ok address ⟨by decide, composable_eot sequence⟩

end Line
end Dart
end Intelipump
