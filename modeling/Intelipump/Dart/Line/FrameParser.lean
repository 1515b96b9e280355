import Mathlib.Tactic.Common
import Intelipump.Dart.Line.FrameBuilder

namespace Intelipump
namespace Dart
namespace Line

/-!
# Parsing one complete wire frame

`parseFrame` takes a wire image that ends in an unescaped SF.  Any buffer
longer than ADR CTRL is read as the DATA layout, whatever its CTRL byte says,
so a frame of another control type can come out with a CRC verdict.
-/

inductive ParseErrorCode where
  | TOO_SHORT | MISSING_SF | INVALID_TERMINATOR | MALFORMED_DLE
  | TOO_SHORT_DATA | MISSING_ETX | BUFFER_TOO_LARGE
deriving DecidableEq, Repr

structure ParseError where
  code : ParseErrorCode
  message : String
  raw : List Byte
deriving DecidableEq, Repr

/-- A decoded line frame.  The CRC fields are `none` for control frames;
`crcValid` compares the received CRC with the computed one. -/
structure DartLineFrame where
  address : Byte
  control : Byte
  controlType : ControlType
  sequence : Fin 16
  payload : List Byte
  receivedCrc : Option UInt16
  computedCrc : Option UInt16
  crcValid : Option Bool
  rawFrame : List Byte
  unknownControl : Bool
deriving DecidableEq, Repr

/-- The structural part of the parse, on the unescaped buffer. -/
def parseBuffer (raw buffer : List Byte) : Except ParseError DartLineFrame :=
  if buffer.length > MAX_BUFFER_SIZE then
    .error ⟨.BUFFER_TOO_LARGE,
      s!"unescaped buffer length {buffer.length} exceeds MAX_BUFFER_SIZE", raw⟩
  else
    match buffer with
    | address :: control :: body =>
        let controlType := classifyControl control
        let sequence := extractSequence control
        let unknown := decide (controlType = .UNKNOWN)
        -- ADR CTRL alone is a control frame
        if body.length = 0 then
          if controlType = .DATA then
            .error ⟨.TOO_SHORT_DATA, "DATA control byte with no CRC/ETX", raw⟩
          else
            .ok {
              address := address
              control := control
              controlType := controlType
              sequence := sequence
              payload := []
              receivedCrc := none
              computedCrc := none
              crcValid := none
              rawFrame := raw
              unknownControl := unknown }
        else if buffer.length < MIN_DATA_FRAME_SIZE then
          .error ⟨.TOO_SHORT_DATA,
            "DATA frame shorter than ADR+CTRL+CRC1+CRC2+ETX", raw⟩
        else if buffer.getLast? ≠ some ETX then
          .error ⟨.MISSING_ETX, "DATA frame must end with ETX before SF", raw⟩
        else
          let crc1 := buffer.getD (buffer.length - 3) 0
          let crc2 := buffer.getD (buffer.length - 2) 0
          let payload := body.take (body.length - 3)
          let receivedCrc := crcFromLeBytes crc1 crc2
          let computedCrc := dartCrc16 ([address, control] ++ payload)
          .ok {
            address := address
            control := control
            controlType := controlType
            sequence := sequence
            payload := payload
            receivedCrc := some receivedCrc
            computedCrc := some computedCrc
            crcValid := some (decide (computedCrc = receivedCrc))
            rawFrame := raw
            unknownControl := unknown }
    | _ => .error ⟨.TOO_SHORT, "buffer shorter than ADR+CTRL", raw⟩

/-- Parse a single complete frame. -/
def parseFrame (raw : List Byte) : Except ParseError DartLineFrame :=
  if raw.length < 3 then
    .error ⟨.TOO_SHORT, "frame shorter than ADR+CTRL+SF", raw⟩
  else if raw.getLast? ≠ some SF then
    .error ⟨.MISSING_SF, "frame must end with SF (0xFA)", raw⟩
  else if raw.dropLast.getLast? = some DLE then
    -- DLE immediately before the final SF: escaped, not a terminator
    .error ⟨.INVALID_TERMINATOR,
      "final SF is DLE-escaped; not a frame terminator", raw⟩
  else
    match unescapeDle raw.dropLast with
    | .error exc => .error ⟨.MALFORMED_DLE, exc.message, raw⟩
    | .ok buffer => parseBuffer raw buffer

/-- A parsed frame keeps the wire image it was read from. -/
theorem rawFrame_of_parseBuffer {raw buffer : List Byte} {frame : DartLineFrame}
    (hparsed : parseBuffer raw buffer = .ok frame) : frame.rawFrame = raw := by
  unfold parseBuffer at hparsed
  split at hparsed
  · cases hparsed
  · split at hparsed
    · simp only at hparsed
      split at hparsed
      · split at hparsed
        · cases hparsed
        · obtain rfl := Except.ok.inj hparsed
          rfl
      · split at hparsed
        · cases hparsed
        · split at hparsed
          · cases hparsed
          · obtain rfl := Except.ok.inj hparsed
            rfl
    · cases hparsed

theorem rawFrame_of_parseFrame {raw : List Byte} {frame : DartLineFrame}
    (hparsed : parseFrame raw = .ok frame) : frame.rawFrame = raw := by
  unfold parseFrame at hparsed
  split at hparsed
  · cases hparsed
  · split at hparsed
    · cases hparsed
    · split at hparsed
      · cases hparsed
      · split at hparsed
        · cases hparsed
        · exact rawFrame_of_parseBuffer hparsed

theorem parseFrame_ne_nil {raw : List Byte} {frame : DartLineFrame}
    (hparsed : parseFrame raw = .ok frame) : raw ≠ [] := by
  rintro rfl
  simp [parseFrame] at hparsed

/-- A candidate cut behind a DLE is refused as not terminated. -/
theorem parseFrame_escaped_terminator (front : List Byte) (hfront : front ≠ []) :
    parseFrame (front ++ [DLE, SF]) =
      .error ⟨.INVALID_TERMINATOR,
        "final SF is DLE-escaped; not a frame terminator",
        front ++ [DLE, SF]⟩ := by
  have hlength : ¬ (front ++ [DLE, SF]).length < 3 := by
    have hpos := List.length_pos_iff.mpr hfront
    simp only [List.length_append, List.length_cons, List.length_nil]
    omega
  have hlast : (front ++ [DLE, SF]).getLast? = some SF := by simp
  have hdrop : (front ++ [DLE, SF]).dropLast = front ++ [DLE] := by
    rw [show front ++ [DLE, SF] = (front ++ [DLE]) ++ [SF] by simp,
      List.dropLast_concat]
  unfold parseFrame
  rw [if_neg hlength, if_neg (not_not.mpr hlast), hdrop, if_pos (by simp)]

/-- The wire checks of `parseFrame` pass for an escaped buffer whose last byte
is neither DLE nor SF, and hand the same buffer to the structural part. -/
theorem parseFrame_escapeDle {front : List Byte} {last : Byte}
    (hfront : front ≠ []) (hsf : last ≠ SF) (hdle : last ≠ DLE) :
    parseFrame (escapeDle (front ++ [last]) ++ [SF]) =
      parseBuffer (escapeDle (front ++ [last]) ++ [SF]) (front ++ [last]) := by
  have hescaped : escapeDle (front ++ [last]) = escapeDle front ++ [last] := by
    rw [escapeDle_append, escapeDle_of_ne_SF hsf]
  have hlength : ¬ (escapeDle (front ++ [last]) ++ [SF]).length < 3 := by
    have hpos := List.length_pos_iff.mpr hfront
    have hle := length_le_length_escapeDle front
    rw [hescaped]
    simp only [List.length_append, List.length_cons, List.length_nil]
    omega
  have hlast : (escapeDle (front ++ [last]) ++ [SF]).getLast? = some SF := by simp
  have hbefore : (escapeDle (front ++ [last])).getLast? ≠ some DLE := by
    rw [hescaped]
    simpa using hdle
  have hunescape : unescapeDle (escapeDle (front ++ [last])) =
      .ok (front ++ [last]) :=
    unescapeDle_escapeDle _ (by simpa using hdle)
  unfold parseFrame
  rw [if_neg hlength, if_neg (not_not.mpr hlast), List.dropLast_concat,
    if_neg hbefore, hunescape]

/-- The frame a parsed control wire stands for. -/
def controlFrame (address : Byte) (controlType : ControlType)
    (sequence : Fin 16) : DartLineFrame where
  address := address
  control := controlByte controlType sequence
  controlType := controlType
  sequence := sequence
  payload := []
  receivedCrc := none
  computedCrc := none
  crcValid := none
  rawFrame := escapeDle (controlBuffer address controlType sequence) ++ [SF]
  unknownControl := false

/-- The frame a parsed DATA wire stands for. -/
def dataFrame (address : Byte) (sequence : Fin 16) (payload : List Byte) :
    DartLineFrame where
  address := address
  control := controlByte .DATA sequence
  controlType := .DATA
  sequence := sequence
  payload := payload
  receivedCrc := some (dartCrc16 (crcInput address sequence payload))
  computedCrc := some (dartCrc16 (crcInput address sequence payload))
  crcValid := some true
  rawFrame := escapeDle (dataBuffer address sequence payload) ++ [SF]
  unknownControl := false

/-- Parsing a built control frame gives back its fields. -/
theorem parseFrame_controlFrame {controlType : ControlType} {sequence : Fin 16}
    (address : Byte) (hbuildable : Buildable controlType sequence) :
    parseFrame (controlFrame address controlType sequence).rawFrame =
      .ok (controlFrame address controlType sequence) := by
  obtain ⟨hdata, hcomposable⟩ := hbuildable
  obtain ⟨hclass, hsequence⟩ := classify_controlByte hcomposable
  obtain ⟨hsf, hdle⟩ := controlByte_ne hcomposable
  have hsplit : controlBuffer address controlType sequence =
      [address] ++ [controlByte controlType sequence] := rfl
  unfold controlFrame
  rw [hsplit, parseFrame_escapeDle (by simp) hsf hdle]
  unfold parseBuffer
  simp [MAX_BUFFER_SIZE, hclass, hsequence, hdata, hcomposable.1]

theorem parseFrame_ackWire (address : Byte) (sequence : Fin 16) :
    parseFrame (ackWire address sequence) = .ok (controlFrame address .ACK sequence) :=
  parseFrame_controlFrame address ⟨by decide, composable_ack sequence⟩

/-- The buffer of a DATA frame, byte by byte. -/
theorem dataBuffer_eq (address : Byte) (sequence : Fin 16) (payload : List Byte) :
    dataBuffer address sequence payload =
      address :: controlByte .DATA sequence :: (payload ++
        [(dartCrc16 (crcInput address sequence payload) &&& 0xFF).toUInt8,
          ((dartCrc16 (crcInput address sequence payload) >>> 8) &&& 0xFF).toUInt8,
          ETX]) := by
  simp [dataBuffer, crcInput, crcBytesLe]

/-- The DATA layout, read from a buffer given by its parts. -/
theorem parseBuffer_data (raw : List Byte) (address control : Byte)
    (payload : List Byte) (crc1 crc2 : Byte)
    (hlength : payload.length + 5 ≤ MAX_BUFFER_SIZE) :
    parseBuffer raw (address :: control :: (payload ++ [crc1, crc2, ETX])) =
      .ok {
        address := address
        control := control
        controlType := classifyControl control
        sequence := extractSequence control
        payload := payload
        receivedCrc := some (crcFromLeBytes crc1 crc2)
        computedCrc := some (dartCrc16 ([address, control] ++ payload))
        crcValid := some (decide
          (dartCrc16 ([address, control] ++ payload) = crcFromLeBytes crc1 crc2))
        rawFrame := raw
        unknownControl := decide (classifyControl control = .UNKNOWN) } := by
  have hbound : ¬ (address :: control :: (payload ++ [crc1, crc2, ETX])).length >
      MAX_BUFFER_SIZE := by
    simp only [List.length_cons, List.length_append, List.length_nil]
    omega
  have hbody : ¬ (payload ++ [crc1, crc2, ETX]).length = 0 := by simp
  have hdata : ¬ (address :: control :: (payload ++ [crc1, crc2, ETX])).length <
      MIN_DATA_FRAME_SIZE := by
    simp only [List.length_cons, List.length_append, List.length_nil,
      MIN_DATA_FRAME_SIZE]
    omega
  have hetx : (address :: control :: (payload ++ [crc1, crc2, ETX])).getLast? =
      some ETX := by
    rw [show address :: control :: (payload ++ [crc1, crc2, ETX]) =
      (address :: control :: (payload ++ [crc1, crc2])) ++ [ETX] by simp]
    exact List.getLast?_concat
  have htake : (payload ++ [crc1, crc2, ETX]).take
      ((payload ++ [crc1, crc2, ETX]).length - 3) = payload := by
    simp
  have hcrc1 : (address :: control :: (payload ++ [crc1, crc2, ETX])).getD
      ((address :: control :: (payload ++ [crc1, crc2, ETX])).length - 3) 0 =
        crc1 := by
    simp
  have hcrc2 : (address :: control :: (payload ++ [crc1, crc2, ETX])).getD
      ((address :: control :: (payload ++ [crc1, crc2, ETX])).length - 2) 0 =
        crc2 := by
    simp
  unfold parseBuffer
  simp only [if_neg hbound, if_neg hbody, if_neg hdata, hetx, ne_eq,
    not_true_eq_false, if_false, htake, hcrc1, hcrc2]

/-- Parsing a built DATA frame gives back its fields, with a valid CRC. -/
theorem parseFrame_dataFrame {payload : List Byte} (address : Byte)
    (sequence : Fin 16) (hlength : payload.length + 5 ≤ MAX_BUFFER_SIZE) :
    parseFrame (dataFrame address sequence payload).rawFrame =
      .ok (dataFrame address sequence payload) := by
  obtain ⟨hclass, hsequence⟩ := classify_controlByte (composable_data sequence)
  have hread := crcFromLeBytes_crcBytesLe
    (dartCrc16 (crcInput address sequence payload))
  have hbody : (crcInput address sequence payload ++
      crcBytesLe (dartCrc16 (crcInput address sequence payload))) ≠ [] := by
    simp [crcInput]
  unfold dataFrame
  dsimp only
  rw [dataBuffer, parseFrame_escapeDle hbody (by decide) (by decide),
    ← dataBuffer, dataBuffer_eq, parseBuffer_data _ _ _ _ _ _ hlength, hclass,
    hsequence, hread]
  simp [crcInput]

end Line
end Dart
end Intelipump
