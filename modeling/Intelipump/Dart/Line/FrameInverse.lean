import Mathlib.Tactic.Common
import Intelipump.Dart.Line.FrameParser

namespace Intelipump
namespace Dart
namespace Line

/-!
# The parser as the inverse of the builders

Unescaping is undone by escaping on everything it accepts, so a parsed frame fixes its
buffer, and the buffer its wire image.  What is left is that each part of a buffer is
fixed by the fields read from it: the CTRL byte by its type and TX#
(`controlByte_classifyControl`), the CRC bytes by the word (`crcBytesLe_crcFromLeBytes`).
-/

/-! ## The parts of a buffer -/

/-- A CTRL byte of a known family is the one composed of its type and TX#. -/
theorem controlByte_classifyControl {control : Byte}
    (hknown : classifyControl control ≠ .UNKNOWN) :
    Composable (classifyControl control) (extractSequence control) ∧
      controlByte (classifyControl control) (extractSequence control) = control := by
  have hall : ∀ value : Fin 256, classifyControl (UInt8.ofNat value) ≠ .UNKNOWN →
      Composable (classifyControl (UInt8.ofNat value)) (extractSequence (UInt8.ofNat value)) ∧
        controlByte (classifyControl (UInt8.ofNat value))
          (extractSequence (UInt8.ofNat value)) = UInt8.ofNat value := by
    decide +kernel
  have hbyte := hall ⟨control.toNat, control.toNat_lt⟩
  simp only [UInt8.ofNat_toNat] at hbyte
  exact hbyte hknown

/-- The two CRC bytes are those of the word they are read as. -/
theorem crcBytesLe_crcFromLeBytes (crc1 crc2 : Byte) :
    crcBytesLe (crcFromLeBytes crc1 crc2) = [crc1, crc2] := by
  have hlow := crc1.toNat_lt
  have hhigh := crc2.toNat_lt
  have hmask : ∀ word : Nat, word &&& 255 = word % 256 := fun word =>
    Nat.and_two_pow_sub_one_eq_mod word 8
  -- the two bytes do not overlap, so that the OR is a sum
  have hword : (crcFromLeBytes crc1 crc2).toNat = crc2.toNat * 256 + crc1.toNat := by
    unfold crcFromLeBytes
    rw [UInt16.toNat_or, UInt16.toNat_shiftLeft, UInt8.toNat_toUInt16, UInt8.toNat_toUInt16,
      Nat.or_comm]
    have hunshift : crc2.toNat <<< (UInt16.toNat 8 % 16) % 2 ^ 16 = crc2.toNat <<< 8 := by
      change crc2.toNat <<< 8 % 2 ^ 16 = _
      rw [Nat.shiftLeft_eq]
      omega
    rw [hunshift, ← Nat.shiftLeft_add_eq_or_of_lt (by omega), Nat.shiftLeft_eq]
  have hfirst : (crcFromLeBytes crc1 crc2 &&& 0xFF).toUInt8 = crc1 := by
    apply UInt8.toNat_inj.mp
    rw [UInt16.toNat_toUInt8, UInt16.toNat_and, hword]
    change (crc2.toNat * 256 + crc1.toNat &&& 255) % 256 = crc1.toNat
    rw [hmask]
    omega
  have hsecond : ((crcFromLeBytes crc1 crc2 >>> 8) &&& 0xFF).toUInt8 = crc2 := by
    apply UInt8.toNat_inj.mp
    rw [UInt16.toNat_toUInt8, UInt16.toNat_and, UInt16.toNat_shiftRight, hword]
    change ((crc2.toNat * 256 + crc1.toNat) >>> 8 &&& 255) % 256 = crc2.toNat
    rw [hmask, Nat.shiftRight_eq_div_pow]
    omega
  unfold crcBytesLe
  rw [hfirst, hsecond]

/-! ## What a parsed frame says about its bytes -/

/-- A frame that was parsed is the escaping of its buffer. -/
theorem wire_of_parseFrame {raw : List Byte} {frame : DartLineFrame}
    (hparsed : parseFrame raw = .ok frame) :
    ∃ buffer, raw = escapeDle buffer ++ [SF] ∧ parseBuffer raw buffer = .ok frame := by
  unfold parseFrame at hparsed
  split at hparsed
  · cases hparsed
  · split at hparsed
    · cases hparsed
    · rename_i hlast
      split at hparsed
      · cases hparsed
      · split at hparsed
        · cases hparsed
        · rename_i buffer hunescaped
          refine ⟨buffer, ?_, hparsed⟩
          rw [escapeDle_of_unescapeDle hunescaped]
          exact (List.dropLast_append_getLast? SF (not_not.mp hlast)).symm

/-- The frame that ADR CTRL alone stands for. -/
def shortFrame (raw : List Byte) (address control : Byte) : DartLineFrame where
  address := address
  control := control
  controlType := classifyControl control
  sequence := extractSequence control
  payload := []
  receivedCrc := none
  computedCrc := none
  crcValid := none
  rawFrame := raw
  unknownControl := decide (classifyControl control = .UNKNOWN)

/-- The frame that the DATA layout stands for. -/
def longFrame (raw : List Byte) (address control : Byte) (payload : List Byte)
    (crc1 crc2 : Byte) : DartLineFrame where
  address := address
  control := control
  controlType := classifyControl control
  sequence := extractSequence control
  payload := payload
  receivedCrc := some (crcFromLeBytes crc1 crc2)
  computedCrc := some (dartCrc16 ([address, control] ++ payload))
  crcValid := some (decide
    (dartCrc16 ([address, control] ++ payload) = crcFromLeBytes crc1 crc2))
  rawFrame := raw
  unknownControl := decide (classifyControl control = .UNKNOWN)

/-- A body that ends in ETX behind two CRC bytes. -/
theorem body_eq_of_getLast? {body : List Byte} (hlength : 3 ≤ body.length)
    (hetx : body.getLast? = some ETX) :
    ∃ payload crc1 crc2, body = payload ++ [crc1, crc2, ETX] := by
  obtain ⟨front, rfl⟩ := List.getLast?_eq_some_iff.mp hetx
  rw [List.length_append, List.length_singleton] at hlength
  have hsplit : front.take (front.length - 2) ++ front.drop (front.length - 2) = front :=
    List.take_append_drop _ front
  have htail : (front.drop (front.length - 2)).length = 2 := by
    rw [List.length_drop]
    omega
  obtain ⟨crc1, crc2, hcrc⟩ := List.length_eq_two.mp htail
  refine ⟨front.take (front.length - 2), crc1, crc2, ?_⟩
  rw [hcrc] at hsplit
  nth_rewrite 1 [← hsplit]
  rw [List.append_assoc]
  rfl

/-- The two layouts of a buffer. -/
theorem buffer_of_parseBuffer {raw buffer : List Byte} {frame : DartLineFrame}
    (hparsed : parseBuffer raw buffer = .ok frame) :
    (∃ address control, buffer = [address, control] ∧ classifyControl control ≠ .DATA ∧
        frame = shortFrame raw address control) ∨
      ∃ address control payload crc1 crc2,
        buffer = address :: control :: (payload ++ [crc1, crc2, ETX]) ∧
          payload.length + 5 ≤ MAX_BUFFER_SIZE ∧
          frame = longFrame raw address control payload crc1 crc2 := by
  have hread := hparsed
  unfold parseBuffer at hparsed
  split at hparsed
  · cases hparsed
  · rename_i hbound
    split at hparsed
    · rename_i address control body
      dsimp only at hparsed
      split at hparsed
      · rename_i hbody
        obtain rfl := List.length_eq_zero_iff.mp hbody
        split at hparsed
        · cases hparsed
        · rename_i hdata
          exact Or.inl ⟨address, control, rfl, hdata, (Except.ok.inj hparsed).symm⟩
      · split at hparsed
        · cases hparsed
        · rename_i hlong
          split at hparsed
          · cases hparsed
          · rename_i hetx
            -- the DATA layout is read off the end, so the buffer is put into that shape first
            unfold MIN_DATA_FRAME_SIZE at hlong
            simp only [List.length_cons] at hlong hbound
            have hlast : body.getLast? = some ETX := by
              obtain ⟨first, rest, rfl⟩ :=
                List.exists_cons_of_length_pos (l := body) (by omega)
              simpa using hetx
            obtain ⟨payload, crc1, crc2, rfl⟩ := body_eq_of_getLast? (by omega) hlast
            have hfits : payload.length + 5 ≤ MAX_BUFFER_SIZE := by
              simp only [List.length_append, List.length_cons, List.length_nil] at hbound
              omega
            rw [parseBuffer_data raw address control payload crc1 crc2 hfits] at hread
            exact Or.inr ⟨address, control, payload, crc1, crc2, rfl, hfits,
              (Except.ok.inj hread).symm⟩
    · cases hparsed

/-! ## The parser against the builders -/

/-- A DATA frame with a valid CRC was built from its fields. -/
theorem buildDataFrame_of_parseFrame {raw : List Byte} {frame : DartLineFrame}
    (hparsed : parseFrame raw = .ok frame) (hdata : frame.controlType = .DATA)
    (hcrc : frame.crcValid = some true) :
    buildDataFrame frame.address frame.sequence frame.payload = .ok raw := by
  obtain ⟨buffer, hraw, hbuffer⟩ := wire_of_parseFrame hparsed
  rcases buffer_of_parseBuffer hbuffer with
    ⟨address, control, -, -, rfl⟩ | ⟨address, control, payload, crc1, crc2, rfl, hfits, rfl⟩
  · cases hcrc
  · change classifyControl control = .DATA at hdata
    have hcontrol : controlByte .DATA (extractSequence control) = control := by
      have hclass : classifyControl control ≠ .UNKNOWN := by
        rw [hdata]
        decide
      have hbyte := (controlByte_classifyControl hclass).2
      rwa [hdata] at hbyte
    have hword : dartCrc16 ([address, control] ++ payload) = crcFromLeBytes crc1 crc2 :=
      of_decide_eq_true (Option.some.inj hcrc)
    change buildDataFrame address (extractSequence control) payload = _
    rw [buildDataFrame_eq_ok address (extractSequence control) hfits, hraw]
    unfold dataBuffer crcInput
    rw [hcontrol, hword, crcBytesLe_crcFromLeBytes]
    simp

/-- A frame of another known type without a CRC was built from its fields. -/
theorem buildControlFrame_of_parseFrame {raw : List Byte} {frame : DartLineFrame}
    (hparsed : parseFrame raw = .ok frame) (hdata : frame.controlType ≠ .DATA)
    (hknown : frame.controlType ≠ .UNKNOWN) (hcrc : frame.crcValid = none) :
    buildControlFrame frame.address frame.controlType frame.sequence = .ok raw := by
  obtain ⟨buffer, hraw, hbuffer⟩ := wire_of_parseFrame hparsed
  rcases buffer_of_parseBuffer hbuffer with
    ⟨address, control, rfl, -, rfl⟩ | ⟨address, control, payload, crc1, crc2, -, -, rfl⟩
  · change classifyControl control ≠ .DATA at hdata
    obtain ⟨hcomposable, hcontrol⟩ := controlByte_classifyControl hknown
    change buildControlFrame address (classifyControl control) (extractSequence control) = _
    rw [buildControlFrame_eq_ok address ⟨hdata, hcomposable⟩, hraw]
    unfold controlBuffer
    rw [hcontrol]
  · cases hcrc

theorem parseFrame_of_buildDataFrame {address : Byte} {sequence : Fin 16}
    {payload raw : List Byte} (hbuilt : buildDataFrame address sequence payload = .ok raw) :
    parseFrame raw = .ok (dataFrame address sequence payload) := by
  have hfits := length_le_of_buildDataFrame hbuilt
  rw [buildDataFrame_eq_ok address sequence hfits] at hbuilt
  obtain rfl := Except.ok.inj hbuilt
  exact parseFrame_dataFrame address sequence hfits

theorem parseFrame_of_buildControlFrame {address : Byte} {controlType : ControlType}
    {sequence : Fin 16} {raw : List Byte}
    (hbuilt : buildControlFrame address controlType sequence = .ok raw) :
    controlType ≠ .DATA ∧ controlType ≠ .UNKNOWN ∧
      parseFrame raw = .ok (controlFrame address controlType sequence) := by
  have hbuildable := buildable_of_buildControlFrame hbuilt
  rw [buildControlFrame_eq_ok address hbuildable] at hbuilt
  obtain rfl := Except.ok.inj hbuilt
  exact ⟨hbuildable.1, hbuildable.2.1, parseFrame_controlFrame address hbuildable⟩

/-- The parser inverts the builders: a frame parses as DATA with a valid CRC exactly when
it is the built image of its fields, a frame of another known type parses without a CRC
exactly when it is, and every built image parses to the fields it was built from. -/
theorem parseFrame_inverts_builders (raw : List Byte) :
    (∀ frame, parseFrame raw = .ok frame →
      ((frame.controlType = .DATA ∧ frame.crcValid = some true ↔
          buildDataFrame frame.address frame.sequence frame.payload = .ok raw) ∧
        (frame.controlType ≠ .DATA ∧ frame.controlType ≠ .UNKNOWN ∧ frame.crcValid = none ↔
          buildControlFrame frame.address frame.controlType frame.sequence = .ok raw))) ∧
    (∀ address sequence payload, buildDataFrame address sequence payload = .ok raw →
      ∃ frame, parseFrame raw = .ok frame ∧ frame.controlType = .DATA ∧
        frame.crcValid = some true ∧ frame.address = address ∧ frame.sequence = sequence ∧
        frame.payload = payload) ∧
    (∀ address controlType sequence,
      buildControlFrame address controlType sequence = .ok raw →
      ∃ frame, parseFrame raw = .ok frame ∧ frame.controlType = controlType ∧
        frame.crcValid = none ∧ frame.address = address ∧ frame.sequence = sequence ∧
        frame.payload = []) := by
  refine ⟨fun frame hparsed => ⟨⟨?_, fun hbuilt => ?_⟩, ⟨?_, fun hbuilt => ?_⟩⟩, ?_, ?_⟩
  · rintro ⟨hdata, hcrc⟩
    exact buildDataFrame_of_parseFrame hparsed hdata hcrc
  · have hframe := parseFrame_of_buildDataFrame hbuilt
    rw [hparsed] at hframe
    rw [Except.ok.inj hframe]
    exact ⟨rfl, rfl⟩
  · rintro ⟨hdata, hknown, hcrc⟩
    exact buildControlFrame_of_parseFrame hparsed hdata hknown hcrc
  · obtain ⟨hdata, hknown, hframe⟩ := parseFrame_of_buildControlFrame hbuilt
    rw [hparsed] at hframe
    refine ⟨hdata, hknown, ?_⟩
    rw [Except.ok.inj hframe]
    rfl
  · intro address sequence payload hbuilt
    exact ⟨_, parseFrame_of_buildDataFrame hbuilt, rfl, rfl, rfl, rfl, rfl⟩
  · intro address controlType sequence hbuilt
    exact ⟨_, (parseFrame_of_buildControlFrame hbuilt).2.2, rfl, rfl, rfl, rfl, rfl⟩

end Line
end Dart
end Intelipump
