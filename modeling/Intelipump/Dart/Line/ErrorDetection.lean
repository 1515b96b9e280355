import Intelipump.Dart.Line.FrameParser
import Intelipump.Foundation.ShiftRegister

namespace Intelipump
namespace Dart
namespace Line

open Foundation

/-!
# What the CRC detects

The CRC loop is the shift register with the polynomial `0xA001`, fed with the
bits of the wire, least significant first; the two CRC bytes, low byte first,
are fed behind the message and bring the register of an undamaged buffer to
zero.  So the damage decides alone whether a damaged buffer passes.
-/

/-! ## The wire as bits -/

/-- The bits of a byte, least significant first. -/
def byteBits (byte : Byte) : List Bool := (List.range 8).map byte.toBitVec.getLsbD

/-- The bits of a buffer in the order of the wire. -/
def wireBits (buffer : List Byte) : List Bool := buffer.flatMap byteBits

@[simp] theorem length_byteBits (byte : Byte) : (byteBits byte).length = 8 := by
  simp [byteBits]

theorem length_wireBits (buffer : List Byte) :
    (wireBits buffer).length = 8 * buffer.length := by
  induction buffer with
  | nil => rfl
  | cons byte rest ih =>
      have hcons : wireBits (byte :: rest) = byteBits byte ++ wireBits rest := rfl
      rw [hcons, List.length_append, ih, length_byteBits, List.length_cons]
      omega

theorem getD_byteBits (byte : Byte) (index : Nat) :
    (byteBits byte).getD index false = byte.toBitVec.getLsbD index := by
  unfold byteBits
  by_cases hindex : index < 8
  · rw [List.getD_eq_getElem _ _ (by simpa using hindex)]
    simp
  · rw [List.getD_eq_default _ _ (by simpa using hindex),
      BitVec.getLsbD_of_ge _ _ (by omega)]

/-! ## The CRC as a shift register -/

theorem toBitVec_crcBitStep (poly crc : UInt16) :
    (crcBitStep poly crc).toBitVec = ShiftRegister.step poly.toBitVec crc.toBitVec := by
  -- the mask 0x0001 tests the bit that falls out
  have hlow : (crc &&& 0x0001 ≠ 0) ↔ crc.toBitVec.getLsbD 0 = true := by
    rw [ne_eq, ← UInt16.toBitVec_inj]
    have hmask : (crc &&& 0x0001).toBitVec = crc.toBitVec &&& 0x0001#16 := rfl
    rw [hmask]
    constructor
    · intro hne
      by_contra hbit
      apply hne
      apply BitVec.eq_of_getLsbD_eq
      intro index hindex
      cases index with
      | zero => simpa using hbit
      | succ index =>
          rw [BitVec.getLsbD_and]
          have hone : (0x0001#16).getLsbD (index + 1) = false := by
            simp [BitVec.getLsbD_one]
          simp [hone]
    · intro hbit hzero
      have hboth := congrArg (fun word : BitVec 16 => word.getLsbD 0) hzero
      rw [BitVec.getLsbD_and, hbit] at hboth
      exact absurd hboth (by decide)
  unfold crcBitStep ShiftRegister.step
  by_cases hbit : crc.toBitVec.getLsbD 0 = true
  · rw [if_pos (hlow.mpr hbit), if_pos hbit]
    rfl
  · rw [if_neg (fun hne => hbit (hlow.mp hne)), if_neg hbit, BitVec.xor_zero]
    rfl

/-- Eight bit steps with the byte added in are eight bits fed. -/
theorem toBitVec_crcByteStep (poly crc : UInt16) (byte : Byte) :
    (crcByteStep poly crc byte).toBitVec =
      ShiftRegister.feed poly.toBitVec crc.toBitVec (byteBits byte) := by
  have hpack : ShiftRegister.pack (byteBits byte) = byte.toUInt16.toBitVec := by
    apply BitVec.eq_of_getLsbD_eq
    intro index hindex
    rw [ShiftRegister.getLsbD_pack, getD_byteBits, UInt8.toBitVec_toUInt16,
      BitVec.getLsbD_setWidth]
  have hsteps : Function.Semiconj UInt16.toBitVec (crcBitStep poly)
      (ShiftRegister.step poly.toBitVec) := toBitVec_crcBitStep poly
  rw [ShiftRegister.feed_eq_iterate _ _ _ (by simp), length_byteBits, hpack]
  exact (hsteps.iterate_right 8) (crc ^^^ byte.toUInt16)

theorem toBitVec_foldl_crcByteStep (poly init : UInt16) (data : List Byte) :
    (data.foldl (crcByteStep poly) init).toBitVec =
      ShiftRegister.feed poly.toBitVec init.toBitVec (wireBits data) := by
  induction data generalizing init with
  | nil => rfl
  | cons byte rest ih =>
      have hcons : wireBits (byte :: rest) = byteBits byte ++ wireBits rest := rfl
      rw [List.foldl_cons, ih, hcons, ShiftRegister.feed_append, toBitVec_crcByteStep]

/-- The register after the bits of a buffer. -/
def residue (buffer : List Byte) : BitVec 16 :=
  ShiftRegister.feed 0xA001#16 0#16 (wireBits buffer)

theorem toBitVec_dartCrc16 (data : List Byte) :
    (dartCrc16 data).toBitVec = residue data := by
  have hcrc : dartCrc16 data = data.foldl (crcByteStep 0xA001) 0 :=
    UInt16.xor_zero
  rw [hcrc, toBitVec_foldl_crcByteStep]
  rfl

/-- The CRC bytes, low byte first, are the CRC word bit by bit. -/
theorem pack_crcBytes (crc1 crc2 : Byte) :
    ShiftRegister.pack (byteBits crc1 ++ byteBits crc2) =
      (crcFromLeBytes crc1 crc2).toBitVec := by
  have hword : (crcFromLeBytes crc1 crc2).toBitVec =
      crc1.toBitVec.setWidth 16 ||| crc2.toBitVec.setWidth 16 <<< 8 := rfl
  apply BitVec.eq_of_getLsbD_eq
  intro index hindex
  rw [ShiftRegister.getLsbD_pack, hword, BitVec.getLsbD_or, BitVec.getLsbD_shiftLeft,
    BitVec.getLsbD_setWidth, BitVec.getLsbD_setWidth]
  by_cases hlow : index < 8
  · rw [List.getD_append _ _ _ _ (by simpa using hlow), getD_byteBits]
    simp [hindex, hlow]
  · rw [List.getD_append_right _ _ _ _ (by simpa using hlow), getD_byteBits,
      BitVec.getLsbD_of_ge crc1.toBitVec index (by omega)]
    have hsecond : index - 8 < 16 := by omega
    simp [hindex, hlow, hsecond]

/-! ## The check of a buffer -/

/-- The CRC over everything in front of the two CRC bytes. -/
def recomputedCrc (buffer : List Byte) : UInt16 :=
  dartCrc16 (buffer.take (buffer.length - 2))

/-- The word of the two CRC bytes. -/
def receivedCrc (buffer : List Byte) : UInt16 :=
  crcFromLeBytes (buffer.getD (buffer.length - 2) 0) (buffer.getD (buffer.length - 1) 0)

theorem recomputedCrc_append (message : List Byte) (crc1 crc2 : Byte) :
    recomputedCrc (message ++ [crc1, crc2]) = dartCrc16 message := by
  simp [recomputedCrc]

theorem receivedCrc_append (message : List Byte) (crc1 crc2 : Byte) :
    receivedCrc (message ++ [crc1, crc2]) = crcFromLeBytes crc1 crc2 := by
  simp [receivedCrc]

/-- A buffer passes exactly when it brings the register to zero. -/
theorem recomputedCrc_eq_receivedCrc_iff {buffer : List Byte} (hlength : 2 ≤ buffer.length) :
    recomputedCrc buffer = receivedCrc buffer ↔ residue buffer = 0#16 := by
  obtain ⟨message, crc1, crc2, rfl⟩ :
      ∃ message crc1 crc2, buffer = message ++ [crc1, crc2] := by
    have htail : (buffer.drop (buffer.length - 2)).length = 2 := by
      rw [List.length_drop]
      omega
    obtain ⟨crc1, crc2, hcrc⟩ := List.length_eq_two.mp htail
    exact ⟨buffer.take (buffer.length - 2), crc1, crc2,
      by rw [← hcrc, List.take_append_drop]⟩
  have hbits : wireBits (message ++ [crc1, crc2]) =
      wireBits message ++ (byteBits crc1 ++ byteBits crc2) := by
    simp [wireBits]
  have hresidue : residue (message ++ [crc1, crc2]) =
      (ShiftRegister.step 0xA001#16)^[16]
        ((dartCrc16 message).toBitVec ^^^ (crcFromLeBytes crc1 crc2).toBitVec) := by
    unfold residue
    rw [hbits, ShiftRegister.feed_append,
      ShiftRegister.feed_eq_iterate _ _ (byteBits crc1 ++ byteBits crc2) (by simp),
      pack_crcBytes, toBitVec_dartCrc16]
    simp [residue]
  rw [recomputedCrc_append, receivedCrc_append, hresidue,
    ShiftRegister.iterate_step_eq_zero_iff (by decide), BitVec.xor_eq_zero_iff,
    UInt16.toBitVec_inj]

/-- ADR CTRL DATA… CRC1 CRC2, with the CRC of what is in front of it. -/
def crcBuffer (address control : Byte) (payload : List Byte) : List Byte :=
  address :: control :: payload ++ crcBytesLe (dartCrc16 (address :: control :: payload))

theorem residue_crcBuffer (address control : Byte) (payload : List Byte) :
    residue (crcBuffer address control payload) = 0#16 := by
  rw [← recomputedCrc_eq_receivedCrc_iff (by simp [crcBuffer])]
  unfold crcBuffer crcBytesLe
  rw [recomputedCrc_append, receivedCrc_append, crcFromLeBytes_crcBytesLe]

/-! ## Damage -/

/-- Which of the `count` bits from `offset` on are flipped. -/
def errorBits (positions : Finset Nat) (offset count : Nat) : List Bool :=
  (List.range' offset count).map fun position => decide (position ∈ positions)

/-- Flip the listed bits of a byte whose first bit is at `offset`. -/
def flipByte (positions : Finset Nat) (offset : Nat) (byte : Byte) : Byte :=
  ⟨byte.toBitVec ^^^ ShiftRegister.pack (errorBits positions offset 8)⟩

def flipFrom (positions : Finset Nat) : Nat → List Byte → List Byte
  | _, [] => []
  | offset, byte :: rest =>
      flipByte positions offset byte :: flipFrom positions (offset + 8) rest

/-- Flip the bits at `positions`, counted in the order of the wire. -/
def flipBits (positions : Finset Nat) (buffer : List Byte) : List Byte :=
  flipFrom positions 0 buffer

example : flipBits {0, 15} [0x01, 0x30] = [0x00, 0xB0] := by decide

@[simp] theorem length_flipFrom (positions : Finset Nat) (offset : Nat)
    (buffer : List Byte) : (flipFrom positions offset buffer).length = buffer.length := by
  induction buffer generalizing offset with
  | nil => rfl
  | cons byte rest ih => rw [flipFrom, List.length_cons, ih, List.length_cons]

theorem errorBits_add (positions : Finset Nat) (offset left right : Nat) :
    errorBits positions offset (left + right) =
      errorBits positions offset left ++ errorBits positions (offset + left) right := by
  unfold errorBits
  rw [← List.map_append, ← List.range'_append_1]

theorem byteBits_flipByte (positions : Finset Nat) (offset : Nat) (byte : Byte) :
    byteBits (flipByte positions offset byte) =
      List.zipWith xor (byteBits byte) (errorBits positions offset 8) := by
  apply List.ext_getElem
  · simp [errorBits]
  · intro index hleft hright
    rw [length_byteBits] at hleft
    have hpacked := ShiftRegister.getLsbD_pack (n := 8) (errorBits positions offset 8) index
    rw [List.getD_eq_getElem _ _ (by simpa [errorBits] using hleft)] at hpacked
    simpa [byteBits, flipByte, hleft] using hpacked

theorem wireBits_flipFrom (positions : Finset Nat) (offset : Nat) (buffer : List Byte) :
    wireBits (flipFrom positions offset buffer) =
      List.zipWith xor (wireBits buffer) (errorBits positions offset (8 * buffer.length)) := by
  induction buffer generalizing offset with
  | nil => rfl
  | cons byte rest ih =>
      have hcons : ∀ (first : Byte) (later : List Byte),
          wireBits (first :: later) = byteBits first ++ wireBits later := fun _ _ => rfl
      have hcount : 8 * (byte :: rest).length = 8 + 8 * rest.length := by
        rw [List.length_cons]
        omega
      rw [flipFrom, hcons, hcons, ih, byteBits_flipByte, hcount, errorBits_add,
        List.zipWith_append (by simp [errorBits])]

/-- The damage is all that the register sees of a damaged buffer. -/
theorem residue_flipBits (positions : Finset Nat) {buffer : List Byte}
    (hresidue : residue buffer = 0#16) :
    residue (flipBits positions buffer) =
      ShiftRegister.feed 0xA001#16 0#16 (errorBits positions 0 (8 * buffer.length)) := by
  have hlinear := ShiftRegister.feed_xor 0xA001#16 0#16 0#16 (wireBits buffer)
    (errorBits positions 0 (8 * buffer.length)) (by simp [length_wireBits, errorBits])
  have hclean : ShiftRegister.feed 0xA001#16 0#16 (wireBits buffer) = 0#16 := hresidue
  rw [hclean, BitVec.zero_xor, BitVec.zero_xor] at hlinear
  unfold residue flipBits
  rw [wireBits_flipFrom, hlinear]

/-- Some bits, all within sixteen consecutive positions. -/
def Burst (positions : Finset Nat) : Prop :=
  positions.Nonempty ∧ ∃ first, positions ⊆ Finset.Ico first (first + 16)

theorem feed_burst_errorBits {positions : Finset Nat} {count : Nat}
    (hbits : positions ⊆ Finset.range count) (hburst : Burst positions) :
    ShiftRegister.feed 0xA001#16 0#16 (errorBits positions 0 count) ≠ 0#16 := by
  obtain ⟨⟨position, hposition⟩, first, hwindow⟩ := hburst
  have hcount := Finset.mem_range.mp (hbits hposition)
  obtain ⟨hfirst, hlast⟩ := Finset.mem_Ico.mp (hwindow hposition)
  -- in front of the window, the window, and behind it
  obtain ⟨width, rest, hwidth, hcovers, hsplit⟩ : ∃ width rest, width ≤ 16 ∧
      position < first + width ∧ count = first + width + rest ∧
        (rest = 0 ∨ width = 16) := by
    by_cases hroom : first + 16 ≤ count
    · exact ⟨16, count - (first + 16), le_rfl, hlast, by omega, .inr rfl⟩
    · exact ⟨count - first, 0, by omega, by omega, by omega, .inl rfl⟩
  obtain ⟨hsum, hrest⟩ := hsplit
  rw [hsum, errorBits_add, errorBits_add]
  refine ShiftRegister.feed_burst_ne_zero (by decide) ?_ ?_ ?_ ?_
  · intro bit hbit
    obtain ⟨index, hindex, rfl⟩ := List.mem_map.mp hbit
    have hlt := (List.mem_range'_1.mp hindex).2
    rw [decide_eq_false_iff_not]
    intro hmem
    have hge := (Finset.mem_Ico.mp (hwindow hmem)).1
    omega
  · intro bit hbit
    obtain ⟨index, hindex, rfl⟩ := List.mem_map.mp hbit
    obtain ⟨hge, hlt⟩ := List.mem_range'_1.mp hindex
    rw [decide_eq_false_iff_not]
    intro hmem
    have hbelow := (Finset.mem_Ico.mp (hwindow hmem)).2
    omega
  · simpa [errorBits] using hwidth
  · refine List.mem_map.mpr ⟨position, List.mem_range'_1.mpr ⟨by omega, by omega⟩, ?_⟩
    exact decide_eq_true hposition

theorem sum_weight_errorBits {positions : Finset Nat} {count : Nat}
    (hbits : positions ⊆ Finset.range count) :
    ((errorBits positions 0 count).map ShiftRegister.weight).sum =
      (positions.card : ZMod 2) := by
  have hsum : ((errorBits positions 0 count).map ShiftRegister.weight).sum =
      ∑ position ∈ Finset.range count, if position ∈ positions then (1 : ZMod 2) else 0 := by
    unfold errorBits ShiftRegister.weight
    rw [List.map_map, ← List.range_eq_range']
    simp only [Function.comp_def, decide_eq_true_eq]
    rfl
  rw [hsum, Finset.sum_ite_mem, Finset.inter_eq_right.mpr hbits, Finset.sum_const,
    nsmul_eq_mul, mul_one]

theorem feed_odd_errorBits {positions : Finset Nat} {count : Nat}
    (hbits : positions ⊆ Finset.range count) (hodd : Odd positions.card) :
    ShiftRegister.feed 0xA001#16 0#16 (errorBits positions 0 count) ≠ 0#16 := by
  refine ShiftRegister.feed_odd_ne_zero (by decide) (by decide +kernel) ?_
  rw [sum_weight_errorBits hbits]
  exact ZMod.natCast_eq_one_iff_odd.mpr hodd

/-- A buffer of four bytes or more ends with a CRC field. -/
theorem exists_crcField {buffer : List Byte} {count : Nat}
    (hlength : buffer.length = count + 4) :
    ∃ address control data crc1 crc2,
      buffer = address :: control :: data ++ [crc1, crc2] := by
  rcases buffer with _ | ⟨address, _ | ⟨control, rest⟩⟩
  · cases hlength
  · simp only [List.length_cons, List.length_nil] at hlength
    omega
  · simp only [List.length_cons] at hlength
    have htail : (rest.drop (rest.length - 2)).length = 2 := by
      rw [List.length_drop]
      omega
    obtain ⟨crc1, crc2, hcrc⟩ := List.length_eq_two.mp htail
    refine ⟨address, control, rest.take (rest.length - 2), crc1, crc2, ?_⟩
    rw [← hcrc, List.cons_append, List.cons_append, List.take_append_drop]

/-- A burst of up to sixteen bits, or any odd number of bits, makes the two
CRC words of a buffer differ, and the frame is parsed as one with a bad CRC. -/
theorem crc_detects (address control : Byte) (payload : List Byte)
    (positions : Finset Nat)
    (hbits : positions ⊆ Finset.range (8 * (crcBuffer address control payload).length))
    (hdamage : Burst positions ∨ Odd positions.card) :
    recomputedCrc (flipBits positions (crcBuffer address control payload)) ≠
        receivedCrc (flipBits positions (crcBuffer address control payload)) ∧
      (payload.length + 5 ≤ MAX_BUFFER_SIZE →
        ∃ frame,
          parseFrame (escapeDle
            (flipBits positions (crcBuffer address control payload) ++ [ETX]) ++ [SF]) =
              .ok frame ∧
          frame.crcValid = some false) := by
  have hlength : (flipBits positions (crcBuffer address control payload)).length =
      payload.length + 4 := by
    simp [flipBits, crcBuffer]
  have hdiffer : recomputedCrc (flipBits positions (crcBuffer address control payload)) ≠
      receivedCrc (flipBits positions (crcBuffer address control payload)) := by
    -- a correct buffer leaves nothing in the register, so the damage alone decides
    rw [ne_eq, recomputedCrc_eq_receivedCrc_iff (by omega),
      residue_flipBits positions (residue_crcBuffer address control payload)]
    rcases hdamage with hburst | hodd
    · exact feed_burst_errorBits hbits hburst
    · exact feed_odd_errorBits hbits hodd
  refine ⟨hdiffer, ?_⟩
  -- the parser reads the same two fields of the damaged buffer
  intro hroom
  generalize flipBits positions (crcBuffer address control payload) = damaged at hlength hdiffer
  obtain ⟨damagedAddress, damagedControl, data, crc1, crc2, rfl⟩ := exists_crcField hlength
  rw [recomputedCrc_append, receivedCrc_append] at hdiffer
  have hdata : data.length + 5 ≤ MAX_BUFFER_SIZE := by
    simp only [List.length_append, List.length_cons, List.length_nil] at hlength
    omega
  have hbuffer : damagedAddress :: damagedControl :: data ++ [crc1, crc2] ++ [ETX] =
      damagedAddress :: damagedControl :: (data ++ [crc1, crc2, ETX]) := by simp
  have hparsed := parseBuffer_data
    (escapeDle (damagedAddress :: damagedControl :: data ++ [crc1, crc2] ++ [ETX]) ++ [SF])
    damagedAddress damagedControl data crc1 crc2 hdata
  rw [← hbuffer, ← parseFrame_escapeDle (by simp) (by decide) (by decide)] at hparsed
  exact ⟨_, hparsed, by simpa using hdiffer⟩

/-- A burst from the second payload byte to the first CRC byte. -/
theorem crc_detects_burst :
    recomputedCrc (flipBits {30, 33, 45} (crcBuffer 0x01 0x30 [0x01, 0x01, 0x01])) ≠
        receivedCrc (flipBits {30, 33, 45} (crcBuffer 0x01 0x30 [0x01, 0x01, 0x01])) ∧
      (3 + 5 ≤ MAX_BUFFER_SIZE →
        ∃ frame,
          parseFrame (escapeDle
            (flipBits {30, 33, 45} (crcBuffer 0x01 0x30 [0x01, 0x01, 0x01]) ++ [ETX]) ++
              [SF]) = .ok frame ∧
          frame.crcValid = some false) :=
  crc_detects 0x01 0x30 [0x01, 0x01, 0x01] {30, 33, 45} (by decide)
    (.inl ⟨⟨30, by decide⟩, 30, by decide⟩)

end Line
end Dart
end Intelipump
