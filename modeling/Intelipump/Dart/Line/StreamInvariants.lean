import Intelipump.Dart.Line.StreamRoundTrip

namespace Intelipump
namespace Dart
namespace Line

/-!
# What the assembler keeps over any stream

No byte is lost or repeated, the buffer stays within its maximum, and the last
SF of a built frame brings any assembler back to its initial state: the byte
in front of that SF is never a DLE, so nothing is armed when it arrives.
-/

namespace FrameStreamAssembler

/-- `FrameStreamAssembler(max_buffer=...)`. -/
def create (maxBuffer : Int) : Except Raised FrameStreamAssembler :=
  if hmax : maxBuffer < 3 then
    .error (.valueError "max_buffer must be >= 3")
  else
    .ok {
      maxBuffer := maxBuffer.toNat
      buf := []
      afterDle := false
      three_le_maxBuffer := by omega }

theorem create_default : create (MAX_BUFFER_SIZE * 2 : Nat) = .ok default := rfl

theorem of_create {maxBuffer : Int} {assembler : FrameStreamAssembler}
    (hcreate : create maxBuffer = .ok assembler) :
    assembler.buf = [] ∧ assembler.afterDle = false ∧
      (assembler.maxBuffer : Int) = maxBuffer := by
  unfold create at hcreate
  split at hcreate
  · cases hcreate
  · rename_i hmax
    obtain rfl := Except.ok.inj hcreate
    exact ⟨rfl, rfl, Int.toNat_of_nonneg (by omega)⟩

/-! ## Conservation -/

theorem raw_candidateEvent (raw : List Byte) : (candidateEvent raw).raw = raw := by
  unfold candidateEvent
  split
  · rfl
  · cases parseFrame raw <;> rfl

/-- An overflow hands out what it clears. -/
theorem checkOverflow_conserves (assembler : FrameStreamAssembler) :
    assembler.checkOverflow.2.flatMap AssemblerEvent.raw ++
      assembler.checkOverflow.1.buf = assembler.buf := by
  unfold checkOverflow
  split
  · rfl
  · simp [reset]

theorem feedByte_conserves (assembler : FrameStreamAssembler) (byte : Byte) :
    (assembler.feedByte byte).2.flatMap AssemblerEvent.raw ++
      (assembler.feedByte byte).1.buf = assembler.buf ++ [byte] := by
  unfold feedByte
  split
  · exact checkOverflow_conserves _
  · split
    · rename_i hdle
      subst hdle
      exact checkOverflow_conserves _
    · split
      · exact checkOverflow_conserves _
      · simp [raw_candidateEvent]

/-- The bytes on the events, then the buffered ones, are the bytes fed. -/
theorem feed_conserves (assembler : FrameStreamAssembler) (wire : List Byte) :
    (assembler.feed wire).2.flatMap AssemblerEvent.raw ++
      (assembler.feed wire).1.buf = assembler.buf ++ wire := by
  induction wire generalizing assembler with
  | nil => simp
  | cons byte rest ih =>
      have hstep := feedByte_conserves assembler byte
      rw [feed_cons, List.flatMap_append, List.append_assoc, ih,
        ← List.append_assoc, hstep, List.append_assoc, List.singleton_append]

/-! ## The bound -/

@[simp] theorem maxBuffer_checkOverflow (assembler : FrameStreamAssembler) :
    assembler.checkOverflow.1.maxBuffer = assembler.maxBuffer := by
  unfold checkOverflow
  split <;> rfl

@[simp] theorem maxBuffer_feedByte (assembler : FrameStreamAssembler) (byte : Byte) :
    (assembler.feedByte byte).1.maxBuffer = assembler.maxBuffer := by
  unfold feedByte
  split
  · simp
  · split
    · simp
    · split <;> simp

@[simp] theorem maxBuffer_feed (assembler : FrameStreamAssembler) (wire : List Byte) :
    (assembler.feed wire).1.maxBuffer = assembler.maxBuffer := by
  induction wire generalizing assembler with
  | nil => rfl
  | cons byte rest ih => rw [feed_cons, ih, maxBuffer_feedByte]

/-- After the overflow check the pending bytes fit, a pending DLE included. -/
theorem pendingSize_checkOverflow_le (assembler : FrameStreamAssembler) :
    assembler.checkOverflow.1.pendingSize ≤ assembler.maxBuffer := by
  unfold checkOverflow
  split
  · assumption
  · simp [reset, pendingSize]

theorem pendingSize_feedByte_le (assembler : FrameStreamAssembler) (byte : Byte) :
    (assembler.feedByte byte).1.pendingSize ≤ assembler.maxBuffer := by
  unfold feedByte
  split
  · exact pendingSize_checkOverflow_le _
  · split
    · exact pendingSize_checkOverflow_le _
    · split
      · exact pendingSize_checkOverflow_le _
      · simp [pendingSize]

theorem pendingSize_feed_le (assembler : FrameStreamAssembler) (wire : List Byte)
    (hfits : assembler.pendingSize ≤ assembler.maxBuffer) :
    (assembler.feed wire).1.pendingSize ≤ assembler.maxBuffer := by
  induction wire generalizing assembler with
  | nil => exact hfits
  | cons byte rest ih =>
      have hlater := ih (assembler.feedByte byte).1
      rw [maxBuffer_feedByte] at hlater
      rw [feed_cons]
      exact hlater (pendingSize_feedByte_le assembler byte)

theorem length_buf_le_pendingSize (assembler : FrameStreamAssembler) :
    assembler.buf.length ≤ assembler.pendingSize := Nat.le_add_right _ _

/-! ## Resynchronisation -/

theorem afterDle_checkOverflow {assembler : FrameStreamAssembler}
    (hidle : assembler.afterDle = false) :
    assembler.checkOverflow.1.afterDle = false := by
  unfold checkOverflow
  split
  · exact hidle
  · rfl

/-- Only a DLE arms the assembler. -/
theorem afterDle_feedByte {byte : Byte} (hbyte : byte ≠ DLE)
    (assembler : FrameStreamAssembler) :
    (assembler.feedByte byte).1.afterDle = false := by
  unfold feedByte
  split
  · exact afterDle_checkOverflow rfl
  · rename_i hidle
    split
    · exact afterDle_checkOverflow (by simpa using hidle)
    · rfl

theorem afterDle_feed_concat {last : Byte} (hlast : last ≠ DLE)
    (assembler : FrameStreamAssembler) (front : List Byte) :
    (assembler.feed (front ++ [last])).1.afterDle = false := by
  rw [feed_append]
  exact afterDle_feedByte hlast _

/-- The state of a new assembler with the same maximum. -/
def cleared (assembler : FrameStreamAssembler) : FrameStreamAssembler :=
  { assembler with buf := [], afterDle := false }

theorem cleared_of_create {maxBuffer : Int} {assembler : FrameStreamAssembler}
    (hcreate : create maxBuffer = .ok assembler) :
    assembler.cleared = assembler := by
  obtain ⟨hbuf, hafterDle, -⟩ := of_create hcreate
  unfold cleared
  rw [← hbuf, ← hafterDle]

theorem cleared_feed (assembler : FrameStreamAssembler) (wire : List Byte) :
    (assembler.feed wire).1.cleared = assembler.cleared := by
  have hmax := maxBuffer_feed assembler wire
  unfold cleared
  congr 1

/-- An unescaped SF leaves the assembler as new. -/
theorem feedByte_SF {assembler : FrameStreamAssembler}
    (hidle : assembler.afterDle = false) :
    assembler.feedByte SF = (assembler.cleared, [candidateEvent (assembler.buf ++ [SF])]) := by
  have hsf : SF ≠ DLE := by decide
  unfold feedByte
  rw [if_neg (by simp [hidle]), if_neg hsf, if_neg (by simp)]
  rfl

/-- Whatever is pending, a built frame ends with an unescaped SF. -/
theorem feed_built {frame : OutgoingFrame} {wire : List Byte}
    (hbuilt : frame.build = .ok wire) (assembler : FrameStreamAssembler) :
    (assembler.feed wire).1 = assembler.cleared := by
  obtain ⟨rfl, -, front, last, hbuffer, hsf, hdle, -⟩ := OutgoingFrame.of_build hbuilt
  -- the byte in front of the final SF is sent as it is
  have hescaped : escapeDle frame.buffer = escapeDle front ++ [last] := by
    rw [hbuffer, escapeDle_append, escapeDle_of_ne_SF hsf]
  have hidle : (assembler.feed (escapeDle frame.buffer)).1.afterDle = false := by
    rw [hescaped]
    exact afterDle_feed_concat hdle assembler (escapeDle front)
  rw [feed_append, feed_cons, feedByte_SF hidle]
  exact cleared_feed assembler (escapeDle frame.buffer)

/-- After any bytes and one built frame the assembler is as created, so that
later bytes are reported as by a new one. -/
theorem resynchronises (maxBuffer : Int) (assembler : FrameStreamAssembler)
    (noise : List Byte) (frame : OutgoingFrame) (wire : List Byte)
    (hcreate : create maxBuffer = .ok assembler)
    (hbuilt : frame.build = .ok wire) :
    (assembler.feed (noise ++ wire)).1 = assembler ∧
      ∀ later, (assembler.feed (noise ++ wire ++ later)).2 =
        (assembler.feed (noise ++ wire)).2 ++ (assembler.feed later).2 := by
  have hstate : (assembler.feed (noise ++ wire)).1 = assembler := by
    rw [feed_append]
    dsimp only
    rw [feed_built hbuilt, cleared_feed, cleared_of_create hcreate]
  refine ⟨hstate, ?_⟩
  intro later
  rw [feed_append _ (noise ++ wire) later, hstate]

/-- Noise that ends in a DLE, in front of a POLL. -/
theorem resynchronises_pending_dle :
    (default.feed ([0x01, DLE] ++ [0x01, 0x20, SF])).1 = default ∧
      ∀ later, (default.feed ([0x01, DLE] ++ [0x01, 0x20, SF] ++ later)).2 =
        (default.feed ([0x01, DLE] ++ [0x01, 0x20, SF])).2 ++ (default.feed later).2 :=
  resynchronises _ default [0x01, DLE] (.control 0x01 .POLL 0) _ create_default
    (by decide +kernel)

/-! ## No overflow on one built frame -/

theorem candidateEvent_ne_overflow (raw : List Byte) :
    (candidateEvent raw).kind ≠ .OVERFLOW := by
  unfold candidateEvent
  split
  · simp
  · cases parseFrame raw <;> simp

/-- The default maximum holds the escaped buffer of any built frame. -/
theorem feed_built_ne_overflow {frame : OutgoingFrame} {wire : List Byte}
    (hbuilt : frame.build = .ok wire) :
    ∀ event ∈ (default.feed wire).2, event.kind ≠ .OVERFLOW := by
  obtain ⟨rfl, -, front, last, hbuffer, hsf, hdle, -⟩ := OutgoingFrame.of_build hbuilt
  have hescaped : escapeDle frame.buffer = escapeDle front ++ [last] := by
    rw [hbuffer, escapeDle_append, escapeDle_of_ne_SF hsf]
  have hidle : (default.feed (escapeDle frame.buffer)).1.afterDle = false := by
    rw [hescaped]
    exact afterDle_feed_concat hdle default (escapeDle front)
  intro event hevent
  rw [feed_append, feed_cons, feedByte_SF hidle, feed_escaped_buffer hbuilt] at hevent
  rcases List.mem_append.mp hevent with hearlier | hlast
  · obtain ⟨raw, -, rfl⟩ := List.mem_map.mp hearlier
    exact candidateEvent_ne_overflow raw
  · obtain rfl := List.mem_singleton.mp hlast
    exact candidateEvent_ne_overflow _

/-- Conservation, the bound and the independence of the chunking for a new
assembler of any size, and one frame in a default one. -/
theorem feedChunks_conserves :
    (∀ (maxBuffer : Int) (assembler : FrameStreamAssembler) (wire : List Byte)
        (chunks : List (List Byte)),
      create maxBuffer = .ok assembler → chunks.flatten = wire →
        (assembler.feedChunks chunks).2.flatMap AssemblerEvent.raw ++
            (assembler.feedChunks chunks).1.buf = wire ∧
          (∀ fed, fed <+: chunks →
            ((assembler.feedChunks fed).1.buf.length : Int) ≤ maxBuffer) ∧
          (assembler.feedChunks chunks).2 = (assembler.feed wire).2) ∧
      ∀ (frame : OutgoingFrame) (wire : List Byte) (chunks : List (List Byte)),
        frame.build = .ok wire → chunks.flatten = wire →
          ∀ event ∈ (default.feedChunks chunks).2, event.kind ≠ .OVERFLOW := by
  constructor
  · intro maxBuffer assembler wire chunks hcreate hchunks
    obtain ⟨hbuf, hafterDle, hmax⟩ := of_create hcreate
    refine ⟨?_, ?_, ?_⟩
    · rw [feedChunks_eq_feed, hchunks, feed_conserves, hbuf, List.nil_append]
    · -- a new assembler holds nothing, and no byte takes it over its limit
      intro fed _
      have hfits : assembler.pendingSize ≤ assembler.maxBuffer := by
        simp [pendingSize, hbuf, hafterDle]
      have hpending := pendingSize_feed_le assembler fed.flatten hfits
      have hlength := length_buf_le_pendingSize (assembler.feed fed.flatten).1
      rw [feedChunks_eq_feed, ← hmax]
      omega
    · rw [feedChunks_eq_feed, hchunks]
  · intro frame wire chunks hbuilt hchunks
    rw [feedChunks_eq_feed, hchunks]
    exact feed_built_ne_overflow hbuilt

end FrameStreamAssembler

end Line
end Dart
end Intelipump
