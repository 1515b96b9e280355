import Mathlib.Data.List.Forall2
import Mathlib.Tactic.Common
import Intelipump.Dart.Line.Stream

namespace Intelipump
namespace Dart
namespace Line

open Foundation

/-!
# Byte-stream round trip

A stream of built frames, cut into arbitrary chunks, goes through a new
assembler.  The transmitter doubles nothing but SF, while the assembler lets a
DLE swallow the byte behind it, so the round trip depends on the runs of DLE
in front of the SF bytes of each frame's buffer.
-/

/-- What a sender asks the frame builder for. -/
inductive OutgoingFrame where
  | control (address : Byte) (controlType : ControlType) (sequence : Fin 16)
  | data (address : Byte) (sequence : Fin 16) (payload : List Byte)
deriving DecidableEq, Repr

namespace OutgoingFrame

def address : OutgoingFrame → Byte
  | .control address _ _ => address
  | .data address _ _ => address

def controlType : OutgoingFrame → ControlType
  | .control _ controlType _ => controlType
  | .data _ _ _ => .DATA

def sequence : OutgoingFrame → Fin 16
  | .control _ _ sequence => sequence
  | .data _ sequence _ => sequence

def payload : OutgoingFrame → List Byte
  | .control _ _ _ => []
  | .data _ _ payload => payload

/-- The builder call for the frame. -/
def build : OutgoingFrame → Except Raised (List Byte)
  | .control address controlType sequence =>
      buildControlFrame address controlType sequence
  | .data address sequence payload => buildDataFrame address sequence payload

/-- The unescaped bytes: ADR CTRL, or ADR CTRL DATA CRC1 CRC2 ETX. -/
def buffer : OutgoingFrame → List Byte
  | .control address controlType sequence =>
      controlBuffer address controlType sequence
  | .data address sequence payload => dataBuffer address sequence payload

/-- The line frame the wire image parses to. -/
def parsed : OutgoingFrame → DartLineFrame
  | .control address controlType sequence =>
      controlFrame address controlType sequence
  | .data address sequence payload => dataFrame address sequence payload

/-- The facts about a built frame that the receiving side uses: its buffer is
short and ends in a byte that needs no escape, and its wire image parses. -/
theorem of_build {frame : OutgoingFrame} {wire : List Byte}
    (hbuilt : frame.build = .ok wire) :
    wire = escapeDle frame.buffer ++ [SF] ∧
      parseFrame wire = .ok frame.parsed ∧
      ∃ front last, frame.buffer = front ++ [last] ∧ last ≠ SF ∧ last ≠ DLE ∧
        front ≠ [] ∧ front.length < MAX_BUFFER_SIZE := by
  cases frame with
  | control address controlType sequence =>
      have hbuildable := buildable_of_buildControlFrame hbuilt
      have hwire := (buildControlFrame_eq_ok address hbuildable).symm.trans hbuilt
      obtain rfl := Except.ok.inj hwire
      obtain ⟨hsf, hdle⟩ := controlByte_ne hbuildable.2
      exact ⟨rfl, parseFrame_controlFrame address hbuildable,
        [address], controlByte controlType sequence, rfl, hsf, hdle, by simp,
        by simp [MAX_BUFFER_SIZE]⟩
  | data address sequence payload =>
      have hlength := length_le_of_buildDataFrame hbuilt
      have hwire := (buildDataFrame_eq_ok address sequence hlength).symm.trans hbuilt
      obtain rfl := Except.ok.inj hwire
      refine ⟨rfl, parseFrame_dataFrame address sequence hlength,
        crcInput address sequence payload ++
          crcBytesLe (dartCrc16 (crcInput address sequence payload)),
        ETX, rfl, by decide, by decide, by simp [crcInput], ?_⟩
      simp only [crcInput, List.length_append, List.length_cons, List.length_nil,
        length_crcBytesLe]
      omega

end OutgoingFrame

/-- The event reports the frame that was sent. -/
def Delivers (frame : OutgoingFrame) (event : AssemblerEvent) : Prop :=
  event.kind = .FRAME ∧
    ∃ received, event.frame = some received ∧
      received.address = frame.address ∧
      received.controlType = frame.controlType ∧
      received.sequence = frame.sequence ∧
      received.payload = frame.payload ∧
      (frame.controlType = .DATA → received.crcValid = some true)

/-- The round trip of a stream: one event for each frame, in order, each
reporting its frame, and nothing left over. -/
def RoundTrips (frames : List OutgoingFrame) (chunks : List (List Byte)) : Prop :=
  List.Forall₂ Delivers frames (FrameStreamAssembler.default.feedChunks chunks).2 ∧
    (FrameStreamAssembler.default.feedChunks chunks).1.pendingSize = 0

theorem delivers_candidateEvent {frame : OutgoingFrame} {wire : List Byte}
    (hbuilt : frame.build = .ok wire) :
    Delivers frame (FrameStreamAssembler.candidateEvent wire) := by
  obtain ⟨-, hparse, -⟩ := OutgoingFrame.of_build hbuilt
  have hlength : ¬ wire.length < 3 := by
    intro hshort
    rw [parseFrame, if_pos hshort] at hparse
    cases hparse
  unfold FrameStreamAssembler.candidateEvent
  rw [if_neg hlength, hparse]
  cases frame with
  | control address controlType sequence =>
      have hbuildable := buildable_of_buildControlFrame hbuilt
      exact ⟨rfl, _, rfl, rfl, rfl, rfl, rfl, fun h => absurd h hbuildable.1⟩
  | data address sequence payload =>
      exact ⟨rfl, _, rfl, rfl, rfl, rfl, rfl, fun _ => rfl⟩

/-- The escaped buffer of a built frame fits an idle assembler, so that it is
delimited without an overflow. -/
theorem feed_escaped_buffer {frame : OutgoingFrame} {wire : List Byte}
    (hbuilt : frame.build = .ok wire) :
    FrameStreamAssembler.default.feed (escapeDle frame.buffer) =
      (FrameStreamAssembler.default.ofDelimiter
        ((FlagStuffing.Delimiter.mk [] false).run DLE SF
          (escapeDle frame.buffer)).1,
        ((FlagStuffing.Delimiter.mk [] false).run DLE SF
          (escapeDle frame.buffer)).2.map FrameStreamAssembler.candidateEvent) := by
  obtain ⟨-, -, front, last, hbuffer, hsf, -, -, hlength⟩ :=
    OutgoingFrame.of_build hbuilt
  -- the last byte is not escaped, which leaves room for it next to the rest
  have hbody : (escapeDle frame.buffer).length ≤ 2 * front.length + 1 := by
    rw [hbuffer, escapeDle_append, escapeDle_of_ne_SF hsf, List.length_append]
    have hfront := length_escapeDle_le front
    simp only [List.length_singleton]
    omega
  have hmax : FrameStreamAssembler.default.maxBuffer = 2 * MAX_BUFFER_SIZE := rfl
  have hbuf : FrameStreamAssembler.default.buf.length = 0 := rfl
  exact FrameStreamAssembler.feed_eq_run FrameStreamAssembler.default _ (by omega)

/-- An aligned frame passes through an idle assembler and leaves it idle. -/
theorem feed_aligned_frame {frame : OutgoingFrame} {wire : List Byte}
    (hbuilt : frame.build = .ok wire)
    (haligned : FlagStuffing.Aligned DLE SF false frame.buffer) :
    FrameStreamAssembler.default.feed wire =
      (FrameStreamAssembler.default,
        [FrameStreamAssembler.candidateEvent wire]) := by
  obtain ⟨rfl, -, front, last, hbuffer, -, hdle, -⟩ :=
    OutgoingFrame.of_build hbuilt
  have hrun := FlagStuffing.Delimiter.run_stuff_of_aligned DLE_ne_SF [] false
    frame.buffer haligned
  have harmed : FlagStuffing.armedAfter DLE false frame.buffer = false := by
    rw [hbuffer]
    exact FlagStuffing.armedAfter_concat false front hdle
  rw [harmed, ← escapeDle_eq_stuff, List.nil_append] at hrun
  rw [FrameStreamAssembler.feed_append, feed_escaped_buffer hbuilt, hrun]
  rfl

/-- A misaligned frame makes an idle assembler report something else first. -/
theorem feed_misaligned_frame {frame : OutgoingFrame} {wire : List Byte}
    (hbuilt : frame.build = .ok wire)
    (hnot : ¬ FlagStuffing.Aligned DLE SF false frame.buffer) :
    ∃ event events,
      (FrameStreamAssembler.default.feed wire).2 = event :: events ∧
        event.kind ≠ .FRAME := by
  obtain ⟨cut, rest, candidates, hrun, -⟩ :=
    FlagStuffing.Delimiter.run_stuff_of_not_aligned DLE_ne_SF [] false
      frame.buffer hnot
  rw [← escapeDle_eq_stuff, List.nil_append] at hrun
  obtain ⟨rfl, -⟩ := OutgoingFrame.of_build hbuilt
  refine ⟨FrameStreamAssembler.candidateEvent (cut ++ [DLE, SF]), ?_, ?_,
    FrameStreamAssembler.candidateEvent_escaped_terminator cut⟩
  · exact candidates.map FrameStreamAssembler.candidateEvent ++
      ((FrameStreamAssembler.default.ofDelimiter
        ((FlagStuffing.Delimiter.mk [] false).run DLE SF
          (escapeDle frame.buffer)).1).feed [SF]).2
  · rw [FrameStreamAssembler.feed_append, feed_escaped_buffer hbuilt]
    dsimp only
    rw [hrun]
    rfl

/-- The whole stream, fed to an idle assembler: the events report the frames
exactly when every frame is aligned. -/
theorem feed_frames {frames : List OutgoingFrame} {wires : List (List Byte)}
    (hbuilt : List.Forall₂ (fun frame wire => frame.build = .ok wire)
      frames wires) :
    (List.Forall₂ Delivers frames
          (FrameStreamAssembler.default.feed wires.flatten).2 ∧
        (FrameStreamAssembler.default.feed wires.flatten).1.pendingSize = 0) ↔
      ∀ frame ∈ frames, FlagStuffing.Aligned DLE SF false frame.buffer := by
  induction hbuilt with
  | nil => simp [FrameStreamAssembler.pendingSize, FrameStreamAssembler.default]
  | @cons frame wire frames wires hframe hrest ih =>
      rw [List.flatten_cons, FrameStreamAssembler.feed_append,
        List.forall_mem_cons, ← ih]
      by_cases haligned : FlagStuffing.Aligned DLE SF false frame.buffer
      · rw [feed_aligned_frame hframe haligned]
        simp [haligned, delivers_candidateEvent hframe]
      · obtain ⟨event, events, hevents, hkind⟩ :=
          feed_misaligned_frame hframe haligned
        rw [hevents]
        simp only [List.cons_append, List.forall₂_cons, haligned, false_and, iff_false]
        intro hdelivered
        exact hkind hdelivered.1.1.1

/-- A stream of built frames survives any chunking exactly when no buffer has
an odd run of DLE right in front of an SF. -/
theorem roundTrips_iff (frames : List OutgoingFrame) (wires chunks : List (List Byte))
    (hbuilt : List.Forall₂ (fun frame wire => frame.build = .ok wire)
      frames wires)
    (hchunks : chunks.flatten = wires.flatten) :
    RoundTrips frames chunks ↔
      ∀ frame ∈ frames, ¬ FlagStuffing.OddEscapeRun DLE SF frame.buffer := by
  have haligned : ∀ frame : OutgoingFrame,
      (¬ FlagStuffing.OddEscapeRun DLE SF frame.buffer) ↔
        FlagStuffing.Aligned DLE SF false frame.buffer := by
    intro frame
    rw [← FlagStuffing.not_aligned_false_iff DLE_ne_SF, not_not]
  unfold RoundTrips
  rw [FrameStreamAssembler.feedChunks_eq_feed, hchunks, feed_frames hbuilt]
  simp only [haligned]

instance (buffer : List Byte) :
    Decidable (FlagStuffing.OddEscapeRun DLE SF buffer) :=
  decidable_of_iff _ (FlagStuffing.not_aligned_false_iff DLE_ne_SF buffer)

/-- A POLL and a DATA frame with SF bytes behind an even run of DLE, cut inside
an escape sequence. -/
theorem roundTrips_even_run :
    RoundTrips
      [.control 0x01 .POLL 0, .data 0x01 3 [0xFA, 0x10, 0x10, 0xFA]]
      [[0x01, 0x20, 0xFA, 0x01, 0x33, 0x10],
        [0xFA, 0x10, 0x10, 0x10, 0xFA, 0xB9], [], [0x4B, 0x03, 0xFA]] :=
  (roundTrips_iff _
    [[0x01, 0x20, 0xFA],
      [0x01, 0x33, 0x10, 0xFA, 0x10, 0x10, 0x10, 0xFA, 0xB9, 0x4B, 0x03, 0xFA]] _
    (.cons (by decide +kernel) (.cons (by decide +kernel) .nil))
    (by decide)).mpr (by decide +kernel)

/-- One DLE in front of an SF in the payload: the assembler ends the frame at
the escaped SF and rejects both halves. -/
theorem not_roundTrips_single_dle :
    ¬ ∀ (frames : List OutgoingFrame) (wires chunks : List (List Byte)),
      List.Forall₂ (fun frame wire => frame.build = .ok wire) frames wires →
        chunks.flatten = wires.flatten → RoundTrips frames chunks := by
  intro hall
  have hroundTrips := hall [.data 0x01 0 [0x10, 0xFA]]
    [[0x01, 0x30, 0x10, 0x10, 0xFA, 0x8C, 0x70, 0x03, 0xFA]]
    [[0x01, 0x30, 0x10, 0x10, 0xFA, 0x8C, 0x70, 0x03, 0xFA]]
    (.cons (by decide +kernel) .nil) rfl
  have hkinds : (FrameStreamAssembler.default.feedChunks
      [[0x01, 0x30, 0x10, 0x10, 0xFA, 0x8C, 0x70, 0x03, 0xFA]]).2.map (·.kind) =
        [.REJECTED, .REJECTED] := by decide +kernel
  have hlength := congrArg List.length hkinds
  rw [List.length_map, ← hroundTrips.1.length_eq] at hlength
  simp at hlength

end Line
end Dart
end Intelipump
