import Mathlib.Tactic.Common
import Intelipump.Dart.Line.FrameParser

namespace Intelipump
namespace Dart
namespace Line

open Foundation

/-!
# The streaming frame assembler

Wire bytes go in one by one, frames, rejects, noise and overflows come out.
While the buffer cannot overflow the assembler is the swallowing delimiter of
flag stuffing, with every candidate handed to `parseFrame` (`feed_eq_run`).
-/

inductive AssemblerEventKind where
  | FRAME | REJECTED | OVERFLOW | NOISE
deriving DecidableEq, Repr

/-- The string the enumeration stands for. -/
def AssemblerEventKind.value : AssemblerEventKind → String
  | .FRAME => "FRAME"
  | .REJECTED => "REJECTED"
  | .OVERFLOW => "OVERFLOW"
  | .NOISE => "NOISE"

structure AssemblerEvent where
  kind : AssemblerEventKind
  raw : List Byte
  frame : Option DartLineFrame
  error : Option ParseError
  message : String
deriving DecidableEq, Repr

/-- The constructor refuses a maximum below three bytes. -/
structure FrameStreamAssembler where
  maxBuffer : Nat
  buf : List Byte
  afterDle : Bool
  three_le_maxBuffer : 3 ≤ maxBuffer

namespace FrameStreamAssembler

/-- A new assembler with the default maximum, twice the line buffer. -/
def default : FrameStreamAssembler where
  maxBuffer := MAX_BUFFER_SIZE * 2
  buf := []
  afterDle := false
  three_le_maxBuffer := by decide

def pendingSize (assembler : FrameStreamAssembler) : Nat :=
  assembler.buf.length + if assembler.afterDle then 1 else 0

/-- Clear the internal state; the discarded bytes come back. -/
def reset (assembler : FrameStreamAssembler) :
    FrameStreamAssembler × List Byte :=
  ({ assembler with buf := [], afterDle := false }, assembler.buf)

def checkOverflow (assembler : FrameStreamAssembler) :
    FrameStreamAssembler × List AssemblerEvent :=
  if assembler.pendingSize ≤ assembler.maxBuffer then (assembler, [])
  else
    let (cleared, discarded) := assembler.reset
    (cleared, [{
      kind := .OVERFLOW
      raw := discarded
      frame := none
      error := none
      message := s!"buffer exceeded max_buffer={assembler.maxBuffer}; reset" }])

/-- What the assembler says about a candidate that an unescaped SF closes. -/
def candidateEvent (raw : List Byte) : AssemblerEvent :=
  if raw.length < 3 then {
    kind := .NOISE
    raw := raw
    frame := none
    error := none
    message := "SF with fewer than 3 bytes; preserved as noise" }
  else
    match parseFrame raw with
    | .error parsed => {
        kind := .REJECTED
        raw := raw
        frame := none
        error := some parsed
        message := parsed.message }
    | .ok parsed => {
        kind := .FRAME
        raw := raw
        frame := some parsed
        error := none
        message := "frame assembled" }

def feedByte (assembler : FrameStreamAssembler) (byte : Byte) :
    FrameStreamAssembler × List AssemblerEvent :=
  if assembler.afterDle then
    -- escaped SF is data, not a terminator
    { assembler with buf := assembler.buf ++ [byte], afterDle := false }.checkOverflow
  else if byte = DLE then
    { assembler with buf := assembler.buf ++ [DLE], afterDle := true }.checkOverflow
  else if byte ≠ SF then
    { assembler with buf := assembler.buf ++ [byte] }.checkOverflow
  else
    ({ assembler with buf := [], afterDle := false },
      [candidateEvent (assembler.buf ++ [byte])])

def feed : FrameStreamAssembler → List Byte →
    FrameStreamAssembler × List AssemblerEvent
  | assembler, [] => (assembler, [])
  | assembler, byte :: rest =>
      let (next, events) := assembler.feedByte byte
      let (final, later) := next.feed rest
      (final, events ++ later)

/-- Feed chunk after chunk, as a serial reader does. -/
def feedChunks : FrameStreamAssembler → List (List Byte) →
    FrameStreamAssembler × List AssemblerEvent
  | assembler, [] => (assembler, [])
  | assembler, chunk :: rest =>
      let (next, events) := assembler.feed chunk
      let (final, later) := next.feedChunks rest
      (final, events ++ later)

@[simp] theorem feed_nil (assembler : FrameStreamAssembler) :
    assembler.feed [] = (assembler, []) := rfl

theorem feed_cons (assembler : FrameStreamAssembler) (byte : Byte)
    (rest : List Byte) :
    assembler.feed (byte :: rest) =
      (((assembler.feedByte byte).1.feed rest).1,
        (assembler.feedByte byte).2 ++ ((assembler.feedByte byte).1.feed rest).2) :=
  rfl

theorem feed_append (assembler : FrameStreamAssembler) (left right : List Byte) :
    assembler.feed (left ++ right) =
      (((assembler.feed left).1.feed right).1,
        (assembler.feed left).2 ++ ((assembler.feed left).1.feed right).2) := by
  induction left generalizing assembler with
  | nil => simp
  | cons byte rest ih =>
      rw [List.cons_append, feed_cons, ih, feed_cons]
      simp

/-- Where the wire is cut into chunks does not matter. -/
theorem feedChunks_eq_feed (assembler : FrameStreamAssembler)
    (chunks : List (List Byte)) :
    assembler.feedChunks chunks = assembler.feed chunks.flatten := by
  induction chunks generalizing assembler with
  | nil => rfl
  | cons chunk rest ih =>
      rw [List.flatten_cons, feed_append, ← ih]
      rfl

/-! ## The assembler as a delimiter -/

/-- Forget the overflow bound. -/
def toDelimiter (assembler : FrameStreamAssembler) :
    FlagStuffing.Delimiter Byte :=
  ⟨assembler.buf, assembler.afterDle⟩

/-- The same assembler in the state of a delimiter. -/
def ofDelimiter (assembler : FrameStreamAssembler)
    (state : FlagStuffing.Delimiter Byte) : FrameStreamAssembler :=
  { assembler with buf := state.buffer, afterDle := state.armed }

theorem checkOverflow_eq (assembler : FrameStreamAssembler)
    (hroom : assembler.pendingSize ≤ assembler.maxBuffer) :
    assembler.checkOverflow = (assembler, []) := if_pos hroom

/-- With room for the byte and a pending DLE, one byte is one delimiter step. -/
theorem feedByte_eq_step (assembler : FrameStreamAssembler) (byte : Byte)
    (hroom : assembler.buf.length + 2 ≤ assembler.maxBuffer) :
    assembler.feedByte byte =
      (assembler.ofDelimiter (assembler.toDelimiter.step DLE SF byte).1,
        ((assembler.toDelimiter.step DLE SF byte).2.map candidateEvent).toList) := by
  obtain ⟨maxBuffer, buf, afterDle, hthree⟩ := assembler
  dsimp only at hroom
  have hsize : ∀ (symbol : Byte) (armed : Bool),
      pendingSize ⟨maxBuffer, buf ++ [symbol], armed, hthree⟩ ≤ maxBuffer := by
    intro symbol armed
    unfold pendingSize
    rw [List.length_append, List.length_singleton]
    split <;> omega
  unfold feedByte FlagStuffing.Delimiter.step toDelimiter
  cases afterDle with
  | true => exact checkOverflow_eq _ (hsize byte false)
  | false =>
      by_cases hdle : byte = DLE
      · subst hdle
        exact checkOverflow_eq _ (hsize DLE true)
      · by_cases hsf : byte = SF
        · subst hsf
          rfl
        · simp only [Bool.false_eq_true, if_false, hdle, hsf, ne_eq,
            not_false_eq_true, if_true]
          exact checkOverflow_eq _ (hsize byte false)

/-- A text that fits next to what is pending is delimited, never overflowed. -/
theorem feed_eq_run (assembler : FrameStreamAssembler) (wire : List Byte)
    (hroom : assembler.buf.length + wire.length + 1 ≤ assembler.maxBuffer) :
    assembler.feed wire =
      (assembler.ofDelimiter (assembler.toDelimiter.run DLE SF wire).1,
        (assembler.toDelimiter.run DLE SF wire).2.map candidateEvent) := by
  induction wire generalizing assembler with
  | nil => rfl
  | cons byte rest ih =>
      rw [List.length_cons] at hroom
      have hbuffer : (assembler.toDelimiter.step DLE SF byte).1.buffer.length ≤
          assembler.buf.length + 1 := by
        unfold FlagStuffing.Delimiter.step toDelimiter
        split
        · simp
        · split
          · simp
          · split <;> simp
      rw [feed_cons, feedByte_eq_step _ _ (by omega), FlagStuffing.Delimiter.run_cons,
        ih _ (by dsimp only [ofDelimiter]; omega)]
      cases (assembler.toDelimiter.step DLE SF byte).2 <;> rfl

/-- A candidate cut behind a DLE never comes out as a frame. -/
theorem candidateEvent_escaped_terminator (front : List Byte) :
    (candidateEvent (front ++ [DLE, SF])).kind ≠ .FRAME := by
  unfold candidateEvent
  by_cases hfront : front = []
  · subst hfront
    simp
  · have hlength : ¬ (front ++ [DLE, SF]).length < 3 := by
      have hpos := List.length_pos_iff.mpr hfront
      simp only [List.length_append, List.length_cons, List.length_nil]
      omega
    rw [if_neg hlength, parseFrame_escaped_terminator front hfront]
    simp

end FrameStreamAssembler

end Line
end Dart
end Intelipump
