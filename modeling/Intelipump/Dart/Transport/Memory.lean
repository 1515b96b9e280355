import Mathlib.Tactic.Common
import Intelipump.Dart.Line.Control

namespace Intelipump
namespace Dart
namespace Transport

open Line

/-!
# The in-memory transport

One direction of a pair of memory transports: the writer puts its data on an unbounded
queue, and the reader takes an item at a time.  What does not fit the size that it asks
for stays in its read buffer for the next read.  Both ends are open here.
-/

/-- The queue of one direction, with the read buffer of its reading end. -/
structure Pipe where
  queue : List (List Byte) := []
  readBuf : List Byte := []
deriving DecidableEq, Repr

namespace Pipe

def write (pipe : Pipe) (data : List Byte) : Pipe :=
  { pipe with queue := pipe.queue ++ [data] }

/-- Up to `maxBytes`, which is not zero; nothing if nothing arrives in time. -/
def read (pipe : Pipe) (maxBytes : Nat) : List Byte × Pipe :=
  if pipe.readBuf ≠ [] then
    (pipe.readBuf.take maxBytes, { pipe with readBuf := pipe.readBuf.drop maxBytes })
  else
    match pipe.queue with
    | [] => ([], pipe)
    | item :: rest =>
        if item.length ≤ maxBytes then (item, { pipe with queue := rest })
        else (item.take maxBytes, { queue := rest, readBuf := item.drop maxBytes })

/-- The bytes on their way. -/
def bytes (pipe : Pipe) : List Byte := pipe.readBuf ++ pipe.queue.flatten

theorem bytes_write (pipe : Pipe) (data : List Byte) :
    (pipe.write data).bytes = pipe.bytes ++ data := by
  unfold write bytes
  rw [List.flatten_append, List.flatten_singleton, List.append_assoc]

/-- A read takes a first part of the bytes. -/
theorem bytes_read (pipe : Pipe) (maxBytes : Nat) :
    (pipe.read maxBytes).1 ++ (pipe.read maxBytes).2.bytes = pipe.bytes := by
  unfold read
  split
  · unfold bytes
    dsimp only
    rw [← List.append_assoc, List.take_append_drop]
  · rename_i hbuf
    have hempty := not_not.mp hbuf
    split
    · exact List.nil_append _
    · rename_i item rest hqueue
      unfold bytes
      rw [hempty, hqueue]
      split
      · rfl
      · rw [← List.append_assoc, List.take_append_drop]
        rfl

end Pipe

end Transport
end Dart
end Intelipump
