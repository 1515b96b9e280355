import Mathlib.Tactic.Common
import Intelipump.Dart.Line.Control
import Intelipump.Foundation.FlagStuffing

namespace Intelipump
namespace Dart
namespace Line

open Foundation

/-!
# DLE escaping

The transmitter's and the receiver's halves of DLE transparency, as instances
of flag stuffing with escape `DLE` and flag `SF`.  Only SF is escaped; a lone
DLE stays a literal `0x10`.
-/

theorem DLE_ne_SF : DLE ≠ SF := by decide

/-- Insert DLE before each SF. -/
def escapeDle : List Byte → List Byte
  | [] => []
  | byte :: rest =>
      if byte = SF then DLE :: byte :: escapeDle rest
      else byte :: escapeDle rest

/-- Reverse the insertion.  A DLE in front of anything but SF is data. -/
def unescapeDle : List Byte → Except Raised (List Byte)
  | [] => .ok []
  | [byte] =>
      if byte = DLE then
        .error (.dleEscapeError "truncated DLE escape at end of buffer")
      else if byte = SF then
        .error (.dleEscapeError "unescaped SF inside frame body")
      else .ok [byte]
  | byte :: nxt :: rest =>
      if byte = DLE then
        if nxt ≠ SF then (unescapeDle (nxt :: rest)).map (DLE :: ·)
        else (unescapeDle rest).map (SF :: ·)
      else if byte = SF then
        .error (.dleEscapeError "unescaped SF inside frame body")
      else (unescapeDle (nxt :: rest)).map (byte :: ·)

theorem escapeDle_eq_stuff (data : List Byte) :
    escapeDle data = FlagStuffing.stuff DLE SF data := by
  induction data with
  | nil => rfl
  | cons byte rest ih => rw [escapeDle, FlagStuffing.stuff_cons, ih]

/-- The receiver accepts what the lookahead of flag stuffing accepts. -/
theorem toOption_unescapeDle (data : List Byte) :
    (unescapeDle data).toOption = FlagStuffing.unstuff DLE SF data := by
  have hmap : ∀ (result : Except Raised (List Byte)) (byte : Byte),
      (result.map (byte :: ·)).toOption =
        result.toOption.map (byte :: ·) := by
    intro result byte
    cases result <;> rfl
  fun_induction unescapeDle data with
  | case1 => rfl
  | case2 => simp [FlagStuffing.unstuff, Except.toOption]
  | case3 hdle => simp [FlagStuffing.unstuff, Except.toOption]
  | case4 byte hdle hsf => simp [FlagStuffing.unstuff, hdle, hsf, Except.toOption]
  | case5 nxt rest hnxt ih =>
      rw [hmap, ih, FlagStuffing.unstuff_literal_escape _ hnxt]
  | case6 nxt rest hnxt ih =>
      obtain rfl : nxt = SF := by simpa using hnxt
      rw [hmap, ih, FlagStuffing.unstuff_escaped_flag]
  | case7 nxt rest hdle => simp [FlagStuffing.unstuff, Ne.symm DLE_ne_SF, Except.toOption]
  | case8 byte nxt rest hdle hsf ih =>
      rw [hmap, ih, FlagStuffing.unstuff_plain _ hdle hsf]

theorem unescapeDle_eq_ok_iff (wire data : List Byte) :
    unescapeDle wire = .ok data ↔
      FlagStuffing.unstuff DLE SF wire = some data := by
  rw [← toOption_unescapeDle]
  cases unescapeDle wire <;> simp [Except.toOption]

/-- Unescaping undoes escaping, unless the data ends in a DLE. -/
theorem unescapeDle_escapeDle (data : List Byte)
    (hlast : data.getLast? ≠ some DLE) :
    unescapeDle (escapeDle data) = .ok data := by
  rw [unescapeDle_eq_ok_iff, escapeDle_eq_stuff]
  exact FlagStuffing.unstuff_stuff DLE_ne_SF data hlast

/-- Every accepted wire body is the escaping of the buffer read from it. -/
theorem escapeDle_of_unescapeDle {wire data : List Byte}
    (haccepted : unescapeDle wire = .ok data) : escapeDle data = wire := by
  rw [escapeDle_eq_stuff]
  exact FlagStuffing.stuff_of_unstuff DLE_ne_SF wire data
    ((unescapeDle_eq_ok_iff wire data).mp haccepted)

theorem escapeDle_append (left right : List Byte) :
    escapeDle (left ++ right) = escapeDle left ++ escapeDle right := by
  simp only [escapeDle_eq_stuff, FlagStuffing.stuff_append]

theorem escapeDle_of_ne_SF {byte : Byte} (hbyte : byte ≠ SF) :
    escapeDle [byte] = [byte] := by
  simp [escapeDle, hbyte]

theorem length_escapeDle_le (data : List Byte) :
    (escapeDle data).length ≤ 2 * data.length := by
  rw [escapeDle_eq_stuff]
  exact FlagStuffing.length_stuff_le DLE SF data

theorem length_le_length_escapeDle (data : List Byte) :
    data.length ≤ (escapeDle data).length := by
  rw [escapeDle_eq_stuff]
  exact FlagStuffing.length_le_length_stuff DLE SF data

end Line
end Dart
end Intelipump
