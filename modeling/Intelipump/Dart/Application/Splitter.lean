import Mathlib.Tactic.Common
import Intelipump.Dart.Application.Constants
import Intelipump.Text

namespace Intelipump
namespace Dart
namespace Application

open Line

/-!
# Splitting a DATA payload into transactions

A payload is a sequence of `TRANS LNG DATA` units.  What cannot form a whole
unit at the end is kept as trailing bytes.
-/

/-- One TRANS+LNG+DATA unit carved from a payload. -/
structure RawTransaction where
  transactionId : Byte
  length : Nat
  data : List Byte
  raw : List Byte
  offset : Nat
deriving DecidableEq, Repr

structure SplitResult where
  transactions : List RawTransaction
  trailingBytes : List Byte
  warnings : List String
deriving DecidableEq, Repr

/-- The loop of the splitter on what is left from `index` on.  A unit takes at
least its header, so the fuel a payload's length gives is never used up. -/
def splitFrom : Nat → Nat → List Byte → SplitResult
  | 0, _, rest => ⟨[], rest, []⟩
  | _ + 1, _, [] => ⟨[], [], []⟩
  | _ + 1, index, [header] =>
      ⟨[], [header],
        [s!"truncated transaction header at offset {index}: 1 byte(s) remain"]⟩
  | fuel + 1, index, transactionId :: dataLen :: body =>
      let length := dataLen.toNat
      if body.length < length then
        ⟨[], transactionId :: dataLen :: body,
          [s!"truncated transaction data at offset {index}: " ++
            s!"TRANS=0x{byteHexUpper transactionId} LNG={length} but only " ++
            s!"{body.length} data byte(s) available"]⟩
      else
        let data := body.take length
        let unit : RawTransaction := {
          transactionId := transactionId
          length := length
          data := data
          raw := transactionId :: dataLen :: data
          offset := index }
        let later := splitFrom fuel (index + (HEADER_SIZE + length)) (body.drop length)
        { later with transactions := unit :: later.transactions }

def splitTransactions (payload : List Byte) : SplitResult :=
  splitFrom payload.length 0 payload

/-- More fuel than bytes changes nothing. -/
theorem splitFrom_fuel (fuel : Nat) (index : Nat) (rest : List Byte)
    (hfuel : rest.length ≤ fuel) :
    splitFrom fuel index rest = splitFrom rest.length index rest := by
  induction fuel using Nat.strongRecOn generalizing index rest with
  | ind fuel ih =>
      cases fuel with
      | zero =>
          obtain rfl : rest = [] := List.length_eq_zero_iff.mp (by omega)
          rfl
      | succ fuel =>
          match rest, hfuel with
          | [], _ => rfl
          | [header], _ => rfl
          | transactionId :: dataLen :: body, hfuel =>
              rw [List.length_cons, List.length_cons] at hfuel
              have hdrop : (body.drop dataLen.toNat).length ≤ body.length := by
                rw [List.length_drop]
                omega
              rw [List.length_cons, List.length_cons, splitFrom, splitFrom]
              rw [ih fuel (by omega) _ _ (by omega),
                ih (body.length + 1) (by omega) _ _ (by omega)]

/-- A whole unit in front is the first transaction. -/
theorem splitFrom_unit (index : Nat) (transactionId dataLen : Byte)
    (data rest : List Byte) (hlength : dataLen.toNat = data.length) :
    splitFrom (transactionId :: dataLen :: (data ++ rest)).length index
        (transactionId :: dataLen :: (data ++ rest)) =
      { splitFrom rest.length (index + (HEADER_SIZE + data.length)) rest with
        transactions :=
          { transactionId := transactionId
            length := data.length
            data := data
            raw := transactionId :: dataLen :: data
            offset := index } ::
          (splitFrom rest.length (index + (HEADER_SIZE + data.length)) rest).transactions } := by
  have hwhole : ¬ (data ++ rest).length < data.length := by
    rw [List.length_append]
    omega
  have hfuel := splitFrom_fuel (dataLen :: (data ++ rest)).length
    (index + (HEADER_SIZE + data.length)) rest (by
      simp only [List.length_cons, List.length_append]
      omega)
  rw [List.length_cons, splitFrom]
  simp only [hlength, if_neg hwhole, List.take_left, List.drop_left, hfuel]

/-- A carved unit is its own TRANS, LNG and DATA. -/
def RawTransaction.WellFormed (unit : RawTransaction) : Prop :=
  ∃ dataLen : Byte, unit.raw = unit.transactionId :: dataLen :: unit.data ∧
    dataLen.toNat = unit.data.length ∧ unit.length = unit.data.length

theorem wellFormed_of_mem_splitFrom {fuel index : Nat} {rest : List Byte}
    {unit : RawTransaction} (hunit : unit ∈ (splitFrom fuel index rest).transactions) :
    unit.WellFormed := by
  induction fuel generalizing index rest with
  | zero => simp [splitFrom] at hunit
  | succ fuel ih =>
      match rest, hunit with
      | [], hunit => simp [splitFrom] at hunit
      | [header], hunit => simp [splitFrom] at hunit
      | transactionId :: dataLen :: body, hunit =>
          rw [splitFrom] at hunit
          dsimp only at hunit
          split at hunit
          · simp at hunit
          · rename_i hwhole
            rcases List.mem_cons.mp hunit with rfl | hlater
            · have hlength : (body.take dataLen.toNat).length = dataLen.toNat := by
                rw [List.length_take]
                omega
              exact ⟨dataLen, rfl, hlength.symm, hlength.symm⟩
            · exact ih hlater

theorem wellFormed_of_mem {payload : List Byte} {unit : RawTransaction}
    (hunit : unit ∈ (splitTransactions payload).transactions) : unit.WellFormed :=
  wellFormed_of_mem_splitFrom hunit

/-- A payload that is one unit has one transaction and nothing trailing. -/
theorem splitTransactions_unit (transactionId dataLen : Byte) (data : List Byte)
    (hlength : dataLen.toNat = data.length) :
    splitTransactions (transactionId :: dataLen :: data) =
      ⟨[{ transactionId := transactionId
          length := data.length
          data := data
          raw := transactionId :: dataLen :: data
          offset := 0 }], [], []⟩ := by
  have hunit := splitFrom_unit 0 transactionId dataLen data [] hlength
  rw [List.append_nil] at hunit
  rw [splitTransactions, hunit]
  rfl

/-- The bytes of a carved unit split into that unit, at offset zero. -/
theorem splitTransactions_raw {unit : RawTransaction} (hunit : unit.WellFormed) :
    splitTransactions unit.raw = ⟨[{ unit with offset := 0 }], [], []⟩ := by
  obtain ⟨transactionId, length, data, raw, offset⟩ := unit
  obtain ⟨dataLen, hraw, hlen, hlength⟩ := hunit
  dsimp only at hraw hlen hlength
  subst hraw hlength
  exact splitTransactions_unit transactionId dataLen data hlen

/-! ## Exactness -/

/-- Offsets from `index` on: each unit starts where the one before it ends. -/
def OffsetsFrom : Nat → List RawTransaction → Prop
  | _, [] => True
  | index, unit :: later => unit.offset = index ∧ OffsetsFrom (index + unit.raw.length) later

/-- The loop loses no byte, and each unit lies behind the ones before it. -/
theorem splitFrom_conserves (fuel index : Nat) (rest : List Byte) :
    ((splitFrom fuel index rest).transactions.map (·.raw)).flatten ++
        (splitFrom fuel index rest).trailingBytes = rest ∧
      OffsetsFrom index (splitFrom fuel index rest).transactions := by
  induction fuel generalizing index rest with
  | zero => exact ⟨rfl, trivial⟩
  | succ fuel ih =>
      match rest with
      | [] => exact ⟨rfl, trivial⟩
      | [header] => exact ⟨rfl, trivial⟩
      | transactionId :: dataLen :: body =>
          rw [splitFrom]
          dsimp only
          split
          · exact ⟨rfl, trivial⟩
          · rename_i hwhole
            obtain ⟨hbytes, hoffsets⟩ :=
              ih (index + (HEADER_SIZE + dataLen.toNat)) (body.drop dataLen.toNat)
            have hlength : (transactionId :: dataLen :: body.take dataLen.toNat).length =
                HEADER_SIZE + dataLen.toNat := by
              rw [List.length_cons, List.length_cons, List.length_take, HEADER_SIZE]
              omega
            refine ⟨?_, rfl, ?_⟩
            · rw [List.map_cons, List.flatten_cons, List.append_assoc, hbytes, List.cons_append,
                List.cons_append, List.take_append_drop]
            · rw [hlength]
              exact hoffsets

theorem OffsetsFrom.offset_eq {index : Nat} {before after : List RawTransaction}
    {unit : RawTransaction} (hoffsets : OffsetsFrom index (before ++ unit :: after)) :
    unit.offset = index + ((before.map (·.raw)).flatten).length := by
  induction before generalizing index with
  | nil => exact hoffsets.1
  | cons first before ih =>
      rw [ih hoffsets.2, List.map_cons, List.flatten_cons, List.length_append]
      omega

/-- A unit as its sender writes it; its length fits the LNG byte. -/
structure TransactionUnit where
  transactionId : Byte
  data : List Byte
  length_le : data.length ≤ 255

namespace TransactionUnit

/-- The LNG byte. -/
def dataLen (unit : TransactionUnit) : Byte := UInt8.ofNat unit.data.length

theorem toNat_dataLen (unit : TransactionUnit) : unit.dataLen.toNat = unit.data.length := by
  have hlength := unit.length_le
  rw [dataLen, UInt8.toNat_ofNat']
  exact Nat.mod_eq_of_lt (by omega)

/-- TRANS LNG DATA. -/
def bytes (unit : TransactionUnit) : List Byte :=
  unit.transactionId :: unit.dataLen :: unit.data

/-- The transaction that the splitter makes of a unit at an offset. -/
def carvedAt (unit : TransactionUnit) (offset : Nat) : RawTransaction where
  transactionId := unit.transactionId
  length := unit.data.length
  data := unit.data
  raw := unit.bytes
  offset := offset

/-- The transactions of units that lie one behind the other. -/
def carvedFrom : Nat → List TransactionUnit → List RawTransaction
  | _, [] => []
  | offset, unit :: later =>
      unit.carvedAt offset :: carvedFrom (offset + unit.bytes.length) later

end TransactionUnit

/-- A tail that is shorter than a header, or shorter than its header announces. -/
def Incomplete : List Byte → Prop
  | _ :: dataLen :: body => body.length < dataLen.toNat
  | _ => True

theorem splitFrom_incomplete {tail : List Byte} (htail : Incomplete tail) (fuel index : Nat) :
    (splitFrom fuel index tail).transactions = [] ∧
      (splitFrom fuel index tail).trailingBytes = tail := by
  match fuel, tail, htail with
  | 0, _, _ => exact ⟨rfl, rfl⟩
  | _ + 1, [], _ => exact ⟨rfl, rfl⟩
  | _ + 1, [header], _ => exact ⟨rfl, rfl⟩
  | _ + 1, transactionId :: dataLen :: body, htail =>
      rw [splitFrom]
      dsimp only
      rw [if_pos (show body.length < dataLen.toNat from htail)]
      exact ⟨rfl, rfl⟩

/-- Units and an incomplete tail come out as they went in. -/
theorem splitFrom_units (units : List TransactionUnit) {tail : List Byte}
    (htail : Incomplete tail) (index : Nat) :
    let payload := (units.map TransactionUnit.bytes).flatten ++ tail
    (splitFrom payload.length index payload).transactions =
        TransactionUnit.carvedFrom index units ∧
      (splitFrom payload.length index payload).trailingBytes = tail := by
  induction units generalizing index with
  | nil => exact splitFrom_incomplete htail _ index
  | cons unit later ih =>
      have hlater := ih (index + (HEADER_SIZE + unit.data.length))
      have hunit := splitFrom_unit index unit.transactionId unit.dataLen unit.data
        ((later.map TransactionUnit.bytes).flatten ++ tail) unit.toNat_dataLen
      have hlength : unit.bytes.length = HEADER_SIZE + unit.data.length := by
        rw [TransactionUnit.bytes, List.length_cons, List.length_cons, HEADER_SIZE]
        omega
      dsimp only at hlater ⊢
      rw [List.map_cons, List.flatten_cons, List.append_assoc]
      unfold TransactionUnit.bytes at hunit ⊢
      rw [List.cons_append, List.cons_append]
      rw [hunit]
      refine ⟨?_, hlater.2⟩
      rw [TransactionUnit.carvedFrom, hlength]
      exact congrArg _ hlater.1

/-- The splitter is exact: what it carves and leaves is the payload, and what was put
together of units and an incomplete tail is carved into just these. -/
theorem splitTransactions_exact :
    (∀ payload : List Byte,
      ((splitTransactions payload).transactions.map (·.raw)).flatten ++
          (splitTransactions payload).trailingBytes = payload ∧
        (∀ before unit after,
          (splitTransactions payload).transactions = before ++ unit :: after →
            unit.offset = ((before.map (·.raw)).flatten).length) ∧
        ∀ unit ∈ (splitTransactions payload).transactions, unit.WellFormed) ∧
    ∀ (units : List TransactionUnit) (tail : List Byte), Incomplete tail →
      (splitTransactions ((units.map TransactionUnit.bytes).flatten ++ tail)).transactions =
          TransactionUnit.carvedFrom 0 units ∧
        (splitTransactions ((units.map TransactionUnit.bytes).flatten ++ tail)).trailingBytes =
          tail := by
  refine ⟨fun payload => ?_, fun units tail htail => splitFrom_units units htail 0⟩
  obtain ⟨hbytes, hoffsets⟩ := splitFrom_conserves payload.length 0 payload
  refine ⟨hbytes, fun before unit after hsplit => ?_, fun unit hunit => wellFormed_of_mem hunit⟩
  have hunit : OffsetsFrom 0 (before ++ unit :: after) := hsplit ▸ hoffsets
  rw [hunit.offset_eq, Nat.zero_add]

end Application
end Dart
end Intelipump
