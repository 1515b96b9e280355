import Mathlib.Data.List.Count
import Mathlib.Tactic.Common
import Intelipump.Dart.Line.Control
import Intelipump.Domain

namespace Intelipump
namespace Controller

open Domain
open Dart.Line

/-!
# The outbound queue

Items with an expiry time in a bounded queue, behind the safety gates.  Clock
readings are integers in milliseconds and come in with each call.
-/

inductive IdempotencyClass where
  | IDEMPOTENT | NON_IDEMPOTENT
deriving DecidableEq, Repr

structure OutboundDataItem where
  correlationId : String
  address : Byte
  applicationPayload : List Byte
  createdAt : Int
  expiresAt : Int
  idempotency : IdempotencyClass
  maxRetries : Int
  simulatorOnly : Bool
  commandType : PumpCommand
  sequence : Option (Fin 16) := none
  attempts : Nat := 0
deriving DecidableEq, Repr

namespace OutboundDataItem

/-- A new item; the identifier is a fresh `uuid4()`. -/
def create (uuid4 : String) (now : Int) (address : Byte)
    (applicationPayload : List Byte) (commandType : PumpCommand) (simulatorOnly : Bool)
    (idempotency : IdempotencyClass) (ttlMs : Int := 5000) (maxRetries : Int := 2) :
    OutboundDataItem where
  correlationId := uuid4
  address := address
  applicationPayload := applicationPayload
  createdAt := now
  expiresAt := now + ttlMs
  idempotency := idempotency
  maxRetries := maxRetries
  simulatorOnly := simulatorOnly
  commandType := commandType

def isExpired (item : OutboundDataItem) (now : Int) : Prop := now ≥ item.expiresAt

instance (item : OutboundDataItem) (now : Int) : Decidable (item.isExpired now) :=
  inferInstanceAs (Decidable (_ ≥ _))

end OutboundDataItem

/-! ## Safety gates -/

inductive ControllerMode where
  | LISTEN_ONLY | BENCH_CONTROL | FIELD_CONTROL | LOCKED_OUT
deriving DecidableEq, Repr

def ControllerMode.value : ControllerMode → String
  | .LISTEN_ONLY => "LISTEN_ONLY"
  | .BENCH_CONTROL => "BENCH_CONTROL"
  | .FIELD_CONTROL => "FIELD_CONTROL"
  | .LOCKED_OUT => "LOCKED_OUT"

structure SafetyDecision where
  allowed : Bool
  reasons : List String
deriving DecidableEq, Repr

structure ControllerSafetyContext where
  environment : String
  mode : ControllerMode
  activeCommandsEnabled : Bool
  requirePhysicalControlEnable : Bool
  physicalEnablePresent : Bool := false
  allowLabSimulatorCommands : Bool := false
deriving DecidableEq, Repr

/-- Commands that must never be blindly retried after a restart. -/
def NON_IDEMPOTENT_COMMANDS : List PumpCommand :=
  [.AUTHORIZE, .STOP, .SUSPEND, .RESUME, .RESET, .SET_PRICE, .PRESET_AMOUNT,
    .PRESET_VOLUME]

/-- The decision and its reasons; the reasons of an active command are all
different. -/
def evaluateOutboundSafety (item : OutboundDataItem) (ctx : ControllerSafetyContext) :
    SafetyDecision :=
  let lab : Bool := ctx.environment.toUpper = "LAB"
  let bench : Bool := ctx.mode ∈ [ControllerMode.LISTEN_ONLY, .BENCH_CONTROL]
  let reason (condition : Bool) (text : String) : List String :=
    if condition then [text] else []
  if ctx.mode = .LOCKED_OUT then ⟨false, ["controller_LOCKED_OUT"]⟩
  else if ctx.mode = .FIELD_CONTROL then
    ⟨false, ["FIELD_CONTROL_not_enabled_in_phase8"]⟩
  else if item.commandType ∈ [PumpCommand.READ_STATUS, .READ_TOTALS] then
    let reasons :=
      reason (!item.simulatorOnly) "read_requests_must_be_simulator_only_in_phase6" ++
        reason (!lab) "simulator_only_requests_require_LAB" ++
        reason (!bench) s!"mode_{ctx.mode.value}_blocks_reads"
    ⟨reasons.isEmpty, reasons⟩
  else if ctx.allowLabSimulatorCommands ∧ item.simulatorOnly ∧ lab ∧ bench then
    ⟨true, []⟩
  else
    ⟨false,
      [s!"active_command_{item.commandType.value}_blocked_in_phase8"] ++
        reason (!item.simulatorOnly) "active_command_missing_simulator_only_flag" ++
        reason (!lab) "simulator_only_requests_require_LAB" ++
        reason (ctx.mode = .LISTEN_ONLY) "LISTEN_ONLY_blocks_active_commands" ++
        reason (!ctx.activeCommandsEnabled) "active_commands_enabled_is_false" ++
        reason (ctx.requirePhysicalControlEnable && !ctx.physicalEnablePresent)
          "physical_enable_required" ++
        reason (item.commandType ∈ NON_IDEMPOTENT_COMMANDS) "non_idempotent_command"⟩

/-! ## The queue -/

structure OutboundQueue where
  maxSize : Int
  items : List OutboundDataItem
deriving DecidableEq, Repr

namespace OutboundQueue

def create (maxSize : Int := 32) : Except Raised OutboundQueue :=
  if maxSize < 1 then .error (.valueError "max_size must be >= 1")
  else .ok { maxSize := maxSize, items := [] }

def enqueue (queue : OutboundQueue) (now : Int) (item : OutboundDataItem)
    (safety : ControllerSafetyContext) : Except Raised OutboundQueue :=
  let decision := evaluateOutboundSafety item safety
  if decision.allowed = false then .error (.outboundRejectedError decision.reasons)
  else if item.isExpired now then .error (.outboundRejectedError ["item_expired"])
  else if (queue.items.length : Int) ≥ queue.maxSize then
    .error (.outboundQueueFullError s!"outbound queue full (max={queue.maxSize})")
  else .ok { queue with items := queue.items ++ [item] }

/-- The loop of `popForAddress`: expired items are dropped, the first item for
the address is selected, the others are kept. -/
def popLoop (address : Byte) (now : Int) :
    Option OutboundDataItem → List OutboundDataItem →
      Option OutboundDataItem × List OutboundDataItem
  | selected, [] => (selected, [])
  | selected, item :: rest =>
      if item.isExpired now then popLoop address now selected rest
      else if selected = none ∧ item.address = address then
        popLoop address now (some item) rest
      else
        let (found, kept) := popLoop address now selected rest
        (found, item :: kept)

def popForAddress (queue : OutboundQueue) (now : Int) (address : Byte) :
    Option OutboundDataItem × OutboundQueue :=
  let (selected, kept) := popLoop address now none queue.items
  (selected, { queue with items := kept })

/-- What the queue accepts: an allowed item before its expiry, while there is room. -/
theorem enqueue_ok {queue outbound : OutboundQueue} {now : Int} {item : OutboundDataItem}
    {safety : ControllerSafetyContext}
    (hqueue : queue.enqueue now item safety = .ok outbound) :
    (evaluateOutboundSafety item safety).allowed = true ∧ ¬ item.isExpired now ∧
      (queue.items.length : Int) < queue.maxSize ∧
      outbound = { queue with items := queue.items ++ [item] } := by
  unfold enqueue at hqueue
  dsimp only at hqueue
  split at hqueue
  · cases hqueue
  · rename_i hallowed
    split at hqueue
    · cases hqueue
    · rename_i hfresh
      split at hqueue
      · cases hqueue
      · rename_i hroom
        exact ⟨by simpa using hallowed, hfresh, by omega, (Except.ok.inj hqueue).symm⟩

/-- Once an item is selected, the loop keeps what has not expired. -/
theorem popLoop_some (address : Byte) (now : Int) (selected : OutboundDataItem)
    (items : List OutboundDataItem) :
    popLoop address now (some selected) items =
      (some selected, items.filter fun item => ¬ item.isExpired now) := by
  induction items with
  | nil => rfl
  | cons item rest ih =>
      rw [popLoop]
      by_cases hexpired : item.isExpired now
      · rw [if_pos hexpired, ih, List.filter_cons, if_neg (by simpa using hexpired)]
      · have hother : ¬ (some selected = none ∧ item.address = address) :=
          fun h => Option.some_ne_none _ h.1
        rw [if_neg hexpired, if_neg hother, ih, List.filter_cons,
          if_pos (by simpa using hexpired)]

/-- The loop selects the first item for the address that has not expired, and keeps the
other ones that have not expired. -/
theorem popLoop_none (address : Byte) (now : Int) (items : List OutboundDataItem) :
    popLoop address now none items =
      (items.find? fun item => ¬ item.isExpired now ∧ item.address = address,
        (items.filter fun item => ¬ item.isExpired now).eraseP
          fun item => item.address = address) := by
  induction items with
  | nil => rfl
  | cons item rest ih =>
      rw [popLoop]
      by_cases hexpired : item.isExpired now
      · rw [if_pos hexpired, ih, List.filter_cons, if_neg (by simpa using hexpired),
          List.find?_cons_of_neg (by simp [hexpired])]
      · have hkept : decide (¬ item.isExpired now) = true := decide_eq_true hexpired
        rw [if_neg hexpired, List.filter_cons, if_pos hkept]
        by_cases haddress : item.address = address
        · rw [if_pos ⟨rfl, haddress⟩, popLoop_some,
            List.eraseP_cons_of_pos (by simpa using haddress),
            List.find?_cons_of_pos (by simp [hexpired, haddress])]
        · rw [if_neg fun h => haddress h.2, ih, List.eraseP_cons_of_neg (by simpa using haddress),
            List.find?_cons_of_neg (by simp [haddress])]

/-- Popping makes no item: what is selected and kept was there. -/
theorem count_popLoop (address : Byte) (now : Int) (selected : Option OutboundDataItem)
    (items : List OutboundDataItem) (item : OutboundDataItem) :
    (popLoop address now selected items).1.toList.count item +
        (popLoop address now selected items).2.count item ≤
      selected.toList.count item + items.count item := by
  fun_induction popLoop address now selected items with
  | case1 selected => exact Nat.le_refl _
  | case2 selected first rest hexpired ih =>
      have hmore := List.count_le_count_cons (a := item) (b := first) (l := rest)
      omega
  | case3 selected first rest hexpired hselected ih =>
      obtain ⟨rfl, -⟩ := hselected
      rw [List.count_cons]
      simp only [Option.toList_some, Option.toList_none, List.count_nil,
        List.count_singleton] at ih ⊢
      omega
  | case4 selected first rest hexpired hother found kept hloop ih =>
      rw [hloop] at ih
      dsimp only at ih ⊢
      rw [List.count_cons, List.count_cons]
      omega

end OutboundQueue
end Controller
end Intelipump
