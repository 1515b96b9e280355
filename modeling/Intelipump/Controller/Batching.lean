import Mathlib.Data.List.Basic
import Mathlib.Tactic.Common
import Intelipump.Controller.Completion

namespace Intelipump
namespace Controller

open Domain
open Dart.Line
open Dart.Application
open StateMachine

/-!
# Several transactions in one block

`PumpView.effect` is what one transaction does to the visible pump state by
the mapping and the table alone.  Transactions that come one a frame have all
their effects (`pumpView_singles`).  Transactions that come in one block share
their source frame, so the machine takes the first one it records and drops
the rest as duplicates (`pumpView_block`).
-/

/-- The pump state a session shows. -/
structure PumpView where
  currentState : PumpState
  selectedNozzle : Option Nat
  lastRawWayneStatus : Option Byte
deriving DecidableEq, Repr

def SessionCore.pumpView (core : SessionCore) : PumpView where
  currentState := core.context.currentState
  selectedNozzle := core.context.selectedNozzle
  lastRawWayneStatus := core.context.lastRawWayneStatus

def PumpSession.pumpView (session : PumpSession) : PumpView := session.core.pumpView

namespace PumpView

/-- What a transaction maps to in a view. -/
def mapped (view : PumpView) (tx : ApplicationTransaction) : MappedContent :=
  (mapWayneObservation tx {
    currentState := some view.currentState
    previousWayneStatus := view.lastRawWayneStatus
    resolveAsDc1 := decide (tx.transactionId = 0x01)
    resolveAsDc3 := decide (tx.transactionId = 0x03)
    busDirection := some tx.direction }).content

/-- The branch of the machine, duplicate filters aside. -/
def branch (view : PumpView) (tx : ApplicationTransaction) : Outcome :=
  tableOutcome view.currentState (view.mapped tx).event
    (view.mapped tx).allowImplicitAuthorizeToFilling

/-- The machine remembers the frame of the transaction. -/
def Records : Outcome → Bool
  | .unknown | .sameState | .transition _ => true
  | _ => false

/-- The view after a branch of the machine. -/
def after (view : PumpView) (mapped : MappedContent) : Outcome → PumpView
  | .unknown => { view with
      lastRawWayneStatus := mapped.rawWayneStatus.or view.lastRawWayneStatus }
  | .sameState => { view with
      selectedNozzle := mapped.selectedNozzle.or view.selectedNozzle
      lastRawWayneStatus := mapped.rawWayneStatus.or view.lastRawWayneStatus }
  | .transition target => {
      currentState := target
      selectedNozzle := mapped.selectedNozzle.or view.selectedNozzle
      lastRawWayneStatus := mapped.rawWayneStatus.or view.lastRawWayneStatus }
  | _ => view

/-- What a transaction does to the view, duplicate filters aside. -/
def effect (view : PumpView) (tx : ApplicationTransaction) : PumpView :=
  view.after (view.mapped tx) (view.branch tx)

/-- The view when the first transaction is recorded, and the ones behind it. -/
def untilRecorded : PumpView → List ApplicationTransaction →
    PumpView × List ApplicationTransaction
  | view, [] => (view, [])
  | view, tx :: rest =>
      if Records (view.branch tx) then (view.effect tx, rest)
      else untilRecorded view rest

/-- A transaction that is not recorded has no effect. -/
theorem effect_of_not_records {view : PumpView} {tx : ApplicationTransaction}
    (hnot : Records (view.branch tx) ≠ true) : view.effect tx = view := by
  unfold effect
  cases hbranch : view.branch tx with
  | unknown => rw [hbranch] at hnot; exact absurd rfl hnot
  | sameState => rw [hbranch] at hnot; exact absurd rfl hnot
  | transition target => rw [hbranch] at hnot; exact absurd rfl hnot
  | _ => rfl

theorem foldl_effect_eq (view : PumpView) (txs : List ApplicationTransaction) :
    txs.foldl effect view =
      (untilRecorded view txs).2.foldl effect (untilRecorded view txs).1 := by
  induction txs generalizing view with
  | nil => rfl
  | cons tx rest ih =>
      unfold untilRecorded
      split
      · rfl
      · rename_i hnot
        rw [List.foldl_cons, effect_of_not_records hnot]
        exact ih view

/-- The view does not see where a transaction was found. -/
theorem effect_decodeRawTransaction (view : PumpView) (rawTx : RawTransaction)
    (origin : FrameOrigin) :
    view.effect (decodeRawTransaction rawTx origin) =
      view.effect (decodeContent rawTx) := by
  have hmapped : view.mapped (decodeRawTransaction rawTx origin) =
      view.mapped (decodeContent rawTx) := by
    rw [decodeRawTransaction_eq]
    exact content_mapWayneObservation (decodeContent rawTx) _ _ _ _ _ _
  unfold effect branch
  rw [hmapped]

end PumpView

namespace SessionCore

/-- The context after a branch, as the view sees it. -/
theorem pumpView_contextAfter (core : SessionCore) (tx : ApplicationTransaction)
    (keys : Finset String) (outcome : Outcome) :
    (SessionCore.mk (contextAfter core.context (core.eventOf tx) (core.argsOf tx) outcome)
        keys).pumpView = core.pumpView.after (core.pumpView.mapped tx) outcome := by
  cases outcome <;> rfl

/-- What keeps the duplicate filters away from a frame. -/
structure NotSeen (core : SessionCore) (frame : DartLineFrame) : Prop where
  frame_ne : core.context.lastSourceFrameHex ≠ some (bytesHex frame.rawFrame)
  key_not_mem : frameCompletionKey frame ∉ core.appliedKeys

/-- With the filters away, the machine takes the branch of the table. -/
theorem outcomeOf_of_notSeen {core : SessionCore} (hinv : CoreInvariant core)
    {address : Byte} {frame : DartLineFrame} {tx : ApplicationTransaction}
    (htx : tx ∈ frameTransactions address frame) (hnew : core.NotSeen frame) :
    core.outcomeOf tx = core.pumpView.branch tx := by
  refine outcome_eq_tableOutcome (not_isStale rfl) ?_ ?_
  · rintro ⟨-, hsource⟩
    rw [sourceFrame_argsOf htx] at hsource
    exact hnew.frame_ne hsource.symm
  · rintro ⟨hevent, key, hkey, hseen⟩
    rw [(completionKey_argsOf htx core).1, if_pos hevent] at hkey
    obtain rfl := Option.mem_some_iff.mp hkey
    rw [hinv.keys_eq] at hseen
    exact hnew.key_not_mem hseen

/-- A transaction of a new frame has its effect, and leaves its frame behind
exactly when it is recorded. -/
theorem applyTransaction_of_notSeen {core : SessionCore} (hinv : CoreInvariant core)
    {address : Byte} {frame : DartLineFrame} {tx : ApplicationTransaction}
    (hparsed : parseFrame frame.rawFrame = .ok frame)
    (htx : tx ∈ frameTransactions address frame) (hnew : core.NotSeen frame) :
    (core.applyTransaction tx).pumpView = core.pumpView.effect tx ∧
      (if PumpView.Records (core.pumpView.branch tx) then
        (core.applyTransaction tx).context.lastSourceFrameHex =
          some (bytesHex frame.rawFrame)
      else (core.applyTransaction tx).context.lastSourceFrameHex =
          core.context.lastSourceFrameHex ∧
        (core.applyTransaction tx).appliedKeys = core.appliedKeys) ∧
      (core.applyTransaction tx).appliedKeys ⊆
        insert (frameCompletionKey frame) core.appliedKeys := by
  have hbranch := outcomeOf_of_notSeen hinv htx hnew
  rw [applyTransaction_eq htx core, if_neg fun h => hnew.key_not_mem h.2, hbranch]
  refine ⟨pumpView_contextAfter core tx _ _, ?_, ?_⟩
  · rw [contextAfter_lastSourceFrameHex,
      recordedSourceFrame_argsOf htx hparsed core core.context]
    cases core.pumpView.branch tx <;> simp [PumpView.Records, Outcome.moves]
  · dsimp only
    split
    · exact fun _ h => h
    · exact Finset.subset_insert _ _

/-- A further transaction of the frame taken in last has no effect. -/
theorem applyTransaction_of_sameFrame {core : SessionCore}
    {address : Byte} {frame : DartLineFrame} {tx : ApplicationTransaction}
    (htx : tx ∈ frameTransactions address frame)
    (hlast : core.context.lastSourceFrameHex = some (bytesHex frame.rawFrame)) :
    (core.applyTransaction tx).pumpView = core.pumpView ∧
      (core.applyTransaction tx).context.lastSourceFrameHex =
        some (bytesHex frame.rawFrame) := by
  have hduplicate : IsDuplicateFrame core.context (core.argsOf tx) := by
    refine ⟨?_, ?_⟩
    · rw [sourceFrame_argsOf htx]
      exact Option.some_ne_none _
    · rw [sourceFrame_argsOf htx, hlast]
  have hbranch : core.outcomeOf tx = .duplicateFrame := by
    unfold outcomeOf outcome
    rw [if_neg (not_isStale rfl), if_pos hduplicate]
  rw [applyTransaction_eq htx core]
  split
  · exact ⟨rfl, hlast⟩
  · rw [hbranch]
    exact ⟨rfl, hlast⟩

theorem foldl_of_sameFrame {core : SessionCore} {address : Byte} {frame : DartLineFrame}
    (txs : List ApplicationTransaction)
    (htxs : ∀ tx ∈ txs, tx ∈ frameTransactions address frame)
    (hlast : core.context.lastSourceFrameHex = some (bytesHex frame.rawFrame)) :
    (txs.foldl applyTransaction core).pumpView = core.pumpView := by
  induction txs generalizing core with
  | nil => rfl
  | cons tx rest ih =>
      obtain ⟨htx, hrest⟩ := List.forall_mem_cons.mp htxs
      obtain ⟨hview, hkept⟩ := applyTransaction_of_sameFrame htx hlast
      rw [List.foldl_cons, ih hrest hkept, hview]

/-- A new block takes effect up to its first recorded transaction. -/
theorem pumpView_block {core : SessionCore} (hinv : CoreInvariant core)
    {address : Byte} {frame : DartLineFrame}
    (hparsed : parseFrame frame.rawFrame = .ok frame)
    (txs : List ApplicationTransaction)
    (htxs : ∀ tx ∈ txs, tx ∈ frameTransactions address frame)
    (hnew : core.NotSeen frame) :
    (txs.foldl applyTransaction core).pumpView =
      (core.pumpView.untilRecorded txs).1 := by
  induction txs generalizing core with
  | nil => rfl
  | cons tx rest ih =>
      obtain ⟨htx, hrest⟩ := List.forall_mem_cons.mp htxs
      obtain ⟨hview, hlast, -⟩ := applyTransaction_of_notSeen hinv hparsed htx hnew
      rw [List.foldl_cons]
      unfold PumpView.untilRecorded
      by_cases hrecords : PumpView.Records (core.pumpView.branch tx) = true
      · rw [if_pos hrecords] at hlast ⊢
        rw [foldl_of_sameFrame rest hrest hlast, hview]
      · rw [if_neg hrecords] at hlast ⊢
        obtain ⟨hkept, hkeys⟩ := hlast
        rw [ih (hinv.transaction hparsed htx) hrest
          ⟨by rw [hkept]; exact hnew.frame_ne, by rw [hkeys]; exact hnew.key_not_mem⟩,
          hview, PumpView.effect_of_not_records hrecords]

/-! ## One transaction a frame -/

theorem NotSeen.markResponsive {core : SessionCore} {frame : DartLineFrame}
    (hnew : core.NotSeen frame) : core.markResponsive.NotSeen frame where
  frame_ne := by
    rw [lastSourceFrameHex_markResponsive]
    exact hnew.frame_ne
  key_not_mem := by
    rw [(markResponsive_facts core).1]
    exact hnew.key_not_mem

/-- No transaction disconnects. -/
theorem effect_currentState_ne (view : PumpView) (tx : ApplicationTransaction)
    (hview : view.currentState ≠ .DISCONNECTED) :
    (view.effect tx).currentState ≠ .DISCONNECTED := by
  have hevent : (view.mapped tx).event ≠ .COMMUNICATION_LOST :=
    mapWayneObservation_event_ne tx _
  unfold PumpView.effect
  cases hbranch : view.branch tx with
  | transition target =>
      rintro rfl
      unfold PumpView.branch tableOutcome at hbranch
      generalize (view.mapped tx).event = event at hbranch hevent
      generalize view.currentState = state at hbranch
      split at hbranch
      · cases hbranch
      · split at hbranch
        · cases hbranch
        · split at hbranch
          · cases hbranch
          · cases state <;> cases event <;>
              simp_all [lookupTransition, PumpState.isOperational]
  | _ => exact hview

theorem markResponsive_ne_disconnected (core : SessionCore) :
    core.markResponsive.context.currentState ≠ .DISCONNECTED := by
  rw [currentState_markResponsive]
  unfold respond
  split
  · decide
  · assumption

/-- The first accepted frame makes the pump responsive once and for all. -/
theorem acceptData_markResponsive (address : Byte) (core : SessionCore)
    (frame : DartLineFrame) :
    core.markResponsive.acceptData address frame = core.acceptData address frame := by
  have hidempotent : core.markResponsive.markResponsive = core.markResponsive := by
    rw [markResponsive, if_neg (markResponsive_ne_disconnected core)]
  unfold acceptData
  rw [hidempotent]

theorem frameTransactions_eq (address : Byte) (frame : DartLineFrame) :
    frameTransactions address frame =
      (splitTransactions frame.payload).transactions.map
        (decodeRawTransaction · (frameOrigin address frame)) := rfl

/-- The one transaction of a frame that carries a single unit. -/
theorem frameTransactions_unit (address : Byte) {frame : DartLineFrame}
    {unit : RawTransaction} (hunit : unit.WellFormed) (hpayload : frame.payload = unit.raw) :
    frameTransactions address frame =
      [decodeRawTransaction { unit with offset := 0 } (frameOrigin address frame)] := by
  rw [frameTransactions_eq, hpayload, splitTransactions_raw hunit]
  rfl

/-- New frames with one transaction each have all effects, in order. -/
theorem pumpView_singles {core : SessionCore} (hinv : CoreInvariant core)
    (address : Byte) (singles : List DartLineFrame) (units : List RawTransaction)
    (hparsed : ∀ frame ∈ singles, parseFrame frame.rawFrame = .ok frame)
    (hpayloads : singles.map (·.payload) = units.map (·.raw))
    (hunits : ∀ unit ∈ units, unit.WellFormed)
    (hnew : ∀ frame ∈ singles, core.NotSeen frame)
    (hdistinct : (singles.map (·.rawFrame)).Nodup)
    (hresponsive : core.context.currentState ≠ .DISCONNECTED) :
    (singles.foldl (acceptData address) core).pumpView =
      (units.map decodeContent).foldl PumpView.effect core.pumpView := by
  -- on the frames: each is new after those before it, since their bytes differ
  induction singles generalizing core units with
  | nil =>
      obtain rfl : units = [] := by simpa using hpayloads.symm
      rfl
  | cons frame rest ih =>
      obtain ⟨unit, units, rfl⟩ : ∃ unit tail, units = unit :: tail := by
        cases units with
        | nil => simp at hpayloads
        | cons unit tail => exact ⟨unit, tail, rfl⟩
      obtain ⟨hframe, hrest⟩ := List.forall_mem_cons.mp hparsed
      obtain ⟨hunit, hunits⟩ := List.forall_mem_cons.mp hunits
      obtain ⟨hnewFrame, hnewRest⟩ := List.forall_mem_cons.mp hnew
      rw [List.map_cons, List.nodup_cons] at hdistinct
      rw [List.map_cons, List.map_cons, List.cons.injEq] at hpayloads
      have hsingle := frameTransactions_unit address hunit hpayloads.1
      have htx : decodeRawTransaction { unit with offset := 0 } (frameOrigin address frame) ∈
          frameTransactions address frame := by
        rw [hsingle]
        exact List.mem_singleton_self _
      have haccept : core.acceptData address frame = core.applyTransaction
          (decodeRawTransaction { unit with offset := 0 } (frameOrigin address frame)) := by
        unfold acceptData decodeAndApply markResponsive
        rw [if_neg hresponsive, hsingle]
        rfl
      obtain ⟨hview, hlast, hkeys⟩ :=
        applyTransaction_of_notSeen hinv hframe htx hnewFrame
      have heffect : (core.acceptData address frame).pumpView =
          core.pumpView.effect (decodeContent unit) := by
        rw [haccept, hview, PumpView.effect_decodeRawTransaction]
        rfl
      -- a frame leaves behind its own bytes and its own key only
      have hnewAfter : ∀ later ∈ rest, (core.acceptData address frame).NotSeen later := by
        intro later hlater
        have hraw : frame.rawFrame ≠ later.rawFrame := fun heq =>
          hdistinct.1 (heq ▸ List.mem_map_of_mem hlater)
        rw [haccept]
        constructor
        · split at hlast
          · rw [hlast]
            exact fun heq => hraw (bytesHex_injective (Option.some.inj heq))
          · rw [hlast.1]
            exact (hnewRest later hlater).frame_ne
        · intro hmem
          rcases Finset.mem_insert.mp (hkeys hmem) with hkey | hold
          · exact hraw (frameCompletionKey_inj hkey).symm
          · exact (hnewRest later hlater).key_not_mem hold
      rw [List.foldl_cons, ih (haccept ▸ hinv.transaction hframe htx) units hrest
        hpayloads.2 hunits hnewAfter hdistinct.2 ?_, heffect]
      · rfl
      · have hstate := effect_currentState_ne core.pumpView (decodeContent unit)
          hresponsive
        rw [← heffect] at hstate
        exact hstate

end SessionCore

/-! ## The block against the single frames -/

/-- Behind the first transaction the machine records, the others change
nothing in the end. -/
def PumpView.LaterIdle (view : PumpView) (txs : List ApplicationTransaction) : Prop :=
  (view.untilRecorded txs).2.foldl PumpView.effect (view.untilRecorded txs).1 =
    (view.untilRecorded txs).1

instance (view : PumpView) (txs : List ApplicationTransaction) :
    Decidable (view.LaterIdle txs) :=
  inferInstanceAs (Decidable (_ = _))

/-- In a reachable session, and where no frame meets a duplicate filter of an
earlier frame: one block shows the same pump state as its transactions one a
frame exactly when the transactions behind the first recorded one change
nothing. -/
theorem block_eq_singles_iff {session : PumpSession} (hsession : session.Reachable)
    (frame : DartLineFrame) (singles : List DartLineFrame)
    (hframe : AcceptedInSequence session.receiveLine [frame])
    (hsingles : AcceptedInSequence session.receiveLine singles)
    (hpayloads : singles.map (·.payload) =
      (splitTransactions frame.payload).transactions.map (·.raw))
    (hnew : ∀ other ∈ frame :: singles, session.core.NotSeen other)
    (hdistinct : (singles.map (·.rawFrame)).Nodup) :
    (session.handleFrames [frame]).pumpView = (session.handleFrames singles).pumpView ↔
      (singles = [] → session.context.currentState ≠ .DISCONNECTED) ∧
        session.core.markResponsive.pumpView.LaterIdle
          (SessionCore.frameTransactions session.address frame) := by
  obtain ⟨hnewFrame, hnewSingles⟩ := List.forall_mem_cons.mp hnew
  have hmarked := hsession.coreReachable.markResponsive.invariant
  have hblock : (session.handleFrames [frame]).pumpView =
      (session.core.markResponsive.pumpView.untilRecorded
        (SessionCore.frameTransactions session.address frame)).1 := by
    unfold PumpSession.pumpView
    rw [PumpSession.core_handleFrames hframe]
    exact SessionCore.pumpView_block hmarked hframe.1 _ (fun tx htx => htx)
      hnewFrame.markResponsive
  -- what a transaction does to the view does not depend on the frame it came in
  have hcontents : ∀ view : PumpView,
      ((splitTransactions frame.payload).transactions.map decodeContent).foldl
          PumpView.effect view =
        (SessionCore.frameTransactions session.address frame).foldl
          PumpView.effect view := by
    intro view
    rw [SessionCore.frameTransactions_eq, List.foldl_map, List.foldl_map]
    refine List.foldl_ext _ _ _ fun view unit _ => ?_
    exact (PumpView.effect_decodeRawTransaction view unit _).symm
  -- a block that carries nothing still counts as an answer
  rw [hblock]
  unfold PumpSession.pumpView
  rw [PumpSession.core_handleFrames hsingles]
  cases hcase : singles with
  | nil =>
      have hunits : (splitTransactions frame.payload).transactions = [] := by
        rw [hcase] at hpayloads
        simpa using hpayloads.symm
      rw [SessionCore.frameTransactions_eq, hunits, List.foldl_nil]
      constructor
      · intro hsame
        refine ⟨fun _ hdisconnected => ?_, rfl⟩
        have hstate := SessionCore.markResponsive_ne_disconnected session.core
        rw [show session.core.markResponsive.context.currentState = .DISCONNECTED from
          (congrArg PumpView.currentState hsame).trans hdisconnected] at hstate
        exact hstate rfl
      · rintro ⟨hresponsive, -⟩
        change session.core.markResponsive.pumpView = _
        have hkept : session.core.context.currentState ≠ .DISCONNECTED := hresponsive rfl
        rw [SessionCore.markResponsive, if_neg hkept]
  -- each single is a first transaction, so each has its effect
  | cons first rest =>
      have hunits : ∀ unit ∈ (splitTransactions frame.payload).transactions,
          unit.WellFormed := fun unit hunit => wellFormed_of_mem hunit
      have hrun := SessionCore.pumpView_singles hmarked session.address
        singles _ (parsed_of_acceptedInSequence hsingles) hpayloads hunits
        (fun other hother => (hnewSingles other hother).markResponsive) hdistinct
        (SessionCore.markResponsive_ne_disconnected session.core)
      rw [hcase, List.foldl_cons, SessionCore.acceptData_markResponsive, hcontents,
        PumpView.foldl_effect_eq] at hrun
      rw [List.foldl_cons, hrun]
      constructor
      · intro hsame
        exact ⟨fun hnil => absurd hnil (List.cons_ne_nil _ _), hsame.symm⟩
      · rintro ⟨-, hidle⟩
        exact hidle.symm

instance (core : SessionCore) (frame : DartLineFrame) : Decidable (core.NotSeen frame) :=
  decidable_of_iff
    (core.context.lastSourceFrameHex ≠ some (bytesHex frame.rawFrame) ∧
      SessionCore.frameCompletionKey frame ∉ core.appliedKeys)
    ⟨fun h => ⟨h.1, h.2⟩, fun h => ⟨h.frame_ne, h.key_not_mem⟩⟩

/-- A block of two DC1 units at address 1. -/
def twoStatusFrame (sequence : Fin 16) (first second : Byte) : DartLineFrame :=
  dataFrame 0x01 sequence [0x01, 0x01, first, 0x01, 0x01, second]

/-- A new session that gets RESET twice shows the same state either way. -/
theorem block_eq_singles_reset :
    ((PumpSession.create 0x01 "pump-1" .SPEC_F_TO_1).handleFrames
        [twoStatusFrame 0 0x01 0x01]).pumpView =
      ((PumpSession.create 0x01 "pump-1" .SPEC_F_TO_1).handleFrames
        [statusFrame 0 0x01, statusFrame 1 0x01]).pumpView :=
  (block_eq_singles_iff (.create 0x01 "pump-1" .SPEC_F_TO_1) (twoStatusFrame 0 0x01 0x01)
    [statusFrame 0 0x01, statusFrame 1 0x01] (by decide +kernel) (by decide +kernel)
    (by decide +kernel) (by decide +kernel) (by decide +kernel)).mpr
    (by decide +kernel)

/-- The usual pair of RESET and nozzle-in loses its second half in one block:
the pump stays in `RESET` and never becomes `READY`. -/
theorem block_not_always_singles :
    ¬ ∀ (session : PumpSession) (frame : DartLineFrame) (singles : List DartLineFrame),
      session.Reachable →
        AcceptedInSequence session.receiveLine [frame] →
        AcceptedInSequence session.receiveLine singles →
        singles.map (·.payload) =
          (splitTransactions frame.payload).transactions.map (·.raw) →
        (session.handleFrames [frame]).pumpView =
          (session.handleFrames singles).pumpView := by
  intro hall
  have hsame := hall (PumpSession.create 0x01 "pump-1" .SPEC_F_TO_1)
    (dataFrame 0x01 0 [0x01, 0x01, 0x01, 0x03, 0x04, 0x00, 0x11, 0x75, 0x01])
    [statusFrame 0 0x01, nozzleFrame 1 0x01] (.create 0x01 "pump-1" .SPEC_F_TO_1)
    (by decide +kernel) (by decide +kernel) (by decide +kernel)
  revert hsame
  decide +kernel

end Controller
end Intelipump
