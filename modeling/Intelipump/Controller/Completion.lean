import Mathlib.Data.List.Basic
import Mathlib.Tactic.Common
import Intelipump.Controller.Reachable

namespace Intelipump
namespace Controller

open Domain
open Dart.Line
open Dart.Application
open StateMachine

/-!
# Completions and their duplicate filters

A completion passes three filters: the session's set of applied keys, the
machine's last source frame and the machine's set of completed keys.  In a
reachable session the two sets are the same, and the last source frame never
stops a completion while a delivery is open (`CoreInvariant`).  What is left is
the key itself, which is made of the frame's bytes: a later completion frame
with the same TX# has the same key.
-/

/-- The states in which a delivery is still to be completed. -/
def openDelivery : List PumpState := [.FILLING, .SUSPENDED, .LIMIT_REACHED]

/-- A parsed frame whose payload is a single DC1 status 5. -/
def IsCompletionFrame (frame : DartLineFrame) : Prop :=
  parseFrame frame.rawFrame = .ok frame ∧ frame.payload = [0x01, 0x01, 0x05]

instance (frame : DartLineFrame) : Decidable (IsCompletionFrame frame) :=
  inferInstanceAs (Decidable (_ ∧ _))

/-- A frame is determined by its wire image. -/
theorem eq_of_rawFrame_eq {left right : DartLineFrame}
    (hleft : parseFrame left.rawFrame = .ok left)
    (hright : parseFrame right.rawFrame = .ok right)
    (hraw : left.rawFrame = right.rawFrame) : left = right := by
  rw [hraw, hright] at hleft
  exact (Except.ok.inj hleft).symm

structure CoreInvariant (core : SessionCore) : Prop where
  keys_eq : core.context.completedEvidenceKeys = core.appliedKeys
  closed : ∀ frame, IsCompletionFrame frame →
    core.context.lastSourceFrameHex = some (bytesHex frame.rawFrame) →
      core.context.currentState ∈
        [PumpState.FILLING_COMPLETE, .DISCONNECTED, .DISCOVERING]

/-- A completion frame carries one transaction, which maps to a completion. -/
theorem transactions_of_isCompletionFrame {frame : DartLineFrame}
    (hframe : IsCompletionFrame frame) (address : Byte) :
    SessionCore.frameTransactions address frame =
        [SessionCore.statusTransaction address frame 0x05] ∧
      ∀ core : SessionCore,
        core.eventOf (SessionCore.statusTransaction address frame 0x05) =
          .FILLING_COMPLETED :=
  ⟨SessionCore.frameTransactions_status hframe.2, fun _ => rfl⟩

theorem lookup_filling_completed {state target : PumpState}
    (hlookup : lookupTransition state .FILLING_COMPLETED = some target) :
    target = .FILLING_COMPLETE ∧ state ∈ openDelivery := by
  cases state <;> simp_all [lookupTransition, openDelivery]

theorem CoreInvariant.initial (pumpId : String) (address : Byte) :
    CoreInvariant ⟨{ pumpId := pumpId, dartAddress := address }, ∅⟩ where
  keys_eq := rfl
  closed := by
    intro frame hframe hsource
    cases hsource

/-- A communication event touches neither the keys nor the last frame, and
moves the state out of every delivery. -/
theorem CoreInvariant.event {core : SessionCore} (hinv : CoreInvariant core)
    {event : PumpEvent}
    (hevent : event = .COMMUNICATION_STARTED ∨ event = .COMMUNICATION_LOST) :
    CoreInvariant (core.applySm event) := by
  have hcontext := apply_context core.context event {}
  constructor
  · change (apply core.context event {}).context.completedEvidenceKeys = core.appliedKeys
    rw [hcontext, contextAfter_completedEvidenceKeys, ← hinv.keys_eq]
    cases (outcome core.context event {}).moves <;> rfl
  · intro frame hframe hsource
    change (apply core.context event {}).context.lastSourceFrameHex = _ at hsource
    change (apply core.context event {}).context.currentState ∈ _
    rw [hcontext] at hsource ⊢
    rw [contextAfter_lastSourceFrameHex] at hsource
    rw [contextAfter_currentState]
    have hkept : core.context.lastSourceFrameHex = some (bytesHex frame.rawFrame) := by
      cases hbranch : outcome core.context event {} <;> rw [hbranch] at hsource <;>
        exact hsource
    cases hbranch : outcome core.context event {} with
    | transition target =>
        have hlookup := lookup_of_outcome hbranch
        rcases hevent with rfl | rfl
        · generalize core.context.currentState = state at hlookup
          cases state <;> simp_all [lookupTransition]
        · generalize core.context.currentState = state at hlookup
          cases state <;> simp_all [lookupTransition]
    | _ => exact hinv.closed frame hframe hkept

theorem CoreInvariant.transaction {core : SessionCore} (hinv : CoreInvariant core)
    {address : Byte} {frame : DartLineFrame} {tx : ApplicationTransaction}
    (hparsed : parseFrame frame.rawFrame = .ok frame)
    (htx : tx ∈ SessionCore.frameTransactions address frame) :
    CoreInvariant (core.applyTransaction tx) := by
  have hrecorded := SessionCore.recordedSourceFrame_argsOf htx hparsed core core.context
  rw [SessionCore.applyTransaction_eq htx core]
  split
  · exact hinv
  · constructor
    · rw [contextAfter_completedEvidenceKeys, (SessionCore.completionKey_argsOf htx core).1,
        hinv.keys_eq]
      cases (core.outcomeOf tx).moves <;>
        by_cases hevent : core.eventOf tx = .FILLING_COMPLETED <;> simp [hevent]
    · intro other hother hsource
      -- a frame that was just recorded is the completion frame itself
      have hcompletes : some (bytesHex frame.rawFrame) =
          some (bytesHex other.rawFrame) → core.eventOf tx = .FILLING_COMPLETED := by
        intro hsame
        have hraw := bytesHex_injective (Option.some.inj hsame)
        obtain rfl := eq_of_rawFrame_eq hparsed hother.1 hraw
        obtain ⟨hsingle, hevent⟩ := transactions_of_isCompletionFrame hother address
        rw [hsingle, List.mem_singleton] at htx
        rw [htx]
        exact hevent core
      rw [contextAfter_lastSourceFrameHex] at hsource
      rw [contextAfter_currentState]
      cases hbranch : core.outcomeOf tx with
      | unknown =>
          rw [hbranch] at hsource
          have hunknown := unknown_of_outcome hbranch
          rw [hcompletes (hrecorded.symm.trans hsource)] at hunknown
          cases hunknown
      | sameState =>
          rw [hbranch] at hsource
          have hsame := sameState_of_outcome hbranch
          rw [hcompletes (hrecorded.symm.trans hsource)] at hsame
          generalize core.context.currentState = state at hsame
          cases state <;> simp_all [isSameStateNoop]
      | transition target =>
          rw [hbranch] at hsource
          have hlookup := lookup_of_outcome hbranch
          rw [hcompletes (hrecorded.symm.trans hsource)] at hlookup
          simp [(lookup_filling_completed hlookup).1]
      | stale => rw [hbranch] at hsource; exact hinv.closed other hother hsource
      | duplicateFrame => rw [hbranch] at hsource; exact hinv.closed other hother hsource
      | duplicateCompletion =>
          rw [hbranch] at hsource
          exact hinv.closed other hother hsource
      | unauthorized => rw [hbranch] at hsource; exact hinv.closed other hother hsource
      | invalid => rw [hbranch] at hsource; exact hinv.closed other hother hsource

theorem SessionCore.Reachable.invariant {address : Byte} {core : SessionCore}
    (hcore : core.Reachable address) : CoreInvariant core := by
  induction hcore with
  | initial pumpId => exact .initial pumpId address
  | event _ hevent ih => exact ih.event hevent
  | transaction _ hparsed htx ih => exact ih.transaction hparsed htx

/-! ## One completion frame -/

/-- A communication event leaves the applied keys and enters no delivery. -/
theorem markResponsive_facts (core : SessionCore) :
    core.markResponsive.appliedKeys = core.appliedKeys ∧
      (core.markResponsive.context.currentState ∈ openDelivery →
        core.markResponsive = core) := by
  unfold SessionCore.markResponsive
  split
  · rename_i hdisconnected
    refine ⟨rfl, fun hopen => absurd hopen ?_⟩
    change (apply core.context .COMMUNICATION_STARTED {}).context.currentState ∉ _
    rw [apply_context, contextAfter_currentState]
    cases hbranch : outcome core.context .COMMUNICATION_STARTED {} with
    | transition target =>
        have hlookup := lookup_of_outcome hbranch
        rw [hdisconnected] at hlookup
        obtain rfl : PumpState.DISCOVERING = target := by
          simpa [lookupTransition] using hlookup
        change PumpState.DISCOVERING ∉ openDelivery
        decide
    | _ => rw [hdisconnected]; decide
  · exact ⟨rfl, fun _ => rfl⟩

theorem markResponsive_of_open {core : SessionCore}
    (hopen : core.context.currentState ∈ openDelivery) : core.markResponsive = core := by
  unfold SessionCore.markResponsive
  rw [if_neg]
  intro hdisconnected
  rw [hdisconnected] at hopen
  revert hopen
  decide

/-- With a new key, the machine takes a completion frame in an open delivery
into `FILLING_COMPLETE`. -/
theorem outcome_of_new_completion {core : SessionCore} (hinv : CoreInvariant core)
    (address : Byte) {frame : DartLineFrame} (hframe : IsCompletionFrame frame)
    (hopen : core.context.currentState ∈ openDelivery)
    (hnew : SessionCore.frameCompletionKey frame ∉ core.appliedKeys) :
    core.outcomeOf (SessionCore.statusTransaction address frame 0x05) =
      .transition .FILLING_COMPLETE := by
  obtain ⟨hsingle, hevent⟩ := transactions_of_isCompletionFrame hframe address
  have htx : SessionCore.statusTransaction address frame 0x05 ∈
      SessionCore.frameTransactions address frame := by
    rw [hsingle]
    exact List.mem_singleton_self _
  generalize SessionCore.statusTransaction address frame 0x05 = tx at htx hevent
  have hstale : ¬ IsStale core.context (core.argsOf tx) := not_isStale rfl
  have hduplicate : ¬ IsDuplicateFrame core.context (core.argsOf tx) := by
    rintro ⟨-, hsource⟩
    rw [SessionCore.sourceFrame_argsOf htx] at hsource
    have hclosed := hinv.closed frame hframe hsource.symm
    revert hopen hclosed
    generalize core.context.currentState = state
    cases state <;> decide
  have hcompletion : ¬ IsDuplicateCompletion core.context (core.eventOf tx)
      (core.argsOf tx) := by
    rintro ⟨-, key, hkey, hseen⟩
    rw [(SessionCore.completionKey_argsOf htx core).1, if_pos (hevent core)] at hkey
    obtain rfl := Option.mem_some_iff.mp hkey
    rw [hinv.keys_eq] at hseen
    exact hnew hseen
  unfold SessionCore.outcomeOf outcome
  rw [if_neg hstale, if_neg hduplicate, if_neg hcompletion, hevent core]
  simp only [openDelivery, List.mem_cons, List.not_mem_nil, or_false] at hopen
  rcases hopen with hstate | hstate | hstate <;>
    simp [LacksAuthorization, hstate, isSameStateNoop, lookupTransition]

/-- A completion frame in an open delivery completes it exactly when its key
is new, and its key is known afterwards. -/
theorem acceptData_completion {core : SessionCore} (hinv : CoreInvariant core)
    {address : Byte} {frame : DartLineFrame} (hframe : IsCompletionFrame frame)
    (hopen : core.context.currentState ∈ openDelivery) :
    ((core.acceptData address frame).context.currentState = .FILLING_COMPLETE ↔
        SessionCore.frameCompletionKey frame ∉ core.appliedKeys) ∧
      SessionCore.frameCompletionKey frame ∈ (core.acceptData address frame).appliedKeys := by
  obtain ⟨hsingle, hevent⟩ := transactions_of_isCompletionFrame hframe address
  have htx : SessionCore.statusTransaction address frame 0x05 ∈
      SessionCore.frameTransactions address frame := by
    rw [hsingle]
    exact List.mem_singleton_self _
  unfold SessionCore.acceptData SessionCore.decodeAndApply
  rw [markResponsive_of_open hopen, hsingle, List.foldl_cons, List.foldl_nil,
    SessionCore.applyTransaction_eq htx core]
  by_cases hseen : SessionCore.frameCompletionKey frame ∈ core.appliedKeys
  · rw [if_pos ⟨hevent core, hseen⟩]
    refine ⟨iff_of_false ?_ (not_not.mpr hseen), hseen⟩
    intro hcomplete
    rw [hcomplete] at hopen
    revert hopen
    decide
  · have houtcome := outcome_of_new_completion hinv address hframe hopen hseen
    rw [if_neg fun h => hseen h.2, houtcome, contextAfter_currentState]
    refine ⟨iff_of_true rfl hseen, ?_⟩
    rw [if_pos ⟨hevent core, rfl⟩]
    exact Finset.mem_insert_self _ _

/-- A transaction applies at most the key of its own frame. -/
theorem appliedKeys_applyTransaction {address : Byte} {frame : DartLineFrame}
    {tx : ApplicationTransaction} (htx : tx ∈ SessionCore.frameTransactions address frame)
    (core : SessionCore) :
    core.appliedKeys ⊆ (core.applyTransaction tx).appliedKeys ∧
      ∀ key, key ∈ (core.applyTransaction tx).appliedKeys →
        key ∈ core.appliedKeys ∨ key = SessionCore.frameCompletionKey frame := by
  rw [SessionCore.applyTransaction_eq htx core]
  split
  · exact ⟨fun _ h => h, fun _ h => Or.inl h⟩
  · dsimp only
    split
    · exact ⟨Finset.subset_insert _ _, fun key h => (Finset.mem_insert.mp h).symm⟩
    · exact ⟨fun _ h => h, fun _ h => Or.inl h⟩

theorem appliedKeys_foldl {address : Byte} {frame : DartLineFrame}
    {txs : List ApplicationTransaction}
    (htxs : ∀ tx ∈ txs, tx ∈ SessionCore.frameTransactions address frame)
    (core : SessionCore) :
    core.appliedKeys ⊆ (txs.foldl SessionCore.applyTransaction core).appliedKeys ∧
      ∀ key, key ∈ (txs.foldl SessionCore.applyTransaction core).appliedKeys →
        key ∈ core.appliedKeys ∨ key = SessionCore.frameCompletionKey frame := by
  induction txs generalizing core with
  | nil => exact ⟨fun _ h => h, fun _ h => Or.inl h⟩
  | cons tx rest ih =>
      obtain ⟨htx, hrest⟩ := List.forall_mem_cons.mp htxs
      obtain ⟨hsub, hnew⟩ := appliedKeys_applyTransaction htx core
      obtain ⟨hsub', hnew'⟩ := ih hrest (core.applyTransaction tx)
      exact ⟨fun key h => hsub' (hsub h), fun key h =>
        (hnew' key h).elim (hnew key) Or.inr⟩

/-- Outside a delivery the completion is no table transition. -/
theorem appliedKeys_acceptData_of_not_open {core : SessionCore} {frame : DartLineFrame}
    (hframe : IsCompletionFrame frame) (address : Byte)
    (hopen : core.context.currentState ∉ openDelivery) :
    (core.acceptData address frame).appliedKeys = core.appliedKeys := by
  obtain ⟨hkeys, hunmoved⟩ := markResponsive_facts core
  obtain ⟨hsingle, hevent⟩ := transactions_of_isCompletionFrame hframe address
  have htx : SessionCore.statusTransaction address frame 0x05 ∈
      SessionCore.frameTransactions address frame := by
    rw [hsingle]
    exact List.mem_singleton_self _
  have hstill : (core.markResponsive.outcomeOf
      (SessionCore.statusTransaction address frame 0x05)).moves ≠ true := by
    intro hmoves
    cases hbranch : core.markResponsive.outcomeOf
        (SessionCore.statusTransaction address frame 0x05) with
    | transition target =>
        have hlookup := lookup_of_outcome hbranch
        rw [hevent core.markResponsive] at hlookup
        have hmarked := (lookup_filling_completed hlookup).2
        rw [hunmoved hmarked] at hmarked
        exact hopen hmarked
    | _ => rw [hbranch] at hmoves; cases hmoves
  unfold SessionCore.acceptData SessionCore.decodeAndApply
  rw [hsingle, List.foldl_cons, List.foldl_nil,
    SessionCore.applyTransaction_eq htx core.markResponsive]
  split
  · exact hkeys
  · rw [if_neg fun h => hstill h.2]
    exact hkeys

/-- Where the applied keys of an accepted frame come from. -/
theorem mem_appliedKeys_acceptData {core : SessionCore} (hinv : CoreInvariant core)
    {address : Byte} {earlier frame : DartLineFrame}
    (hearlier : parseFrame earlier.rawFrame = .ok earlier)
    (hframe : IsCompletionFrame frame) :
    SessionCore.frameCompletionKey frame ∈ (core.acceptData address earlier).appliedKeys ↔
      SessionCore.frameCompletionKey frame ∈ core.appliedKeys ∨
        (earlier.rawFrame = frame.rawFrame ∧
          core.context.currentState ∈ openDelivery) := by
  by_cases hraw : earlier.rawFrame = frame.rawFrame
  · obtain rfl := eq_of_rawFrame_eq hearlier hframe.1 hraw
    by_cases hopen : core.context.currentState ∈ openDelivery
    · exact iff_of_true (acceptData_completion hinv hframe hopen).2 (Or.inr ⟨rfl, hopen⟩)
    · rw [appliedKeys_acceptData_of_not_open hframe address hopen]
      exact (or_iff_left fun h => hopen h.2).symm
  · -- the keys of different frames differ
    have hother : SessionCore.frameCompletionKey frame ≠
        SessionCore.frameCompletionKey earlier :=
      fun heq => hraw (SessionCore.frameCompletionKey_inj heq).symm
    obtain ⟨hkeys, -⟩ := markResponsive_facts core
    obtain ⟨hsub, hnew⟩ := appliedKeys_foldl
      (fun tx (htx : tx ∈ SessionCore.frameTransactions address earlier) => htx)
      core.markResponsive
    rw [hkeys] at hsub hnew
    constructor
    · intro hmem
      exact Or.inl ((hnew _ hmem).resolve_right hother)
    · rintro (hmem | ⟨hsame, -⟩)
      · exact hsub hmem
      · exact absurd hsame hraw

/-! ## Runs -/

/-- A key is applied after a run exactly when its frame came in an open
delivery. -/
theorem mem_appliedKeys_run {core : SessionCore} {address : Byte}
    (hcore : core.Reachable address) (hkeys : core.appliedKeys = ∅)
    {frame : DartLineFrame} (hframe : IsCompletionFrame frame)
    (frames : List DartLineFrame)
    (hparsed : ∀ earlier ∈ frames, parseFrame earlier.rawFrame = .ok earlier) :
    SessionCore.frameCompletionKey frame ∈
        (frames.foldl (SessionCore.acceptData address) core).appliedKeys ↔
      ∃ before earlier after, frames = before ++ earlier :: after ∧
        earlier.rawFrame = frame.rawFrame ∧
        (before.foldl (SessionCore.acceptData address) core).context.currentState ∈
          openDelivery := by
  induction frames using List.reverseRecOn with
  | nil => simp [hkeys]
  | append_singleton frames last ih =>
      have hparses : ∀ earlier ∈ frames, parseFrame earlier.rawFrame = .ok earlier :=
        fun earlier hmem => hparsed earlier (List.mem_append_left _ hmem)
      have hlast := hparsed last (List.mem_append_right _ (List.mem_singleton_self _))
      have hreached := hcore.run frames hparses
      rw [List.foldl_append, List.foldl_cons, List.foldl_nil,
        mem_appliedKeys_acceptData hreached.invariant hlast hframe, ih hparses]
      constructor
      · rintro (⟨before, earlier, after, rfl, hraw, hopen⟩ | ⟨hraw, hopen⟩)
        · exact ⟨before, earlier, after ++ [last], by simp, hraw, hopen⟩
        · exact ⟨frames, last, [], rfl, hraw, hopen⟩
      · rintro ⟨before, earlier, after, hsplit, hraw, hopen⟩
        cases after using List.reverseRecOn with
        | nil =>
            obtain ⟨rfl, heq⟩ := List.append_inj' hsplit rfl
            obtain rfl := List.singleton_inj.mp heq
            exact Or.inr ⟨hraw, hopen⟩
        | append_singleton after final =>
            rw [← List.cons_append, ← List.append_assoc] at hsplit
            obtain ⟨rfl, -⟩ := List.append_inj' hsplit rfl
            exact Or.inl ⟨before, earlier, after, rfl, hraw, hopen⟩

/-- In a run of accepted frames of a new session, a completion frame that comes
in an open delivery completes it exactly when no earlier frame with the same
wire bytes came in an open delivery. -/
theorem completion_taken_iff (address : Byte) (pumpId : String)
    (policy : Simulator.SequencePolicy) (frames : List DartLineFrame)
    (frame : DartLineFrame)
    (haccepted : AcceptedInSequence
      (PumpSession.create address pumpId policy).receiveLine (frames ++ [frame]))
    (hpayload : frame.payload = [0x01, 0x01, 0x05])
    (hopen : ((PumpSession.create address pumpId policy).handleFrames
      frames).context.currentState ∈ openDelivery) :
    ((PumpSession.create address pumpId policy).handleFrames
        (frames ++ [frame])).context.currentState = .FILLING_COMPLETE ↔
      ¬ ∃ before earlier after, frames = before ++ earlier :: after ∧
        earlier.rawFrame = frame.rawFrame ∧
        ((PumpSession.create address pumpId policy).handleFrames
          before).context.currentState ∈ openDelivery := by
  generalize hsession : PumpSession.create address pumpId policy = session at *
  have hreach : SessionCore.Reachable session.address session.core := by
    rw [← hsession]
    exact .initial pumpId
  have hkeys : session.core.appliedKeys = ∅ := by
    rw [← hsession]
    rfl
  have hparsed := parsed_of_acceptedInSequence haccepted
  have hparses : ∀ earlier ∈ frames, parseFrame earlier.rawFrame = .ok earlier :=
    fun earlier hmem => hparsed earlier (List.mem_append_left _ hmem)
  have hframe : IsCompletionFrame frame :=
    ⟨hparsed frame (List.mem_append_right _ (List.mem_singleton_self _)), hpayload⟩
  have hfront := (acceptedInSequence_append.mp haccepted).1
  -- the state after a beginning of the run is that of its core
  have hstate : ∀ before after, frames = before ++ after →
      (session.handleFrames before).context.currentState =
        (before.foldl (SessionCore.acceptData session.address)
          session.core).context.currentState := by
    rintro before after rfl
    have hbefore := (acceptedInSequence_append.mp hfront).1
    exact congrArg (fun core => core.context.currentState)
      (PumpSession.core_handleFrames hbefore)
  have hlast : (session.handleFrames (frames ++ [frame])).context.currentState =
      (SessionCore.acceptData session.address
        (frames.foldl (SessionCore.acceptData session.address) session.core)
        frame).context.currentState := by
    have hrun := congrArg (fun core => core.context.currentState)
      (PumpSession.core_handleFrames haccepted)
    rw [List.foldl_append] at hrun
    exact hrun
  rw [hstate frames [] (by simp)] at hopen
  rw [hlast, (acceptData_completion (hreach.run frames hparses).invariant hframe hopen).1,
    mem_appliedKeys_run hreach hkeys hframe frames hparses, not_iff_not]
  constructor
  · rintro ⟨before, earlier, after, hsplit, hraw, hearlier⟩
    exact ⟨before, earlier, after, hsplit, hraw, by rwa [hstate before _ hsplit]⟩
  · rintro ⟨before, earlier, after, hsplit, hraw, hearlier⟩
    exact ⟨before, earlier, after, hsplit, hraw, by rwa [← hstate before _ hsplit]⟩

/-- DC1 status at address 1. -/
def statusFrame (sequence : Fin 16) (code : Byte) : DartLineFrame :=
  dataFrame 0x01 sequence [0x01, 0x01, code]

/-- DC2 with nothing filled at address 1. -/
def emptyFillFrame (sequence : Fin 16) : DartLineFrame :=
  dataFrame 0x01 sequence [0x02, 0x08, 0, 0, 0, 0, 0, 0, 0, 0]

/-- DC3 with price 11.75 at address 1. -/
def nozzleFrame (sequence : Fin 16) (nozio : Byte) : DartLineFrame :=
  dataFrame 0x01 sequence [0x03, 0x04, 0x00, 0x11, 0x75, nozio]

/-- A new pump up to the start of its first delivery. -/
def firstDelivery : List DartLineFrame :=
  [statusFrame 0 0x01, nozzleFrame 1 0x01, nozzleFrame 2 0x11, statusFrame 3 0x02,
    statusFrame 4 0x04]

/-- The first delivery ends with TX# 5; the second one starts with TX# 4 of the
next round, after blocks that leave no mark on the machine. -/
def secondDelivery : List DartLineFrame :=
  firstDelivery ++ [statusFrame 5 0x05, statusFrame 6 0x01, nozzleFrame 7 0x01,
    nozzleFrame 8 0x11, statusFrame 9 0x02] ++
    [10, 11, 12, 13, 14, 15, 1, 2, 3].map emptyFillFrame ++ [statusFrame 4 0x04]

/-- The first completion is taken. -/
theorem completion_taken_first :
    ((PumpSession.create 0x01 "pump-1" .SPEC_F_TO_1).handleFrames
      (firstDelivery ++ [statusFrame 5 0x05])).context.currentState =
        .FILLING_COMPLETE := by
  refine (completion_taken_iff 0x01 "pump-1" .SPEC_F_TO_1 firstDelivery
    (statusFrame 5 0x05) (by decide +kernel) rfl (by decide +kernel)).mpr ?_
  rintro ⟨before, earlier, after, hsplit, hraw, -⟩
  have hfresh : ∀ earlier ∈ firstDelivery,
      earlier.rawFrame ≠ (statusFrame 5 0x05).rawFrame := by decide +kernel
  refine hfresh earlier ?_ hraw
  rw [hsplit]
  exact List.mem_append_right _ (List.mem_cons_self ..)

/-- The second completion with TX# 5 is suppressed: the pump stays in
`FILLING`. -/
theorem completion_not_always_taken :
    ¬ ∀ (frames : List DartLineFrame) (frame : DartLineFrame),
      AcceptedInSequence
          (PumpSession.create 0x01 "pump-1" .SPEC_F_TO_1).receiveLine
          (frames ++ [frame]) →
        frame.payload = [0x01, 0x01, 0x05] →
        ((PumpSession.create 0x01 "pump-1" .SPEC_F_TO_1).handleFrames
          frames).context.currentState ∈ openDelivery →
        ((PumpSession.create 0x01 "pump-1" .SPEC_F_TO_1).handleFrames
          (frames ++ [frame])).context.currentState = .FILLING_COMPLETE := by
  intro hall
  have htaken := hall secondDelivery (statusFrame 5 0x05) (by decide +kernel) rfl
    (by decide +kernel)
  revert htaken
  decide +kernel

end Controller
end Intelipump
