import Intelipump.Controller.SessionModels
import Intelipump.Dart.Line.Stream
import Intelipump.Text

namespace Intelipump
namespace Controller

open Dart Dart.Line

/-!
# Reading frames from the transport

`_read_one_frame` feeds what one read brings to the assembler and walks
through the events, but it returns from the middle of the walk: the events
behind the first frame of a read are neither returned nor published.  The
reads that arrive before the deadline are a list, an empty one a pause.
-/

/-- The fields of a `FRAME_REJECTED` event of the loop, which names no
address. -/
structure RejectedNote where
  type : ControllerEventType := .FRAME_REJECTED
  detail : String
  rawHex : String
deriving DecidableEq, Repr

/-- The frame an event hands to the caller. -/
def deliveredFrame (event : AssemblerEvent) : Option DartLineFrame :=
  if event.kind = .FRAME then event.frame else none

/-- What is published for an event. -/
def rejectedNote (event : AssemblerEvent) : Option RejectedNote :=
  match event.kind with
  | .REJECTED | .OVERFLOW | .NOISE =>
      some { detail := event.kind.value, rawHex := bytesHex event.raw }
  | .FRAME => none

/-- The controller's assembler, and what the loop has published. -/
structure ReadLoop where
  assembler : FrameStreamAssembler
  published : List RejectedNote

namespace ReadLoop

def create : ReadLoop where
  assembler := FrameStreamAssembler.default
  published := []

/-- The walk through the events of one read. -/
def walkEvents : List AssemblerEvent → Option DartLineFrame × List RejectedNote
  | [] => (none, [])
  | event :: rest =>
      match deliveredFrame event with
      | some frame => (some frame, [])
      | none =>
          let (frame, notes) := walkEvents rest
          (frame, (rejectedNote event).toList ++ notes)

/-- One call: the frame, the loop, and the reads that are still to come. -/
def readOneFrame : ReadLoop → List (List Byte) →
    Option DartLineFrame × ReadLoop × List (List Byte)
  | loop, [] => (none, loop, [])
  | loop, chunk :: reads =>
      if chunk = [] then loop.readOneFrame reads
      else
        let (assembler, events) := loop.assembler.feed chunk
        let (frame, notes) := walkEvents events
        let next : ReadLoop :=
          { assembler := assembler, published := loop.published ++ notes }
        match frame with
        | some frame => (some frame, next, reads)
        | none => next.readOneFrame reads

/-- Successive calls: the frames they return and the loop after them. -/
def readFrames : Nat → ReadLoop → List (List Byte) → List DartLineFrame × ReadLoop
  | 0, loop, _ => ([], loop)
  | calls + 1, loop, reads =>
      let (frame, next, later) := loop.readOneFrame reads
      let (frames, final) := readFrames calls next later
      (frame.toList ++ frames, final)

theorem readFrames_succ (calls : Nat) (loop : ReadLoop) (reads : List (List Byte)) :
    readFrames (calls + 1) loop reads =
      ((loop.readOneFrame reads).1.toList ++
          (readFrames calls (loop.readOneFrame reads).2.1 (loop.readOneFrame reads).2.2).1,
        (readFrames calls (loop.readOneFrame reads).2.1 (loop.readOneFrame reads).2.2).2) :=
  rfl

/-! ## The events that are handled -/

/-- The events of one read up to the first frame. -/
def handled : List AssemblerEvent → List AssemblerEvent
  | [] => []
  | event :: rest =>
      if (deliveredFrame event).isSome then [event] else event :: handled rest

/-- The handled events of all reads. -/
def handledEvents : FrameStreamAssembler → List (List Byte) → List AssemblerEvent
  | _, [] => []
  | assembler, chunk :: reads =>
      handled (assembler.feed chunk).2 ++ handledEvents (assembler.feed chunk).1 reads

theorem walkEvents_spec (events : List AssemblerEvent) :
    (walkEvents events).1.toList = (handled events).filterMap deliveredFrame ∧
      ((walkEvents events).1 = none → handled events = events) ∧
      ((∀ event ∈ events, deliveredFrame event = none ∨ rejectedNote event = none) →
        (walkEvents events).2 = (handled events).filterMap rejectedNote) := by
  induction events with
  | nil => exact ⟨rfl, fun _ => rfl, fun _ => rfl⟩
  | cons event rest ih =>
      obtain ⟨hframes, hall, hnotes⟩ := ih
      unfold walkEvents handled
      cases hevent : deliveredFrame event with
      | some frame =>
          refine ⟨by simp [hevent], by simp, ?_⟩
          intro hkinds
          have hquiet := hkinds event (List.mem_cons_self ..)
          simp only [hevent, reduceCtorEq, false_or] at hquiet
          simp [hquiet]
      | none =>
          dsimp only [Option.isSome_none]
          rw [if_neg (by simp), List.filterMap_cons_none hevent]
          refine ⟨hframes, fun hnone => by rw [hall hnone], ?_⟩
          intro hkinds
          rw [hnotes fun later hlater => hkinds later (List.mem_cons_of_mem _ hlater),
            List.filterMap_cons]
          cases rejectedNote event <;> rfl

/-! ## The kinds of event -/

/-- An event is a frame with its content, or a reject without one. -/
def WellFormed (event : AssemblerEvent) : Prop :=
  event.kind = .FRAME ↔ event.frame.isSome = true

theorem wellFormed_of_mem_checkOverflow {assembler : FrameStreamAssembler}
    {event : AssemblerEvent} (hevent : event ∈ assembler.checkOverflow.2) :
    WellFormed event := by
  unfold FrameStreamAssembler.checkOverflow at hevent
  split at hevent
  · simp at hevent
  · obtain rfl := List.mem_singleton.mp hevent
    simp [WellFormed]

theorem wellFormed_candidateEvent (raw : List Byte) :
    WellFormed (FrameStreamAssembler.candidateEvent raw) := by
  unfold FrameStreamAssembler.candidateEvent WellFormed
  split
  · simp
  · cases parseFrame raw <;> simp

theorem wellFormed_of_mem_feed {assembler : FrameStreamAssembler} {chunk : List Byte}
    {event : AssemblerEvent} (hevent : event ∈ (assembler.feed chunk).2) :
    WellFormed event := by
  induction chunk generalizing assembler with
  | nil => simp at hevent
  | cons byte rest ih =>
      rw [FrameStreamAssembler.feed_cons] at hevent
      rcases List.mem_append.mp hevent with hfirst | hlater
      · unfold FrameStreamAssembler.feedByte at hfirst
        split at hfirst
        · exact wellFormed_of_mem_checkOverflow hfirst
        · split at hfirst
          · exact wellFormed_of_mem_checkOverflow hfirst
          · split at hfirst
            · exact wellFormed_of_mem_checkOverflow hfirst
            · obtain rfl := List.mem_singleton.mp hfirst
              exact wellFormed_candidateEvent _
      · exact ih hlater

/-- Either a frame for the caller or a note for the bus, never both. -/
theorem delivered_or_rejected {event : AssemblerEvent} (hevent : WellFormed event) :
    (event.kind = .FRAME ∧ (deliveredFrame event).isSome ∧ rejectedNote event = none) ∨
      (event.kind ≠ .FRAME ∧ deliveredFrame event = none ∧ (rejectedNote event).isSome) := by
  unfold WellFormed at hevent
  unfold deliveredFrame rejectedNote
  cases hkind : event.kind with
  | FRAME => simp [hevent.mp hkind]
  | REJECTED => simp
  | OVERFLOW => simp
  | NOISE => simp

theorem length_delivered_add_rejected {events : List AssemblerEvent}
    (hevents : ∀ event ∈ events, WellFormed event) :
    (events.filterMap deliveredFrame).length + (events.filterMap rejectedNote).length =
      events.length := by
  induction events with
  | nil => rfl
  | cons event rest ih =>
      rw [List.forall_mem_cons] at hevents
      have hrest := ih hevents.2
      rcases delivered_or_rejected hevents.1 with ⟨-, hframe, hnote⟩ | ⟨-, hframe, hnote⟩
      · obtain ⟨frame, hframe⟩ := Option.isSome_iff_exists.mp hframe
        rw [List.filterMap_cons_some hframe, List.filterMap_cons_none hnote,
          List.length_cons, List.length_cons]
        omega
      · obtain ⟨note, hnote⟩ := Option.isSome_iff_exists.mp hnote
        rw [List.filterMap_cons_none hframe, List.filterMap_cons_some hnote,
          List.length_cons, List.length_cons]
        omega

/-! ## All calls together -/

theorem handled_isInitial (events : List AssemblerEvent) : handled events <+: events := by
  induction events with
  | nil => exact List.prefix_rfl
  | cons event rest ih =>
      unfold handled
      split
      · exact ⟨rest, rfl⟩
      · exact (List.prefix_cons_inj event).mpr ih

/-- One call handles the events up to its frame, or all that are left. -/
theorem readOneFrame_spec (loop : ReadLoop) (reads : List (List Byte)) :
    ∃ first,
      handledEvents loop.assembler reads = first ++
          handledEvents (loop.readOneFrame reads).2.1.assembler
            (loop.readOneFrame reads).2.2 ∧
        (loop.readOneFrame reads).1.toList = first.filterMap deliveredFrame ∧
        (loop.readOneFrame reads).2.1.published =
          loop.published ++ first.filterMap rejectedNote ∧
        ((loop.readOneFrame reads).1 = none → (loop.readOneFrame reads).2.2 = []) ∧
        ((loop.readOneFrame reads).1 ≠ none →
          (loop.readOneFrame reads).2.2.length < reads.length) := by
  -- on the reads: a pause and a read without a frame go on to the next one
  induction reads generalizing loop with
  | nil => exact ⟨[], by simp [readOneFrame, handledEvents]⟩
  | cons chunk reads ih =>
      by_cases hchunk : chunk = []
      · subst hchunk
        obtain ⟨first, hevents, hframe, hpublished, hnone, hsome⟩ := ih loop
        rw [readOneFrame, if_pos rfl]
        refine ⟨first, ?_, hframe, hpublished, hnone, ?_⟩
        · rw [← hevents]
          rfl
        · intro hreturned
          exact Nat.lt_succ_of_lt (hsome hreturned)
      · -- every event is a frame or a note, none is both
        have hkinds : ∀ event ∈ (loop.assembler.feed chunk).2,
            deliveredFrame event = none ∨ rejectedNote event = none := by
          intro event hevent
          rcases delivered_or_rejected (wellFormed_of_mem_feed hevent) with
            ⟨-, -, hnote⟩ | ⟨-, hframe, -⟩
          · exact .inr hnote
          · exact .inl hframe
        obtain ⟨hframes, -, hnotes⟩ := walkEvents_spec (loop.assembler.feed chunk).2
        have hnotes := hnotes hkinds
        rw [readOneFrame, if_neg hchunk]
        dsimp only
        cases hwalk : (walkEvents (loop.assembler.feed chunk).2).1 with
        | some frame =>
            rw [hwalk] at hframes
            exact ⟨handled (loop.assembler.feed chunk).2, rfl, hframes,
              by rw [hnotes], by simp, fun _ => Nat.lt_succ_self _⟩
        | none =>
            rw [hwalk] at hframes
            obtain ⟨later, hevents, hframe, hpublished, hnone, hsome⟩ := ih
              { assembler := (loop.assembler.feed chunk).1
                published := loop.published ++ (walkEvents (loop.assembler.feed chunk).2).2 }
            -- no frame in this read: its notes come before those of the later ones
            refine ⟨handled (loop.assembler.feed chunk).2 ++ later, ?_, ?_, ?_, hnone, ?_⟩
            · rw [handledEvents, List.append_assoc, ← hevents]
            · rw [hframe, List.filterMap_append, ← hframes]
              rfl
            · rw [hpublished, hnotes, List.filterMap_append, List.append_assoc]
            · intro hreturned
              exact Nat.lt_succ_of_lt (hsome hreturned)

theorem readFrames_nil (calls : Nat) (loop : ReadLoop) :
    readFrames calls loop [] = ([], loop) := by
  induction calls with
  | zero => rfl
  | succ calls ih =>
      rw [readFrames_succ, readOneFrame]
      exact ih

/-- More calls than reads return the frames among the handled events and
publish the rejects among them. -/
theorem readFrames_eq (calls : Nat) (loop : ReadLoop) (reads : List (List Byte))
    (hcalls : reads.length < calls) :
    (readFrames calls loop reads).1 =
        (handledEvents loop.assembler reads).filterMap deliveredFrame ∧
      (readFrames calls loop reads).2.published =
        loop.published ++ (handledEvents loop.assembler reads).filterMap rejectedNote := by
  induction calls generalizing loop reads with
  | zero => omega
  | succ calls ih =>
      obtain ⟨first, hevents, hframe, hpublished, hnone, hsome⟩ := readOneFrame_spec loop reads
      rw [readFrames_succ, hevents, List.filterMap_append, List.filterMap_append, hframe]
      by_cases hreturned : (loop.readOneFrame reads).1 = none
      · rw [hnone hreturned, readFrames_nil]
        simp [handledEvents, hpublished]
      · have hfewer := hsome hreturned
        obtain ⟨hlater, hnotes⟩ := ih (loop.readOneFrame reads).2.1
          (loop.readOneFrame reads).2.2 (by omega)
        rw [hlater, hnotes, hpublished, List.append_assoc]
        exact ⟨rfl, rfl⟩

/-! ## When nothing is lost -/

/-- The frames returned and the notes published are those of one feed of the
whole stream. -/
def Faithful (loop : ReadLoop) (reads : List (List Byte)) : Prop :=
  ∀ calls, reads.length < calls →
    (readFrames calls loop reads).1 =
        (loop.assembler.feed reads.flatten).2.filterMap deliveredFrame ∧
      (readFrames calls loop reads).2.published = loop.published ++
        (loop.assembler.feed reads.flatten).2.filterMap rejectedNote

/-- In every read the assembler reports nothing behind a frame. -/
def FramesEndReads : FrameStreamAssembler → List (List Byte) → Prop
  | _, [] => True
  | assembler, chunk :: reads =>
      (∀ event ∈ (assembler.feed chunk).2.dropLast, event.kind ≠ .FRAME) ∧
        FramesEndReads (assembler.feed chunk).1 reads

theorem handled_eq_self_iff {events : List AssemblerEvent}
    (hevents : ∀ event ∈ events, WellFormed event) :
    handled events = events ↔ ∀ event ∈ events.dropLast, event.kind ≠ .FRAME := by
  induction events with
  | nil => simp [handled]
  | cons event rest ih =>
      rw [List.forall_mem_cons] at hevents
      unfold handled
      cases rest with
      | nil =>
          split
          · simp
          · simp [handled]
      | cons next later =>
          rw [List.dropLast_cons_cons, List.forall_mem_cons, ← ih hevents.2]
          rcases delivered_or_rejected hevents.1 with ⟨hkind, hframe, -⟩ | ⟨hkind, hframe, -⟩
          · rw [if_pos hframe]
            simp [hkind]
          · rw [if_neg (by simp [hframe])]
            simp [hkind]

theorem handledEvents_length_le (assembler : FrameStreamAssembler)
    (reads : List (List Byte)) :
    (handledEvents assembler reads).length ≤ (assembler.feed reads.flatten).2.length := by
  induction reads generalizing assembler with
  | nil => simp [handledEvents]
  | cons chunk reads ih =>
      have hfirst := (handled_isInitial (assembler.feed chunk).2).length_le
      have hlater := ih (assembler.feed chunk).1
      rw [handledEvents, List.flatten_cons, FrameStreamAssembler.feed_append,
        List.length_append, List.length_append]
      omega

theorem handledEvents_eq_feed_iff (assembler : FrameStreamAssembler)
    (reads : List (List Byte)) :
    handledEvents assembler reads = (assembler.feed reads.flatten).2 ↔
      FramesEndReads assembler reads := by
  induction reads generalizing assembler with
  | nil => simp [handledEvents, FramesEndReads]
  | cons chunk reads ih =>
      rw [handledEvents, FramesEndReads, List.flatten_cons, FrameStreamAssembler.feed_append,
        ← ih, ← handled_eq_self_iff fun event => wellFormed_of_mem_feed]
      constructor
      · intro heq
        -- both parts are at most as long as what they stand for
        have hfirst := (handled_isInitial (assembler.feed chunk).2).length_le
        have hlater := handledEvents_length_le (assembler.feed chunk).1 reads
        have hlengths := congrArg List.length heq
        rw [List.length_append, List.length_append] at hlengths
        exact List.append_inj heq (by omega)
      · rintro ⟨hfirst, hlater⟩
        rw [hfirst, hlater]

theorem handledEvents_sublist (assembler : FrameStreamAssembler) (reads : List (List Byte)) :
    (handledEvents assembler reads).Sublist (assembler.feed reads.flatten).2 := by
  induction reads generalizing assembler with
  | nil => exact List.nil_sublist _
  | cons chunk reads ih =>
      rw [handledEvents, List.flatten_cons, FrameStreamAssembler.feed_append]
      exact (handled_isInitial (assembler.feed chunk).2).sublist.append (ih _)

/-- Nothing is lost exactly when every frame is the last event of its read. -/
theorem faithful_iff (loop : ReadLoop) (reads : List (List Byte)) :
    loop.Faithful reads ↔ FramesEndReads loop.assembler reads := by
  have hsublist := handledEvents_sublist loop.assembler reads
  have hfed : ∀ event ∈ (loop.assembler.feed reads.flatten).2, WellFormed event :=
    fun event => wellFormed_of_mem_feed
  rw [← handledEvents_eq_feed_iff]
  constructor
  · intro hfaithful
    obtain ⟨hframes, hnotes⟩ := hfaithful (reads.length + 1) (Nat.lt_succ_self _)
    obtain ⟨hhandled, hpublished⟩ := readFrames_eq _ loop reads (Nat.lt_succ_self _)
    rw [hhandled] at hframes
    rw [hpublished] at hnotes
    have hall := length_delivered_add_rejected hfed
    have hpart := length_delivered_add_rejected fun event hevent =>
      hfed event (hsublist.subset hevent)
    rw [hframes, List.append_cancel_left hnotes, hall] at hpart
    exact hsublist.eq_of_length hpart.symm
  · intro heq calls hcalls
    obtain ⟨hhandled, hpublished⟩ := readFrames_eq calls loop reads hcalls
    rw [hhandled, hpublished, heq]
    exact ⟨rfl, rfl⟩

/-- Two EOT frames in one read: the second one is lost. -/
theorem not_faithful_two_frames :
    ¬ ∀ reads : List (List Byte), create.Faithful reads := by
  intro hall
  have hframes := (hall [[0x01, 0x70, 0xFA, 0x02, 0x70, 0xFA]] 2 (by decide)).1
  have hreturned : (readFrames 2 create [[0x01, 0x70, 0xFA, 0x02, 0x70, 0xFA]]).1.length = 1 := by
    decide +kernel
  have hfed : ((create.assembler.feed
      [[0x01, 0x70, 0xFA, 0x02, 0x70, 0xFA]].flatten).2.filterMap deliveredFrame).length = 2 := by
    decide +kernel
  rw [hframes, hfed] at hreturned
  exact absurd hreturned (by decide)

end ReadLoop

end Controller
end Intelipump
