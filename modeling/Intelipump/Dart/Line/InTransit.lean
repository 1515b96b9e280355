import Mathlib.Tactic.Common
import Intelipump.Dart.Line.StreamInvariants

namespace Intelipump
namespace Dart
namespace Line

/-!
# Frames between a writer and an assembler

Built frames are written one behind the other, and the bytes arrive in pieces.  At every
moment the assembler has some bytes of the frame in front, and the rest is under way
(`Partway`).  What a piece makes it report are the frames it completes (`Emits`), except
that a frame may be reported in parts that are no frames, and is then lost.  The next
frame is not affected by it, because a built frame ends with an unescaped SF.
-/

/-- The only frame that a new assembler finds in the bytes is their own. -/
def PassesClean (wire : List Byte) : Prop :=
  ∀ event ∈ (FrameStreamAssembler.default.feed wire).2, event.kind = .FRAME →
    event = FrameStreamAssembler.candidateEvent wire

instance : DecidablePred PassesClean := fun _ =>
  inferInstanceAs (Decidable (∀ event ∈ _, _))

/-- A frame whose escapes end where its bytes do comes through. -/
theorem passesClean_of_aligned {frame : OutgoingFrame} {wire : List Byte}
    (hbuilt : frame.build = .ok wire)
    (haligned : Foundation.FlagStuffing.Aligned DLE SF false frame.buffer) :
    PassesClean wire := by
  unfold PassesClean
  rw [feed_aligned_frame hbuilt haligned]
  exact fun event hevent _ => List.mem_singleton.mp hevent

namespace FrameStreamAssembler

/-- A frame comes from its own bytes, three at least. -/
theorem frame_of_feedByte {assembler : FrameStreamAssembler} {byte : Byte}
    {event : AssemblerEvent} (hevent : event ∈ (assembler.feedByte byte).2)
    (hkind : event.kind = .FRAME) :
    event = candidateEvent event.raw ∧ 3 ≤ event.raw.length := by
  have hcheck : ∀ current : FrameStreamAssembler, event ∉ current.checkOverflow.2 := by
    intro current hmem
    unfold checkOverflow at hmem
    split at hmem
    · exact List.not_mem_nil hmem
    · rw [List.mem_singleton.mp hmem] at hkind
      cases hkind
  unfold feedByte at hevent
  split at hevent
  · exact absurd hevent (hcheck _)
  · split at hevent
    · exact absurd hevent (hcheck _)
    · split at hevent
      · exact absurd hevent (hcheck _)
      · obtain rfl := List.mem_singleton.mp hevent
        rw [raw_candidateEvent]
        refine ⟨rfl, Nat.le_of_not_lt fun hshort => ?_⟩
        unfold candidateEvent at hkind
        rw [if_pos hshort] at hkind
        cases hkind

theorem frame_of_feed {wire : List Byte} {assembler : FrameStreamAssembler}
    {event : AssemblerEvent} (hevent : event ∈ (assembler.feed wire).2)
    (hkind : event.kind = .FRAME) :
    event = candidateEvent event.raw ∧ 3 ≤ event.raw.length := by
  induction wire generalizing assembler with
  | nil => exact absurd hevent List.not_mem_nil
  | cons byte rest ih =>
      rw [feed_cons] at hevent
      rcases List.mem_append.mp hevent with hnow | hlater
      · exact frame_of_feedByte hnow hkind
      · exact ih hlater

/-- A new assembler reports no more bytes than it got. -/
theorem raw_sublist_of_feed {wire : List Byte} {event : AssemblerEvent}
    (hevent : event ∈ (default.feed wire).2) : event.raw.Sublist wire := by
  have hconserved : (default.feed wire).2.flatMap AssemblerEvent.raw ++
      (default.feed wire).1.buf = wire := feed_conserves default wire
  have hreported : event.raw.Sublist ((default.feed wire).2.flatMap AssemblerEvent.raw) :=
    List.sublist_flatten_of_mem (List.mem_map_of_mem hevent)
  have hwire := hreported.trans (List.sublist_append_left _ (default.feed wire).1.buf)
  rw [hconserved] at hwire
  exact hwire

end FrameStreamAssembler

/-- A control frame has no part that could be a frame. -/
theorem passesClean_of_control {wire : List Byte} (hlength : wire.length ≤ 3) :
    PassesClean wire := by
  intro event hevent hkind
  obtain ⟨hcandidate, hraw⟩ := FrameStreamAssembler.frame_of_feed hevent hkind
  have hwhole : event.raw = wire :=
    (FrameStreamAssembler.raw_sublist_of_feed hevent).eq_of_length_le (by omega)
  rw [← hwhole]
  exact hcandidate

/-- A built frame that passes clean. -/
structure Sound (wire : List Byte) : Prop where
  built : ∃ frame : OutgoingFrame, frame.build = .ok wire
  clean : PassesClean wire

theorem Sound.ne_nil {wire : List Byte} (hsound : Sound wire) : wire ≠ [] := by
  obtain ⟨frame, hbuilt⟩ := hsound.built
  rw [(OutgoingFrame.of_build hbuilt).1]
  exact List.append_ne_nil_of_right_ne_nil _ (List.cons_ne_nil _ _)

/-- The event of a sound frame. -/
theorem Sound.candidateEvent {wire : List Byte} (hsound : Sound wire) :
    ∃ frame, parseFrame wire = .ok frame ∧
      (FrameStreamAssembler.candidateEvent wire).kind = .FRAME ∧
      (FrameStreamAssembler.candidateEvent wire).frame = some frame ∧
      (FrameStreamAssembler.candidateEvent wire).raw = wire := by
  obtain ⟨sent, hbuilt⟩ := hsound.built
  obtain ⟨-, hparsed, -⟩ := OutgoingFrame.of_build hbuilt
  have hlength : ¬ wire.length < 3 := by
    intro hshort
    rw [parseFrame, if_pos hshort] at hparsed
    cases hparsed
  refine ⟨sent.parsed, hparsed, ?_, ?_, FrameStreamAssembler.raw_candidateEvent wire⟩
  · exact (delivers_candidateEvent hbuilt).1
  · unfold FrameStreamAssembler.candidateEvent
    rw [if_neg hlength, hparsed]

/-- A part of a sound frame is no frame. -/
theorem Sound.quiet {wire done left : List Byte} (hsound : Sound wire)
    (hwire : wire = done ++ left) (hleft : left ≠ []) :
    ∀ event ∈ (FrameStreamAssembler.default.feed done).2, event.kind ≠ .FRAME := by
  intro event hevent hkind
  have hclean : event = FrameStreamAssembler.candidateEvent wire := by
    refine hsound.clean event ?_ hkind
    rw [hwire, FrameStreamAssembler.feed_append]
    exact List.mem_append_left _ hevent
  -- the event would have more bytes than were fed
  have hraw := (FrameStreamAssembler.raw_sublist_of_feed hevent).length_le
  have hnew := List.length_pos_iff.mpr hleft
  rw [hclean, FrameStreamAssembler.raw_candidateEvent, hwire, List.length_append] at hraw
  omega

section

variable {α : Type} (wireOf : α → List Byte)

/-- The assembler has a first part of what was written, and the second is under way. -/
inductive Partway : FrameStreamAssembler → List α → List Byte → Prop
  | between (sent : List α) : Partway .default sent (sent.flatMap wireOf)
  | within (done left : List Byte) (first : α) (sent : List α)
      (hfirst : wireOf first = done ++ left) (hleft : left ≠ []) :
      Partway (FrameStreamAssembler.default.feed done).1 (first :: sent)
        (left ++ sent.flatMap wireOf)

/-- The frames in front come out in order, or are lost. -/
inductive Emits : List α → List AssemblerEvent → List α → Prop
  | none (sent : List α) : Emits sent [] sent
  | frame {first : α} {sent rest : List α} {events : List AssemblerEvent}
      (hrest : Emits sent events rest) :
      Emits (first :: sent)
        (FrameStreamAssembler.candidateEvent (wireOf first) :: events) rest
  | lost {first : α} {sent rest : List α} {events : List AssemblerEvent}
      (hrest : Emits sent events rest) : Emits (first :: sent) events rest
  | noise {event : AssemblerEvent} {sent rest : List α} {events : List AssemblerEvent}
      (hevent : event.kind ≠ .FRAME) (hrest : Emits sent events rest) :
      Emits sent (event :: events) rest

variable {wireOf}

theorem Emits.trans {sent middle rest : List α} {events later : List AssemblerEvent}
    (hfirst : Emits wireOf sent events middle) (hsecond : Emits wireOf middle later rest) :
    Emits wireOf sent (events ++ later) rest := by
  induction hfirst with
  | none sent => exact hsecond
  | frame _ ih => exact .frame (ih hsecond)
  | lost _ ih => exact .lost (ih hsecond)
  | noise hevent _ ih => exact .noise hevent (ih hsecond)

theorem Emits.sublist {sent rest : List α} {events : List AssemblerEvent}
    (hemits : Emits wireOf sent events rest) : rest.Sublist sent := by
  induction hemits with
  | none sent => exact List.Sublist.refl sent
  | frame _ ih => exact ih.cons _
  | lost _ ih => exact ih.cons _
  | noise _ _ ih => exact ih

theorem emits_noise {sent : List α} {events : List AssemblerEvent}
    (hevents : ∀ event ∈ events, event.kind ≠ .FRAME) : Emits wireOf sent events sent := by
  induction events with
  | nil => exact .none sent
  | cons event events ih =>
      rw [List.forall_mem_cons] at hevents
      exact .noise hevents.1 (ih hevents.2)

/-- What is written goes behind what is under way. -/
theorem Partway.write {assembler : FrameStreamAssembler} {sent : List α} {bytes : List Byte}
    (hpartway : Partway wireOf assembler sent bytes) (more : List α) :
    Partway wireOf assembler (sent ++ more) (bytes ++ more.flatMap wireOf) := by
  cases hpartway with
  | between =>
      rw [← List.flatMap_append]
      exact .between (sent ++ more)
  | within done left first rest hfirst hleft =>
      rw [List.append_assoc, ← List.flatMap_append, List.cons_append]
      exact .within done left first (rest ++ more) hfirst hleft

namespace FrameStreamAssembler

/-- A byte makes the assembler report one thing at most. -/
theorem length_feedByte_le (assembler : FrameStreamAssembler) (byte : Byte) :
    (assembler.feedByte byte).2.length ≤ 1 := by
  have hcheck : ∀ current : FrameStreamAssembler, current.checkOverflow.2.length ≤ 1 := by
    intro current
    unfold checkOverflow
    split
    · exact Nat.zero_le 1
    · exact Nat.le_refl 1
  unfold feedByte
  split
  · exact hcheck _
  · split
    · exact hcheck _
    · split
      · exact hcheck _
      · exact Nat.le_refl 1

end FrameStreamAssembler

/-- One more byte of a sound frame: it is not complete, or it is reported or lost. -/
theorem partway_feedByte {done left : List Byte} {byte : Byte} {first : α} (sent : List α)
    (hfirst : wireOf first = done ++ byte :: left) (hsound : Sound (wireOf first)) :
    ∃ rest,
      Emits wireOf (first :: sent)
          ((FrameStreamAssembler.default.feed done).1.feedByte byte).2 rest ∧
        Partway wireOf ((FrameStreamAssembler.default.feed done).1.feedByte byte).1 rest
          (left ++ sent.flatMap wireOf) := by
  have hfeed : FrameStreamAssembler.default.feed (done ++ [byte]) =
      (((FrameStreamAssembler.default.feed done).1.feedByte byte).1,
        (FrameStreamAssembler.default.feed done).2 ++
          ((FrameStreamAssembler.default.feed done).1.feedByte byte).2) := by
    rw [FrameStreamAssembler.feed_append, FrameStreamAssembler.feed_cons,
      FrameStreamAssembler.feed_nil, List.append_nil]
  have hstate := congrArg Prod.fst hfeed
  have hevents := congrArg Prod.snd hfeed
  have hlength := FrameStreamAssembler.length_feedByte_le
    (FrameStreamAssembler.default.feed done).1 byte
  dsimp only at hstate hevents
  rw [← hstate]
  generalize ((FrameStreamAssembler.default.feed done).1.feedByte byte).2 = new at *
  have hwhole : wireOf first = (done ++ [byte]) ++ left := by
    rw [hfirst, List.append_assoc]
    rfl
  by_cases hleft : left = []
  · -- the last byte: a built frame leaves the assembler as new
    subst hleft
    rw [List.append_nil] at hwhole
    obtain ⟨frame, hbuilt⟩ := hsound.built
    refine ⟨sent, ?_, ?_⟩
    · cases new with
      | nil => exact .lost (.none sent)
      | cons event later =>
          obtain rfl : later = [] := by
            rw [List.length_cons] at hlength
            exact List.eq_nil_of_length_eq_zero (by omega)
          by_cases hkind : event.kind = .FRAME
          · have hclean : event = FrameStreamAssembler.candidateEvent (wireOf first) := by
              refine hsound.clean event ?_ hkind
              rw [hwhole, hevents]
              exact List.mem_append_right _ (List.mem_singleton_self event)
            rw [hclean]
            exact .frame (.none sent)
          · exact .lost (.noise hkind (.none sent))
    · rw [← hwhole, FrameStreamAssembler.feed_built hbuilt]
      exact .between sent
  · refine ⟨first :: sent, emits_noise fun event hevent => ?_,
      .within _ _ first sent hwhole hleft⟩
    refine hsound.quiet hwhole hleft event ?_
    rw [hevents]
    exact List.mem_append_right _ hevent

/-- A piece of the bytes under way makes the assembler report the frames that it completes,
or lose them. -/
theorem Partway.feed {assembler : FrameStreamAssembler} {sent : List α}
    {chunk later : List Byte} (hpartway : Partway wireOf assembler sent (chunk ++ later))
    (hsound : ∀ frame ∈ sent, Sound (wireOf frame)) :
    ∃ rest, Emits wireOf sent (assembler.feed chunk).2 rest ∧
      Partway wireOf (assembler.feed chunk).1 rest later := by
  induction chunk generalizing assembler sent with
  | nil => exact ⟨sent, .none sent, hpartway⟩
  | cons byte chunk ih =>
      rw [List.cons_append] at hpartway
      -- the byte belongs to the frame in front
      obtain ⟨done, left, first, behind, hassembler, hsent, hfirst, hbytes⟩ :
          ∃ done left first behind, assembler = (FrameStreamAssembler.default.feed done).1 ∧
            sent = first :: behind ∧ wireOf first = done ++ byte :: left ∧
            chunk ++ later = left ++ behind.flatMap wireOf := by
        generalize hall : byte :: (chunk ++ later) = bytes at hpartway
        cases hpartway with
        | between =>
            cases sent with
            | nil => cases hall
            | cons first behind =>
                have hnew := (hsound first List.mem_cons_self).ne_nil
                obtain ⟨head, left, hhead⟩ := List.exists_cons_of_ne_nil hnew
                rw [List.flatMap_cons, hhead, List.cons_append] at hall
                obtain ⟨rfl, hbytes⟩ := List.cons.inj hall
                exact ⟨[], left, first, behind, rfl, rfl, hhead, hbytes⟩
        | within done left first behind hfirst hleft =>
            obtain ⟨head, left, rfl⟩ := List.exists_cons_of_ne_nil hleft
            rw [List.cons_append] at hall
            obtain ⟨rfl, hbytes⟩ := List.cons.inj hall
            exact ⟨done, left, first, behind, rfl, rfl, hfirst, hbytes⟩
      subst hassembler hsent
      obtain ⟨middle, hemits, hmiddle⟩ :=
        partway_feedByte behind hfirst (hsound first List.mem_cons_self)
      rw [← hbytes] at hmiddle
      obtain ⟨rest, hlater, hrest⟩ := ih hmiddle fun frame hframe =>
        hsound frame (hemits.sublist.subset hframe)
      exact ⟨rest, hemits.trans hlater, hrest⟩

end

end Line
end Dart
end Intelipump
