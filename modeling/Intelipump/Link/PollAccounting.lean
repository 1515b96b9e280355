import Mathlib.Tactic.Common
import Intelipump.Link.ControllerLoop

namespace Intelipump
namespace Link

open Dart.Line
open Controller
open Foundation.StateEffect
open Foundation.Tables
open Simulator

/-!
# What becomes of the polls

The counters of a session against the polls that were built.  A poll ends in one counter,
unless the transport raises in its write or its read, or the frame that was read is one
the session has no counter for: a frame of another address at the first read, or one that
is neither EOT, NAK nor DATA.  A timeout or a NAK after an outbound item is counted in the
same places without a poll.

The loop's totals are refreshed by the polls that return only.
-/

/-- The counters in which a poll may end. -/
def outcomes (stats : PumpSessionStats) : Nat :=
  stats.timeoutCount + stats.eotCount + stats.dataCount + stats.crcErrorCount +
    stats.nakCount + stats.duplicateCount + stats.sequenceErrorCount

/-- The notes of the polls that went out. -/
def pollNotes : List String := ["POLL", "POLL_RETRY"]

/-- A frame that a counter of the session is for. -/
def Counted (frame : DartLineFrame) : Prop :=
  frame.controlType = .EOT ∨ frame.controlType = .DATA ∨ frame.controlType = .NAK

instance : DecidablePred Counted := fun _ => inferInstanceAs (Decidable (_ ∨ _ ∨ _))

/-- The poll whose write or drain raises. -/
def unsentPoll : Exchange → Nat
  | .unsent _ => 1
  | .unread _ => 0
  | .heard _ => 0

/-- The poll whose read raises. -/
def unreadPoll : Exchange → Nat
  | .unsent _ => 0
  | .unread _ => 1
  | .heard _ => 0

/-- The poll whose answer has no counter. -/
def unusedAnswer (address : Byte) : Exchange → Nat
  | .unsent _ => 0
  | .unread _ => 0
  | .heard none => 0
  | .heard (some frame) => if frame.address = address ∧ Counted frame then 0 else 1

/-- The response to an outbound item is a timeout or a NAK. -/
def failedResponse : Exchange → Nat
  | .unsent _ => 0
  | .unread _ => 0
  | .heard none => 1
  | .heard (some frame) => if frame.controlType = .NAK then 1 else 0

namespace PollTurn

/-- The polls of a turn that end in one of these ways; only the last one does. -/
def lost (ways : Exchange → Nat) (config : PollSchedulerConfig) (address : Byte)
    (turn : PollTurn) : Nat :=
  if turn.Sends then ways (turn.ending config address) else 0

def unsent (config : PollSchedulerConfig) (address : Byte) (turn : PollTurn) : Nat :=
  turn.lost unsentPoll config address

def unread (config : PollSchedulerConfig) (address : Byte) (turn : PollTurn) : Nat :=
  turn.lost unreadPoll config address

def unused (config : PollSchedulerConfig) (address : Byte) (turn : PollTurn) : Nat :=
  turn.lost (unusedAnswer address) config address

/-- The outbound exchange of a turn that ended in a timeout or a NAK. -/
def failed (turn : PollTurn) : Nat :=
  if turn.Sends then (turn.sent.map fun sent => failedResponse sent.2).getD 0 else 0

end PollTurn

/-- The polls of the retries: one for each exchange up to the last one. -/
def builtRetries (address : Byte) : List Exchange → Nat
  | [] => 0
  | .unsent _ :: _ => 1
  | .unread _ :: _ => 1
  | .heard heard :: later =>
      if (heard.filter (·.address = address)).isSome then 1 else 1 + builtRetries address later

/-- The polls of a turn. -/
def PollTurn.built (config : PollSchedulerConfig) (address : Byte) (turn : PollTurn) : Nat :=
  if turn.Sends then
    if turn.first = .heard none then
      1 + builtRetries address (turn.retries.take config.maxRetries)
    else 1
  else 0

/-- How far a session is moved: so many polls built, so many of them not sent, and so many
outcomes; the ACKs stay level with the blocks. -/
structure Moves (before after : PolledSession) (built unsent ended : Nat) : Prop where
  polls : after.session.state.stats.pollCount = before.session.state.stats.pollCount + built
  sent : framesSent after.session pollNotes + unsent =
    framesSent before.session pollNotes + built
  outcomes : outcomes after.session.state.stats =
    outcomes before.session.state.stats + ended
  acks : after.session.state.stats.ackSentCount + before.session.state.stats.dataCount +
      before.session.state.stats.duplicateCount =
    before.session.state.stats.ackSentCount + after.session.state.stats.dataCount +
      after.session.state.stats.duplicateCount

theorem Moves.of_same {before after : PolledSession}
    (hstats : after.session.state.stats = before.session.state.stats)
    (hsent : framesSent after.session pollNotes = framesSent before.session pollNotes) :
    Moves before after 0 0 0 := by
  constructor
  · rw [hstats]
    rfl
  · exact congrArg (· + 0) hsent
  · rw [hstats]
    rfl
  · rw [hstats]

theorem Moves.of_eq {before after : PolledSession} {built unsent ended built' unsent' ended' : Nat}
    (hmoves : Moves before after built unsent ended) (hbuilt : built = built')
    (hunsent : unsent = unsent') (hended : ended = ended') :
    Moves before after built' unsent' ended' :=
  hbuilt ▸ hunsent ▸ hended ▸ hmoves

theorem Moves.trans {first second third : PolledSession}
    {built unsent ended built' unsent' ended' : Nat}
    (hfirst : Moves first second built unsent ended)
    (hsecond : Moves second third built' unsent' ended') :
    Moves first third (built + built') (unsent + unsent') (ended + ended') := by
  obtain ⟨hpolls, hsent, houtcomes, hacks⟩ := hfirst
  obtain ⟨hpolls', hsent', houtcomes', hacks'⟩ := hsecond
  constructor <;> omega

/-- The counters after the end of a poll: so many more outcomes, and an ACK for each block
that was taken or repeated. -/
structure Ended (before after : PumpSessionStats) (ended : Nat) : Prop where
  pollCount : after.pollCount = before.pollCount
  outcomes : outcomes after = Link.outcomes before + ended
  acks : after.ackSentCount + before.dataCount + before.duplicateCount =
    before.ackSentCount + after.dataCount + after.duplicateCount

theorem Ended.moves {before after : PolledSession} {ended : Nat}
    (hended : Ended before.session.state.stats after.session.state.stats ended)
    (hsent : framesSent after.session pollNotes = framesSent before.session pollNotes) :
    Moves before after 0 0 ended :=
  ⟨hended.pollCount, congrArg (· + 0) hsent, hended.outcomes, hended.acks⟩

section

theorem ended_onEot (session : PumpSession) :
    Ended session.state.stats session.onEot.1.state.stats 1 := by
  obtain ⟨last, hstate⟩ := PumpSession.state_markResponsive { session with
    state := { session.state with
      consecutiveTimeouts := 0
      lastValidFrame := session.state.lastRawFrame
      stats := { session.state.stats with
        eotCount := session.state.stats.eotCount + 1 } } }
  have hstats : session.onEot.1.state.stats = { session.state.stats with
      eotCount := session.state.stats.eotCount + 1 } := by
    change (PumpSession.markResponsive _).state.stats = _
    rw [hstate]
  rw [hstats]
  refine ⟨rfl, ?_, rfl⟩
  unfold outcomes
  dsimp only
  omega

theorem ended_acceptData (session : PumpSession) (frame : DartLineFrame) :
    Ended session.state.stats (session.acceptData frame).1.state.stats 1 := by
  let counted : PumpSession := { session with
    state := { session.state with
      consecutiveTimeouts := 0
      lastValidFrame := some frame.rawFrame
      stats := { session.state.stats with
        dataCount := session.state.stats.dataCount + 1 } } }
  obtain ⟨last, happlied⟩ := counted.markResponsive.state_decodeAndApply frame
  obtain ⟨responsive, hmarked⟩ := counted.state_markResponsive
  have hdecoded : (counted.markResponsive.decodeAndApply frame).state.stats =
      { session.state.stats with dataCount := session.state.stats.dataCount + 1 } := by
    rw [happlied]
    change counted.markResponsive.state.stats = _
    rw [hmarked]
  have hstats : (session.acceptData frame).1.state.stats = { session.state.stats with
      dataCount := session.state.stats.dataCount + 1
      ackSentCount := session.state.stats.ackSentCount + 1 } := by
    change { (counted.markResponsive.decodeAndApply frame).state.stats with
      ackSentCount := (counted.markResponsive.decodeAndApply frame).state.stats.ackSentCount + 1 } =
        _
    rw [hdecoded]
  rw [hstats]
  constructor
  · rfl
  · unfold outcomes
    dsimp only
    omega
  · dsimp only
    omega

theorem ended_onData (session : PumpSession) (frame : DartLineFrame) :
    Ended session.state.stats (session.onData frame).1.state.stats 1 := by
  unfold PumpSession.onData
  split
  -- a wrong CRC, a repeated block, a wrong TX# and a new block, in this order
  · have hstats : session.rejectCrc.state.stats = { session.state.stats with
        crcErrorCount := session.state.stats.crcErrorCount + 1 } := rfl
    dsimp only
    rw [hstats]
    refine ⟨rfl, ?_, rfl⟩
    unfold outcomes
    dsimp only
    omega
  · split
    · have hstats : (session.repeatAck frame).1.state.stats = { session.state.stats with
          duplicateCount := session.state.stats.duplicateCount + 1
          ackSentCount := session.state.stats.ackSentCount + 1 } := rfl
      rw [hstats]
      constructor
      · rfl
      · unfold outcomes
        dsimp only
        omega
      · dsimp only
        omega
    · split
      · have hstats : (session.rejectSequence frame).state.stats = { session.state.stats with
            sequenceErrorCount := session.state.stats.sequenceErrorCount + 1 } := rfl
        dsimp only
        rw [hstats]
        refine ⟨rfl, ?_, rfl⟩
        unfold outcomes
        dsimp only
        omega
      · exact ended_acceptData session frame

/-- What a frame of its own address adds to the counters of a session. -/
theorem ended_handleResponseFrame {session : PumpSession} {frame : DartLineFrame}
    (haddress : frame.address = session.address) :
    Ended session.state.stats (session.handleResponseFrame frame).1.state.stats
      (if Counted frame then 1 else 0) := by
  unfold PumpSession.handleResponseFrame
  dsimp only
  rw [if_neg (show ¬ frame.address ≠ (session.noteFrame frame).address
    from not_not.mpr haddress)]
  split
  · rename_i hcontrol
    rw [if_pos (show Counted frame from Or.inl hcontrol)]
    exact ended_onEot (session.noteFrame frame)
  · rename_i hcontrol
    rw [if_pos (show Counted frame from Or.inr (Or.inl hcontrol))]
    exact ended_onData (session.noteFrame frame) frame
  · rename_i hcontrol
    rw [if_pos (show Counted frame from Or.inr (Or.inr hcontrol))]
    have hstats : ((session.noteFrame frame).onNak frame).1.state.stats =
        { session.state.stats with
          nakCount := session.state.stats.nakCount + 1
          retryCount := session.state.stats.retryCount + 1 } := rfl
    rw [hstats]
    refine ⟨rfl, ?_, rfl⟩
    unfold outcomes
    dsimp only
    omega
  · rename_i heot hdata hnak
    rw [if_neg (show ¬ Counted frame from not_or.mpr ⟨heot, not_or.mpr ⟨hdata, hnak⟩⟩)]
    exact ⟨rfl, rfl, rfl⟩

end

/-! ## One turn -/

section

variable (config : PollSchedulerConfig) (polled : PolledSession)

/-- A frame that is no poll leaves the account. -/
theorem moves_writeFrame (note : String) (hnote : note ∉ pollNotes) (data : List Byte)
    (writeError : Option Raised) :
    Moves polled (finalState (writeFrame data note writeError) polled) 0 0 0 := by
  cases writeError with
  | some error => exact Moves.of_same rfl rfl
  | none =>
      refine Moves.of_same rfl ?_
      change framesSent (polled.session.publish _) pollNotes = _
      unfold framesSent PumpSession.publish
      dsimp only
      rw [List.countP_append, List.countP_singleton, decide_eq_false hnote, Bool.and_false]
      exact Nat.add_zero _

/-- A poll is counted, and goes out when the transport does not raise. -/
theorem moves_writePoll {note : String} (hnote : note ∈ pollNotes)
    (writeError : Option Raised) :
    Moves polled (finalState (writePoll note writeError) polled) 1
      (if writeError.isSome then 1 else 0) 0 := by
  -- counting publishes a note of its own, which is no FRAME_SENT
  have hquiet : framesSent polled.session.buildPoll.1 pollNotes =
      framesSent polled.session pollNotes :=
    framesSent_publish _ pollNotes (by simp)
  rw [finalState_congr (writePoll_eq polled note writeError)]
  cases writeError with
  | some error => exact ⟨rfl, congrArg (· + 1) hquiet, rfl, rfl⟩
  | none =>
      refine ⟨rfl, ?_, rfl, rfl⟩
      change framesSent (polled.session.buildPoll.1.publish _) pollNotes + 0 = _
      rw [← hquiet]
      unfold framesSent PumpSession.publish
      dsimp only
      rw [List.countP_append, List.countP_singleton, decide_eq_true hnote]
      rfl

theorem moves_exchangePoll (note : String) (hnote : note ∈ pollNotes) (exchange : Exchange) :
    Moves polled (finalState (exchangePoll note exchange) polled) 1 (unsentPoll exchange) 0 := by
  have hpoll := moves_writePoll polled hnote exchange.writeError
  unfold exchangePoll
  rw [finalState_bind]
  cases exchange with
  | unsent error =>
      cases hreturned : returned (writePoll note (Exchange.unsent error).writeError) polled <;>
        exact hpoll
  | unread error =>
      cases hreturned : returned (writePoll note (Exchange.unread error).writeError) polled <;>
        exact hpoll
  | heard heard =>
      cases hreturned : returned (writePoll note (Exchange.heard heard).writeError) polled <;>
        exact hpoll

theorem moves_handleAnswer (ackError : Option Raised) {frame : DartLineFrame}
    (haddress : frame.address = polled.session.address) :
    Moves polled (finalState (handleAnswer ackError frame) polled) 0 0
      (if Counted frame then 1 else 0) := by
  let answered : PolledSession := {
    session := (polled.session.handleResponseFrame frame).1
    polls := polled.polls ++ [⟨some frame, false⟩] }
  have hmoves : Moves polled answered 0 0 (if Counted frame then 1 else 0) :=
    (ended_handleResponseFrame haddress).moves
      ((keptBySession_framesSent pollNotes _).handleResponseFrame frame rfl)
  unfold handleAnswer
  rw [finalState_get_bind,
    finalState_congr (bind_ok (show (set answered : PollM PUnit) polled = .ok ⟨⟩ answered from rfl)
      _)]
  -- the ACK is no poll, whether it goes out or not
  cases (polled.session.handleResponseFrame frame).2 with
  | none => exact hmoves
  | some ack => exact hmoves.trans (moves_writeFrame answered "ACK" (by decide) ack ackError)

theorem stats_onTimeout (session : PumpSession) (maxConsecutive : Nat) :
    (session.onTimeout maxConsecutive).state.stats = { session.state.stats with
      timeoutCount := session.state.stats.timeoutCount + 1 } := by
  unfold PumpSession.onTimeout
  dsimp only
  split
  · obtain ⟨last, hstate⟩ := PumpSession.state_applySm (PumpSession.setCommunication _
      .DISCONNECTED) .COMMUNICATION_LOST
    rw [hstate, PumpSession.state_setCommunication]
    rfl
  · split
    · rw [PumpSession.state_setCommunication]
      rfl
    · rfl

theorem moves_timeOut (heard : Option DartLineFrame) :
    Moves polled (finalState (timeOut config heard) polled) 0 0 1 := by
  have hstats := stats_onTimeout polled.session config.maxConsecutiveTimeouts
  have hended : Ended polled.session.state.stats
      (polled.session.onTimeout config.maxConsecutiveTimeouts).state.stats 1 := by
    rw [hstats]
    refine ⟨rfl, ?_, rfl⟩
    unfold outcomes
    dsimp only
    omega
  exact hended.moves ((keptBySession_framesSent pollNotes _).onTimeout _ rfl)

/-- What the polls that end in no counter come to. -/
def lostPolls (address : Byte) (exchange : Exchange) : Nat :=
  unsentPoll exchange + unreadPoll exchange + unusedAnswer address exchange

/-- A poll that raises is lost. -/
theorem lostPolls_raises {exchange : Exchange} (hraises : ¬ exchange.Returned)
    (address : Byte) : lostPolls address exchange = 1 := by
  cases exchange with
  | unsent error => rfl
  | unread error => rfl
  | heard frame => exact absurd trivial hraises

/-- A poll that its own pump answers is lost when no counter is for the answer. -/
theorem lostPolls_own {address : Byte} {frame : DartLineFrame} (hown : frame.address = address) :
    (if Counted frame then 1 else 0) + lostPolls address (.heard (some frame)) = 1 := by
  have hlost : lostPolls address (.heard (some frame)) = if Counted frame then 0 else 1 := by
    change 0 + 0 + (if frame.address = address ∧ Counted frame then 0 else 1) = _
    simp only [hown, true_and, Nat.zero_add]
  rw [hlost]
  split <;> rfl

/-- The first poll is lost when a frame of another address comes back. -/
theorem lostPolls_foreign {address : Byte} {frame : DartLineFrame}
    (hforeign : ¬ frame.address = address) : lostPolls address (.heard (some frame)) = 1 := by
  change 0 + 0 + (if frame.address = address ∧ Counted frame then 0 else 1) = 1
  simp only [hforeign, false_and, if_false]

theorem moves_retryPolls (ackError : Option Raised) (reads : List Exchange) :
    ∃ ended, Moves polled (finalState (retryPolls config ackError reads) polled)
        (builtRetries polled.session.address reads)
        (unsentPoll (lastExchange polled.session.address reads)) ended ∧
      ended + lostPolls polled.session.address (lastExchange polled.session.address reads) =
        builtRetries polled.session.address reads := by
  induction reads generalizing polled with
  | nil => exact ⟨0, Moves.of_same rfl rfl, rfl⟩
  | cons exchange later ih =>
      have hpoll := moves_exchangePoll polled "POLL_RETRY" (by decide) exchange
      unfold retryPolls
      rcases exchange.heard_or_raises with ⟨heard, rfl⟩ | hraises
      · obtain ⟨written, hread, hview⟩ := exchangePoll_heard polled "POLL_RETRY" heard
        have haddress : written.session.address = polled.session.address :=
          congrArg (·.line.address) hview
        rw [finalState_of_ok hread] at hpoll
        rw [finalState_congr (bind_ok hread _), finalState_get_bind, haddress]
        unfold builtRetries lastExchange
        cases hheard : heard.filter (·.address = polled.session.address) with
        | some frame =>
            -- answered: the last poll, in a counter if there is one for the answer
            obtain ⟨rfl, hown⟩ := Option.filter_eq_some_iff.mp hheard
            have hanswer := moves_handleAnswer written ackError
              ((of_decide_eq_true hown).trans haddress.symm)
            simp only [Option.isSome_some, if_true]
            exact ⟨_, (hpoll.trans hanswer).of_eq rfl rfl (Nat.zero_add _),
              lostPolls_own (of_decide_eq_true hown)⟩
        | none =>
            -- not answered: a timeout, and the rest by the induction
            obtain ⟨lost, hlost, hcounted⟩ := view_timeOut config written heard
            have htimeout := moves_timeOut config written heard
            rw [finalState_of_ok hlost] at htimeout
            have hkept : lost.session.address = polled.session.address :=
              (congrArg (·.line.address) hcounted).trans haddress
            obtain ⟨ended, hrest, hsum⟩ := ih lost
            rw [hkept] at hrest hsum
            simp only [Option.isSome_none, Bool.false_eq_true, if_false]
            rw [finalState_congr (bind_ok hlost _)]
            refine ⟨1 + ended, ((hpoll.trans htimeout).trans hrest).of_eq rfl ?_ rfl, ?_⟩
            · exact Nat.zero_add _
            · rw [Nat.add_assoc, hsum]
      -- raised: built and lost, and the retries end
      · obtain ⟨error, after, hraised, -⟩ := exchangePoll_error polled "POLL_RETRY" hraises
        have hbuilt : builtRetries polled.session.address (exchange :: later) = 1 ∧
            lastExchange polled.session.address (exchange :: later) = exchange := by
          cases exchange with
          | unsent error => exact ⟨rfl, rfl⟩
          | unread error => exact ⟨rfl, rfl⟩
          | heard frame => exact absurd trivial hraises
        rw [finalState_of_error hraised] at hpoll
        rw [finalState_congr (bind_error hraised _), hbuilt.1, hbuilt.2,
          lostPolls_raises hraises]
        exact ⟨0, hpoll, rfl⟩

/-- The outbound exchange ends in a counter when it ends in a timeout or a NAK. -/
theorem moves_readResponse (response : Option DartLineFrame) :
    Moves polled { polled with session := OutboundLink.readResponse polled.session response }
      0 0 (failedResponse (.heard response)) := by
  unfold OutboundLink.readResponse
  cases response with
  | none =>
      refine ⟨rfl, rfl, ?_, rfl⟩
      unfold outcomes failedResponse
      dsimp only [OutboundLink.countTimeout]
      omega
  | some frame =>
      unfold failedResponse
      dsimp only
      split
      · rename_i hack
        rw [if_neg (show ¬ frame.controlType = .NAK by rw [hack.1]; decide)]
        exact Moves.of_same rfl rfl
      · split
        · refine ⟨rfl, rfl, ?_, rfl⟩
          unfold outcomes
          dsimp only
          omega
        · exact Moves.of_same rfl rfl

/-- The item of a turn is sent when it fits. -/
theorem moves_maybeSendOutbound {sent : Option (OutboundDataItem × Exchange)}
    (hsends : ∀ exchange ∈ sent,
      exchange.1.applicationPayload.length + 5 ≤ MAX_BUFFER_SIZE ∧ exchange.2.Returned) :
    Moves polled (finalState (maybeSendOutbound sent) polled) 0 0
      ((sent.map fun sent => failedResponse sent.2).getD 0) := by
  cases sent with
  | none => exact Moves.of_same rfl rfl
  | some exchange =>
      obtain ⟨item, exchange⟩ := exchange
      obtain ⟨hfits, hreturned⟩ := hsends _ rfl
      cases exchange with
      | unsent error => cases hreturned
      | unread error => cases hreturned
      | heard response =>
          have hwire := buildDataFrame_eq_ok polled.session.address
            polled.session.state.txSequence hfits
          have hwritten := moves_writeFrame polled "DATA_OUT" (by decide)
            (escapeDle (dataBuffer polled.session.address polled.session.state.txSequence
              item.applicationPayload) ++ [SF]) none
          unfold maybeSendOutbound
          dsimp only
          rw [finalState_get_bind, finalState_congr (bind_ok (fromExcept_ok hwire _) _)]
          exact (hwritten.trans (moves_readResponse _ response)).of_eq rfl rfl (Nat.zero_add _)

/-- A turn that does not come to its poll counts nothing. -/
theorem stats_maybeSendOutbound_error {sent : Option (OutboundDataItem × Exchange)}
    {error : Raised} {after : PolledSession}
    (hraised : maybeSendOutbound sent polled = .error error after) :
    after.session.state.stats = polled.session.state.stats ∧
      framesSent after.session pollNotes = framesSent polled.session pollNotes := by
  cases sent with
  | none => cases hraised
  | some exchange =>
      obtain ⟨item, exchange⟩ := exchange
      unfold maybeSendOutbound at hraised
      dsimp only at hraised
      rw [get_bind] at hraised
      cases hwire : buildDataFrame polled.session.address polled.session.state.txSequence
          item.applicationPayload with
      | error found =>
          rw [bind_error (fromExcept_error hwire _)] at hraised
          cases hraised
          exact ⟨rfl, rfl⟩
      | ok wire =>
          have hwritten := moves_writeFrame polled "DATA_OUT" (by decide) wire none
          rw [bind_ok (fromExcept_ok hwire _)] at hraised
          cases exchange with
          | unsent found =>
              cases hraised
              exact ⟨rfl, rfl⟩
          | unread found =>
              cases hraised
              exact ⟨rfl, hwritten.sent⟩
          | heard response => cases hraised

/-- What a session that comes to its poll does behind the item. -/
theorem moves_pollOne {turn : PollTurn} (hsends : turn.Sends) :
    ∃ ended, Moves polled (finalState (pollOne config turn) polled)
        (turn.built config polled.session.address)
        (unsentPoll (turn.ending config polled.session.address)) ended ∧
      ended + lostPolls polled.session.address (turn.ending config polled.session.address) =
        turn.built config polled.session.address + turn.failed := by
  obtain ⟨sent, hsent, hsentView⟩ := view_maybeSendOutbound polled hsends
  have hfailed := moves_maybeSendOutbound polled hsends
  have hsentAddress : sent.session.address = polled.session.address :=
    congrArg (·.line.address) hsentView
  have hpoll := moves_exchangePoll sent "POLL" (by decide) turn.first
  rw [finalState_of_ok hsent] at hfailed
  unfold pollOne PollTurn.built PollTurn.failed PollTurn.ending
  rw [finalState_congr (bind_ok hsent _), if_pos hsends, if_pos hsends]
  -- the outbound exchange is over when the poll is built, whatever it added
  generalize (turn.sent.map fun sent => failedResponse sent.2).getD 0 = failed at hfailed ⊢
  rcases turn.first.heard_or_raises with ⟨heard, hfirst⟩ | hraises
  · obtain ⟨written, hread, hview⟩ := exchangePoll_heard sent "POLL" heard
    have haddress : written.session.address = polled.session.address :=
      (congrArg (·.line.address) hview).trans hsentAddress
    rw [hfirst] at hpoll ⊢
    rw [finalState_of_ok hread] at hpoll
    rw [finalState_congr (bind_ok hread _)]
    cases heard with
    | none =>
        obtain ⟨lost, hlost, hcounted⟩ := view_timeOut config written none
        have htimeout := moves_timeOut config written none
        rw [finalState_of_ok hlost] at htimeout
        have hkept : lost.session.address = polled.session.address :=
          (congrArg (·.line.address) hcounted).trans haddress
        obtain ⟨ended, hrest, hsum⟩ := moves_retryPolls config lost turn.ackError
          (turn.retries.take config.maxRetries)
        rw [hkept] at hrest hsum
        rw [if_pos rfl, if_pos rfl]
        dsimp only
        unfold handleTimeoutWithRetries
        rw [finalState_congr (bind_ok hlost _)]
        refine ⟨failed + 1 + ended, (((hfailed.trans hpoll).trans htimeout).trans hrest).of_eq
          ?_ ?_ rfl, ?_⟩
        · rfl
        · exact Nat.zero_add _
        · omega
    | some frame =>
        have hfirst' : ¬ Exchange.heard (some frame) = .heard none :=
          fun h => Option.some_ne_none frame (Exchange.heard.inj h)
        rw [if_neg hfirst', if_neg hfirst']
        dsimp only
        rw [finalState_get_bind, haddress]
        by_cases hown : frame.address = polled.session.address
        · have hanswer := moves_handleAnswer written turn.ackError (hown.trans haddress.symm)
          have hlost := lostPolls_own hown
          rw [if_neg (not_not.mpr hown)]
          refine ⟨_, (hfailed.trans hpoll).trans hanswer, ?_⟩
          omega
        · have hlost := lostPolls_foreign hown
          have hignored : Moves written { written with
              session := written.session.ignoreFrame s!"response_address_{frame.address.toNat}"
              polls := written.polls ++ [⟨some frame, false⟩] } 0 0 0 := Moves.of_same rfl rfl
          rw [if_pos hown]
          refine ⟨_, (hfailed.trans hpoll).trans hignored, ?_⟩
          omega
  · obtain ⟨error, after, hraised, -⟩ := exchangePoll_error sent "POLL" hraises
    have hfirst : ¬ turn.first = .heard none := fun h => hraises (h ▸ trivial)
    have hlost := lostPolls_raises hraises polled.session.address
    rw [finalState_of_error hraised] at hpoll
    rw [finalState_congr (bind_error hraised _), if_neg hfirst, if_neg hfirst]
    refine ⟨_, (hfailed.trans hpoll).of_eq rfl (Nat.zero_add _) rfl, ?_⟩
    omega

/-- The text that a raise leaves is not in the account. -/
theorem moves_turn_of_pollOne {turn : PollTurn} {built unsent ended : Nat}
    (hmoves : Moves polled (finalState (pollOne config turn) polled) built unsent ended) :
    Moves polled (polled.turn config turn) built unsent ended := by
  unfold finalState at hmoves
  unfold PolledSession.turn
  cases hresult : pollOne config turn polled with
  | ok value after =>
      rw [hresult] at hmoves
      exact hmoves
  | error error after =>
      rw [hresult] at hmoves
      exact ⟨hmoves.polls, hmoves.sent, hmoves.outcomes, hmoves.acks⟩

/-- A turn builds its polls, and each of them ends in a counter or is lost; the counters
hold the outbound exchanges that failed besides. -/
theorem moves_turn (turn : PollTurn) :
    ∃ ended, Moves polled (polled.turn config turn) (turn.built config polled.session.address)
        (turn.unsent config polled.session.address) ended ∧
      ended + turn.unsent config polled.session.address +
          turn.unread config polled.session.address + turn.unused config polled.session.address =
        turn.built config polled.session.address + turn.failed := by
  unfold PollTurn.unsent PollTurn.unread PollTurn.unused PollTurn.lost
  by_cases hsends : turn.Sends
  · simp only [if_pos hsends]
    obtain ⟨ended, hmoves, hsum⟩ := moves_pollOne config polled hsends
    unfold lostPolls at hsum
    exact ⟨ended, moves_turn_of_pollOne config polled hmoves, by omega⟩
  · obtain ⟨error, after, hraised, -⟩ := maybeSendOutbound_error polled hsends
    obtain ⟨hstats, hsent⟩ := stats_maybeSendOutbound_error polled hraised
    unfold PollTurn.built PollTurn.failed
    simp only [if_neg hsends]
    refine ⟨0, moves_turn_of_pollOne config polled ?_, rfl⟩
    unfold pollOne
    rw [finalState_congr (bind_error hraised _)]
    exact Moves.of_same hstats hsent

theorem moves_run (turns : List PollTurn) :
    ∃ ended, Moves polled (polled.run config turns)
        (turns.map (·.built config polled.session.address)).sum
        (turns.map (·.unsent config polled.session.address)).sum ended ∧
      ended + (turns.map (·.unsent config polled.session.address)).sum +
          (turns.map (·.unread config polled.session.address)).sum +
          (turns.map (·.unused config polled.session.address)).sum =
        (turns.map (·.built config polled.session.address)).sum +
          (turns.map (·.failed)).sum := by
  induction turns generalizing polled with
  | nil => exact ⟨0, Moves.of_same rfl rfl, rfl⟩
  | cons turn later ih =>
      obtain ⟨ended, hturn, hsum⟩ := moves_turn config polled turn
      obtain ⟨rest, hlater, hlaterSum⟩ := ih (polled.turn config turn)
      rw [ControllerLoop.address_turn] at hlater hlaterSum
      refine ⟨ended + rest, hturn.trans hlater, ?_⟩
      simp only [List.map_cons, List.sum_cons]
      omega

end

namespace ControllerLoop

/-- In every run, whichever writes and reads raise, each session's polls are all accounted
for: a poll went out unless its write raised, and ended in one of the counters unless its
write or read raised or it brought a frame without a counter.  The counters hold nothing
else but the exchanges that failed, and an ACK was made for each block that was taken or
repeated. -/
theorem polls_accounted (config : PollSchedulerConfig) (addresses : List Byte)
    (policy : SequencePolicy) (outbound : OutboundQueue) (actions : List LoopAction)
    {address : Byte} (haddress : address ∈ addresses) :
    ∃ polled,
      ((create addresses policy outbound).run config actions).getSession address = some polled ∧
      let stats := polled.session.state.stats
      let turns := turnsOf config address (create addresses policy outbound) actions
      let unsent := (turns.map (·.unsent config address)).sum
      framesSent polled.session pollNotes + unsent = stats.pollCount ∧
        outcomes stats + unsent + (turns.map (·.unread config address)).sum +
            (turns.map (·.unused config address)).sum =
          stats.pollCount + (turns.map (·.failed)).sum ∧
        stats.ackSentCount = stats.dataCount + stats.duplicateCount := by
  have hrun := getSession_run config (create addresses policy outbound) address actions
  have hstart := getSession_create addresses policy outbound address
  rw [if_pos haddress] at hstart
  rw [hstart] at hrun
  generalize hfresh : PolledSession.start address s!"pump-{address.toNat}" policy = fresh at hrun
  have hown : fresh.session.address = address := hfresh ▸ rfl
  have hstats : fresh.session.state.stats = {} := hfresh ▸ rfl
  have hquiet : framesSent fresh.session pollNotes = 0 := hfresh ▸ rfl
  have hnone : outcomes {} = 0 := rfl
  obtain ⟨ended, hmoves, hsum⟩ := moves_run config fresh
    (turnsOf config address (create addresses policy outbound) actions)
  obtain ⟨hpolls, hsent, houtcomes, hacks⟩ := hmoves
  rw [hown] at hpolls hsent hsum
  rw [hstats] at hpolls houtcomes hacks
  rw [hquiet] at hsent
  rw [hnone] at houtcomes
  refine ⟨_, hrun, ?_⟩
  dsimp only at hpolls hacks ⊢
  refine ⟨?_, ?_, ?_⟩ <;> omega

/-- Polls of the first pump: the first one brings the second pump's EOT, the next ones
raise in their write and in their read, and the last one is answered. -/
def raisingPolls : List LoopAction :=
  [.poll 1 { now := 0, first := { chunks := [[0x02, 0x70, 0xFA]] } },
    .poll 1 { now := 0, first := { writeError := some (.transportNotOpenError "closed") } },
    .poll 1 { now := 0, first := { readError := some (.transportNotOpenError "closed") } },
    .poll 1 { now := 0, first := { chunks := [[0x01, 0x70, 0xFA]] } }]

/-- One of four polls does not go out, and one ends in a counter. -/
theorem polls_accounted_raising :
    ∃ polled,
      ((create [1, 2] .SPEC_F_TO_1 ⟨32, []⟩).run {} raisingPolls).getSession 1 = some polled ∧
      framesSent polled.session pollNotes + 1 = polled.session.state.stats.pollCount ∧
      outcomes polled.session.state.stats + 1 + 1 + 1 = polled.session.state.stats.pollCount := by
  obtain ⟨polled, hpolled, hsent, hended, -⟩ := polls_accounted {} [1, 2] .SPEC_F_TO_1 ⟨32, []⟩
    raisingPolls (show (1 : Byte) ∈ [1, 2] by decide)
  have hlost : ((turnsOf {} 1 (create [1, 2] .SPEC_F_TO_1 ⟨32, []⟩) raisingPolls).map
        (·.unsent {} 1)).sum = 1 ∧
      ((turnsOf {} 1 (create [1, 2] .SPEC_F_TO_1 ⟨32, []⟩) raisingPolls).map
        (·.unread {} 1)).sum = 1 ∧
      ((turnsOf {} 1 (create [1, 2] .SPEC_F_TO_1 ⟨32, []⟩) raisingPolls).map
        (·.unused {} 1)).sum = 1 ∧
      ((turnsOf {} 1 (create [1, 2] .SPEC_F_TO_1 ⟨32, []⟩) raisingPolls).map
        (·.failed)).sum = 0 := by
    decide +kernel
  obtain ⟨hunsent, hunread, hunused, hfailed⟩ := hlost
  rw [hunsent] at hsent hended
  rw [hunread, hunused, hfailed] at hended
  exact ⟨polled, hpolled, hsent, hended⟩

/-! ## The totals -/

/-- The totals are the sums over the sessions as they are now. -/
def TotalsCurrent (loop : ControllerLoop) : Prop :=
  loop.totals = loop.refreshTotals.totals

/-- The action is a poll that returns, and so refreshes the totals. -/
def refreshes (config : PollSchedulerConfig) (loop : ControllerLoop) : LoopAction → Bool
  | .poll address turn =>
      (loop.getSession address).any fun polled =>
        (returned (pollOne config (loop.outbound.popForAddress turn.now address).1 turn)
          ⟨polled, loop.readLoop, loop.written⟩).isSome
  | .enqueue _ _ _ => false

/-- The polls that an action counts. -/
def builtBy (config : PollSchedulerConfig) (loop : ControllerLoop) : LoopAction → Nat
  | .poll address turn =>
      if (loop.getSession address).isSome then
        (loop.turnAt address turn).built config address
      else 0
  | .enqueue _ _ _ => 0

/-- The polls that were counted since the totals were refreshed. -/
def unreported (config : PollSchedulerConfig) : Nat → ControllerLoop → List LoopAction → Nat
  | waiting, _, [] => waiting
  | waiting, loop, action :: later =>
      unreported config
        (if loop.refreshes config action then 0 else waiting + loop.builtBy config action)
        (loop.step config action) later

/-- Each address has one session, and the totals lag behind by so many polls. -/
structure Lags (loop : ControllerLoop) (waiting : Nat) : Prop where
  keys : (loop.sessions.map Prod.fst).Nodup
  addressed : ∀ address polled, loop.getSession address = some polled →
    polled.session.address = address
  polls : loop.total (·.pollCount) = loop.totals.pollCount + waiting
  current : waiting = 0 → loop.TotalsCurrent

theorem keys_setSession (loop : ControllerLoop) (address : Byte) (polled : PolledSession) :
    (loop.setSession address polled).sessions.map Prod.fst = loop.sessions.map Prod.fst := by
  unfold setSession
  rw [List.map_map]
  refine List.map_congr_left fun entry _ => ?_
  dsimp only [Function.comp_apply]
  split <;> rfl

/-- A total changes by what the replaced session counts. -/
theorem total_setSession {loop : ControllerLoop} (hkeys : (loop.sessions.map Prod.fst).Nodup)
    {address : Byte} {old : PolledSession} (hold : loop.getSession address = some old)
    (polled : PolledSession) (counter : PumpSessionStats → Nat) :
    (loop.setSession address polled).total counter + counter old.session.state.stats =
      loop.total counter + counter polled.session.state.stats :=
  sum_replace hkeys hold polled fun polled => counter polled.session.state.stats

/-- A session that counted nothing leaves the totals as they are. -/
theorem totalsCurrent_setSession {loop : ControllerLoop}
    (hkeys : (loop.sessions.map Prod.fst).Nodup) (hcurrent : loop.TotalsCurrent)
    {address : Byte} {old polled : PolledSession} (hold : loop.getSession address = some old)
    (hstats : polled.session.state.stats = old.session.state.stats) :
    (loop.setSession address polled).TotalsCurrent := by
  have htotal : ∀ counter,
      (loop.setSession address polled).total counter = loop.total counter := by
    intro counter
    have hsum := total_setSession hkeys hold polled counter
    rw [hstats] at hsum
    exact Nat.add_right_cancel hsum
  unfold TotalsCurrent refreshTotals
  simp only [htotal]
  exact hcurrent

/-- A turn without a poll counts nothing. -/
theorem stats_turn_of_built {config : PollSchedulerConfig} {polled : PolledSession}
    {turn : PollTurn} (hbuilt : turn.built config polled.session.address = 0) :
    (polled.turn config turn).session.state.stats = polled.session.state.stats := by
  have hsends : ¬ turn.Sends := by
    intro hsends
    unfold PollTurn.built at hbuilt
    rw [if_pos hsends] at hbuilt
    split at hbuilt <;> omega
  -- only a turn that does not come to its poll builds none
  obtain ⟨error, after, hraised, -⟩ := maybeSendOutbound_error polled hsends
  unfold PolledSession.turn Link.pollOne
  rw [bind_error hraised]
  exact (stats_maybeSendOutbound_error polled hraised).1

/-- The totals after a poll that returned are the sums. -/
theorem Lags.of_refreshed {loop : ControllerLoop} (hkeys : (loop.sessions.map Prod.fst).Nodup)
    (haddressed : ∀ address polled, loop.getSession address = some polled →
      polled.session.address = address) : loop.refreshTotals.Lags 0 :=
  ⟨hkeys, haddressed, rfl, fun _ => rfl⟩

/-- A turn that raises leaves its polls to the next refresh. -/
theorem Lags.of_turn {loop : ControllerLoop} {waiting : Nat} (hlags : loop.Lags waiting)
    (config : PollSchedulerConfig) {address : Byte} {polled : PolledSession}
    (hpolled : loop.getSession address = some polled) (turn : PollTurn) :
    (loop.setSession address (polled.turn config turn)).Lags
      (waiting + turn.built config address) := by
  have hown := hlags.addressed address polled hpolled
  obtain ⟨ended, hmoves, -⟩ := moves_turn config polled turn
  rw [hown] at hmoves
  constructor
  · exact (keys_setSession loop address _).symm ▸ hlags.keys
  · intro other found hfound
    rw [getSession_setSession loop hpolled] at hfound
    split at hfound
    · rename_i hsame
      cases hfound
      rw [address_turn, hown, hsame]
    · exact hlags.addressed other found hfound
  -- the other sessions count the same on both sides
  · have htotal := total_setSession hlags.keys hpolled (polled.turn config turn) (·.pollCount)
    have hpolls := hlags.polls
    have hbuilt := hmoves.polls
    change (loop.setSession address (polled.turn config turn)).total (·.pollCount) =
      loop.totals.pollCount + (waiting + turn.built config address)
    omega
  · intro hnone
    obtain ⟨hwaiting, hbuilt⟩ := Nat.add_eq_zero_iff.mp hnone
    rw [← hown] at hbuilt
    exact totalsCurrent_setSession hlags.keys (hlags.current hwaiting) hpolled
      (stats_turn_of_built hbuilt)

/-- A poll that returns leaves nothing behind, and one that raises leaves its polls. -/
theorem Lags.poll {loop : ControllerLoop} {waiting : Nat} (hlags : loop.Lags waiting)
    (config : PollSchedulerConfig) (address : Byte) (turn : BusTurn) :
    (loop.poll config address turn).Lags (if loop.refreshes config (.poll address turn) then 0
      else waiting + loop.builtBy config (.poll address turn)) := by
  cases hpolled : loop.getSession address with
  | none =>
      have hquiet : loop.refreshes config (.poll address turn) = false ∧
          loop.builtBy config (.poll address turn) = 0 := by
        unfold refreshes builtBy
        dsimp only
        rw [hpolled]
        exact ⟨rfl, rfl⟩
      rw [hquiet.1, hquiet.2, poll_of_none hpolled]
      exact hlags
  | some polled =>
      have hbuilt : loop.builtBy config (.poll address turn) =
          (loop.turnAt address turn).built config address := by
        unfold builtBy
        dsimp only
        rw [hpolled]
        rfl
      cases hresult : pollOne config (loop.outbound.popForAddress turn.now address).1 turn
          ⟨polled, loop.readLoop, loop.written⟩ with
      | ok value after =>
          have hrefreshes : loop.refreshes config (.poll address turn) = true := by
            unfold refreshes
            dsimp only
            rw [hpolled, Option.any_some, returned_of_ok hresult]
            rfl
          have hcarried : (loop.carry address turn after).Lags waiting :=
            ⟨hlags.keys, hlags.addressed, hlags.polls, hlags.current⟩
          have hturned := hcarried.of_turn config hpolled (loop.turnAt address turn)
          -- whatever waited is in the sums now
          rw [hrefreshes, poll_of_ok hpolled hresult]
          exact Lags.of_refreshed hturned.keys hturned.addressed
      | error error after =>
          have hrefreshes : loop.refreshes config (.poll address turn) = false := by
            unfold refreshes
            dsimp only
            rw [hpolled, Option.any_some, returned_of_error hresult]
            rfl
          have hcarried : (loop.carry address turn after).Lags waiting :=
            ⟨hlags.keys, hlags.addressed, hlags.polls, hlags.current⟩
          rw [hrefreshes, hbuilt, poll_of_error hpolled hresult]
          exact hcarried.of_turn config hpolled (loop.turnAt address turn)

theorem Lags.enqueue {loop : ControllerLoop} {waiting : Nat} (hlags : loop.Lags waiting)
    (now : Int) (item : OutboundDataItem) (safety : ControllerSafetyContext) :
    (loop.enqueue now item safety).Lags waiting := by
  unfold ControllerLoop.enqueue
  split
  · exact ⟨hlags.keys, hlags.addressed, hlags.polls, hlags.current⟩
  · exact hlags

theorem Lags.run {loop : ControllerLoop} {waiting : Nat} (hlags : loop.Lags waiting)
    (config : PollSchedulerConfig) (actions : List LoopAction) :
    (loop.run config actions).Lags (unreported config waiting loop actions) := by
  induction actions generalizing loop waiting with
  | nil => exact hlags
  | cons action later ih =>
      cases action with
      | poll address turn => exact ih (hlags.poll config address turn)
      | enqueue now item safety => exact ih (hlags.enqueue now item safety)

end ControllerLoop

end Link
end Intelipump
