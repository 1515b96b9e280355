import Mathlib.Tactic.Common
import Intelipump.Controller.Health
import Intelipump.Foundation.MissCounter
import Intelipump.Foundation.Runs
import Intelipump.Link.OutboundExchange

namespace Intelipump
namespace Link

open Dart.Line
open Controller
open Foundation.MissCounter
open Foundation.Runs
open Foundation.StateEffect
open Simulator

/-!
# How long a pump was silent

A pump is polled again when it does not answer, and counts as disconnected after a
number of timeouts.  The counter is raised in `_poll_one` and in its retries, but only
an EOT and a block that is taken set it back: after a NAK, a repeated block or one out
of sequence the timeouts before it still count.  The transport may raise in any write and
any read; a poll that ends so is neither answered nor a timeout and has no record.
-/

/-- What polling one pump reads of the scheduler's settings. -/
structure PollSchedulerConfig where
  maxRetries : Nat := 2
  maxConsecutiveTimeouts : Nat := 5
deriving DecidableEq, Repr

/-- A poll: what the read after it returned, and whether its timeout disconnected. -/
abbrev PollRecord := Seen (Option DartLineFrame)

structure PolledSession where
  session : PumpSession
  polls : List PollRecord := []

/-- How a write and the read behind it end: the transport raises in the write or in its
drain, or while it is read, or the read returns. -/
inductive Exchange where
  | unsent (error : Raised)
  | unread (error : Raised)
  | heard (frame : Option DartLineFrame)
deriving DecidableEq

/-- What `_poll_one` meets: the popped item with the exchange it is sent in, the exchanges
of the polls, and what the transport raises on the ACK.  A loop that is told to stop has
fewer retries. -/
structure PollTurn where
  sent : Option (OutboundDataItem × Exchange) := none
  first : Exchange
  retries : List Exchange := []
  ackError : Option Raised := none
deriving DecidableEq

abbrev PollM := EStateM Raised PolledSession

def onSession (change : PumpSession → PumpSession) : PollM Unit :=
  modify fun polled => { polled with session := change polled.session }

/-- What the write of an exchange raises. -/
def Exchange.writeError : Exchange → Option Raised
  | .unsent error => some error
  | .unread _ => none
  | .heard _ => none

/-- The read of an exchange. -/
def readOneFrame : Exchange → PollM (Option DartLineFrame)
  | .unsent error => throw error
  | .unread error => throw error
  | .heard frame => pure frame

/-- Nothing is published of a frame whose write or drain raises. -/
def writeFrame (data : List Byte) (note : String) (writeError : Option Raised) : PollM Unit :=
  match writeError with
  | some error => throw error
  | none =>
      onSession fun session => session.publish {
        type := .FRAME_SENT
        address := session.address
        detail := note
        payload := .rawHex (bytesHex data) }

def maybeSendOutbound : Option (OutboundDataItem × Exchange) → PollM Unit
  | none => pure ()
  | some (item, exchange) => do
      let polled ← get
      let wire ← fromExcept (buildDataFrame polled.session.address
        polled.session.state.txSequence item.applicationPayload)
      writeFrame wire "DATA_OUT" exchange.writeError
      let response ← readOneFrame exchange
      onSession fun session => OutboundLink.readResponse session response

/-- Count a poll, build it and write it; it stays counted when the write raises. -/
def writePoll (note : String) (writeError : Option Raised) : PollM Unit := do
  let polled ← get
  onSession fun session => session.buildPoll.1
  let wire ← fromExcept polled.session.buildPoll.2
  writeFrame wire note writeError

/-- Write a poll and read what comes back. -/
def exchangePoll (note : String) (exchange : Exchange) : PollM (Option DartLineFrame) := do
  writePoll note exchange.writeError
  readOneFrame exchange

/-- The poll is answered; an ACK goes back. -/
def handleAnswer (ackError : Option Raised) (frame : DartLineFrame) : PollM Unit := do
  let polled ← get
  let result := polled.session.handleResponseFrame frame
  set ({ polled with
    session := result.1
    polls := polled.polls ++ [⟨some frame, false⟩] } : PolledSession)
  match result.2 with
  | some ack => writeFrame ack "ACK" ackError
  | none => pure ()

/-- The first read returned a frame of another address. -/
def ignoreAnswer (frame : DartLineFrame) : PollM Unit :=
  modify fun polled => { polled with
    session := polled.session.ignoreFrame s!"response_address_{frame.address.toNat}"
    polls := polled.polls ++ [⟨some frame, false⟩] }

def timeOut (config : PollSchedulerConfig) (heard : Option DartLineFrame) : PollM Unit :=
  modify fun polled =>
    let session := polled.session.onTimeout config.maxConsecutiveTimeouts
    { polled with
      session := session
      polls := polled.polls ++
        [⟨heard, decide (session.state.communication = .DISCONNECTED)⟩] }

/-- The loop of the retries; a frame of another address is a timeout here. -/
def retryPolls (config : PollSchedulerConfig) (ackError : Option Raised) :
    List Exchange → PollM Unit
  | [] => pure ()
  | exchange :: later => do
      let heard ← exchangePoll "POLL_RETRY" exchange
      let polled ← get
      match heard.filter (·.address = polled.session.address) with
      | some frame => handleAnswer ackError frame
      | none => do
          timeOut config heard
          retryPolls config ackError later

def handleTimeoutWithRetries (config : PollSchedulerConfig) (turn : PollTurn) :
    PollM Unit := do
  timeOut config none
  retryPolls config turn.ackError (turn.retries.take config.maxRetries)

def pollOne (config : PollSchedulerConfig) (turn : PollTurn) : PollM Unit := do
  maybeSendOutbound turn.sent
  match ← exchangePoll "POLL" turn.first with
  | none => handleTimeoutWithRetries config turn
  | some frame => do
      let polled ← get
      if frame.address ≠ polled.session.address then ignoreAnswer frame
      else handleAnswer turn.ackError frame

namespace PolledSession

/-- A turn of the loop over the addresses; what it raises is kept as a text. -/
def turn (config : PollSchedulerConfig) (polled : PolledSession) (turn : PollTurn) :
    PolledSession :=
  match pollOne config turn polled with
  | .ok _ after => after
  | .error error after =>
      { after with
        session := after.session.ignoreFrame s!"poll_error:{error.typeName}:{error.message}" }

def run (config : PollSchedulerConfig) (polled : PolledSession) (turns : List PollTurn) :
    PolledSession :=
  turns.foldl (PolledSession.turn config) polled

def start (address : Byte) (pumpId : String) (policy : SequencePolicy) : PolledSession where
  session := PumpSession.create address pumpId policy

end PolledSession

/-- A turn in which nothing is heard. -/
def silentTurn (config : PollSchedulerConfig) : PollTurn where
  first := .heard none
  retries := List.replicate config.maxRetries (.heard none)

/-! ## The condition -/

/-- An EOT, a NAK or a block with a valid CRC from the address. -/
def ValidFrom (address : Byte) (frame : DartLineFrame) : Prop :=
  frame.address = address ∧
    (frame.controlType = .EOT ∨ frame.controlType = .NAK ∨
      frame.controlType = .DATA ∧ frame.crcValid ≠ some false)

instance (address : Byte) : DecidablePred (ValidFrom address) := fun _ =>
  inferInstanceAs (Decidable (_ ∧ _))

/-- A poll that no valid frame of the address answered. -/
def Silent (address : Byte) (heard : Option DartLineFrame) : Prop :=
  ∀ frame ∈ heard, ¬ ValidFrom address frame

instance (address : Byte) : DecidablePred (Silent address) := fun heard =>
  inferInstanceAs (Decidable (∀ frame ∈ heard, _))

/-- Whenever a timeout disconnected, the last polls had all been silent. -/
def LostAfterSilence (config : PollSchedulerConfig) (address : Byte)
    (polls : List PollRecord) : Prop :=
  AlarmsLate (Silent address) config.maxConsecutiveTimeouts polls

/-- The frame that an exchange heard. -/
def Exchange.frame : Exchange → Option DartLineFrame
  | .unsent _ => none
  | .unread _ => none
  | .heard frame => frame

/-- The read of the exchange is reached and returns. -/
def Exchange.Returned : Exchange → Prop
  | .unsent _ => False
  | .unread _ => False
  | .heard _ => True

instance : DecidablePred Exchange.Returned
  | .unsent _ => instDecidableFalse
  | .unread _ => instDecidableFalse
  | .heard _ => instDecidableTrue

theorem Exchange.heard_or_raises (exchange : Exchange) :
    (∃ heard, exchange = .heard heard) ∨ ¬ exchange.Returned := by
  cases exchange with
  | unsent error => exact Or.inr id
  | unread error => exact Or.inr id
  | heard heard => exact Or.inl ⟨heard, rfl⟩

/-- The item of the turn fits a frame, and the transport does not raise while it is sent:
the turn comes to its poll. -/
def PollTurn.Sends (turn : PollTurn) : Prop :=
  ∀ sent ∈ turn.sent, sent.1.applicationPayload.length + 5 ≤ MAX_BUFFER_SIZE ∧ sent.2.Returned

instance (turn : PollTurn) : Decidable turn.Sends :=
  inferInstanceAs (Decidable (∀ sent ∈ turn.sent, _ ∧ _))

/-- The exchange that the retries end with: the first one that raises or hears the address,
or else a timeout. -/
def lastExchange (address : Byte) : List Exchange → Exchange
  | [] => .heard none
  | .unsent error :: _ => .unsent error
  | .unread error :: _ => .unread error
  | .heard heard :: later =>
      if (heard.filter (·.address = address)).isSome then .heard heard
      else lastExchange address later

/-- The exchange that ends the turn of a session that comes to its poll. -/
def PollTurn.ending (turn : PollTurn) (config : PollSchedulerConfig) (address : Byte) :
    Exchange :=
  if turn.first = .heard none then lastExchange address (turn.retries.take config.maxRetries)
  else turn.first

/-- The frame that the session handles in a turn. -/
def PollTurn.answer (turn : PollTurn) (config : PollSchedulerConfig) (address : Byte) :
    Option DartLineFrame :=
  if turn.Sends then (turn.ending config address).frame.filter (·.address = address) else none

/-- An EOT, or the block the line waits for. -/
def Takes (line : ReceiveLine) (frame : DartLineFrame) : Prop :=
  line.verdict frame = .accepted ∨ line.verdict frame = .responsive

instance (line : ReceiveLine) (frame : DartLineFrame) : Decidable (Takes line frame) :=
  inferInstanceAs (Decidable (_ ∨ _))

/-- One timeout is enough, or a valid frame that is not taken comes with the first poll of
its turn and while no timeout is counted. -/
def AnsweredInTime (config : PollSchedulerConfig) (polled : PolledSession) (turn : PollTurn) :
    Prop :=
  config.maxConsecutiveTimeouts < 2 ∨
    ∀ frame ∈ turn.answer config polled.session.address,
      ValidFrom polled.session.address frame →
        Takes polled.session.receiveLine frame ∨
          turn.first = .heard (some frame) ∧ polled.session.state.consecutiveTimeouts = 0

instance (config : PollSchedulerConfig) (polled : PolledSession) (turn : PollTurn) :
    Decidable (AnsweredInTime config polled turn) :=
  inferInstanceAs (Decidable (_ ∨ ∀ frame ∈ turn.answer config polled.session.address, _))

/-! ## What polling depends on -/

/-- The part of a polled session that its later disconnections depend on. -/
structure PollView where
  line : ReceiveLine
  health : CommunicationHealth
  watch : Watch (Option DartLineFrame)

namespace PollView

def answered (config : PollSchedulerConfig) (frame : DartLineFrame) (view : PollView) :
    PollView :=
  if Takes view.line frame then
    { line := view.line.after frame
      health := .HEALTHY
      watch := view.watch.see config.maxConsecutiveTimeouts (.cleared (some frame)) }
  else
    { view with watch := view.watch.see config.maxConsecutiveTimeouts (.passed (some frame)) }

def ignored (config : PollSchedulerConfig) (frame : DartLineFrame) (view : PollView) :
    PollView :=
  { view with watch := view.watch.see config.maxConsecutiveTimeouts (.passed (some frame)) }

def timedOut (config : PollSchedulerConfig) (heard : Option DartLineFrame) (view : PollView) :
    PollView :=
  let health : CommunicationHealth :=
    if view.watch.count + 1 ≥ config.maxConsecutiveTimeouts then .DISCONNECTED
    else if view.watch.count + 1 ≥ 2 then .DEGRADED
    else view.health
  { view with
    health := health
    watch := {
      count := view.watch.count + 1
      history := view.watch.history ++ [⟨heard, decide (health = .DISCONNECTED)⟩] } }

/-- A poll that raises leaves the view. -/
def retried (config : PollSchedulerConfig) : List Exchange → PollView → PollView
  | [], view => view
  | .unsent _ :: _, view => view
  | .unread _ :: _, view => view
  | .heard heard :: later, view =>
      match heard.filter (·.address = view.line.address) with
      | some frame => view.answered config frame
      | none => (view.timedOut config heard).retried config later

def turned (config : PollSchedulerConfig) (view : PollView) (turn : PollTurn) : PollView :=
  if turn.Sends then
    match turn.first with
    | .unsent _ => view
    | .unread _ => view
    | .heard none =>
        (view.timedOut config none).retried config (turn.retries.take config.maxRetries)
    | .heard (some frame) =>
        if frame.address ≠ view.line.address then view.ignored config frame
        else view.answered config frame
  else view

theorem retried_raises {config : PollSchedulerConfig} {exchange : Exchange}
    (hraises : ¬ exchange.Returned) (later : List Exchange) (view : PollView) :
    view.retried config (exchange :: later) = view := by
  cases exchange with
  | unsent error => rfl
  | unread error => rfl
  | heard heard => exact absurd trivial hraises

end PollView

def PolledSession.view (polled : PolledSession) : PollView where
  line := polled.session.receiveLine
  health := polled.session.state.communication
  watch := {
    count := polled.session.state.consecutiveTimeouts
    history := polled.polls }

section

variable (config : PollSchedulerConfig) (polled : PolledSession)

theorem view_writeFrame (data : List Byte) (note : String) (writeError : Option Raised) :
    (finalState (writeFrame data note writeError) polled).view = polled.view := by
  cases writeError <;> rfl

/-- A poll is counted and built, and then it is up to its write. -/
theorem writePoll_eq (note : String) (writeError : Option Raised) :
    writePoll note writeError polled =
      writeFrame (escapeDle (controlBuffer polled.session.address .POLL 0) ++ [SF]) note
        writeError { polled with session := polled.session.buildPoll.1 } := by
  have hbuildable : Buildable .POLL 0 := ⟨by decide, composable_poll⟩
  have hwire : polled.session.buildPoll.2 =
      .ok (escapeDle (controlBuffer polled.session.address .POLL 0) ++ [SF]) :=
    buildControlFrame_eq_ok polled.session.address hbuildable
  unfold writePoll
  rw [get_bind, bind_ok (show onSession _ polled = _ from rfl),
    bind_ok (fromExcept_ok hwire _)]

theorem view_writePoll (note : String) (writeError : Option Raised) :
    (finalState (writePoll note writeError) polled).view = polled.view := by
  rw [finalState_congr (writePoll_eq polled note writeError), view_writeFrame]
  rfl

theorem view_readResponse (response : Option DartLineFrame) :
    PolledSession.view { polled with
      session := OutboundLink.readResponse polled.session response } = polled.view := by
  unfold OutboundLink.readResponse
  cases response with
  | none => rfl
  | some frame =>
      dsimp only
      split
      · rfl
      · split <;> rfl

/-- A poll that is read returns what was heard. -/
theorem exchangePoll_heard (note : String) (heard : Option DartLineFrame) :
    ∃ after, exchangePoll note (.heard heard) polled = .ok heard after ∧
      after.view = polled.view := by
  refine ⟨_, ?_, view_writePoll polled note none⟩
  change (writePoll note none >>= fun _ => readOneFrame (.heard heard)) polled = _
  rw [bind_ok (writePoll_eq polled note none)]
  rfl

/-- A poll that raises leaves the view. -/
theorem exchangePoll_error (note : String) {exchange : Exchange}
    (hraises : ¬ exchange.Returned) :
    ∃ error after, exchangePoll note exchange polled = .error error after ∧
      after.view = polled.view := by
  -- an unsent poll was counted all the same, and neither is seen in the view
  cases exchange with
  | unsent error =>
      refine ⟨error, _, ?_, view_writePoll polled note (some error)⟩
      change (writePoll note (some error) >>= fun _ => readOneFrame (.unsent error)) polled = _
      rw [bind_error (writePoll_eq polled note (some error))]
      rfl
  | unread error =>
      refine ⟨error, _, ?_, view_writePoll polled note none⟩
      change (writePoll note none >>= fun _ => readOneFrame (.unread error)) polled = _
      rw [bind_ok (writePoll_eq polled note none)]
      rfl
  | heard frame => exact absurd trivial hraises

/-- An item that fits is sent; what the exchange does is not seen in the view. -/
theorem view_maybeSendOutbound {sent : Option (OutboundDataItem × Exchange)}
    (hsends : ∀ exchange ∈ sent,
      exchange.1.applicationPayload.length + 5 ≤ MAX_BUFFER_SIZE ∧ exchange.2.Returned) :
    ∃ after, maybeSendOutbound sent polled = .ok () after ∧ after.view = polled.view := by
  cases sent with
  | none => exact ⟨polled, rfl, rfl⟩
  | some exchange =>
      obtain ⟨item, exchange⟩ := exchange
      obtain ⟨hfits, hreturned⟩ := hsends _ rfl
      cases exchange with
      | unsent error => cases hreturned
      | unread error => cases hreturned
      | heard response =>
          have hwire := buildDataFrame_eq_ok polled.session.address
            polled.session.state.txSequence hfits
          refine ⟨_, ?_, view_readResponse (finalState (writeFrame (escapeDle (dataBuffer
            polled.session.address polled.session.state.txSequence item.applicationPayload) ++
              [SF]) "DATA_OUT" none) polled) response⟩
          unfold maybeSendOutbound
          dsimp only
          rw [get_bind, bind_ok (fromExcept_ok hwire _)]
          rfl

/-- An item that does not fit raises before anything is sent, and so does the turn when the
transport raises. -/
theorem maybeSendOutbound_error {sent : Option (OutboundDataItem × Exchange)}
    (hraises : ¬ ∀ exchange ∈ sent,
      exchange.1.applicationPayload.length + 5 ≤ MAX_BUFFER_SIZE ∧ exchange.2.Returned) :
    ∃ error after, maybeSendOutbound sent polled = .error error after ∧
      after.view = polled.view := by
  cases sent with
  | none => exact absurd (fun exchange h => absurd h (Option.not_mem_none exchange)) hraises
  | some exchange =>
      obtain ⟨item, exchange⟩ := exchange
      unfold maybeSendOutbound
      dsimp only
      rw [get_bind]
      cases hwire : buildDataFrame polled.session.address polled.session.state.txSequence
          item.applicationPayload with
      | error error => exact ⟨error, polled, rfl, rfl⟩
      | ok wire =>
          have hfits := length_le_of_buildDataFrame hwire
          cases exchange with
          | unsent error => exact ⟨error, polled, rfl, rfl⟩
          | unread error => exact ⟨error, _, rfl, view_writeFrame polled wire "DATA_OUT" none⟩
          | heard response =>
              refine absurd (fun other hother => ?_) hraises
              obtain rfl := Option.some.inj hother
              exact ⟨hfits, trivial⟩

theorem not_takes {line : ReceiveLine} {frame : DartLineFrame}
    (hleft : line.verdict frame = .ignored ∨ line.verdict frame = .repeated) :
    ¬ Takes line frame := by
  unfold Takes
  rcases hleft with hverdict | hverdict
  · rw [hverdict]
    decide
  · rw [hverdict]
    decide

theorem view_handleAnswer (ackError : Option Raised) (frame : DartLineFrame) :
    (finalState (handleAnswer ackError frame) polled).view =
      polled.view.answered config frame := by
  let answered : PolledSession := {
    session := (polled.session.handleResponseFrame frame).1
    polls := polled.polls ++ [⟨some frame, false⟩] }
  have hview : answered.view = polled.view.answered config frame := by
    have htaken := taken_or_not polled.session frame
    unfold PolledSession.view PollView.answered
    dsimp only
    rw [polled.session.communication_handleResponseFrame,
      polled.session.consecutiveTimeouts_handleResponseFrame,
      (polled.session.handleResponseFrame_spec frame).1]
    unfold ReceiveLine.after
    rcases htaken with htakes | hleft
    · rw [if_pos (show Takes polled.session.receiveLine frame from htakes)]
      -- an accepted block and an EOT clear the count alike
      rcases htakes with hverdict | hverdict
      · rw [hverdict]
        rfl
      · rw [hverdict]
        rfl
    · rw [if_neg (not_takes hleft)]
      rcases hleft with hverdict | hverdict
      · rw [hverdict]
        rfl
      · rw [hverdict]
        rfl
  unfold handleAnswer
  rw [finalState_get_bind,
    finalState_congr (bind_ok (show (set answered : PollM PUnit) polled = .ok ⟨⟩ answered from rfl)
      _)]
  -- the ACK is written when the session is done, so what it raises changes nothing
  cases hack : (polled.session.handleResponseFrame frame).2 with
  | none => exact hview
  | some ack => exact (view_writeFrame answered ack "ACK" ackError).trans hview

theorem view_timeOut (heard : Option DartLineFrame) :
    ∃ after, timeOut config heard polled = .ok () after ∧
      after.view = polled.view.timedOut config heard := by
  refine ⟨_, rfl, ?_⟩
  unfold PolledSession.view PollView.timedOut
  dsimp only
  rw [PumpSession.receiveLine_onTimeout, PumpSession.communication_onTimeout,
    PumpSession.consecutiveTimeouts_onTimeout]

theorem view_retryPolls (ackError : Option Raised) (reads : List Exchange) :
    (finalState (retryPolls config ackError reads) polled).view =
      polled.view.retried config reads := by
  -- on the retries that are left: one that is answered or raises is the last
  induction reads generalizing polled with
  | nil => rfl
  | cons exchange later ih =>
      unfold retryPolls
      rcases exchange.heard_or_raises with ⟨heard, rfl⟩ | hraises
      · obtain ⟨written, hread, hview⟩ := exchangePoll_heard polled "POLL_RETRY" heard
        unfold PollView.retried
        rw [finalState_congr (bind_ok hread _), finalState_get_bind, ← hview]
        have haddress : written.view.line.address = written.session.address := rfl
        rw [haddress]
        cases heard.filter (·.address = written.session.address) with
        | some frame => exact view_handleAnswer config written ackError frame
        | none =>
            obtain ⟨lost, hlost, hcounted⟩ := view_timeOut config written heard
            dsimp only
            rw [finalState_congr (bind_ok hlost _), ← hcounted]
            exact ih lost
      · obtain ⟨error, after, hraised, hview⟩ := exchangePoll_error polled "POLL_RETRY" hraises
        rw [finalState_congr (bind_error hraised _), PollView.retried_raises hraises]
        exact hview

theorem view_turn_eq (turn : PollTurn) :
    (polled.turn config turn).view = (finalState (pollOne config turn) polled).view := by
  unfold PolledSession.turn finalState
  cases pollOne config turn polled <;> rfl

/-- A turn does to the view what the view says. -/
theorem view_turn (turn : PollTurn) :
    (polled.turn config turn).view = polled.view.turned config turn := by
  rw [view_turn_eq]
  unfold PollView.turned pollOne
  by_cases hsends : turn.Sends
  -- the item is out, and the poll follows
  · obtain ⟨sent, hsent, hsentView⟩ := view_maybeSendOutbound polled hsends
    rw [if_pos hsends, finalState_congr (bind_ok hsent _), ← hsentView]
    rcases turn.first.heard_or_raises with ⟨heard, hfirst⟩ | hraises
    · obtain ⟨written, hread, hview⟩ := exchangePoll_heard sent "POLL" heard
      rw [hfirst, finalState_congr (bind_ok hread _), ← hview]
      cases heard with
      | none =>
          obtain ⟨lost, hlost, hcounted⟩ := view_timeOut config written none
          dsimp only
          unfold handleTimeoutWithRetries
          rw [finalState_congr (bind_ok hlost _), ← hcounted]
          exact view_retryPolls config lost turn.ackError _
      | some frame =>
          have haddress : written.view.line.address = written.session.address := rfl
          dsimp only
          rw [finalState_get_bind, haddress]
          split
          · rfl
          · exact view_handleAnswer config written turn.ackError frame
    -- nothing of the turn is left after a raise
    · obtain ⟨error, after, hraised, hview⟩ := exchangePoll_error sent "POLL" hraises
      rw [finalState_congr (bind_error hraised _)]
      refine hview.trans ?_
      cases hfirst : turn.first with
      | unsent error => rfl
      | unread error => rfl
      | heard heard => exact absurd (hfirst ▸ trivial) hraises
  · obtain ⟨error, after, hraised, hview⟩ := maybeSendOutbound_error polled hsends
    rw [if_neg hsends, finalState_congr (bind_error hraised _)]
    exact hview

end

/-! ## The watch of a turn -/

section

variable {config : PollSchedulerConfig} {view : PollView} {address : Byte}

/-- A disconnected session has counted enough timeouts. -/
def PollView.Late (config : PollSchedulerConfig) (view : PollView) : Prop :=
  view.health = .DISCONNECTED → config.maxConsecutiveTimeouts ≤ view.watch.count

/-- The timeouts that disconnect are those at the limit. -/
theorem health_timedOut_iff (hlate : view.Late config) (heard : Option DartLineFrame) :
    (view.timedOut config heard).health = .DISCONNECTED ↔
      config.maxConsecutiveTimeouts ≤ view.watch.count + 1 := by
  unfold PollView.timedOut
  dsimp only
  split
  · rename_i hlimit
    exact iff_of_true rfl hlimit
  · rename_i hbelow
    refine iff_of_false (fun hlost => ?_) hbelow
    split at hlost
    · cases hlost
    · exact hbelow ((hlate hlost).trans (Nat.le_succ _))

theorem watch_timedOut (hlate : view.Late config) (heard : Option DartLineFrame) :
    (view.timedOut config heard).watch =
      view.watch.see config.maxConsecutiveTimeouts (.missed heard) := by
  have halarm : decide ((view.timedOut config heard).health = .DISCONNECTED) =
      decide (config.maxConsecutiveTimeouts ≤ view.watch.count + 1) :=
    decide_eq_decide.mpr (health_timedOut_iff hlate heard)
  change Watch.mk _ (_ ++ [Seen.mk heard (decide
    ((view.timedOut config heard).health = .DISCONNECTED))]) = _
  rw [halarm]
  rfl

theorem late_timedOut (hlate : view.Late config) (heard : Option DartLineFrame) :
    (view.timedOut config heard).Late config :=
  (health_timedOut_iff hlate heard).mp

theorem late_answered (hlate : view.Late config) (frame : DartLineFrame) :
    (view.answered config frame).Late config := by
  unfold PollView.answered
  split
  · intro hlost
    cases hlost
  · exact hlate

theorem late_retried (hlate : view.Late config) (reads : List Exchange) :
    (view.retried config reads).Late config := by
  induction reads generalizing view with
  | nil => exact hlate
  | cons exchange later ih =>
      rcases exchange.heard_or_raises with ⟨heard, rfl⟩ | hraises
      · unfold PollView.retried
        split
        · exact late_answered hlate _
        · exact ih (late_timedOut hlate heard)
      · rw [PollView.retried_raises hraises]
        exact hlate

theorem late_turned (hlate : view.Late config) (turn : PollTurn) :
    (view.turned config turn).Late config := by
  unfold PollView.turned
  split
  · split
    · exact hlate
    · exact hlate
    · exact late_retried (late_timedOut hlate none) _
    · split
      · exact hlate
      · exact late_answered hlate _
  · exact hlate

/-! ### The address -/

theorem address_answered (frame : DartLineFrame) :
    (view.answered config frame).line.address = view.line.address := by
  unfold PollView.answered
  split
  · change (view.line.after frame).address = view.line.address
    unfold ReceiveLine.after
    split <;> rfl
  · rfl

theorem address_retried (reads : List Exchange) :
    (view.retried config reads).line.address = view.line.address := by
  induction reads generalizing view with
  | nil => rfl
  | cons exchange later ih =>
      rcases exchange.heard_or_raises with ⟨heard, rfl⟩ | hraises
      · unfold PollView.retried
        split
        · exact address_answered _
        · exact ih
      · rw [PollView.retried_raises hraises]

theorem address_turned (turn : PollTurn) :
    (view.turned config turn).line.address = view.line.address := by
  unfold PollView.turned
  split
  · split
    · rfl
    · rfl
    · exact address_retried _
    · split
      · rfl
      · exact address_answered _
  · rfl

/-! ### Safety -/

/-- No alarm of the watch comes early. -/
def PollView.Safe (config : PollSchedulerConfig) (view : PollView) : Prop :=
  view.watch.Safe (Silent view.line.address) config.maxConsecutiveTimeouts

theorem silent_none : Silent address none :=
  fun frame h => absurd h (Option.not_mem_none frame)

theorem silent_some_iff {frame : DartLineFrame} :
    Silent address (some frame) ↔ ¬ ValidFrom address frame := by
  unfold Silent
  simp only [Option.mem_some_iff, forall_eq']

/-- What was heard on a retry that is a timeout. -/
theorem silent_of_filter {heard : Option DartLineFrame}
    (hforeign : heard.filter (·.address = address) = none) : Silent address heard := by
  intro frame hframe hvalid
  refine Option.filter_eq_none_iff.mp hforeign frame hframe ?_
  exact decide_eq_true hvalid.1

theorem safe_timedOut (hlate : view.Late config) (hsafe : view.Safe config)
    {heard : Option DartLineFrame} (hquiet : Silent view.line.address heard) :
    (view.timedOut config heard).Safe config := by
  unfold PollView.Safe
  rw [watch_timedOut hlate]
  exact hsafe.missed hquiet

/-- The rule of an answer. -/
theorem safe_answered_iff (hsafe : view.Safe config) (frame : DartLineFrame) :
    (view.answered config frame).Safe config ↔ config.maxConsecutiveTimeouts < 2 ∨
      (ValidFrom view.line.address frame → Takes view.line frame ∨ view.watch.count = 0) := by
  unfold PollView.Safe
  rw [address_answered]
  unfold PollView.answered
  split
  · rename_i htakes
    exact iff_of_true hsafe.cleared (Or.inr fun _ => Or.inl htakes)
  · rename_i hleft
    refine (Watch.safe_passed_iff hsafe).trans ?_
    rw [silent_some_iff, or_iff_right hleft, imp_iff_not_or, ← or_assoc, or_comm]

/-- The retries after a counted timeout. -/
theorem safe_retried_iff (hlate : view.Late config) (hsafe : view.Safe config)
    (hcount : view.watch.count ≠ 0) (reads : List Exchange) :
    (view.retried config reads).Safe config ↔ config.maxConsecutiveTimeouts < 2 ∨
      ∀ frame ∈ (lastExchange view.line.address reads).frame.filter
          (·.address = view.line.address),
        ValidFrom view.line.address frame → Takes view.line frame := by
  induction reads generalizing view with
  | nil => exact iff_of_true hsafe (Or.inr fun frame h => absurd h (Option.not_mem_none frame))
  | cons exchange later ih =>
      cases exchange with
      | unsent error =>
          exact iff_of_true hsafe (Or.inr fun frame h => absurd h (Option.not_mem_none frame))
      | unread error =>
          exact iff_of_true hsafe (Or.inr fun frame h => absurd h (Option.not_mem_none frame))
      | heard heard =>
          unfold PollView.retried lastExchange
          cases hheard : heard.filter (·.address = view.line.address) with
          | some frame =>
              have hframe : (Exchange.heard heard).frame.filter
                  (·.address = view.line.address) = some frame := hheard
              rw [if_pos (show (some frame).isSome = true from rfl), hframe,
                safe_answered_iff hsafe, or_iff_left hcount]
              simp only [Option.mem_some_iff, forall_eq']
          | none =>
              -- a counted timeout is what the rule of the later retries needs
              have hnext : (view.timedOut config heard).watch.count ≠ 0 := Nat.succ_ne_zero _
              exact ih (late_timedOut hlate heard)
                (safe_timedOut hlate hsafe (silent_of_filter hheard)) hnext

/-- A turn keeps the watch safe exactly when it is answered in time. -/
theorem safe_turn_iff {polled : PolledSession} (hlate : polled.view.Late config)
    (hsafe : polled.view.Safe config) (turn : PollTurn) :
    (polled.turn config turn).view.Safe config ↔ AnsweredInTime config polled turn := by
  rw [view_turn]
  unfold PollView.turned AnsweredInTime PollTurn.answer PollTurn.ending
  by_cases hsends : turn.Sends
  · rw [if_pos hsends, if_pos hsends]
    cases turn.first with
    | unsent error =>
        exact iff_of_true hsafe (Or.inr fun frame h => absurd h (Option.not_mem_none frame))
    | unread error =>
        exact iff_of_true hsafe (Or.inr fun frame h => absurd h (Option.not_mem_none frame))
    | heard heard =>
        cases heard with
        | none =>
            have hcount : (polled.view.timedOut config none).watch.count ≠ 0 :=
              Nat.succ_ne_zero _
            rw [if_pos rfl]
            dsimp only
            rw [safe_retried_iff (late_timedOut hlate none)
              (safe_timedOut hlate hsafe silent_none) hcount]
            simp only [Exchange.heard.injEq, reduceCtorEq, false_and, or_false]
            rfl
        | some frame =>
            rw [if_neg (show ¬ Exchange.heard (some frame) = .heard none from
              fun h => Option.some_ne_none frame (Exchange.heard.inj h))]
            dsimp only [Exchange.frame]
            -- a first answer of another address is passed over, and is silence
            by_cases hown : frame.address = polled.session.address
            · have hheard : (some frame).filter (·.address = polled.session.address) =
                  some frame := Option.filter_some_pos (decide_eq_true hown)
              rw [if_neg (show ¬ frame.address ≠ polled.view.line.address from not_not.mpr hown),
                safe_answered_iff hsafe, hheard]
              simp only [Option.mem_some_iff, forall_eq', true_and]
              rfl
            · have hforeign : ¬ ValidFrom polled.session.address frame := fun h => hown h.1
              have hignored : (polled.view.ignored config frame).Safe config :=
                (Watch.safe_passed_iff hsafe).mpr (Or.inl (silent_some_iff.mpr hforeign))
              have hheard : (some frame).filter (·.address = polled.session.address) = none :=
                Option.filter_some_neg (decide_eq_false hown)
              rw [if_pos (show frame.address ≠ polled.view.line.address from hown), hheard]
              exact iff_of_true hignored
                (Or.inr fun other h => absurd h (Option.not_mem_none other))
  · rw [if_neg hsends, if_neg hsends]
    exact iff_of_true hsafe (Or.inr fun frame h => absurd h (Option.not_mem_none frame))

/-! ## Silence -/

/-- Retries without an answer are misses. -/
theorem retried_silent (hlate : view.Late config) (number : Nat) :
    (view.retried config (List.replicate number (.heard none))).watch =
      view.watch.misses config.maxConsecutiveTimeouts none number := by
  induction number generalizing view with
  | zero => rfl
  | succ number ih =>
      change ((view.timedOut config none).retried config _).watch = _
      rw [ih (late_timedOut hlate none), watch_timedOut hlate, Nat.add_comm number 1,
        Watch.misses_add]
      rfl

theorem turned_silent (hlate : view.Late config) :
    (view.turned config (silentTurn config)).watch =
      view.watch.misses config.maxConsecutiveTimeouts none (config.maxRetries + 1) := by
  have hsends : (silentTurn config).Sends := fun sent h => absurd h (Option.not_mem_none sent)
  have hreads : (silentTurn config).retries.take config.maxRetries =
      List.replicate config.maxRetries (.heard none) := by
    change (List.replicate config.maxRetries (Exchange.heard none)).take config.maxRetries = _
    rw [List.take_replicate, Nat.min_self]
  unfold PollView.turned
  rw [if_pos hsends]
  change ((view.timedOut config none).retried config _).watch = _
  rw [hreads, retried_silent (late_timedOut hlate none), watch_timedOut hlate,
    Nat.add_comm config.maxRetries 1, Watch.misses_add]
  rfl

/-- A run of turns in which nothing is heard. -/
theorem silence_run {polled : PolledSession} (hlate : polled.view.Late config)
    (silences : Nat) :
    (polled.run config (List.replicate silences (silentTurn config))).view.watch =
      polled.view.watch.misses config.maxConsecutiveTimeouts none
        (silences * (config.maxRetries + 1)) := by
  induction silences generalizing polled with
  | zero =>
      rw [Nat.zero_mul]
      rfl
  | succ silences ih =>
      have hnext : (polled.turn config (silentTurn config)).view.Late config := by
        rw [view_turn]
        exact late_turned hlate _
      change ((polled.turn config (silentTurn config)).run config _).view.watch = _
      rw [ih hnext, view_turn, turned_silent hlate, ← Watch.misses_add, Nat.succ_mul,
        Nat.add_comm]

/-- What the silence after a state shows of its safety. -/
theorem safe_iff_lostAfterSilence {polled : PolledSession} (hlate : polled.view.Late config) :
    polled.view.Safe config ↔ ∀ silences, LostAfterSilence config polled.session.address
      (polled.run config (List.replicate silences (silentTurn config))).polls := by
  refine (Watch.safe_iff_misses_mul silent_none config.maxRetries).trans ?_
  refine forall_congr' fun silences => ?_
  rw [← silence_run hlate silences]
  rfl

/-! ## Runs -/

/-- The session polls the address, and is not disconnected before the limit. -/
def Polls (config : PollSchedulerConfig) (address : Byte) (polled : PolledSession) : Prop :=
  polled.session.address = address ∧ polled.view.Late config

theorem Polls.turn {polled : PolledSession} (hpolls : Polls config address polled)
    (turn : PollTurn) : Polls config address (polled.turn config turn) := by
  refine ⟨?_, ?_⟩
  · change (polled.turn config turn).view.line.address = address
    rw [view_turn, address_turned]
    exact hpolls.1
  · rw [view_turn]
    exact late_turned hpolls.2 turn

theorem Polls.run {polled : PolledSession} (hpolls : Polls config address polled)
    (turns : List PollTurn) : Polls config address (polled.run config turns) := by
  induction turns generalizing polled with
  | nil => exact hpolls
  | cons turn rest ih => exact ih (hpolls.turn turn)

/-- In every run of polls of one address a disconnection follows that many silent polls,
there and in any silence after it, exactly when every turn is answered in time. -/
theorem lostAfterSilence_run_iff (config : PollSchedulerConfig) (address : Byte)
    (pumpId : String) (policy : SequencePolicy) (turns : List PollTurn) :
    (∀ earlier, earlier <+: turns → ∀ silences, LostAfterSilence config address
        ((PolledSession.start address pumpId policy).run config
          (earlier ++ List.replicate silences (silentTurn config))).polls) ↔
      Along (PolledSession.turn config) (AnsweredInTime config)
        (PolledSession.start address pumpId policy) turns := by
  have hstart : Polls config address (PolledSession.start address pumpId policy) := by
    refine ⟨rfl, fun hlost => ?_⟩
    cases hlost
  have hsafe : (PolledSession.start address pumpId policy).view.Safe config := Watch.safe_start
  have hstep : ∀ (polled : PolledSession) (turn : PollTurn),
      Polls config address polled ∧ polled.view.Safe config →
        (Polls config address (polled.turn config turn) ∧
          (polled.turn config turn).view.Safe config ↔ AnsweredInTime config polled turn) := by
    intro polled turn hpolled
    -- the address and the limit hold anyway, so the rule is about safety alone
    rw [and_iff_right (hpolled.1.turn turn)]
    exact safe_turn_iff hpolled.1.2 hpolled.2 turn
  rw [← forall_prefix_iff_along hstep ⟨hstart, hsafe⟩]
  refine forall₂_congr fun earlier _ => ?_
  have hreached : Polls config address
      ((PolledSession.start address pumpId policy).run config earlier) := hstart.run earlier
  refine Iff.trans ?_ (and_iff_right hreached).symm
  refine Iff.trans ?_ (safe_iff_lostAfterSilence hreached.2).symm
  rw [hreached.1]
  unfold PolledSession.run
  simp only [List.foldl_append]

end

/-- The first poll of a turn times out, and the retry is answered by a NAK. -/
def nakTurn : PollTurn where
  first := .heard none
  retries := [.heard (some (controlFrame 1 .NAK 0))]

/-- Four polls in eight were answered, and the ninth is the fifth timeout. -/
def answeredByNak : PolledSession :=
  (PolledSession.start 1 "pump-1" .SPEC_F_TO_1).run {}
    (List.replicate 4 nakTurn ++ [silentTurn {}])

/-- A pump that answers every second poll with a NAK is declared disconnected. -/
theorem disconnects_answering_pump :
    answeredByNak.polls.map (·.alarmed) =
        [false, false, false, false, false, false, false, false, true, true, true] ∧
      ¬ LostAfterSilence {} 1 answeredByNak.polls := by
  refine ⟨by decide +kernel, fun hlate => ?_⟩
  have hstreak := hlate (answeredByNak.polls.take 9) (List.take_prefix 9 _)
    ⟨⟨none, true⟩, by decide +kernel, rfl⟩
  exact absurd hstreak (by decide +kernel)

end Link
end Intelipump
