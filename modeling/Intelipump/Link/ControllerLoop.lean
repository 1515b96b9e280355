import Mathlib.Tactic.Common
import Intelipump.Controller.Outbound
import Intelipump.Controller.ReadLoop
import Intelipump.Foundation.Tables
import Intelipump.Link.SilentPolls
import Intelipump.Simulator.Encoding

namespace Intelipump
namespace Link

open Domain
open Dart.Line
open Dart.Application
open Controller
open Foundation.StateEffect
open Foundation.Tables
open Simulator

/-!
# The controller loop over all its pumps

The pumps share one transport, one assembler and one outbound queue.  A poll of one
address reads whatever is on the line, also frames of the other ones, and the bytes
behind a frame stay in the assembler for the next poll.

* `pollOne_eq` — a poll on the shared line is the poll of one session
  (`Link.pollOne`) that reads the frames the shared assembler returned.
* `sessions_isolated` — so, in any order of the polls, each session goes through its
  own turns only, and what holds of one session under all turns holds of every
  session of the loop.
* `written_in_order` — the queue's items go out at most once each, to their own
  address, in the order of acceptance and before they expire.
-/

/-- What a write and the read behind it meet on the line: what the write or its drain
raises, the chunks that arrive until the read returns, and what the read raises when no
frame came before it; with no error the deadline passes. -/
structure LineExchange where
  writeError : Option Raised := none
  chunks : List (List Byte) := []
  readError : Option Raised := none
deriving DecidableEq, Repr

/-- What a poll meets: the clock when the queue is asked, the exchange of the item, the ones
of the polls, and what the transport raises on the ACK. -/
structure BusTurn where
  now : Int
  response : LineExchange := {}
  first : LineExchange
  retries : List LineExchange := []
  ackError : Option Raised := none
deriving DecidableEq, Repr

/-- A DATA frame with an item of the queue. -/
structure DataOut where
  now : Int
  address : Byte
  item : OutboundDataItem
  wire : List Byte
deriving DecidableEq, Repr

/-- The session that is polled, the reading it shares with the others, and the items that
were handed to the transport, in order. -/
structure BusState where
  polled : PolledSession
  readLoop : ReadLoop
  written : List DataOut

abbrev BusM := EStateM Raised BusState

/-- Sums over the sessions. -/
structure ControllerTotals where
  pollCount : Nat := 0
  eotCount : Nat := 0
  dataCount : Nat := 0
  crcErrors : Nat := 0
  timeouts : Nat := 0
  nakCount : Nat := 0
  duplicateCount : Nat := 0
deriving DecidableEq, Repr

/-- The loop; beside its state, the items that the queue accepted and the ones that were
handed to the transport, in order. -/
structure ControllerLoop where
  sessions : List (Byte × PolledSession)
  readLoop : ReadLoop
  outbound : OutboundQueue
  totals : ControllerTotals
  accepted : List OutboundDataItem
  written : List DataOut

/-- How an exchange ends on the shared reading. -/
def LineExchange.ending (exchange : LineExchange) (readLoop : ReadLoop) : Exchange :=
  match exchange.writeError with
  | some error => .unsent error
  | none =>
      match (readLoop.readOneFrame exchange.chunks).1, exchange.readError with
      | none, some error => .unread error
      | heard, _ => .heard heard

/-- The shared reading after an exchange. -/
def LineExchange.rest (exchange : LineExchange) (readLoop : ReadLoop) : ReadLoop :=
  if exchange.writeError.isSome then readLoop
  else (readLoop.readOneFrame exchange.chunks).2.1

namespace ControllerLoop

/-- Do something with the session in turn. -/
def onPolled {α : Type} (action : PollM α) : BusM α := fun state =>
  match action state.polled with
  | .ok value polled => .ok value { state with polled := polled }
  | .error error polled => .error error { state with polled := polled }

/-- The chunks before a raise are fed, and a frame in them is returned. -/
def readOneFrame (exchange : LineExchange) : BusM (Option DartLineFrame) := fun state =>
  let result := state.readLoop.readOneFrame exchange.chunks
  let after := { state with readLoop := result.2.1 }
  match result.1, exchange.readError with
  | none, some error => .error error after
  | heard, _ => .ok heard after

def logWritten (out : DataOut) : BusM Unit :=
  modify fun state => { state with written := state.written ++ [out] }

def maybeSendOutbound (item : Option OutboundDataItem) (turn : BusTurn) : BusM Unit :=
  match item with
  | none => pure ()
  | some item => do
      let state ← get
      let wire ← fromExcept (buildDataFrame state.polled.session.address
        state.polled.session.state.txSequence item.applicationPayload)
      -- noted before the write: a write that raises may have sent it
      logWritten ⟨turn.now, state.polled.session.address, item, wire⟩
      onPolled (writeFrame wire "DATA_OUT" turn.response.writeError)
      let resp ← readOneFrame turn.response
      onPolled (onSession fun session => OutboundLink.readResponse session resp)

/-- Write a poll and read what comes back. -/
def exchangePoll (note : String) (exchange : LineExchange) : BusM (Option DartLineFrame) := do
  onPolled (writePoll note exchange.writeError)
  readOneFrame exchange

def retryPolls (config : PollSchedulerConfig) (ackError : Option Raised) :
    List LineExchange → BusM Unit
  | [] => pure ()
  | exchange :: later => do
      let heard ← exchangePoll "POLL_RETRY" exchange
      let state ← get
      match heard.filter (·.address = state.polled.session.address) with
      | some frame => onPolled (handleAnswer ackError frame)
      | none => do
          onPolled (timeOut config heard)
          retryPolls config ackError later

def handleTimeoutWithRetries (config : PollSchedulerConfig) (turn : BusTurn) : BusM Unit := do
  onPolled (timeOut config none)
  retryPolls config turn.ackError (turn.retries.take config.maxRetries)

def pollOne (config : PollSchedulerConfig) (item : Option OutboundDataItem)
    (turn : BusTurn) : BusM Unit := do
  maybeSendOutbound item turn
  match ← exchangePoll "POLL" turn.first with
  | none => handleTimeoutWithRetries config turn
  | some frame => do
      let state ← get
      if frame.address ≠ state.polled.session.address then onPolled (ignoreAnswer frame)
      else onPolled (handleAnswer turn.ackError frame)

/-- `sessions[address]`. -/
def getSession (loop : ControllerLoop) (address : Byte) : Option PolledSession :=
  loop.sessions.lookup address

def setSession (loop : ControllerLoop) (address : Byte) (polled : PolledSession) :
    ControllerLoop :=
  { loop with
    sessions := loop.sessions.map fun entry =>
      if entry.1 = address then (entry.1, polled) else entry }

/-- A session for each address; the dictionary keeps one for each. -/
def create (addresses : List Byte) (policy : SequencePolicy) (outbound : OutboundQueue) :
    ControllerLoop where
  sessions := addresses.eraseDups.map fun address =>
    (address, PolledSession.start address s!"pump-{address.toNat}" policy)
  readLoop := ReadLoop.create
  outbound := outbound
  totals := {}
  accepted := []
  written := []

/-- The sum of a counter over the sessions. -/
def total (loop : ControllerLoop) (counter : PumpSessionStats → Nat) : Nat :=
  (loop.sessions.map fun entry => counter entry.2.session.state.stats).sum

def refreshTotals (loop : ControllerLoop) : ControllerLoop :=
  { loop with
    totals := {
      pollCount := loop.total (·.pollCount)
      eotCount := loop.total (·.eotCount)
      dataCount := loop.total (·.dataCount)
      crcErrors := loop.total (·.crcErrorCount)
      timeouts := loop.total (·.timeoutCount)
      nakCount := loop.total (·.nakCount)
      duplicateCount := loop.total (·.duplicateCount) } }

/-- One address of the round; what the poll raises is kept as a text, and the totals are
then left as they were. -/
def poll (config : PollSchedulerConfig) (loop : ControllerLoop) (address : Byte)
    (turn : BusTurn) : ControllerLoop :=
  match loop.getSession address with
  | none => loop
  | some polled =>
      let (item, outbound) := loop.outbound.popForAddress turn.now address
      match pollOne config item turn ⟨polled, loop.readLoop, loop.written⟩ with
      | .ok _ after =>
          let loop := { loop with
            outbound := outbound, readLoop := after.readLoop, written := after.written }
          (loop.setSession address after.polled).refreshTotals
      | .error error after =>
          let loop := { loop with
            outbound := outbound, readLoop := after.readLoop, written := after.written }
          loop.setSession address { after.polled with
            session := after.polled.session.ignoreFrame
              s!"poll_error:{error.typeName}:{error.message}" }

def enqueue (loop : ControllerLoop) (now : Int) (item : OutboundDataItem)
    (safety : ControllerSafetyContext) : ControllerLoop :=
  match loop.outbound.enqueue now item safety with
  | .ok outbound => { loop with outbound := outbound, accepted := loop.accepted ++ [item] }
  | .error _ => loop

/-- `RETURN_STATUS` for a simulated pump. -/
def enqueueStatusRequest (loop : ControllerLoop) (uuid4 : String) (now : Int)
    (address : Byte) (safety : ControllerSafetyContext) : ControllerLoop :=
  match encodeCd1Command PumpControlCommand.RETURN_STATUS.code with
  | .ok payload =>
      loop.enqueue now (OutboundDataItem.create uuid4 now address payload .READ_STATUS true
        .IDEMPOTENT) safety
  | .error _ => loop

/-- What happens to the loop: polls in any order, and items from its callers. -/
inductive LoopAction where
  | poll (address : Byte) (turn : BusTurn)
  | enqueue (now : Int) (item : OutboundDataItem) (safety : ControllerSafetyContext)

def step (config : PollSchedulerConfig) (loop : ControllerLoop) : LoopAction → ControllerLoop
  | .poll address turn => loop.poll config address turn
  | .enqueue now item safety => loop.enqueue now item safety

def run (config : PollSchedulerConfig) (loop : ControllerLoop) (actions : List LoopAction) :
    ControllerLoop :=
  actions.foldl (step config) loop

/-- One round over the addresses. -/
def round (addresses : List Byte) (turns : List BusTurn) : List LoopAction :=
  List.zipWith LoopAction.poll addresses turns

/-! ## One poll -/

/-- How successive exchanges end. -/
def endings : ReadLoop → List LineExchange → List Exchange
  | _, [] => []
  | readLoop, exchange :: later =>
      exchange.ending readLoop :: endings (exchange.rest readLoop) later

theorem endings_take (readLoop : ReadLoop) (exchanges : List LineExchange) (number : Nat) :
    endings readLoop (exchanges.take number) = (endings readLoop exchanges).take number := by
  induction number generalizing readLoop exchanges with
  | zero => rfl
  | succ number ih =>
      cases exchanges with
      | nil => rfl
      | cons first later => exact congrArg _ (ih _ later)

/-- The reading loop when the first poll is written. -/
def afterResponse (readLoop : ReadLoop) (item : Option OutboundDataItem) (turn : BusTurn) :
    ReadLoop :=
  if item.isSome then turn.response.rest readLoop else readLoop

/-- The turn of one session, with the frames that the shared reading returned. -/
def resolve (readLoop : ReadLoop) (item : Option OutboundDataItem) (turn : BusTurn) :
    PollTurn where
  sent := item.map fun item => (item, turn.response.ending readLoop)
  first := turn.first.ending (afterResponse readLoop item turn)
  retries := endings (turn.first.rest (afterResponse readLoop item turn)) turn.retries
  ackError := turn.ackError

/-- A result without the shared reading. -/
def ofPolled {α : Type} : EStateM.Result Raised BusState α → EStateM.Result Raised PolledSession α
  | .ok value state => .ok value state.polled
  | .error error state => .error error state.polled

section

variable {config : PollSchedulerConfig} {state : BusState}

theorem ofPolled_onPolled {α : Type} (action : PollM α) :
    ofPolled (onPolled action state) = action state.polled := by
  unfold onPolled
  cases action state.polled <;> rfl

/-- An action of the session leaves the shared reading. -/
theorem onPolled_ok {α : Type} {action : PollM α} {value : α} {after : PolledSession}
    (haction : action state.polled = .ok value after) :
    onPolled action state = .ok value { state with polled := after } := by
  unfold onPolled
  rw [haction]

theorem onPolled_error {α : Type} {action : PollM α} {error : Raised} {after : PolledSession}
    (haction : action state.polled = .error error after) :
    onPolled action state = .error error { state with polled := after } := by
  unfold onPolled
  rw [haction]

/-- An exchange whose write returned ends as its read does. -/
theorem readOneFrame_eq (state : BusState) {exchange : LineExchange}
    (hwritten : exchange.writeError = none) :
    (∃ heard, exchange.ending state.readLoop = .heard heard ∧
      readOneFrame exchange state =
        .ok heard { state with readLoop := exchange.rest state.readLoop }) ∨
    ∃ error, exchange.ending state.readLoop = .unread error ∧
      readOneFrame exchange state =
        .error error { state with readLoop := exchange.rest state.readLoop } := by
  unfold readOneFrame LineExchange.ending LineExchange.rest
  rw [hwritten]
  dsimp only
  -- a frame among the chunks is returned before the read can raise
  cases (state.readLoop.readOneFrame exchange.chunks).1 with
  | some frame => exact Or.inl ⟨some frame, rfl, rfl⟩
  | none =>
      cases exchange.readError with
      | some error => exact Or.inr ⟨error, rfl, rfl⟩
      | none => exact Or.inl ⟨none, rfl, rfl⟩

theorem ending_unsent {exchange : LineExchange} {error : Raised}
    (hraised : exchange.writeError = some error) (readLoop : ReadLoop) :
    exchange.ending readLoop = .unsent error := by
  unfold LineExchange.ending
  rw [hraised]

/-- A poll on the shared line ends as the poll of the session does. -/
theorem exchangePoll_eq (state : BusState) (note : String) (exchange : LineExchange) :
    (∃ heard after, exchange.ending state.readLoop = .heard heard ∧
      Link.exchangePoll note (.heard heard) state.polled = .ok heard after ∧
      exchangePoll note exchange state =
        .ok heard { state with polled := after, readLoop := exchange.rest state.readLoop }) ∨
    ∃ error after,
      Link.exchangePoll note (exchange.ending state.readLoop) state.polled =
        .error error after.polled ∧
      exchangePoll note exchange state = .error error after := by
  have hwrite := writePoll_eq state.polled note exchange.writeError
  unfold exchangePoll Link.exchangePoll
  cases hwriteError : exchange.writeError with
  -- the shared reading is not touched by a poll that is not out
  | some error =>
      rw [hwriteError] at hwrite
      refine Or.inr ⟨error, _, ?_, bind_error (onPolled_error hwrite) _⟩
      rw [ending_unsent hwriteError]
      exact bind_error hwrite _
  | none =>
      obtain ⟨written, hwritten⟩ :
          ∃ written, writePoll note none state.polled = .ok () written := by
        rw [hwriteError] at hwrite
        exact ⟨_, hwrite⟩
      rw [bind_ok (onPolled_ok hwritten)]
      rcases readOneFrame_eq { state with polled := written } hwriteError with
        ⟨heard, hending, hread⟩ | ⟨error, hending, hread⟩
      · exact Or.inl ⟨heard, written, hending, bind_ok hwritten _, hread⟩
      · refine Or.inr ⟨error, _, ?_, hread⟩
        rw [show exchange.ending state.readLoop = .unread error from hending]
        exact bind_ok hwritten _

theorem retryPolls_eq (ackError : Option Raised) (exchanges : List LineExchange) :
    ofPolled (retryPolls config ackError exchanges state) =
      Link.retryPolls config ackError (endings state.readLoop exchanges) state.polled := by
  induction exchanges generalizing state with
  | nil => rfl
  | cons exchange later ih =>
      unfold retryPolls endings Link.retryPolls
      -- each retry goes on from the reading that the one before it left
      rcases exchangePoll_eq state "POLL_RETRY" exchange with
        ⟨heard, after, hending, hown, hshared⟩ | ⟨error, after, hown, hshared⟩
      · rw [hending, bind_ok hshared, bind_ok hown, get_bind, get_bind]
        dsimp only
        cases heard.filter (·.address = after.session.address) with
        | some frame => exact ofPolled_onPolled _
        | none =>
            obtain ⟨lost, hlost, -⟩ := view_timeOut config after heard
            dsimp only
            rw [bind_ok (onPolled_ok hlost), bind_ok hlost]
            exact ih
      · rw [bind_error hshared, bind_error hown]
        rfl

/-- What a poll may hand to the transport: the popped item once, stamped with the clock and
the address, in a frame with some TX#. -/
structure WritesOnly (turn : BusTurn) (address : Byte) (item : Option OutboundDataItem)
    (out : List DataOut) : Prop where
  items : (out.map (·.item)).Sublist item.toList
  stamped : ∀ new ∈ out, new.now = turn.now ∧ new.address = address
  framed : ∀ new ∈ out, ∃ sequence,
    buildDataFrame address sequence new.item.applicationPayload = .ok new.wire

theorem WritesOnly.nothing (turn : BusTurn) (address : Byte) (item : Option OutboundDataItem) :
    WritesOnly turn address item [] where
  items := List.nil_sublist _
  stamped := fun _ hnew => absurd hnew List.not_mem_nil
  framed := fun _ hnew => absurd hnew List.not_mem_nil

theorem WritesOnly.once (turn : BusTurn) {address : Byte} {item : OutboundDataItem}
    {sequence : Fin 16} {wire : List Byte}
    (hwire : buildDataFrame address sequence item.applicationPayload = .ok wire) :
    WritesOnly turn address (some item) [⟨turn.now, address, item, wire⟩] := by
  refine ⟨List.Sublist.refl _, fun new hnew => ?_, fun new hnew => ?_⟩
  · rw [List.mem_singleton.mp hnew]
    exact ⟨rfl, rfl⟩
  · rw [List.mem_singleton.mp hnew]
    exact ⟨sequence, hwire⟩

theorem maybeSendOutbound_eq (state : BusState) (item : Option OutboundDataItem)
    (turn : BusTurn) :
    (∃ after out, maybeSendOutbound item turn state =
        .ok () ⟨after, afterResponse state.readLoop item turn, state.written ++ out⟩ ∧
      WritesOnly turn state.polled.session.address item out ∧
      Link.maybeSendOutbound (resolve state.readLoop item turn).sent state.polled =
        .ok () after) ∨
    ∃ error after out, maybeSendOutbound item turn state = .error error after ∧
      after.written = state.written ++ out ∧
      WritesOnly turn state.polled.session.address item out ∧
      Link.maybeSendOutbound (resolve state.readLoop item turn).sent state.polled =
        .error error after.polled := by
  cases item with
  | none =>
      refine Or.inl ⟨state.polled, [], ?_, WritesOnly.nothing .., rfl⟩
      rw [List.append_nil]
      rfl
  | some item =>
      unfold maybeSendOutbound Link.maybeSendOutbound resolve afterResponse
      dsimp only [Option.map_some, Option.isSome_some, if_true]
      rw [get_bind, get_bind]
      cases hwire : buildDataFrame state.polled.session.address
          state.polled.session.state.txSequence item.applicationPayload with
      -- the item is gone from the queue, and nothing is written
      | error error =>
          exact Or.inr ⟨error, state, [], rfl, (List.append_nil _).symm,
            WritesOnly.nothing .., rfl⟩
      | ok wire =>
          have hout := WritesOnly.once turn hwire
          rw [bind_ok (fromExcept_ok rfl _), bind_ok (fromExcept_ok rfl _)]
          cases hwriteError : turn.response.writeError with
          -- it counts as handed over although its write raised
          | some error =>
              refine Or.inr ⟨error, _, _, rfl, rfl, hout, ?_⟩
              rw [ending_unsent hwriteError]
              rfl
          | none =>
              rcases readOneFrame_eq ⟨finalState (writeFrame wire "DATA_OUT" none) state.polled,
                  state.readLoop, state.written ++
                    [⟨turn.now, state.polled.session.address, item, wire⟩]⟩ hwriteError with
                ⟨heard, hending, hread⟩ | ⟨error, hending, hread⟩
              · dsimp only at hending hread
                rw [hending]
                exact Or.inl ⟨_, _, bind_ok hread _, hout, rfl⟩
              · dsimp only at hending hread
                rw [hending]
                exact Or.inr ⟨error, _, _, bind_error hread _, rfl, hout, rfl⟩

/-- A poll on the shared line is the poll of one session that reads the frames the shared
assembler returned. -/
theorem pollOne_eq (config : PollSchedulerConfig) (state : BusState)
    (item : Option OutboundDataItem) (turn : BusTurn) :
    ofPolled (pollOne config item turn state) =
      Link.pollOne config (resolve state.readLoop item turn) state.polled := by
  unfold pollOne Link.pollOne
  rcases maybeSendOutbound_eq state item turn with
    ⟨sent, out, hshared, -, hsent⟩ | ⟨error, after, out, hshared, -, -, herror⟩
  -- the poll of the session and the poll of the loop side by side
  · rw [bind_ok hshared, bind_ok hsent]
    unfold resolve
    dsimp only
    rcases exchangePoll_eq ⟨sent, afterResponse state.readLoop item turn, state.written ++ out⟩
        "POLL" turn.first with
      ⟨heard, written, hending, hown, hfirst⟩ | ⟨error, after, hown, hfirst⟩
    · rw [bind_ok hfirst]
      dsimp only at hending hown ⊢
      rw [hending, bind_ok hown]
      cases heard with
      | none =>
          obtain ⟨lost, hlost, -⟩ := view_timeOut config written none
          dsimp only
          unfold handleTimeoutWithRetries Link.handleTimeoutWithRetries
          rw [bind_ok (onPolled_ok hlost), bind_ok hlost, retryPolls_eq, endings_take]
      | some frame =>
          dsimp only
          rw [get_bind, get_bind]
          split
          · exact ofPolled_onPolled _
          · exact ofPolled_onPolled _
    · rw [bind_error hfirst]
      dsimp only at hown ⊢
      rw [bind_error hown]
      rfl
  -- the turn ends before its poll
  · rw [bind_error hshared, bind_error herror]
    rfl

/-- The log of written items stays. -/
def LogKept (before after : BusState) : Prop := after.written = before.written

instance : IsPreorder BusState LogKept where
  refl _ := rfl
  trans _ _ _ hfirst hsecond := hsecond.trans hfirst

theorem logKept_onPolled {α : Type} (action : PollM α) :
    Preserves LogKept (onPolled action) := by
  intro state
  unfold finalState onPolled
  cases action state.polled <;> rfl

theorem logKept_readOneFrame (exchange : LineExchange) :
    Preserves LogKept (readOneFrame exchange) := by
  intro state
  unfold finalState readOneFrame
  dsimp only
  cases (state.readLoop.readOneFrame exchange.chunks).1 <;> cases exchange.readError <;> rfl

theorem logKept_exchangePoll (note : String) (exchange : LineExchange) :
    Preserves LogKept (exchangePoll note exchange) :=
  Preserves.of_bind (logKept_onPolled _) fun _ => logKept_readOneFrame exchange

theorem logKept_retryPolls (ackError : Option Raised) (exchanges : List LineExchange) :
    Preserves LogKept (retryPolls config ackError exchanges) := by
  induction exchanges with
  | nil => exact Preserves.of_pure ()
  | cons first later ih =>
      refine Preserves.of_bind (logKept_exchangePoll _ first) fun heard => ?_
      refine Preserves.of_bind Preserves.of_get fun state => ?_
      cases heard.filter (·.address = state.polled.session.address) with
      | some frame => exact logKept_onPolled _
      | none => exact Preserves.of_bind (logKept_onPolled _) fun _ => ih

/-- A poll hands over the popped item when it fits a frame, and no other one. -/
theorem written_pollOne (config : PollSchedulerConfig) (state : BusState)
    (item : Option OutboundDataItem) (turn : BusTurn) :
    ∃ out, (finalState (pollOne config item turn) state).written = state.written ++ out ∧
      WritesOnly turn state.polled.session.address item out := by
  rcases maybeSendOutbound_eq state item turn with
    ⟨sent, out, hshared, hout, -⟩ | ⟨error, after, out, hshared, hwritten, hout, -⟩
  · refine ⟨out, ?_, hout⟩
    unfold pollOne
    rw [finalState_congr (bind_ok hshared _)]
    refine Preserves.of_bind (R := LogKept) (logKept_exchangePoll _ _) (fun heard => ?_) _
    cases heard with
    | none => exact Preserves.of_bind (logKept_onPolled _) fun _ => logKept_retryPolls _ _
    | some frame =>
        refine Preserves.of_bind Preserves.of_get fun state => ?_
        exact Preserves.of_ite (logKept_onPolled _) (logKept_onPolled _)
  · refine ⟨out, ?_, hout⟩
    unfold pollOne
    rw [finalState_congr (bind_error hshared _)]
    exact hwritten

end

/-! ## The sessions of a run -/

/-- What the session at an address goes through when it is polled. -/
def turnAt (loop : ControllerLoop) (address : Byte) (turn : BusTurn) : PollTurn :=
  resolve loop.readLoop (loop.outbound.popForAddress turn.now address).1 turn

/-- The turn of the session at an address in one action. -/
def ownTurn (address : Byte) (loop : ControllerLoop) : LoopAction → Option PollTurn
  | .poll other turn => if other = address then some (loop.turnAt address turn) else none
  | .enqueue _ _ _ => none

/-- The turns of the session at an address in a run. -/
def turnsOf (config : PollSchedulerConfig) (address : Byte) :
    ControllerLoop → List LoopAction → List PollTurn
  | _, [] => []
  | loop, action :: later =>
      (ownTurn address loop action).toList ++
        turnsOf config address (loop.step config action) later

section

variable {config : PollSchedulerConfig} {loop : ControllerLoop}

theorem getSession_setSession (loop : ControllerLoop) {address : Byte} {old : PolledSession}
    (hold : loop.getSession address = some old) (polled : PolledSession) (other : Byte) :
    (loop.setSession address polled).getSession other =
      if other = address then some polled else loop.getSession other := by
  unfold getSession setSession at *
  rw [lookup_replace, hold]
  rfl

/-- A poll of an address that has a session: the session takes its own turn, the others
stay, and the queue gives the item. -/
structure PollSpec (config : PollSchedulerConfig) (before after : ControllerLoop)
    (address : Byte) (turn : BusTurn) (polled : PolledSession) : Prop where
  sessions : ∀ other, after.getSession other =
    if other = address then some (polled.turn config (before.turnAt address turn))
    else before.getSession other
  outbound : after.outbound = (before.outbound.popForAddress turn.now address).2
  accepted : after.accepted = before.accepted
  written : ∃ out, after.written = before.written ++ out ∧
    WritesOnly turn polled.session.address
      (before.outbound.popForAddress turn.now address).1 out

/-- A poll of the loop that returns is a turn of the session. -/
theorem turn_of_ok {polled : PolledSession} {readLoop : ReadLoop} {written : List DataOut}
    {item : Option OutboundDataItem} {turn : BusTurn} {after : BusState}
    (hreturned : pollOne config item turn ⟨polled, readLoop, written⟩ = .ok () after) :
    polled.turn config (resolve readLoop item turn) = after.polled := by
  have hone := pollOne_eq config ⟨polled, readLoop, written⟩ item turn
  rw [hreturned] at hone
  unfold PolledSession.turn
  dsimp only at hone
  rw [← hone]
  rfl

/-- And so is one that raises, with the text it leaves. -/
theorem turn_of_error {polled : PolledSession} {readLoop : ReadLoop} {written : List DataOut}
    {item : Option OutboundDataItem} {turn : BusTurn} {error : Raised} {after : BusState}
    (hraised : pollOne config item turn ⟨polled, readLoop, written⟩ = .error error after) :
    polled.turn config (resolve readLoop item turn) = { after.polled with
      session := after.polled.session.ignoreFrame
        s!"poll_error:{error.typeName}:{error.message}" } := by
  have hone := pollOne_eq config ⟨polled, readLoop, written⟩ item turn
  rw [hraised] at hone
  unfold PolledSession.turn
  dsimp only at hone
  rw [← hone]
  rfl

/-- The loop around a poll: the queue without the popped item, the reading behind the
frames that were taken, and the log. -/
def carry (loop : ControllerLoop) (address : Byte) (turn : BusTurn) (after : BusState) :
    ControllerLoop :=
  { loop with
    outbound := (loop.outbound.popForAddress turn.now address).2
    readLoop := after.readLoop
    written := after.written }

theorem poll_of_none {address : Byte} (hunknown : loop.getSession address = none)
    (turn : BusTurn) : loop.poll config address turn = loop := by
  unfold poll
  rw [hunknown]

theorem poll_of_ok {address : Byte} {polled : PolledSession} {turn : BusTurn} {after : BusState}
    (hpolled : loop.getSession address = some polled)
    (hreturned : pollOne config (loop.outbound.popForAddress turn.now address).1 turn
      ⟨polled, loop.readLoop, loop.written⟩ = .ok () after) :
    loop.poll config address turn = ((loop.carry address turn after).setSession address
      (polled.turn config (loop.turnAt address turn))).refreshTotals := by
  rw [show polled.turn config (loop.turnAt address turn) = after.polled from
    turn_of_ok hreturned]
  unfold poll
  rw [hpolled]
  dsimp only
  rw [hreturned]
  rfl

theorem poll_of_error {address : Byte} {polled : PolledSession} {turn : BusTurn}
    {error : Raised} {after : BusState} (hpolled : loop.getSession address = some polled)
    (hraised : pollOne config (loop.outbound.popForAddress turn.now address).1 turn
      ⟨polled, loop.readLoop, loop.written⟩ = .error error after) :
    loop.poll config address turn = (loop.carry address turn after).setSession address
      (polled.turn config (loop.turnAt address turn)) := by
  rw [show polled.turn config (loop.turnAt address turn) = _ from turn_of_error hraised]
  unfold poll
  rw [hpolled]
  dsimp only
  rw [hraised]
  rfl

theorem poll_spec (config : PollSchedulerConfig) {address : Byte} {polled : PolledSession}
    (hpolled : loop.getSession address = some polled) (turn : BusTurn) :
    PollSpec config loop (loop.poll config address turn) address turn polled := by
  have hlog := written_pollOne config ⟨polled, loop.readLoop, loop.written⟩
    (loop.outbound.popForAddress turn.now address).1 turn
  cases hresult : pollOne config (loop.outbound.popForAddress turn.now address).1 turn
      ⟨polled, loop.readLoop, loop.written⟩ with
  | ok value after =>
      rw [finalState_of_ok hresult] at hlog
      rw [poll_of_ok hpolled hresult]
      exact ⟨getSession_setSession (loop.carry address turn after) hpolled _, rfl, rfl, hlog⟩
  | error error after =>
      rw [finalState_of_error hresult] at hlog
      rw [poll_of_error hpolled hresult]
      exact ⟨getSession_setSession (loop.carry address turn after) hpolled _, rfl, rfl, hlog⟩

/-- One action takes the session at an address through its own turn, if it has one. -/
theorem getSession_step (address : Byte) (action : LoopAction) :
    (loop.step config action).getSession address =
      (loop.getSession address).map
        (·.run config (ownTurn address loop action).toList) := by
  cases action with
  | enqueue now item safety =>
      -- the queue is shared, the sessions are not concerned
      have hkept : (loop.enqueue now item safety).getSession address =
          loop.getSession address := by
        unfold enqueue
        split <;> rfl
      change (loop.enqueue now item safety).getSession address = _
      rw [hkept]
      exact Option.map_id'.symm
  | poll other turn =>
      change (loop.poll config other turn).getSession address = _
      cases hother : loop.getSession other with
      | none =>
          rw [poll_of_none hother]
          by_cases hsame : other = address
          · subst hsame
            rw [hother]
            rfl
          · have hown : ownTurn address loop (.poll other turn) = none := if_neg hsame
            rw [hown]
            exact Option.map_id'.symm
      | some polled =>
          rw [(poll_spec config hother turn).sessions address]
          by_cases hsame : other = address
          · subst hsame
            have hown : ownTurn other loop (.poll other turn) = some (loop.turnAt other turn) :=
              if_pos rfl
            rw [if_pos rfl, hown, hother]
            rfl
          · have hown : ownTurn address loop (.poll other turn) = none := if_neg hsame
            rw [if_neg (Ne.symm hsame), hown]
            exact Option.map_id'.symm

theorem getSession_run (config : PollSchedulerConfig) (loop : ControllerLoop)
    (address : Byte) (actions : List LoopAction) :
    (loop.run config actions).getSession address =
      (loop.getSession address).map (·.run config (turnsOf config address loop actions)) := by
  induction actions generalizing loop with
  | nil => exact Option.map_id'.symm
  | cons action later ih =>
      change ((loop.step config action).run config later).getSession address = _
      have hturns : turnsOf config address loop (action :: later) =
          (ownTurn address loop action).toList ++
            turnsOf config address (loop.step config action) later := rfl
      rw [ih, getSession_step, Option.map_map, hturns]
      refine congrArg (Option.map · (loop.getSession address)) (funext fun polled => ?_)
      exact List.foldl_append.symm

theorem getSession_create (addresses : List Byte) (policy : SequencePolicy)
    (outbound : OutboundQueue) (address : Byte) :
    (create addresses policy outbound).getSession address =
      if address ∈ addresses then
        some (PolledSession.start address s!"pump-{address.toNat}" policy)
      else none := by
  unfold getSession create
  dsimp only
  rw [lookup_map_key]
  simp only [List.mem_eraseDups]

/-- In any order of the polls, whatever arrives on the shared line, whichever writes and
reads raise and whatever is queued for whom, each session of the loop is where a session
polled alone comes to in its own turns. -/
theorem sessions_isolated (config : PollSchedulerConfig) (addresses : List Byte)
    (policy : SequencePolicy) (outbound : OutboundQueue) (actions : List LoopAction)
    {address : Byte} (haddress : address ∈ addresses) :
    ((create addresses policy outbound).run config actions).getSession address =
      some ((PolledSession.start address s!"pump-{address.toNat}" policy).run config
        (turnsOf config address (create addresses policy outbound) actions)) := by
  rw [getSession_run, getSession_create, if_pos haddress]
  rfl

/-- Two polls: the first one brings the second pump's EOT, and the read of the second one
raises. -/
def lateAnswer : List LoopAction :=
  round [1, 2] [{ now := 0, first := { chunks := [[0x02, 0x70, 0xFA]] } },
    { now := 0, first := { readError := some (.transportNotOpenError "not open") } }]

/-- The answer of the second pump arrives while the first one is polled. -/
theorem sessions_isolated_late_answer :
    ((create [1, 2] .SPEC_F_TO_1 ⟨32, []⟩).run {} lateAnswer).getSession 1 =
      some ((PolledSession.start 1 s!"pump-{(1 : Byte).toNat}" .SPEC_F_TO_1).run {}
        (turnsOf {} 1 (create [1, 2] .SPEC_F_TO_1 ⟨32, []⟩) lateAnswer)) :=
  sessions_isolated {} [1, 2] .SPEC_F_TO_1 ⟨32, []⟩ _ (by decide)

/-! ## The items on the line -/

/-- The items that were written to an address. -/
def writtenTo (loop : ControllerLoop) (address : Byte) : List OutboundDataItem :=
  (loop.written.filter (·.address = address)).map (·.item)

/-- What was written and what still waits came from the accepted items, in their order and
at most once each; every item was written to its own address before its expiry. -/
structure WritesInOrder (loop : ControllerLoop) : Prop where
  order : ∀ address,
    (loop.writtenTo address ++ loop.outbound.items.filter (·.address = address)).Sublist
      (loop.accepted.filter (·.address = address))
  own : ∀ out ∈ loop.written, out.item.address = out.address
  fresh : ∀ out ∈ loop.written, ¬ out.item.isExpired out.now
  framed : ∀ out ∈ loop.written, ∃ sequence,
    buildDataFrame out.address sequence out.item.applicationPayload = .ok out.wire

/-- Popping for one address takes items of the others only when they have expired, and of
its own the popped one and no later one. -/
theorem popped_order (queue : OutboundQueue) (now : Int) (address other : Byte) :
    ((queue.popForAddress now address).1.toList.filter (·.address = other) ++
        (queue.popForAddress now address).2.items.filter (·.address = other)).Sublist
      (queue.items.filter (·.address = other)) := by
  unfold OutboundQueue.popForAddress
  rw [OutboundQueue.popLoop_none]
  dsimp only
  by_cases hother : address = other
  · subst hother
    -- on the queue: everything in front of the popped item is expired or for others
    induction queue.items with
    | nil => exact List.Sublist.refl _
    | cons item rest ih =>
        by_cases hexpired : item.isExpired now
        · rw [List.find?_cons_of_neg (by simp [hexpired]), List.filter_cons_of_neg (by simpa)]
          exact ih.trans ((List.sublist_cons_self item rest).filter _)
        · rw [List.filter_cons_of_pos (by simpa)]
          by_cases haddress : item.address = address
          · rw [List.find?_cons_of_pos (by simp [hexpired, haddress]),
              List.eraseP_cons_of_pos (by simpa), ← List.filter_append]
            exact (List.filter_sublist.cons_cons item).filter _
          · rw [List.find?_cons_of_neg (by simp [haddress]),
              List.eraseP_cons_of_neg (by simpa), List.filter_cons_of_neg (by simpa),
              List.filter_cons_of_neg (by simpa)]
            exact ih
  · have hnone : (queue.items.find? fun item => ¬ item.isExpired now ∧
        item.address = address).toList.filter (·.address = other) = [] := by
      refine List.filter_eq_nil_iff.mpr fun item hitem => ?_
      have hfound := List.find?_some (Option.mem_toList.mp hitem)
      simp only [decide_eq_true_eq] at hfound ⊢
      rw [hfound.2]
      exact hother
    rw [hnone]
    exact (List.eraseP_sublist.trans List.filter_sublist).filter _

/-- A popped item is for the address and has not expired. -/
theorem popped_fresh {queue : OutboundQueue} {now : Int} {address : Byte}
    {item : OutboundDataItem} (hpopped : item ∈ (queue.popForAddress now address).1.toList) :
    item.address = address ∧ ¬ item.isExpired now := by
  unfold OutboundQueue.popForAddress at hpopped
  rw [OutboundQueue.popLoop_none] at hpopped
  have hfound := List.find?_some (Option.mem_toList.mp hpopped)
  simp only [decide_eq_true_eq] at hfound
  exact hfound.symm

theorem WritesInOrder.enqueue (horder : loop.WritesInOrder) (now : Int)
    (item : OutboundDataItem) (safety : ControllerSafetyContext) :
    (loop.enqueue now item safety).WritesInOrder := by
  unfold ControllerLoop.enqueue
  cases hqueue : loop.outbound.enqueue now item safety with
  | error error => exact horder
  | ok outbound =>
      obtain ⟨-, -, -, rfl⟩ := OutboundQueue.enqueue_ok hqueue
      refine ⟨fun address => ?_, horder.own, horder.fresh, horder.framed⟩
      change (loop.writtenTo address ++ (loop.outbound.items ++ [item]).filter _).Sublist
        ((loop.accepted ++ [item]).filter _)
      rw [List.filter_append, List.filter_append, ← List.append_assoc]
      exact (horder.order address).append (List.Sublist.refl _)

theorem WritesInOrder.poll (horder : loop.WritesInOrder)
    (haddressed : ∀ address polled, loop.getSession address = some polled →
      polled.session.address = address) (address : Byte) (turn : BusTurn) :
    (loop.poll config address turn).WritesInOrder := by
  cases hpolled : loop.getSession address with
  | none =>
      rw [poll_of_none hpolled]
      exact horder
  | some polled =>
      have hspec := poll_spec config hpolled turn
      obtain ⟨out, hwritten, hout⟩ := hspec.written
      rw [haddressed address polled hpolled] at hout
      have hfresh : ∀ new ∈ out, new.item.address = address ∧ ¬ new.item.isExpired turn.now :=
        fun new hnew => popped_fresh (hout.items.subset (List.mem_map_of_mem hnew))
      constructor
      · intro other
        unfold writtenTo
        rw [hwritten, hspec.outbound, hspec.accepted, List.filter_append, List.map_append,
          List.append_assoc]
        refine List.Sublist.trans (List.Sublist.append_left ?_ _) (horder.order other)
        refine List.Sublist.trans ?_ (popped_order loop.outbound turn.now address other)
        refine List.Sublist.append_right ?_ _
        -- the stamp and the item name the same address, so the filters agree
        have hown : (out.filter (·.address = other)).map (·.item) =
            (out.map (·.item)).filter (·.address = other) := by
          rw [List.filter_map]
          refine congrArg _ (List.filter_congr fun new hnew => ?_)
          dsimp only [Function.comp_apply]
          rw [(hout.stamped new hnew).2, (hfresh new hnew).1]
        rw [hown]
        exact hout.items.filter _
      · intro new hnew
        rw [hwritten] at hnew
        rcases List.mem_append.mp hnew with hold | hout'
        · exact horder.own new hold
        · rw [(hout.stamped new hout').2]
          exact (hfresh new hout').1
      · intro new hnew
        rw [hwritten] at hnew
        rcases List.mem_append.mp hnew with hold | hout'
        · exact horder.fresh new hold
        · rw [(hout.stamped new hout').1]
          exact (hfresh new hout').2
      · intro new hnew
        rw [hwritten] at hnew
        rcases List.mem_append.mp hnew with hold | hout'
        · exact horder.framed new hold
        · rw [(hout.stamped new hout').2]
          exact hout.framed new hout'

/-- A session keeps its address through its turns. -/
theorem address_turn (polled : PolledSession) (turn : PollTurn) :
    (polled.turn config turn).session.address = polled.session.address := by
  have hview := congrArg (·.line.address) (view_turn config polled turn)
  exact hview.trans (address_turned turn)

/-- What the runs of the loop keep, with the calls of its users so far. -/
structure Kept (loop : ControllerLoop) (actions : List LoopAction) : Prop where
  addressed : ∀ address polled, loop.getSession address = some polled →
    polled.session.address = address
  order : loop.WritesInOrder
  allowed : ∀ item ∈ loop.accepted, ∃ now safety,
    LoopAction.enqueue now item safety ∈ actions ∧
      (evaluateOutboundSafety item safety).allowed = true

theorem kept_create (addresses : List Byte) (policy : SequencePolicy) (maxSize : Int) :
    (create addresses policy ⟨maxSize, []⟩).Kept [] where
  addressed := by
    intro address polled hpolled
    rw [getSession_create] at hpolled
    split at hpolled
    · cases hpolled
      rfl
    · cases hpolled
  order := {
    order := fun _ => List.Sublist.refl _
    own := fun _ hout => absurd hout List.not_mem_nil
    fresh := fun _ hout => absurd hout List.not_mem_nil
    framed := fun _ hout => absurd hout List.not_mem_nil }
  allowed := fun _ hitem => absurd hitem List.not_mem_nil

theorem Kept.step {actions : List LoopAction} (hkept : loop.Kept actions)
    (action : LoopAction) : (loop.step config action).Kept (actions ++ [action]) := by
  have hearlier : ∀ item ∈ loop.accepted, ∃ now safety,
      LoopAction.enqueue now item safety ∈ actions ++ [action] ∧
        (evaluateOutboundSafety item safety).allowed = true := by
    intro item hitem
    obtain ⟨now, safety, hmem, hallowed⟩ := hkept.allowed item hitem
    exact ⟨now, safety, List.mem_append_left _ hmem, hallowed⟩
  constructor
  · intro address polled hpolled
    rw [getSession_step] at hpolled
    obtain ⟨before, hbefore, rfl⟩ := Option.map_eq_some_iff.mp hpolled
    rw [← hkept.addressed address before hbefore]
    cases ownTurn before.session.address loop action with
    | none => rfl
    | some turn => exact address_turn before turn
  · cases action with
    | poll address turn => exact hkept.order.poll hkept.addressed address turn
    | enqueue now item safety => exact hkept.order.enqueue now item safety
  · cases action with
    | poll address turn =>
        cases hpolled : loop.getSession address with
        | none =>
            change ∀ item ∈ (loop.poll config address turn).accepted, _
            rw [poll_of_none hpolled]
            exact hearlier
        | some polled =>
            change ∀ item ∈ (loop.poll config address turn).accepted, _
            rw [(poll_spec config hpolled turn).accepted]
            exact hearlier
    | enqueue now item safety =>
        change ∀ other ∈ (loop.enqueue now item safety).accepted, _
        unfold ControllerLoop.enqueue
        cases hqueue : loop.outbound.enqueue now item safety with
        | error error => exact hearlier
        | ok outbound =>
            intro other hother
            rcases List.mem_append.mp hother with hold | hnew
            · exact hearlier other hold
            · obtain rfl := List.mem_singleton.mp hnew
              exact ⟨now, safety, List.mem_append_right _ List.mem_cons_self,
                (OutboundQueue.enqueue_ok hqueue).1⟩

theorem Kept.run {before : List LoopAction} (hkept : loop.Kept before)
    (actions : List LoopAction) : (loop.run config actions).Kept (before ++ actions) := by
  induction actions generalizing loop before with
  | nil => exact (List.append_nil before).symm ▸ hkept
  | cons action later ih =>
      rw [List.append_cons]
      exact ih (hkept.step action)

/-- Through every run the items that go out to an address are accepted items for it, in
the order of their acceptance and each at most once.  Each is framed for its own address
before its expiry, and some caller's safety context allowed it. -/
theorem written_in_order (config : PollSchedulerConfig) (addresses : List Byte)
    (policy : SequencePolicy) (maxSize : Int) (actions : List LoopAction) :
    (∀ address,
      (((create addresses policy ⟨maxSize, []⟩).run config actions).writtenTo address).Sublist
        (((create addresses policy ⟨maxSize, []⟩).run config actions).accepted.filter
          (·.address = address))) ∧
    ∀ out ∈ ((create addresses policy ⟨maxSize, []⟩).run config actions).written,
      out.item.address = out.address ∧ ¬ out.item.isExpired out.now ∧
      (∃ sequence, buildDataFrame out.address sequence out.item.applicationPayload =
        .ok out.wire) ∧
      ∃ now safety, LoopAction.enqueue now out.item safety ∈ actions ∧
        (evaluateOutboundSafety out.item safety).allowed = true := by
  have hkept :
      ((create addresses policy ⟨maxSize, []⟩).run config actions).Kept ([] ++ actions) :=
    (kept_create addresses policy maxSize).run actions
  refine ⟨fun address => ?_, fun out hout => ?_⟩
  · exact (List.sublist_append_left _ _).trans (hkept.order.order address)
  · refine ⟨hkept.order.own out hout, hkept.order.fresh out hout, hkept.order.framed out hout, ?_⟩
    have hwritten : out.item ∈ ((create addresses policy ⟨maxSize, []⟩).run config
        actions).writtenTo out.address := by
      refine List.mem_map_of_mem (List.mem_filter.mpr ⟨hout, decide_eq_true rfl⟩)
    have haccepted := (List.sublist_append_left _ _).trans (hkept.order.order out.address)
    exact hkept.allowed _ (List.mem_filter.mp (haccepted.subset hwritten)).1

end

end ControllerLoop

end Link
end Intelipump
