import RemoteTerm.View
/-!
A stage for a view: a clock that moves only when told to, an exchange whose server answers as
scripted, and a surface and a clipboard that keep what was done to them.

A view on a stage handles one wake at a time, always the first that is ready, until none is. Only
then does a connect that it asked for begin. Of what is due at one instant, the view's timers and
the end of a connect, goes first what was set first.
-/

namespace RemoteTerm

namespace Stage

-- How the server treats connects.
inductive Manner where
  | accept
  | refuse
  -- The connect breaks down by itself, before any server has a say.
  | crash
deriving DecidableEq, Repr

structure Script where
  manner : Manner   := .accept
  delay  : Duration := .ofMillis 0
deriving DecidableEq

-- A connect that a view has asked for.
inductive Dial where
  | requested
  -- Beside its end, the timers that were armed when it began and have not been touched since.
  | ringing (due : Instant) (crashes : Bool) (earlier : List View.Timer)
  | done (channel : Option ChannelId)
deriving DecidableEq

inductive Phase where
  | cold
  | waiting
  | ended
deriving DecidableEq

-- What was done since the last report.
structure Journal where
  calls   : List Surface.Call := []
  notices : List Notice := []
  clips   : List String := []
deriving Inhabited

end Stage

structure Stage where
  view      : View
  phase     : Stage.Phase := .cold
  now       : Instant := 0
  -- Set as soon as the view is to close. The view looks at it before each wait.
  closing   : Bool := false
  -- Whether somebody still holds the view.
  held      : Bool := true
  queue     : List Command := []
  dial      : Option Stage.Dial := none
  attempts  : Nat := 0
  script    : Stage.Script := {}
  exchange  : Exchange := {}
  measured  : Option Grid := none
  selection : String := ""
  clipboard : Option Clipboard := none
  journal   : Stage.Journal := {}

namespace Stage

-- What happens to a view from outside.
inductive Step where
  -- The platform posts an event.
  | post (c : Command)
  -- The holder of the view calls it.
  | call (c : Command)
  | close
  | drop
  | shutdown
  | measure (grid : Option Grid)
  | select (text : String)
  | rescript (s : Script)
  | replaceClipboard (c : Option Clipboard)
  | serve (channel : Option ChannelId) (chunk : Bytes) (times : Nat)
  | hangUp (channel : Option ChannelId)
  | dismiss

inductive Answer where
  | nothing
  | posted (accepted : Bool)
  | noConnection
  | channelClosed
deriving DecidableEq, Repr

structure Report where
  now      : Instant
  frames   : List (ChannelId × Frame)
  connected : List ChannelId
  accepted : Nat
  attempts : Nat
  journal  : Journal
  status   : Status

def surroundings (s : Stage) : Surroundings where
  now       := s.now
  measured  := s.measured
  selection := s.selection
  clipboard := s.clipboard

-- A connect that is given up takes its channel with it, if it has one already.
def abandonDial (s : Stage) : Stage :=
  match s.dial with
  | some (.done (some channel)) =>
    { s with dial := none, exchange := s.exchange.closeClient channel }
  | _ => { s with dial := none }

def effect (s : Stage) : Effect → Stage
  | .transmit channel frame => { s with exchange := (s.exchange.send channel frame).1 }
  | .surface call => { s with journal := { s.journal with calls := s.journal.calls ++ [call] } }
  | .notice n => { s with journal := { s.journal with notices := s.journal.notices ++ [n] } }
  | .clip text => { s with journal := { s.journal with clips := s.journal.clips ++ [text] } }
  | .connect => { s with dial := some .requested }
  | .abandonConnect => s.abandonDial
  | .release channel => { s with exchange := s.exchange.closeClient channel }

-- Puts a new view on the stage, and carries out what it does.
def become (s : Stage) : View × List Effect → Stage
  | (view, effects) => effects.foldl effect { s with view }

def isDue (s : Stage) (t : View.Timer) : Bool :=
  (s.view.deadline? t).any (· ≤ s.now)

def ofTimer : View.Timer → Wake
  | .reconnect => .reconnectDue
  | .redraw    => .redrawDue
  | .resize    => .resizeSettled
  | .flush     => .flushDue

-- The first wake that is ready, and the stage without it.
def wake? (s : Stage) : Option (Wake × Stage) :=
  match s.queue with
  | c :: queue => some (.command c, { s with queue })
  | [] =>
    match s.dial with
    | some (.done channel) => some (.connected channel, { s with dial := none })
    | _ =>
      match s.view.channel.map s.exchange.receive with
      | some (exchange, .item bytes) => some (.output bytes, { s with exchange })
      | some (_, .ended)             => some (.ended, s)
      | _ =>
        (View.timers.find? s.isDue).map fun t => (ofTimer t, s)

-- Before each wait a view that is to close tears itself down, and one that is closed ends.
def beforeWait (s : Stage) : Stage :=
  let s := if s.closing then s.become (s.view.teardown s.now) else s
  { s with phase := if s.view.session.closed then .ended else .waiting }

-- The timers that a wake arms or disarms.
def touches : Wake → List View.Timer
  | .command .resized | .resizeSettled => [.resize]
  | .command (.touch _) | .flushDue    => [.flush]
  | .connected _                       => [.reconnect, .redraw]
  | .ended | .reconnectDue             => [.reconnect]
  | .redrawDue                         => [.redraw]
  | _                                  => []

-- A timer that a wake touches no longer counts as armed before the connect.
def forget (w : Wake) : Dial → Dial
  | .ringing due crashes earlier => .ringing due crashes (earlier.filter (· ∉ touches w))
  | d => d

def handle (s : Stage) (w : Wake) : Stage :=
  { s with dial := s.dial.map (forget w) }.become (s.view.handle s.surroundings w)

-- One turn of the view, if it has one to take.
def turn? (s : Stage) : Option Stage :=
  match s.phase with
  | .cold    => some (s.become (s.view.start s.now)).beforeWait
  | .waiting => s.wake?.map fun (w, s) => (s.handle w).beforeWait
  | .ended   => none

-- Takes turns while there are any.
def run : Nat → Stage → Stage
  | 0, s => s
  | fuel + 1, s =>
    match s.turn? with
    | some s => run fuel s
    | none   => s

-- More turns than a view can take on its own: each queued command and each waiting chunk is one, a
-- command arms at most two timers, and the rest is a handful.
def turns (s : Stage) : Nat :=
  3 * s.queue.length + (s.view.channel.bind s.exchange.channel?).elim 0 (·.output.length) + 16

def runView (s : Stage) : Stage :=
  run s.turns s

-- The end of a connect: whether it is accepted is seen now.
def answerDial (s : Stage) (crashes : Bool) : Stage :=
  if crashes then { s with dial := some (.done none) }
  else
    match { s.exchange with accepting := s.script.manner ≠ Manner.refuse }.connect with
    | (exchange, .ok channel) =>
      { s with dial := some (.done (some channel)), exchange := exchange.accept.1 }
    | (exchange, .error _) => { s with dial := some (.done none), exchange }

-- The beginning of a connect. It counts as an attempt from here on.
def beginDial (s : Stage) : Stage :=
  let crashes := s.script.manner = .crash
  let s := { s with attempts := s.attempts + 1 }
  if s.script.delay.nanos = 0 then s.answerDial crashes
  else
    let armed := View.timers.filter fun t => (s.view.deadline? t).isSome
    { s with dial := some (.ringing (s.now.after s.script.delay) crashes armed) }

-- Whether the view has a timer to handle that was set before the connect.
def viewGoesFirst (s : Stage) : Bool :=
  match s.dial with
  | some (.ringing _ _ earlier) => earlier.any s.isDue
  | _ => false

-- Ends a connect that is due.
def ring (s : Stage) : Stage :=
  match s.dial with
  | some (.ringing due crashes _) => if due ≤ s.now then s.answerDial crashes else s
  | _ => s

def settleFor : Nat → Stage → Stage
  | 0, s => s
  | fuel + 1, s =>
    let s := s.runView
    match s.dial with
    | some .requested => settleFor fuel s.beginDial
    | _ => s

-- Lets the view and its connects go on until nothing is ready. Each connect that ends at once uses
-- up an attempt of the session.
def settle (s : Stage) : Stage :=
  settleFor (s.view.session.policy.maxAttempts.toNat + 2)
    (if s.viewGoesFirst then s.runView else s).ring

-- The next instant at which something is due.
def nextDue? (s : Stage) : Option Instant :=
  let ringing :=
    match s.dial with
    | some (.ringing due _ _) => some due
    | _ => none
  (View.timers.filterMap s.view.deadline? ++ ringing.toList).min?

-- Moves the clock on, and stops whenever something is due.
def advance (s : Stage) (now target : Instant) : Stage :=
  match s.nextDue? with
  | some due =>
    if now < due ∧ due ≤ target then advance { s with now := due }.settle due target
    else { s with now := target }.settle
  | none => { s with now := target }.settle
termination_by target - now
decreasing_by simp only [Instant] at *; omega

-- Lets time pass. What is ready goes first, also on a view that has not begun.
def wait (s : Stage) (d : Duration) : Stage :=
  s.settle.advance s.now (s.now.after d)

-- Asks the view to close.
def requestClose (s : Stage) : Stage :=
  { s with closing := true, queue := s.queue ++ [.close] }

-- The newest channel that the server has accepted.
def newest? (s : Stage) : Option ChannelId :=
  match s.exchange.channels.length with
  | 0 => none
  | n + 1 => some n

-- Chunks of output from the server. Where the queue is full, the server waits for the view.
def serve (s : Stage) (channel : ChannelId) (chunk : Bytes) : Nat → Stage × Answer
  | 0 => (s, .nothing)
  | times + 1 =>
    let s := if (s.exchange.channel? channel).any (·.isFull) then s.runView else s
    match s.exchange.channel? channel with
    | none => (s, .noConnection)
    | some c =>
      if !c.serverOpen then (s, .noConnection)
      else if !c.clientOpen then (s, .channelClosed)
      else { s with exchange := s.exchange.push channel chunk }.serve channel chunk times

def take (s : Stage) : Step → Stage × Answer
  | .post c =>
    if s.phase = .ended then (s, .posted false)
    else ({ s with queue := s.queue ++ [c] }, .posted true)
  | .call c => (if s.held then { s with queue := s.queue ++ [c] } else s, .nothing)
  | .close => (if s.held then s.requestClose else s, .nothing)
  | .drop => (if s.held then { s.requestClose with held := false } else s, .nothing)
  | .shutdown => (if s.held then { s.requestClose with held := false }.runView else s, .nothing)
  | .measure grid => ({ s with measured := grid }, .nothing)
  | .select text => ({ s with selection := text }, .nothing)
  | .rescript script => ({ s with script }, .nothing)
  | .replaceClipboard c => ({ s with clipboard := s.clipboard.bind fun _ => c }, .nothing)
  | .serve channel chunk times =>
    match channel <|> s.newest? with
    | some channel => s.serve channel chunk times
    | none => (s, .noConnection)
  | .hangUp channel =>
    match channel <|> s.newest? with
    | some channel => ({ s with exchange := s.exchange.closeServer channel }, .nothing)
    | none => (s, .nothing)
  | .dismiss => ({ s with exchange := s.exchange.dismiss }, .nothing)

-- Takes several steps before the view gets a turn.
def takeAll (s : Stage) : List Step → Stage × List Answer
  | [] => (s, [])
  | step :: steps =>
    let (s, answer) := s.take step
    let (s, answers) := s.takeAll steps
    (s, answer :: answers)

-- The channels that are alive on both sides.
def openChannels (s : Stage) : List ChannelId :=
  s.exchange.channels.zipIdx.filterMap fun (c, i) => if c.isOpen then some i else none

-- The frames that have arrived at server ends.
def arrived (s : Stage) : List (ChannelId × Frame) :=
  s.exchange.channels.zipIdx.flatMap fun (c, i) => c.frames.map (i, ·)

-- What happened since the last report, and the stage after it.
def report (s : Stage) : Stage × Report :=
  ({ s with
     journal  := {}
     exchange := { s.exchange with
       channels := s.exchange.channels.map ({ · with frames := [] }) } },
   { now       := s.now
     frames    := s.arrived
     connected := s.openChannels
     accepted  := s.exchange.channels.length
     attempts  := s.attempts
     journal   := s.journal
     status    := s.view.status })

end Stage

end RemoteTerm
