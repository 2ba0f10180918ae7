import RemoteTerm.Clipboard
import RemoteTerm.Exchange
import RemoteTerm.Keyboard
import RemoteTerm.Surface
import RemoteTerm.Touch
import RemoteTerm.View.Status
/-!
A view: one session, one latch and one touch surface, with the channel and the timers that they
share. A view handles one wake at a time. What it does to the world outside comes out as a list of
effects, and what it asks of that world is in the surroundings of the wake.
-/

namespace RemoteTerm

-- What users of a view ask of it, and what its platform reports.
inductive Command where
  | focus
  | input (text : String)
  | paste
  | close
  | press (p : KeyPress)
  | compose (chunk : String)
  | toggle (m : Modifier)
  | button (k : NamedKey)
  | touch (e : Touch.Event)
  | resized
deriving Inhabited

inductive Wake where
  | command (c : Command)
  -- Nobody is left who could command the view.
  | abandoned
  -- A connect has finished, with a channel or without.
  | connected (channel : Option ChannelId)
  | output (bytes : Bytes)
  -- The output of the channel has ended.
  | ended
  | reconnectDue
  | redrawDue
  | resizeSettled
  | flushDue

-- What a view can look up while it handles a wake.
structure Surroundings where
  now       : Instant
  measured  : Option Grid := none
  selection : String := ""
  clipboard : Option Clipboard := none

inductive Effect where
  | transmit (channel : ChannelId) (frame : Frame)
  | surface (call : Surface.Call)
  | notice (n : Notice)
  | clip (text : String)
  | connect
  | abandonConnect
  | release (channel : ChannelId)

structure View where
  id          : Uuid
  session     : Session
  latch       : Latch         := {}
  touch       : Touch.Tracker := .idle
  channel     : Option ChannelId := none
  connecting  : Bool := false
  reconnectAt : Option Instant := none
  redrawAt    : Option Instant := none
  resizeAt    : Option Instant := none
  flushAt     : Option Instant := none
  debounce    : Duration
  lastNotice  : Option String := none
  -- What was published last, and how often those who follow it were told of a change.
  status      : Status := .initial id
  changes     : Nat    := 0
deriving Inhabited

-- The timers of a view.
inductive View.Timer where
  | reconnect
  | redraw
  | resize
  | flush
deriving DecidableEq, Repr

-- The timing of a view.
structure View.Options where
  policy      : Policy   := {}
  redrawDelay : Duration := .ofMillis 75
  debounce    : Duration := .ofMillis 100
deriving DecidableEq, Inhabited

namespace View

def create (id : Uuid) (o : Options) : View where
  id       := id
  session  := { policy := o.policy, redrawDelay := o.redrawDelay }
  debounce := o.debounce

-- When a timer is due, if it is armed.
def deadline? (v : View) : Timer → Option Instant
  | .reconnect => v.reconnectAt
  | .redraw    => v.redrawAt
  | .resize    => v.resizeAt
  | .flush     => v.flushAt

-- The timers in the order in which a view looks at them.
def timers : List Timer := [.reconnect, .redraw, .resize, .flush]

-- The status that the live state calls for.
def snapshot (v : View) : Status where
  viewId     := v.id
  connection := v.session.connection
  latched    := v.latch.armed
  cols       := v.session.grid.map Grid.cols
  rows       := v.session.grid.map Grid.rows
  lastNotice := v.lastNotice
  closed     := v.session.closed

-- Who follows the status is told of it only if it is not what was published before.
def publish (v : View) : View :=
  { v with
    status  := v.snapshot
    changes := if v.status = v.snapshot then v.changes else v.changes + 1 }

def release (v : View) : View × List Effect :=
  ({ v with channel := none }, (v.channel.map Effect.release).toList)

-- Carries out what the session asks for.
def perform (now : Instant) (v : View) : Action → View × List Effect
  | .send frame       => (v, (v.channel.map (Effect.transmit · frame)).toList)
  | .write bytes      => (v, [.surface (.write bytes)])
  | .resize size      => (v, [.surface (.resize size)])
  | .notify n         => ({ v with lastNotice := n.message }, [.notice n])
  | .armReconnect d   => ({ v with reconnectAt := now.after d }, [])
  | .armRedraw d      => ({ v with redrawAt := now.after d }, [])
  | .openChannel      =>
    if v.connecting then (v, []) else ({ v with connecting := true }, [.connect])
  | .closeChannel     =>
    let (v, effects) := v.release
    ({ v with connecting := false }, effects ++ if v.connecting then [.abandonConnect] else [])
  | .cancelTimers     =>
    ({ v with reconnectAt := none, redrawAt := none, resizeAt := none, flushAt := none }, [])

def performAll (now : Instant) (v : View) : List Action → View × List Effect
  | [] => (v, [])
  | a :: rest =>
    let (v, effects) := v.perform now a
    let (v, more) := v.performAll now rest
    (v, effects ++ more)

-- Hands an event to the session.
def tell (v : View) (e : Session.Event) : View × List Action :=
  let (session, actions) := v.session.step e
  ({ v with session }, actions)

-- While there is no connection, input would be dropped, and what is dropped must not use up the
-- latch. So it only takes effect on a connected view.
def keepLatch (v : View) (l : Latch) : View :=
  if v.session.isConnected then { v with latch := l } else v

def surfaceScroll (delta : Option Float) : List Effect :=
  (delta.map fun d => .surface (.scroll d)).toList

def rearmFlush (v : View) : View :=
  { v with flushAt := v.touch.nextFlush }

def paste (v : View) (s : Surroundings) : View × List Action :=
  match Clipboard.paste s.clipboard with
  | .ok text     => v.tell (.input text)
  | .error notice => (v, [.notify notice])

def copy (v : View) (s : Surroundings) : View × List Effect × List Action :=
  let (written, notice) := Clipboard.copy s.clipboard s.selection
  (v, (written.map Effect.clip).toList, (notice.map Action.notify).toList)

def press (v : View) (s : Surroundings) (p : KeyPress) : View × List Effect × List Action :=
  let (latch, route) := v.latch.routeKey p
  let v' := v.keepLatch latch
  match route with
  | .send text => let (v', actions) := v'.tell (.input text); (v', [], actions)
  | .copy      => v'.copy s
  | .paste     => let (v', actions) := v'.paste s; (v', [], actions)
  | .ignore    => (v', [], [])

def compose (v : View) (chunk : String) : View × List Action :=
  let (latch, text) := v.latch.routeText chunk
  (v.keepLatch latch).tell (.input text)

def button (v : View) (k : NamedKey) : View × List Action :=
  let (latch, text) := v.latch.routeButton k
  match text with
  | some text => (v.keepLatch latch).tell (.input text)
  | none      => (v.keepLatch latch, [])

-- Touch concerns the tracker, its timer, and the surface's focus and scrolling.
def feel (v : View) (now : Instant) : Touch.Event → View × List Effect
  | .start points => ({ v with touch := .start points now, flushAt := none }, [])
  | .move points =>
    let (touch, move) := v.touch.move points now
    (rearmFlush { v with touch }, surfaceScroll move.delta)
  | .finish point =>
    let (touch, finish) := v.touch.finish point now
    let effects :=
      match finish with
      | .tap         => [.surface .focus]
      | .scroll rest => surfaceScroll rest
      | .ignored     => []
    ({ v with touch, flushAt := none }, effects)
  | .cancel => ({ v with touch := v.touch.cancel, flushAt := none }, [])

-- Obeys a command: what that does at once, and the actions that the session asks for.
def obey (v : View) (s : Surroundings) : Command → View × List Effect × List Action
  | .focus         => (v, [.surface .focus], [])
  | .input text    => let (v, actions) := v.tell (.input text); (v, [], actions)
  | .paste         => let (v, actions) := v.paste s; (v, [], actions)
  | .close         => let (v, actions) := v.tell .teardown; (v, [], actions)
  | .press p       => v.press s p
  | .compose chunk => let (v, actions) := v.compose chunk; (v, [], actions)
  | .toggle m      => ({ v with latch := v.latch.toggle m }, [], [])
  | .button k      => let (v, actions) := v.button k; (v, [], actions)
  | .touch e       => let (v, effects) := v.feel s.now e; (v, effects, [])
  -- Each report starts the quiet period again.
  | .resized       => ({ v with resizeAt := s.now.after v.debounce }, [], [])

-- What a wake does before the session's actions are carried out.
def react (v : View) (s : Surroundings) : Wake → View × List Effect × List Action
  | .command c => v.obey s c
  | .abandoned => let (v, actions) := v.tell .teardown; (v, [], actions)
  | .connected (some channel) =>
    let (v, actions) :=
      tell { v with connecting := false, channel := some channel } (.opened s.measured)
    (v, [], actions)
  | .connected none =>
    let (v, actions) := tell { v with connecting := false } .lost
    (v, [], actions)
  | .output bytes => let (v, actions) := v.tell (.output bytes); (v, [], actions)
  | .ended =>
    let (v, effects) := v.release
    let (v, actions) := v.tell .lost
    (v, effects, actions)
  | .reconnectDue =>
    let (v, actions) := tell { v with reconnectAt := none } .reconnectDue
    (v, [], actions)
  | .redrawDue =>
    let (v, actions) := tell { v with redrawAt := none } .redrawDue
    (v, [], actions)
  | .resizeSettled =>
    let (v, actions) := tell { v with resizeAt := none } (.viewport s.measured)
    (v, [], actions)
  | .flushDue =>
    let (touch, delta) := v.touch.poll s.now
    (rearmFlush { v with touch }, surfaceScroll delta, [])

-- Handles a wake and publishes the status.
def handle (v : View) (s : Surroundings) (w : Wake) : View × List Effect :=
  let (v, effects, actions) := v.react s w
  let (v, more) := v.performAll s.now actions
  (v.publish, effects ++ more)

-- The first thing that a view does.
def start (v : View) (now : Instant) : View × List Effect :=
  let (v, actions) := v.tell .start
  let (v, effects) := v.performAll now actions
  (v.publish, effects)

-- The last thing that a view does.
def teardown (v : View) (now : Instant) : View × List Effect :=
  let (v, actions) := v.tell .teardown
  let (v, effects) := v.performAll now actions
  (v.publish, effects)

end View

end RemoteTerm
