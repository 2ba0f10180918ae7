import RemoteTerm.Time
/-!
Single-finger touch. A contact is a tap, a scroll or neither, and it is decided once: a tap never
scrolls. While a contact scrolls, movement is collected and let out as wheel deltas that keep a
minimum distance in time.
-/

namespace RemoteTerm

-- A position in pixels.
structure Point where
  x : Float
  y : Float
deriving Inhabited

namespace Touch

-- Vertical travel beyond which a contact scrolls.
def scrollThreshold : Float := 12

-- Pixels on the wheel for each pixel of the finger.
def scrollGain : Float := 3

-- The least time between two wheel deltas.
def flushInterval : Duration := .ofMillis 16

-- A tap is shorter than this.
def tapDuration : Duration := .ofMillis 300

-- A tap travels less than this on either axis.
def tapTravel : Float := 10

-- The larger of two numbers. An operand that is not a number does not count.
def larger (a b : Float) : Float :=
  if a.isNaN then b
  else if b.isNaN then a
  else if a < b then b
  else a

structure Contact where
  origin    : Point
  startedAt : Instant
  -- The largest distance from the origin so far, on each axis.
  travel    : Point := ⟨0, 0⟩
  lastY     : Float
  -- Wheel delta that is not let out yet.
  pending   : Float := 0
  lastFlush : Option Instant := none
deriving Inhabited

namespace Contact

def start (p : Point) (now : Instant) : Contact where
  origin    := p
  startedAt := now
  lastY     := p.y

def recordTravel (c : Contact) (p : Point) : Contact :=
  { c with travel :=
    ⟨larger c.travel.x (p.x - c.origin.x).abs, larger c.travel.y (p.y - c.origin.y).abs⟩ }

def crossesThreshold (c : Contact) (p : Point) : Bool :=
  scrollThreshold < (p.y - c.origin.y).abs

-- The finger and the wheel go opposite ways.
def scrollTo (c : Contact) (p : Point) : Contact :=
  { c with lastY := p.y, pending := c.pending + -(p.y - c.lastY) * scrollGain }

def hasPending (c : Contact) : Bool :=
  c.pending != 0

def isDue (c : Contact) (now : Instant) : Bool :=
  match c.lastFlush with
  | none    => true
  | some last => flushInterval.nanos ≤ now.since last

-- Lets the pending delta out, if there is one and it is due.
def flush (c : Contact) (now : Instant) : Contact × Option Float :=
  if c.hasPending && c.isDue now then
    ({ c with lastFlush := now, pending := 0 }, some c.pending)
  else
    (c, none)

def isStill (c : Contact) : Bool :=
  c.travel.x < tapTravel && c.travel.y < tapTravel

end Contact

-- The state of a touch surface.
inductive Tracker where
  | idle
  | tracking (c : Contact)
  | scrolling (c : Contact)
deriving Inhabited

inductive Phase where
  | idle
  | tracking
  | scrolling
deriving DecidableEq, Repr

-- What to do after a move.
structure Move where
  -- The host must not scroll or select by itself.
  preventDefault : Bool := false
  delta          : Option Float := none

inductive End where
  | tap
  -- What was still pending goes out with the end of the contact.
  | scroll (rest : Option Float)
  | ignored

-- What a touch surface reports.
inductive Event where
  | start (points : List Point)
  | move (points : List Point)
  | finish (point : Option Point)
  | cancel

namespace Tracker

def phase : Tracker → Phase
  | idle        => .idle
  | tracking _  => .tracking
  | scrolling _ => .scrolling

-- Only one finger is followed. With more the surface is left to the host.
def start (points : List Point) (now : Instant) : Tracker :=
  match points with
  | [p] => tracking (.start p now)
  | _   => idle

-- A contact that crosses the threshold scrolls from that move on.
def classify (p : Point) : Tracker → Tracker
  | tracking c =>
    let c := c.recordTravel p
    if c.crossesThreshold p then scrolling c else tracking c
  | t => t

def move (t : Tracker) (points : List Point) (now : Instant) : Tracker × Move :=
  match points with
  | [p] =>
    match t.classify p with
    | scrolling c =>
      let (c, delta) := (c.scrollTo p).flush now
      (scrolling c, ⟨true, delta⟩)
    | t => (t, {})
  | _ => (t, {})

-- Lets out what came in during the interval, when no move does it.
def poll (t : Tracker) (now : Instant) : Tracker × Option Float :=
  match t with
  | scrolling c =>
    let (c, delta) := c.flush now
    (scrolling c, delta)
  | t => (t, none)

-- When the pending delta may go out.
def nextFlush : Tracker → Option Instant
  | scrolling c =>
    if c.hasPending then
      match c.lastFlush with
      | some last => some (last.after flushInterval)
      | none     => some c.startedAt
    else none
  | _ => none

def finish (t : Tracker) (point : Option Point) (now : Instant) : Tracker × End :=
  match t with
  | idle => (idle, .ignored)
  | scrolling c => (idle, .scroll (if c.hasPending then some c.pending else none))
  | tracking c =>
    let c := point.elim c c.recordTravel
    if now.since c.startedAt < tapDuration.nanos && c.isStill then (idle, .tap)
    else (idle, .ignored)

def cancel (_ : Tracker) : Tracker := idle

end Tracker

end Touch

end RemoteTerm
