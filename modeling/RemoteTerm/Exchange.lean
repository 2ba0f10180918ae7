import RemoteTerm.Frame
import RemoteTerm.Bytes
/-!
An exchange inside one process: the client opens channels, a server accepts them, and each channel
is a queue of frames one way and a queue of output the other way.

What is queued stays receivable after the sending side is gone, and is lost with the receiving side.
-/

namespace RemoteTerm

-- Channels are numbered in the order of their opening.
abbrev ChannelId := Nat

inductive TransportError where
  | refused (reason : String)
  | closed
deriving DecidableEq, Repr

def TransportError.message : TransportError → String
  | refused reason => s!"connection refused: {reason}"
  | closed         => "channel closed"

-- The answer of a queue.
inductive Receipt (α : Type) where
  | item (a : α)
  -- Nothing is there, but something may still come.
  | waiting
  | ended
deriving DecidableEq, Repr

-- Why a server cannot push more output.
inductive Stop where
  | full
  | closed
deriving DecidableEq, Repr

structure Channel where
  frames     : List Frame := []
  output     : List Bytes := []
  accepted   : Bool := false
  clientOpen : Bool := true
  serverOpen : Bool := true
deriving DecidableEq, Inhabited

namespace Channel

-- How many chunks of output wait at most.
def capacity : Nat := 256

def isOpen (c : Channel) : Bool :=
  c.clientOpen && c.serverOpen

def send (c : Channel) (frame : Frame) : Channel × Except TransportError Unit :=
  if c.serverOpen then ({ c with frames := c.frames ++ [frame] }, .ok ()) else (c, .error .closed)

def receive (c : Channel) : Channel × Receipt Bytes :=
  match c.output with
  | chunk :: rest => ({ c with output := rest }, .item chunk)
  | [] => (c, if c.serverOpen then .waiting else .ended)

def nextFrame (c : Channel) : Channel × Receipt Frame :=
  match c.frames with
  | frame :: rest => ({ c with frames := rest }, .item frame)
  | [] => (c, if c.clientOpen then .waiting else .ended)

def isFull (c : Channel) : Bool :=
  capacity ≤ c.output.length

def push (c : Channel) (chunk : Bytes) : Channel :=
  { c with output := c.output ++ [chunk] }

def closeClient (c : Channel) : Channel :=
  { c with clientOpen := false, output := [] }

def closeServer (c : Channel) : Channel :=
  { c with serverOpen := false, frames := [] }

end Channel

structure Exchange where
  accepting : Bool := true
  -- Whether there is a server to accept what was opened.
  present   : Bool := true
  attempts  : Nat  := 0
  channels  : List Channel := []
deriving DecidableEq, Inhabited

namespace Exchange

def channel? (x : Exchange) (i : ChannelId) : Option Channel :=
  x.channels[i]?

def modify (x : Exchange) (i : ChannelId) (f : Channel → Channel) : Exchange :=
  { x with channels := x.channels.modify i f }

-- Every call counts as an attempt, also one that is refused.
def connect (x : Exchange) : Exchange × Except TransportError ChannelId :=
  let x := { x with attempts := x.attempts + 1 }
  if !x.accepting then (x, .error (.refused "memory server not accepting"))
  else if !x.present then (x, .error (.refused "memory server dropped"))
  else ({ x with channels := x.channels ++ [{}] }, .ok x.channels.length)

-- The first channel that nobody has accepted yet.
def accept (x : Exchange) : Exchange × Option ChannelId :=
  match x.channels.findIdx? (!·.accepted) with
  | some i => (x.modify i ({ · with accepted := true }), some i)
  | none   => (x, none)

-- The server goes away with the channels that it has not accepted. The others stay.
def dismiss (x : Exchange) : Exchange :=
  { x with
    present  := false
    channels := x.channels.map fun c => if c.accepted then c else c.closeServer }

def send (x : Exchange) (i : ChannelId) (frame : Frame) : Exchange × Except TransportError Unit :=
  match x.channel? i with
  | some c =>
    let (c, result) := c.send frame
    (x.modify i fun _ => c, result)
  | none => (x, .error .closed)

def receive (x : Exchange) (i : ChannelId) : Exchange × Receipt Bytes :=
  match x.channel? i with
  | some c =>
    let (c, receipt) := c.receive
    (x.modify i fun _ => c, receipt)
  | none => (x, .ended)

def nextFrame (x : Exchange) (i : ChannelId) : Exchange × Receipt Frame :=
  match x.channel? i with
  | some c =>
    let (c, receipt) := c.nextFrame
    (x.modify i fun _ => c, receipt)
  | none => (x, .ended)

-- All frames that wait on a channel.
def drain (x : Exchange) (i : ChannelId) : Exchange × List Frame :=
  match x.channel? i with
  | some c => (x.modify i ({ · with frames := [] }), c.frames)
  | none   => (x, [])

def push (x : Exchange) (i : ChannelId) (chunk : Bytes) : Exchange :=
  x.modify i (·.push chunk)

-- Pushes a chunk so many times without waiting for room. It stops at the first that cannot be
-- taken, and gives the number of those that were.
def pushTimes (x : Exchange) (i : ChannelId) (chunk : Bytes) : Nat → Exchange × Nat × Option Stop
  | 0 => (x, 0, none)
  | times + 1 =>
    match x.channel? i with
    | none => (x, 0, some .closed)
    | some c =>
      if !c.clientOpen then (x, 0, some .closed)
      else if c.isFull then (x, 0, some .full)
      else
        let (x, taken, stop) := (x.push i chunk).pushTimes i chunk times
        (x, taken + 1, stop)

def closeClient (x : Exchange) (i : ChannelId) : Exchange :=
  x.modify i Channel.closeClient

def closeServer (x : Exchange) (i : ChannelId) : Exchange :=
  x.modify i Channel.closeServer

end Exchange

end RemoteTerm
