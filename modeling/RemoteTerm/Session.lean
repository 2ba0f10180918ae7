import RemoteTerm.Bytes
import RemoteTerm.Frame
import RemoteTerm.Session.Notice
import RemoteTerm.Session.Policy
/-!
The life of a session. A session never touches a channel or a timer: it is told what happened, and
answers with what is to be done.
-/

namespace RemoteTerm

-- Where the connection stands.
inductive Connection where
  | connecting
  | connected
  -- Waiting for this attempt, or making it. Attempts are counted from one.
  | reconnecting (attempt : UInt32)
  | exhausted
deriving DecidableEq, Repr, Inhabited

inductive Action where
  | send (frame : Frame)
  | write (bytes : Bytes)
  | resize (size : Grid)
  | notify (notice : Notice)
  | armReconnect (delay : Duration)
  | armRedraw (delay : Duration)
  | openChannel
  | closeChannel
  | cancelTimers
deriving DecidableEq

structure Session where
  connection  : Connection := .connecting
  policy      : Policy     := {}
  redrawDelay : Duration   := .ofMillis 75
  -- Once a session is closed it stays closed, whatever the connection was at that time.
  closed      : Bool       := false
  -- The size last agreed on.
  grid        : Option Grid := none
deriving DecidableEq, Inhabited

namespace Session

inductive Event where
  | start
  | opened (measured : Option Grid)
  | redrawDue
  | output (bytes : Bytes)
  | lost
  | reconnectDue
  | input (text : String)
  | viewport (measured : Option Grid)
  | teardown
deriving DecidableEq

-- Written to the surface once for each connection that was lost.
def lostMarker : String := "\r\n\x1b[31m[connection lost, reconnecting]\x1b[0m\r\n"

def isConnected (s : Session) : Bool :=
  s.connection = .connected && !s.closed

def start (s : Session) : Session × List Action :=
  if s.closed then (s, [])
  else ({ s with connection := .connecting }, [.openChannel])

-- Tells the surface and the server a size, and the server a narrower one right after it. The true
-- size follows when the redraw timer is due.
def negotiate (s : Session) (size : Grid) : Session × List Action :=
  ({ s with grid := size },
   [.resize size, .send (.resize size), .send (.resize size.narrowed), .armRedraw s.redrawDelay])

-- A channel that opens after the view has gone is closed again.
def opened (s : Session) (measured : Option Grid) : Session × List Action :=
  if s.closed then (s, [.closeChannel])
  else
    let welcome : List Action :=
      match s.connection with
      | .reconnecting _ => [.notify .reconnected]
      | _               => []
    let s := { s with connection := .connected }
    match measured <|> s.grid with
    | some size =>
      let (s, actions) := s.negotiate size
      (s, actions ++ welcome)
    | none => (s, welcome)

def redrawDue (s : Session) : Session × List Action :=
  match s.isConnected, s.grid with
  | true, some size => (s, [.send (.resize size)])
  | _, _            => (s, [])

def output (s : Session) (bytes : Bytes) : Session × List Action :=
  if s.closed || bytes.isEmpty then (s, []) else (s, [.write bytes])

-- The next attempt, where the last one counts from zero, or the end of all attempts.
def retry (s : Session) (attempt : UInt32) : Session × List Action :=
  if s.policy.maxAttempts ≤ attempt then
    ({ s with connection := .exhausted }, [.notify .gaveUp])
  else
    ({ s with connection := .reconnecting (attempt + 1) },
     [.notify (.reconnecting (attempt + 1) s.policy.maxAttempts),
      .armReconnect (s.policy.delay attempt)])

-- The channel closed, or could not be opened.
def lost (s : Session) : Session × List Action :=
  if s.closed then (s, [])
  else
    match s.connection with
    | .exhausted => (s, [])
    | .reconnecting attempt => s.retry attempt
    | .connecting | .connected =>
      let (s, actions) := s.retry 0
      (s, .write (Bytes.ofString lostMarker) :: actions)

def reconnectDue (s : Session) : Session × List Action :=
  if s.closed then (s, [])
  else
    match s.connection with
    | .reconnecting _ => (s, [.openChannel])
    | _ => (s, [])

-- Input is dropped while there is no connection. It is never kept for the next one.
def input (s : Session) (text : String) : Session × List Action :=
  if text.isEmpty || !s.isConnected then (s, []) else (s, [.send (.input text)])

def viewport (s : Session) (measured : Option Grid) : Session × List Action :=
  match measured with
  | none => (s, [])
  | some size =>
    if s.closed || s.grid = some size then (s, [])
    else
      ({ s with grid := size },
       .resize size :: if s.connection = .connected then [.send (.resize size)] else [])

def teardown (s : Session) : Session × List Action :=
  if s.closed then (s, [])
  else ({ s with closed := true }, [.cancelTimers, .closeChannel])

def step (s : Session) : Event → Session × List Action
  | .start          => s.start
  | .opened m       => s.opened m
  | .redrawDue      => s.redrawDue
  | .output bytes   => s.output bytes
  | .lost           => s.lost
  | .reconnectDue   => s.reconnectDue
  | .input text     => s.input text
  | .viewport m     => s.viewport m
  | .teardown       => s.teardown

-- The actions of a run, one list for each event.
def run (s : Session) : List Event → Session × List (List Action)
  | [] => (s, [])
  | e :: es =>
    let (s, actions) := s.step e
    let (s, rest) := s.run es
    (s, actions :: rest)

end Session

end RemoteTerm
