import RemoteTerm.Proofs.View.Turn
/-!
A view among all that it deals with: a clock, a queue of commands, the connect that it has asked
for, and the server's side of its channels. Each of these goes on by itself, in any order.
-/

namespace RemoteTerm

namespace World

-- A connect that a view has asked for.
inductive Dial where
  | requested
  -- The connector has been called.
  | begun
  | done (channel : Option ChannelId)
deriving DecidableEq

-- Where a view stands in its loop. Between two waits it looks whether it is to close.
inductive Phase where
  | cold
  | checking
  | waiting
  | ended
deriving DecidableEq

-- What the steps of a world show of themselves.
inductive Label where
  | turn (t : Turn)
  -- A connect begins.
  | call (now : Instant)
  -- The server takes a frame from a channel.
  | arrive (channel : ChannelId) (frame : Frame)
  | quiet

end World

structure World where
  view     : View
  phase    : World.Phase := .cold
  now      : Instant := 0
  -- Set as soon as the view is to close.
  closing  : Bool := false
  queue    : List Command := []
  dial     : Option World.Dial := none
  exchange : Exchange := {}

-- What an exchange goes through by itself.
inductive Exchange.Moves (x : Exchange) : Exchange → Prop
  | accept : Moves x x.accept.1
  | gate (b) : Moves x { x with accepting := b }
  | dismiss : Moves x x.dismiss
  | push {c} (i chunk) : x.channel? i = some c → c.isOpen = true → Moves x (x.push i chunk)
  | hangUp (i) : Moves x (x.closeServer i)
  -- Somebody else connects.
  | stranger : Moves x x.connect.1

namespace World

def effect (w : World) : Effect → World
  | .transmit channel frame => { w with exchange := (w.exchange.send channel frame).1 }
  | .release channel        => { w with exchange := w.exchange.closeClient channel }
  | .connect                => { w with dial := some .requested }
  -- A connect that is given up takes its channel with it, if it has one already.
  | .abandonConnect         =>
    match w.dial with
    | some (.done (some channel)) =>
      { w with dial := none, exchange := w.exchange.closeClient channel }
    | _ => { w with dial := none }
  | _ => w

-- The view takes a turn, and is to look next whether it should close.
def take (w : World) (t : Turn) : World :=
  t.effects.foldl effect { w with view := t.after, phase := .checking }

-- A wake that is ready, and the world without it. Commands go before all else.
inductive Offers (w : World) : Wake → World → Prop
  | command {c cs} : w.queue = c :: cs → Offers w (.command c) { w with queue := cs }
  | abandoned : w.queue = [] → Offers w .abandoned w
  | connected {r} :
    w.queue = [] → w.dial = some (.done r) → Offers w (.connected r) { w with dial := none }
  | output {i x chunk} :
    w.queue = [] → w.view.channel = some i → w.exchange.receive i = (x, .item chunk) →
    Offers w (.output chunk) { w with exchange := x }
  | ended {i x} :
    w.queue = [] → w.view.channel = some i → w.exchange.receive i = (x, .ended) → Offers w .ended w
  | timer {t due} :
    w.queue = [] → w.view.deadline? t = some due → due ≤ w.now → Offers w (Stage.ofTimer t) w

inductive Step (w : World) : Label → World → Prop
  | pass (now) : w.now ≤ now → Step w .quiet { w with now }
  | post (c) : Step w .quiet { w with queue := w.queue ++ [c] }
  | close : Step w .quiet { w with closing := true, queue := w.queue ++ [.close] }
  | move {x} : w.exchange.Moves x → Step w .quiet { w with exchange := x }
  | arrive {i x f} :
    w.exchange.nextFrame i = (x, .item f) → Step w (.arrive i f) { w with exchange := x }
  | call : w.dial = some .requested → Step w (.call w.now) { w with dial := some .begun }
  | answer {x i} :
    w.dial = some .begun → w.exchange.connect = (x, .ok i) →
    Step w .quiet { w with dial := some (.done (some i)), exchange := x }
  | fail : w.dial = some .begun → Step w .quiet { w with dial := some (.done none) }
  | start (s : Surroundings) :
    w.phase = .cold → s.now = w.now →
    Step w (.turn ⟨w.view, s, .start⟩) (w.take ⟨w.view, s, .start⟩)
  | tearDown (s : Surroundings) :
    w.phase = .checking → w.closing = true → s.now = w.now →
    Step w (.turn ⟨w.view, s, .closing⟩) { w.take ⟨w.view, s, .closing⟩ with phase := .ended }
  | leave :
    w.phase = .checking → w.closing = false → w.view.session.closed = true →
    Step w .quiet { w with phase := .ended }
  | wait :
    w.phase = .checking → w.closing = false → w.view.session.closed = false →
    Step w .quiet { w with phase := .waiting }
  | wake {c w'} (s : Surroundings) :
    w.phase = .waiting → w.Offers c w' → s.now = w.now →
    Step w (.turn ⟨w.view, s, .wake c⟩) (w'.take ⟨w.view, s, .wake c⟩)

inductive Run (w₀ : World) : List Label → World → Prop
  | refl : Run w₀ [] w₀
  | step {ls w l w'} : Run w₀ ls w → Step w l w' → Run w₀ (ls ++ [l]) w'

-- A world before its view has begun.
structure Fresh (o : View.Options) (w : World) : Prop where
  view  : ∃ id, w.view = .create id o
  phase : w.phase = .cold
  dial  : w.dial = none

def Label.turn? : Label → Option Turn
  | turn t => some t
  | _      => none

def turns (ls : List Label) : List Turn :=
  ls.filterMap Label.turn?

end World

end RemoteTerm
