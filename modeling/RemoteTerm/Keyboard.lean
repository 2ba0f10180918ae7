import RemoteTerm.Latch
/-!
Where local input goes: key presses, composed text and on-screen buttons become input for the
remote side, a clipboard request, or nothing.
-/

namespace RemoteTerm

-- A key press together with the modifiers held down meanwhile. The command key counts only for
-- clipboard chords and otherwise belongs to the host.
structure KeyPress where
  key     : Key
  held    : Modifiers := ∅
  command : Bool := false
deriving DecidableEq, Repr

inductive Route where
  | send (text : String)
  | copy
  | paste
  | ignore
deriving DecidableEq, Repr

namespace KeyPress

-- Ctrl with Shift, or the command key, asks for the clipboard with C and V.
def isChord (p : KeyPress) : Bool :=
  (p.held.ctrl && p.held.shift) || p.command

def clipboardRoute? (p : KeyPress) : Option Route :=
  match p.key with
  | .char c =>
    if !p.isChord then none
    else if c.toLower = 'c' then some .copy
    else if c.toLower = 'v' then some .paste
    else none
  | _ => none

-- The route under the held modifiers alone.
def heldRoute (p : KeyPress) : Route :=
  if p.command then .ignore
  else
    match p.key.encodeHeld p.held with
    | some s => .send s
    | none   => .ignore

end KeyPress

namespace Latch

-- An armed latch goes before the held modifiers, and clipboard chords go before both.
def routeKey (l : Latch) (p : KeyPress) : Latch × Route :=
  match p.clipboardRoute? with
  | some r => (l, r)
  | none =>
    if p.key.isModifier then (l, .ignore)
    else
      match l.encodeKey p.key with
      | (l', some s) => (l', .send s)
      | (_, none)    => (l, p.heldRoute)

def routeText (l : Latch) (chunk : String) : Latch × String :=
  let (l', text) := l.encodeText chunk
  (l', text.data)

def routeButton (l : Latch) (k : NamedKey) : Latch × Option String :=
  match l.encodeKey (.named k) with
  | (l', some s) => (l', some s)
  | (_, none)    => (l, k.buttonSequence?)

end Latch

end RemoteTerm
