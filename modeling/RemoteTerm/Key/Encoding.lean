import RemoteTerm.Key
import RemoteTerm.Key.Control
import RemoteTerm.Modifiers
/-!
What a key sends under modifiers. Shift acts first, then Ctrl, and Alt puts an escape in front of
whatever came out.
-/

namespace RemoteTerm

namespace Key

-- Shift raises the letters a to z, and Ctrl asks for the control code of what Shift left.
def encodeChar (c : Char) (m : Modifiers) : Option Char :=
  let c := if m.shift && c.isLower then c.toUpper else c
  if m.ctrl then (controlCode c).map Char.ofUInt8 else some c

-- What a key sends before Alt is looked at.
def body (m : Modifiers) : Key → Option String
  | .modifier _ | .unidentified _ => none
  | .named .tab => some (if m.shift then NamedKey.sequence .backTab else NamedKey.sequence .tab)
  | .named k => some k.sequence
  | .char c => (encodeChar c m).map String.singleton

-- The encoding under modifiers that are held down.
def encodeHeld (k : Key) (m : Modifiers) : Option String :=
  (k.body m).map fun s => if m.alt then "\x1b" ++ s else s

-- The encoding under armed modifiers. Where none is armed there is nothing to apply.
def encodeLatched (k : Key) (m : Modifiers) : Option String :=
  if m.isEmpty then none else k.encodeHeld m

end Key

-- Armed modifiers change the first character of a chunk of text and leave the rest alone.
def encodeTextLatched (chunk : String) (m : Modifiers) : Option String :=
  match chunk.toList with
  | [] => none
  | c :: rest => (Key.encodeLatched (.char c) m).map (· ++ String.ofList rest)

end RemoteTerm
