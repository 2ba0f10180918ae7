import RemoteTerm.Grid
/-!
Control frames: what a view tells the server.
-/

namespace RemoteTerm

inductive Frame where
  | input (data : String)
  | resize (size : Grid)
deriving DecidableEq, Repr

namespace Frame

-- The kinds of frame, by the name that they have on the wire.
inductive Kind where
  | input
  | resize
deriving DecidableEq, Repr

namespace Kind

def name : Kind → String
  | input  => "input"
  | resize => "resize"

def ofName? (s : String) : Option Kind :=
  if s = "input" then some .input
  else if s = "resize" then some .resize
  else none

theorem ofName?_eq_some_iff {s : String} {k : Kind} : ofName? s = some k ↔ s = k.name := by
  cases k <;> (simp only [ofName?, name]; split <;> simp_all)

end Kind

def kind : Frame → Kind
  | .input _  => .input
  | .resize _ => .resize

end Frame

end RemoteTerm
