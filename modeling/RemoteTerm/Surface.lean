import RemoteTerm.Frame
import RemoteTerm.Text.Utf8
/-!
What a view does to the surface that renders it, and a surface that only remembers.
-/

namespace RemoteTerm

namespace Surface

inductive Call where
  | resize (size : Grid)
  | write (bytes : Bytes)
  | focus
  | scroll (delta : Float)

def Call.written : Call → Bytes
  | write bytes => bytes
  | _ => []

-- A surface that renders nothing and keeps every call.
structure Recording where
  measured  : Option Grid := none
  selection : String      := ""
  calls     : List Call   := []

namespace Recording

def record (r : Recording) (c : Call) : Recording :=
  { r with calls := r.calls ++ [c] }

-- All written bytes, one after another.
def output (r : Recording) : Bytes :=
  r.calls.flatMap Call.written

def outputText (r : Recording) : String :=
  String.ofList (Text.Utf8.decodeLossy r.output)

def deltas (r : Recording) : List Float :=
  r.calls.filterMap fun
    | .scroll delta => some delta
    | _ => none

-- The sum of all deltas, from the first to the last.
def scrolled (r : Recording) : Float :=
  r.deltas.foldl (· + ·) 0

def focusCount (r : Recording) : Nat :=
  r.calls.countP fun
    | .focus => true
    | _ => false

end Recording

end Surface

end RemoteTerm
