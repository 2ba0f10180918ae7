import RemoteTerm.Modifiers
import RemoteTerm.Session
import RemoteTerm.Uuid
/-!
The status of a view: a snapshot for whatever surrounds it.
-/

namespace RemoteTerm

structure Status where
  viewId     : Uuid
  connection : Connection
  latched    : Modifiers
  cols       : Option UInt16
  rows       : Option UInt16
  -- The text of the most recent notice.
  lastNotice : Option String
  closed     : Bool
deriving DecidableEq

namespace Status

-- The status of a view that has not done anything yet.
def initial (id : Uuid) : Status where
  viewId     := id
  connection := .connecting
  latched    := ∅
  cols       := none
  rows       := none
  lastNotice := none
  closed     := false

def grid (s : Status) : Option Grid :=
  match s.cols, s.rows with
  | some cols, some rows => some ⟨cols, rows⟩
  | _, _ => none

end Status

end RemoteTerm
