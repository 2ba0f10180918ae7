import RemoteTerm.Session.Notice
/-!
The system clipboard, and what copying and pasting tell the user. Nothing that goes wrong with the
clipboard disturbs input: it ends in a notice.
-/

namespace RemoteTerm

inductive ClipboardError where
  -- Access was refused.
  | denied (reason : String)
  -- There is a clipboard, but the operation did not succeed.
  | failed (reason : String)
deriving DecidableEq, Repr

def ClipboardError.message : ClipboardError → String
  | denied reason => s!"clipboard access denied: {reason}"
  | failed reason => s!"clipboard operation failed: {reason}"

-- A clipboard by its answers to reading and to writing.
structure Clipboard where
  read  : Except ClipboardError String := .ok ""
  write : Except ClipboardError Unit   := .ok ()

namespace Clipboard

-- What copying a selection writes, and the notice that it raises. Without a selection there is
-- nothing to copy, and without a clipboard nowhere to write it.
def copy (clipboard : Option Clipboard) (selection : String) : Option String × Option Notice :=
  if selection.isEmpty then (none, none)
  else
    match clipboard with
    | none => (none, some .clipboardUnavailable)
    | some c =>
      match c.write with
      | .ok ()   => (some selection, none)
      | .error _ => (some selection, some .clipboardDenied)

def paste (clipboard : Option Clipboard) : Except Notice String :=
  match clipboard with
  | none => .error .clipboardUnavailable
  | some c =>
    match c.read with
    | .ok text => .ok text
    | .error _ => .error .clipboardDenied

end Clipboard

end RemoteTerm
