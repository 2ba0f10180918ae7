/-!
What a view tells its user.
-/

namespace RemoteTerm

inductive Notice where
  | reconnecting (attempt max : UInt32)
  | reconnected
  | gaveUp
  | clipboardUnavailable
  | clipboardDenied
deriving DecidableEq, Repr

def Notice.message : Notice → String
  | reconnecting attempt max => s!"Reconnecting ({attempt}/{max})..."
  | reconnected              => "Reconnected"
  | gaveUp                   => "Connection lost. Reload the page to reconnect."
  | clipboardUnavailable     => "Clipboard is not available"
  | clipboardDenied          => "Clipboard access was denied"

end RemoteTerm
