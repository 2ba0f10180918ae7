/-!
The address of a session on a server.
-/

namespace RemoteTerm

-- Text without the slashes at its end.
def trimSlashes (s : String) : String :=
  String.ofList ((s.toList.reverse.dropWhile (· = '/')).reverse)

-- The server's base and the session, with one slash of the address's own between them.
def sessionAddress (base session : String) : String :=
  trimSlashes base ++ "/" ++ session

-- What opens the channels of one session.
structure Connector where
  address : String
deriving DecidableEq, Repr

def Connector.forSession (base session : String) : Connector :=
  ⟨sessionAddress base session⟩

end RemoteTerm
