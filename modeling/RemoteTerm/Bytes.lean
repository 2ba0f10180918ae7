/-!
Strings of bytes, as they go to a surface and come from a server.
-/

namespace RemoteTerm

abbrev Bytes := List UInt8

def Bytes.ofString (s : String) : Bytes :=
  s.toUTF8.toList

end RemoteTerm
