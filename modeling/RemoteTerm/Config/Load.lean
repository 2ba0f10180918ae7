import RemoteTerm.Config.Decode
import RemoteTerm.Disk
import RemoteTerm.Text.Utf8
import RemoteTerm.Toml.Document
/-!
Configurations out of files. A file that is missing stands for the defaults.
-/

namespace RemoteTerm.Config

-- Why no configuration comes out of a file.
inductive Error where
  | unreadable
  | malformed
  | invalid (flaw : Flaw)
deriving DecidableEq, Repr

def Error.message : Error → String
  | unreadable => "I/O error accessing config"
  | malformed  => "failed to parse config TOML"
  | invalid f  => f.message

def ofText (s : String) : Except Error Config :=
  match (Toml.ofText? s).bind ofToml? with
  | none   => .error .malformed
  | some c => c.accept.mapError .invalid

def load : Reading → Except Error Config
  | .missing       => .ok {}
  | .unreadable    => .error .unreadable
  | .content bytes =>
    match Text.Utf8.decode? bytes with
    | none    => .error .unreadable
    | some cs => ofText (String.ofList cs)

end RemoteTerm.Config
