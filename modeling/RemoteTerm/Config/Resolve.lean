import RemoteTerm.CommandLine
import RemoteTerm.Config.Load
/-!
How settings and a file come to one configuration. What is set wins over the file.
-/

namespace RemoteTerm.Config

-- Where the configuration is kept unless a path is set.
def defaultPath? (env : Environment) : Option String :=
  let base? := env.lookup "XDG_CONFIG_HOME" <|> (env.lookup "HOME").map (Path.join · ".config")
  base?.map fun base => Path.join (Path.join base "termlink") "config.toml"

-- The path of the file that counts.
def path? (s : CommandLine.Settings) (env : Environment) : Option String :=
  s.config <|> defaultPath? env

-- The file's configuration with the settings over it.
def override (c : Config) (s : CommandLine.Settings) : Config where
  server :=
    { url     := s.url.getD c.server.url
      session := s.session.getD c.server.session }
  reconnect := c.reconnect
  terminal  := c.terminal
  log       := { level := s.logLevel.getD c.log.level }

-- Where settings and a file fail to make a configuration.
inductive Failure where
  | file (path : String) (cause : Error)
  | merged (cause : Flaw)
deriving DecidableEq, Repr

namespace Failure

def message : Failure → String
  | file path _ => "failed to load config from " ++ path
  | merged _    => "invalid configuration"

def cause : Failure → Error
  | file _ e   => e
  | merged f   => .invalid f

end Failure

-- The configuration of settings. The file must be accepted by itself, and the whole once more.
def resolve (s : CommandLine.Settings) (env : Environment) (read : String → Reading) :
    Except Failure Config := do
  let c ←
    match path? s env with
    | some path => (load (read path)).mapError (.file path)
    | none      => .ok {}
  (c.override s).accept.mapError .merged

end RemoteTerm.Config
