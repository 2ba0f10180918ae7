import RemoteTerm.Config.Resolve
/-!
The program. It settles the configuration, and prints the address of the session and the grid that
the session begins with.
-/

namespace RemoteTerm.Main

-- The variables that the program looks at.
def variableNames : List String :=
  "XDG_CONFIG_HOME" :: "HOME" :: CommandLine.Setting.all.map CommandLine.Setting.variableName

def environment : IO Environment :=
  variableNames.filterMapM fun name => do
    return (← IO.getEnv name).map (name, ·)

def readFile (path : String) : IO Reading := do
  try
    return .content (← IO.FS.readBinFile path).toList
  catch
    | .noFileOrDirectory .. => return .missing
    | _                     => return .unreadable

def run (words : List String) : IO UInt32 := do
  let env ← environment
  match CommandLine.read words env with
  | .error .helpAsked    => IO.println CommandLine.Refusal.helpAsked.message; return 0
  | .error .versionAsked => IO.println CommandLine.Refusal.versionAsked.message; return 0
  | .error r             => IO.eprintln r.message; return 2
  | .ok s =>
    let reading ←
      match Config.path? s env with
      | some path => readFile path
      | none      => pure .missing
    match Config.resolve s env fun _ => reading with
    | .error e =>
      IO.eprintln ("Error: " ++ e.message ++ "\n\nCaused by:\n    " ++ e.cause.message)
      return 1
    | .ok c =>
      IO.println c.address
      IO.println (toString c.grid.cols ++ " " ++ toString c.grid.rows)
      return 0

end RemoteTerm.Main

def main (words : List String) : IO UInt32 :=
  RemoteTerm.Main.run words
