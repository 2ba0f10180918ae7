/-!
The words of a command line and the variables of an environment, as far as they give settings.
-/

namespace RemoteTerm

-- The variables that are set.
abbrev Environment := List (String × String)

namespace CommandLine

-- What can be set.
inductive Setting where
  | config
  | url
  | session
  | logLevel
deriving DecidableEq, Repr

namespace Setting

-- The long name behind the two hyphens.
def name : Setting → String
  | config   => "config"
  | url      => "url"
  | session  => "session"
  | logLevel => "log-level"

-- The variable that counts where the command line says nothing.
def variableName : Setting → String
  | config   => "TERMLINK_CONFIG"
  | url      => "TERMLINK_URL"
  | session  => "TERMLINK_SESSION"
  | logLevel => "TERMLINK_LOG"

def all : List Setting := [config, url, session, logLevel]

def ofName? (name : String) : Option Setting :=
  all.find? (·.name = name)

-- Whether a setting takes a text. A path to nothing at all is no path.
def takes (s : Setting) (value : String) : Bool :=
  s ≠ config || value ≠ ""

end Setting

-- Why a command line does not come to settings.
inductive Refusal where
  | helpAsked
  | versionAsked
  | unknownWord
  | repeatedSetting
  -- A value is missing, or it is not taken.
  | badValue
  -- There is a value where none belongs.
  | needlessValue
deriving DecidableEq, Repr

def Refusal.message : Refusal → String
  | helpAsked       => "usage: termlink [--config PATH] [--url URL] [--session ID] [--log-level L]"
  | versionAsked    => "termlink"
  | unknownWord     => "error: unexpected argument"
  | repeatedSetting => "error: an option cannot be used multiple times"
  | badValue        => "error: a value is required for an option"
  | needlessValue   => "error: a value is not expected for an option"

-- What has been set.
structure Settings where
  config   : Option String := none
  url      : Option String := none
  session  : Option String := none
  logLevel : Option String := none
deriving DecidableEq, Repr

namespace Settings

def get? (s : Settings) : Setting → Option String
  | .config   => s.config
  | .url      => s.url
  | .session  => s.session
  | .logLevel => s.logLevel

def set (s : Settings) (what : Setting) (value : String) : Settings :=
  match what with
  | .config   => { s with config := some value }
  | .url      => { s with url := some value }
  | .session  => { s with session := some value }
  | .logLevel => { s with logLevel := some value }

-- Sets what has not been set before.
def give (s : Settings) (what : Setting) (value : String) : Except Refusal Settings :=
  if (s.get? what).isSome then .error .repeatedSetting
  else if what.takes value then .ok (s.set what value)
  else .error .badValue

-- Takes a variable of the environment for what the command line leaves open.
def fill (s : Settings) (env : Environment) (what : Setting) : Except Refusal Settings :=
  match s.get? what, env.lookup what.variableName with
  | none, some value => s.give what value
  | _, _             => .ok s

end Settings

-- The form of a word, which decides what it can be.
inductive Word where
  -- Two hyphens alone, behind which no word is an option.
  | hyphens
  -- Two hyphens and a name, perhaps with a value behind an equals sign.
  | long (name : String) (value : Option String)
  -- One hyphen and letters, the first of which decides.
  | short (letter : Char)
  | plain (text : String)
deriving DecidableEq, Repr

def Word.ofString (s : String) : Word :=
  match s.toList with
  | ['-', '-'] => hyphens
  | '-' :: '-' :: cs =>
    match cs.span (· ≠ '=') with
    | (name, _ :: value) => long (String.ofList name) (some (String.ofList value))
    | (name, [])         => long (String.ofList name) none
  | '-' :: c :: _ => short c
  | _ => plain s

-- An option that has been read, perhaps without its value so far.
structure Pending where
  what  : Setting
  value : Option String := none

-- What a pending option comes to. It is looked at when the next option or the end has come.
def settle (s : Settings) : Option Pending → Except Refusal Settings
  | none                 => .ok s
  | some ⟨_, none⟩       => .error .badValue
  | some ⟨what, some v⟩  => s.give what v

-- Ends the reading with a refusal, unless the pending option has one of its own.
def settleThen (s : Settings) (p : Option Pending) (r : Refusal) : Except Refusal Settings := do
  let _ ← settle s p
  .error r

-- Reads words from the first to the last. A word that nobody knows is refused at once, whatever is
-- pending.
def readWords (s : Settings) (p : Option Pending) : List String → Except Refusal Settings
  | [] => settle s p
  | w :: ws =>
    match Word.ofString w with
    | .hyphens => if ws = [] then settle s p else .error .unknownWord
    | .short 'h' => settleThen s p .helpAsked
    | .short 'V' => settleThen s p .versionAsked
    | .short _ => .error .unknownWord
    | .long "help" value =>
      if value.isSome then .error .needlessValue else settleThen s p .helpAsked
    | .long "version" value =>
      if value.isSome then .error .needlessValue else settleThen s p .versionAsked
    | .long name value =>
      match Setting.ofName? name, value with
      | none, _ => .error .unknownWord
      | some what, none => do
        let s ← settle s p
        readWords s (some ⟨what, none⟩) ws
      | some what, some v => do
        let s ← settle s p
        let s ← s.give what v
        readWords s none ws
    | .plain v =>
      match p with
      | some ⟨what, none⟩ => readWords s (some ⟨what, some v⟩) ws
      | _ => .error .unknownWord

-- The settings of a command line, completed from the environment.
def read (words : List String) (env : Environment) : Except Refusal Settings := do
  let s ← readWords {} none words
  Setting.all.foldlM (·.fill env ·) s

end CommandLine

end RemoteTerm
