import RemoteTerm.Address
import RemoteTerm.View
/-!
The configuration of a client: its sections with their defaults, and which configurations are
accepted.
-/

namespace RemoteTerm

namespace Config

structure Server where
  url     : String := "ws://127.0.0.1:8080/ws/terminal"
  session : String := "main"
deriving DecidableEq, Repr, Inhabited

-- Delays are in milliseconds.
structure Reconnect where
  baseDelay   : UInt64 := 1000
  maxDelay    : UInt64 := 30000
  maxAttempts : UInt32 := 10
deriving DecidableEq, Repr, Inhabited

-- Delays are in milliseconds. The grid is for surfaces that cannot measure themselves.
structure Terminal where
  redrawDelay    : UInt64 := 75
  resizeDebounce : UInt64 := 100
  cols           : UInt16 := 80
  rows           : UInt16 := 24
deriving DecidableEq, Repr, Inhabited

structure Log where
  level : String := "info"
deriving DecidableEq, Repr, Inhabited

end Config

structure Config where
  server    : Config.Server    := {}
  reconnect : Config.Reconnect := {}
  terminal  : Config.Terminal  := {}
  log       : Config.Log       := {}
deriving DecidableEq, Repr

namespace Config

instance : Inhabited Config := ⟨{}⟩

def policy (c : Config) : Policy where
  base        := .ofMillis c.reconnect.baseDelay
  ceiling     := .ofMillis c.reconnect.maxDelay
  maxAttempts := c.reconnect.maxAttempts

def grid (c : Config) : Grid :=
  ⟨c.terminal.cols, c.terminal.rows⟩

def connector (c : Config) : Connector :=
  .forSession c.server.url c.server.session

def address (c : Config) : String :=
  c.connector.address

def viewOptions (c : Config) : View.Options where
  policy      := c.policy
  redrawDelay := .ofMillis c.terminal.redrawDelay
  debounce    := .ofMillis c.terminal.resizeDebounce

-- Why a configuration is not accepted.
inductive Flaw where
  | zeroBaseDelay
  | maxBelowBase
  | emptyGrid
  | emptySession
deriving DecidableEq, Repr

namespace Flaw

def field : Flaw → String
  | zeroBaseDelay => "reconnect.base_delay_ms"
  | maxBelowBase  => "reconnect.max_delay_ms"
  | emptyGrid     => "terminal.default_cols/default_rows"
  | emptySession  => "server.session"

def reason : Flaw → String
  | zeroBaseDelay => "must be greater than zero"
  | maxBelowBase  => "must not be smaller than base_delay_ms"
  | emptyGrid     => "must be non-zero"
  | emptySession  => "must not be empty"

def message (f : Flaw) : String :=
  "invalid config value for " ++ f.field ++ ": " ++ f.reason

end Flaw

-- The first flaw in the order of the checks.
def flaw? (c : Config) : Option Flaw :=
  if c.reconnect.baseDelay = 0 then some .zeroBaseDelay
  else if c.reconnect.maxDelay < c.reconnect.baseDelay then some .maxBelowBase
  else if c.terminal.cols = 0 ∨ c.terminal.rows = 0 then some .emptyGrid
  else if c.server.session = "" then some .emptySession
  else none

-- A configuration without flaws.
def accept (c : Config) : Except Flaw Config :=
  match c.flaw? with
  | none   => .ok c
  | some f => .error f

end Config

end RemoteTerm
