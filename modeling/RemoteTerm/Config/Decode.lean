import RemoteTerm.Config
import RemoteTerm.Toml
/-!
Configurations out of TOML. What is missing takes its default, and what is not known is ignored.
-/

namespace RemoteTerm

namespace Toml

def string? : Toml → Option String
  | string s => some s
  | _        => none

-- An integer from zero up to a bound.
def below? (bound : Nat) : Toml → Option Nat
  | integer n => if 0 ≤ n ∧ n < bound then some n.toNat else none
  | _         => none

end Toml

namespace Config

-- The fields of a section. A list gives them in the order of their declaration.
inductive Fields where
  | named (entries : Toml.Entries)
  | listed (items : List Toml)

namespace Fields

-- The fields of a value. A date is a record of its own kind, and has none that a section knows.
def ofToml? : Toml → Option Fields
  | .table _ es   => some (named es)
  | .array items  => some (listed items)
  | .tables items => some (listed (items.map (.table .header)))
  | .datetime     => some (named [])
  | _             => none

def get? (fs : Fields) (index : Nat) (name : String) : Option Toml :=
  match fs with
  | named es     => es.lookup name
  | listed items => items[index]?

-- A field that may be missing, but must be right if it is there.
def read {α : Type} (fs : Fields) (index : Nat) (name : String) (decode : Toml → Option α)
    (default : α) : Option α :=
  match fs.get? index name with
  | none   => some default
  | some v => decode v

def string (fs : Fields) (index : Nat) (name : String) (default : String) : Option String :=
  fs.read index name Toml.string? default

def uint16 (fs : Fields) (index : Nat) (name : String) (default : UInt16) : Option UInt16 :=
  fs.read index name (fun v => (v.below? UInt16.size).map UInt16.ofNat) default

def uint32 (fs : Fields) (index : Nat) (name : String) (default : UInt32) : Option UInt32 :=
  fs.read index name (fun v => (v.below? UInt32.size).map UInt32.ofNat) default

def uint64 (fs : Fields) (index : Nat) (name : String) (default : UInt64) : Option UInt64 :=
  fs.read index name (fun v => (v.below? UInt64.size).map UInt64.ofNat) default

end Fields

def Server.ofFields? (fs : Fields) : Option Server := do
  let d : Server := {}
  let url     ← fs.string 0 "url" d.url
  let session ← fs.string 1 "session" d.session
  return { url, session }

def Reconnect.ofFields? (fs : Fields) : Option Reconnect := do
  let d : Reconnect := {}
  let baseDelay   ← fs.uint64 0 "base_delay_ms" d.baseDelay
  let maxDelay    ← fs.uint64 1 "max_delay_ms" d.maxDelay
  let maxAttempts ← fs.uint32 2 "max_attempts" d.maxAttempts
  return { baseDelay, maxDelay, maxAttempts }

def Terminal.ofFields? (fs : Fields) : Option Terminal := do
  let d : Terminal := {}
  let redrawDelay    ← fs.uint64 0 "redraw_delay_ms" d.redrawDelay
  let resizeDebounce ← fs.uint64 1 "resize_debounce_ms" d.resizeDebounce
  let cols           ← fs.uint16 2 "default_cols" d.cols
  let rows           ← fs.uint16 3 "default_rows" d.rows
  return { redrawDelay, resizeDebounce, cols, rows }

def Log.ofFields? (fs : Fields) : Option Log := do
  let d : Log := {}
  let level ← fs.string 0 "level" d.level
  return { level }

-- A section of a document, or the default if there is none.
def readSection {α : Type} (es : Toml.Entries) (name : String) (decode : Fields → Option α)
    (default : α) : Option α :=
  match es.lookup name with
  | none   => some default
  | some v => (Fields.ofToml? v).bind decode

def ofToml? (es : Toml.Entries) : Option Config := do
  let server    ← readSection es "server" Server.ofFields? {}
  let reconnect ← readSection es "reconnect" Reconnect.ofFields? {}
  let terminal  ← readSection es "terminal" Terminal.ofFields? {}
  let log       ← readSection es "log" Log.ofFields? {}
  return { server, reconnect, terminal, log }

end Config

end RemoteTerm
