/-!
TOML values, and how tables grow while a document is read.
-/

namespace RemoteTerm

namespace Toml

-- How a table came to be. This decides what may still be added to it.
inductive Origin where
  -- Named only as a part of the path in a header.
  | implied
  -- Named only as a part of a dotted key.
  | dotted
  | header
  -- Written as a value. Nothing can be added.
  | inline
deriving DecidableEq, Repr

-- Whether a table has not been written out itself.
def Origin.isImplicit : Origin → Bool
  | implied | dotted => true
  | header | inline  => false

end Toml

inductive Toml where
  | string (s : String)
  | integer (n : Int)
  | float (x : Float)
  | boolean (b : Bool)
  | datetime
  | array (items : List Toml)
  | table (origin : Toml.Origin) (entries : List (String × Toml))
  -- The tables of repeated headers.
  | tables (items : List (List (String × Toml)))
deriving Inhabited

namespace Toml

abbrev Entries := List (String × Toml)

namespace Entries

def put (es : Entries) (key : String) (v : Toml) : Entries :=
  if es.any (·.1 = key) then es.map fun e => if e.1 = key then (key, v) else e
  else es ++ [(key, v)]

def remove (es : Entries) (key : String) : Entries :=
  es.filter (·.1 ≠ key)

-- Goes down a path of tables, works on the last one, and puts every table on the way back. What is
-- missing on the way is made. A path of a dotted key must not lead through tables that are written
-- out, and a path of a header leads through the last of several tables.
def within {α : Type} (dotted : Bool) (work : Origin → Entries → Option (α × Entries)) :
    List String → Origin → Entries → Option (α × Entries)
  | [], origin, es => work origin es
  | key :: path, _, es =>
    match es.lookup key with
    | none => do
      let origin := if dotted then .dotted else .implied
      let (a, sub) ← within dotted work path origin []
      return (a, es.put key (.table origin sub))
    | some (.table .inline _) => none
    | some (.table origin sub) => do
      if dotted && !origin.isImplicit then none
      let (a, sub) ← within dotted work path origin sub
      return (a, es.put key (.table origin sub))
    | some (.tables items) => do
      let (a, sub) ← within dotted work path .header (← items.getLast?)
      return (a, es.put key (.tables (items.dropLast ++ [sub])))
    | some _ => none

-- Adds a value under a dotted key. Only tables that dotted keys have made take dotted keys, and no
-- key is written twice.
def insert (es : Entries) (origin : Origin) (path : List String) (key : String) (v : Toml) :
    Option Entries := do
  let add (origin : Origin) (es : Entries) : Option (Unit × Entries) :=
    if (origin = .dotted) = (path = []) then none
    else if (es.lookup key).isSome then none
    else some ((), es ++ [(key, v)])
  let (_, es) ← es.within true add path origin
  return es

end Entries

-- A document that is being read: the tables that are complete, and the open one.
structure Draft where
  root    : Entries := []
  -- Where the open table belongs. The first one is the root itself.
  path    : List String := []
  -- Whether the open table is one of several under its path.
  several : Bool := false
  current : Entries := []

namespace Draft

-- Puts the open table where it belongs.
def close (d : Draft) : Option Entries :=
  match d.path.getLast? with
  | none => some d.current
  | some key => do
    let place (_ : Origin) (es : Entries) : Option (Unit × Entries) :=
      match es.lookup key, d.several with
      | none, true  => some ((), es.put key (.tables [d.current]))
      | none, false => some ((), es.put key (.table .header d.current))
      | some (.tables items), true => some ((), es.put key (.tables (items ++ [d.current])))
      | some (.table origin _), false =>
        if origin.isImplicit then some ((), es.put key (.table .header d.current)) else none
      | _, _ => none
    let (_, root) ← d.root.within false place d.path.dropLast .header
    return root

-- Opens the table of a header. A table that only headers have implied so far keeps what it has.
def openTable (d : Draft) (path : List String) : Option Draft := do
  let key ← path.getLast?
  let take (_ : Origin) (es : Entries) : Option (Entries × Entries) :=
    match es.lookup key with
    | none => some ([], es)
    | some (.table .implied sub) => some (sub, es.remove key)
    | some _ => none
  let (current, root) ← (← d.close).within false take path.dropLast .header
  return { root, path, several := false, current }

-- Opens one more table of a repeated header.
def openNext (d : Draft) (path : List String) : Option Draft := do
  let key ← path.getLast?
  let ready (_ : Origin) (es : Entries) : Option (Unit × Entries) :=
    match es.lookup key with
    | none => some ((), es.put key (.tables []))
    | some (.tables _) => some ((), es)
    | some _ => none
  let (_, root) ← (← d.close).within false ready path.dropLast .header
  return { root, path, several := true, current := [] }

-- Adds a line with a key and a value.
def add (d : Draft) (path : List String) (v : Toml) : Option Draft := do
  let current ← d.current.insert .header path.dropLast (← path.getLast?) v
  return { d with current }

end Draft

end Toml

end RemoteTerm
