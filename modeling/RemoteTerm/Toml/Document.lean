import RemoteTerm.Toml.Reader
/-!
Reading a TOML document, line by line.
-/

namespace RemoteTerm.Toml

-- Takes a key with its value up to the end of the line.
def Draft.entry? (d : Draft) (cs : List Char) : Option (Draft × List Char) := do
  let (path, rest) ← key? cs
  match rest with
  | '=' :: rest =>
    let (v, rest) ← value? (skipBlank rest)
    return (← d.add path v, ← lineEnd? rest)
  | _ => none

-- Takes a line.
def Draft.line? (d : Draft) (cs : List Char) : Option (Draft × List Char) :=
  match skipBlank cs with
  | '[' :: '[' :: rest => do
    let (path, rest) ← key? rest
    match rest with
    | ']' :: ']' :: rest => return (← d.openNext path, ← lineEnd? rest)
    | _ => none
  | '[' :: rest => do
    let (path, rest) ← key? rest
    match rest with
    | ']' :: rest => return (← d.openTable path, ← lineEnd? rest)
    | _ => none
  | rest =>
    match lineEnd? rest with
    | some rest => some (d, rest)
    | none      => d.entry? rest

-- Takes at most so many lines.
def Draft.lines : Nat → Draft → List Char → Option Entries
  | _, d, [] => d.close
  | 0, _, _ :: _ => none
  | n + 1, d, cs => do
    let (d, rest) ← d.line? cs
    lines n d rest

-- A document has no more lines than characters. A byte order mark in front does not count.
def ofText? (s : String) : Option Entries :=
  match s.toList with
  | '\ufeff' :: rest => Draft.lines rest.length {} rest
  | cs               => Draft.lines cs.length {} cs

end RemoteTerm.Toml
