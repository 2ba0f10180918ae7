import RemoteTerm.Json.Number
import RemoteTerm.Json.Text
/-!
Reading JSON values from the front of a text.
-/

namespace RemoteTerm.Json

def isBlank (c : Char) : Bool :=
  c = ' ' || c = '\n' || c = '\t' || c = '\r'

def skipBlank (cs : List Char) : List Char :=
  cs.dropWhile isBlank

-- The rest of a word whose first letter has been read.
def word : List Char → List Char → Except Fault (List Char)
  | [], rest => .ok rest
  | _ :: _, [] => .error .truncated
  | w :: ws, c :: cs => if w = c then word ws cs else .error .malformed

def colon (cs : List Char) : Except Fault (List Char) :=
  match skipBlank cs with
  | []          => .error .truncated
  | ':' :: rest => .ok rest
  | _           => .error .malformed

-- What comes next in an array or an object: an end, or another entry.
inductive Next where
  | done (rest : List Char)
  | entry (rest : List Char)

-- The next item of an array whose bracket has been read.
def nextItem (first : Bool) (cs : List Char) : Except Fault Next :=
  match skipBlank cs with
  | []          => .error .truncated
  | ']' :: rest => .ok (.done rest)
  | ',' :: rest => if first then .error .malformed else .ok (.entry rest)
  | rest        => if first then .ok (.entry rest) else .error .malformed

-- The next member of an object whose brace has been read, up to the quote of its name.
def nextMember (first : Bool) (cs : List Char) : Except Fault Next :=
  match skipBlank cs with
  | []          => .error .truncated
  | '\x7d' :: rest => .ok (.done rest)
  | ',' :: rest =>
    if first then .error .malformed
    else
      match skipBlank rest with
      | []          => .error .truncated
      | '"' :: rest => .ok (.entry rest)
      | _           => .error .malformed
  | '"' :: rest => if first then .ok (.entry rest) else .error .malformed
  | _           => .error .malformed

mutual

-- A value in which arrays and objects are nested at most so deep.
def valueWithin : Nat → Nat → List Char → Except Fault (Json × List Char)
  | 0, _, _ => .error .truncated
  | fuel + 1, depth, cs =>
    match skipBlank cs with
    | [] => .error .truncated
    | 'n' :: rest => (word ['u', 'l', 'l'] rest).map (.null, ·)
    | 't' :: rest => (word ['r', 'u', 'e'] rest).map (.bool true, ·)
    | 'f' :: rest => (word ['a', 'l', 's', 'e'] rest).map (.bool false, ·)
    | '"' :: rest => (unquote rest).map fun (s, rest) => (.string (String.ofList s), rest)
    | '-' :: rest => number true rest
    | '[' :: rest =>
      match depth with
      | 0 => .error .malformed
      | depth + 1 => (itemsWithin fuel depth true rest).map fun (xs, rest) => (.array xs, rest)
    | '\x7b' :: rest =>
      match depth with
      | 0 => .error .malformed
      | depth + 1 => (membersWithin fuel depth true rest).map fun (ms, rest) => (.object ms, rest)
    | c :: rest => if c.isDigit then number false (c :: rest) else .error .malformed

def itemsWithin : Nat → Nat → Bool → List Char → Except Fault (List Json × List Char)
  | 0, _, _, _ => .error .truncated
  | fuel + 1, depth, first, cs => do
    match ← nextItem first cs with
    | .done rest => return ([], rest)
    | .entry rest =>
      let (x, rest) ← valueWithin fuel depth rest
      let (xs, rest) ← itemsWithin fuel depth false rest
      return (x :: xs, rest)

def membersWithin : Nat → Nat → Bool → List Char → Except Fault (List (String × Json) × List Char)
  | 0, _, _, _ => .error .truncated
  | fuel + 1, depth, first, cs => do
    match ← nextMember first cs with
    | .done rest => return ([], rest)
    | .entry rest =>
      let (name, rest) ← unquote rest
      let (x, rest) ← valueWithin fuel depth (← colon rest)
      let (ms, rest) ← membersWithin fuel depth false rest
      return ((String.ofList name, x) :: ms, rest)

end

-- Each call of a reader takes at least half a character, so this many calls are enough.
def fuelFor (cs : List Char) : Nat :=
  2 * cs.length + 4

def value (depth : Nat) (cs : List Char) : Except Fault (Json × List Char) :=
  valueWithin (fuelFor cs) depth cs

def items (depth : Nat) (cs : List Char) : Except Fault (List Json × List Char) :=
  itemsWithin (fuelFor cs) depth false cs

-- A text that holds one value and nothing else.
def ofText (s : String) : Except Fault Json := do
  let (v, rest) ← value maxDepth s.toList
  if (skipBlank rest).isEmpty then .ok v else .error .malformed

end RemoteTerm.Json
