import RemoteTerm.Toml.Date
/-!
Reading TOML keys and values from the front of a text.
-/

namespace RemoteTerm.Toml

-- As deep as arrays and inline tables may be nested, and as many parts as a key may have.
def maxDepth : Nat := 79

def isBare (c : Char) : Bool :=
  c.isAlphanum || c = '-' || c = '_'

-- A key without dots.
def name? : Reader String
  | '"' :: rest  => (basic rest).map fun (s, rest) => (String.ofList s, rest)
  | '\'' :: rest => (literal rest).map fun (s, rest) => (String.ofList s, rest)
  | cs =>
    match cs.takeWhile isBare with
    | [] => none
    | s  => some (String.ofList s, cs.dropWhile isBare)

-- A key of at most so many parts, with the blanks around it.
def keyWithin : Nat → Reader (List String)
  | 0, _ => none
  | n + 1, cs => do
    let (name, rest) ← name? (skipBlank cs)
    match skipBlank rest with
    | '.' :: rest =>
      let (names, rest) ← keyWithin n rest
      return (name :: names, rest)
    | rest => return ([name], rest)

def key? : Reader (List String) :=
  keyWithin maxDepth

mutual

-- A value in which arrays and inline tables are nested at most so deep.
def valueWithin : Nat → Nat → Reader Toml
  | 0, _, _ => none
  | fuel + 1, depth, cs =>
    match cs with
    | '[' :: rest =>
      match depth with
      | 0 => none
      | depth + 1 => (itemsWithin fuel depth rest).map fun (xs, rest) => (.array xs, rest)
    | '\x7b' :: rest =>
      match depth with
      | 0 => none
      | depth + 1 =>
        (membersWithin fuel depth [] rest).map fun (es, rest) => (.table .inline es, rest)
    | 't' :: 'r' :: 'u' :: 'e' :: rest => some (.boolean true, rest)
    | 'f' :: 'a' :: 'l' :: 's' :: 'e' :: rest => some (.boolean false, rest)
    | _ =>
      (text? cs).map (fun (s, rest) => (.string s, rest)) <|>
        (Date.dateTime? cs).map (.datetime, ·) <|> number? cs

-- The items of an array up to its bracket. A comma may follow the last one.
def itemsWithin : Nat → Nat → Reader (List Toml)
  | 0, _, _ => none
  | fuel + 1, depth, cs => do
    match ← trivia false cs with
    | ']' :: rest => return ([], rest)
    | rest =>
      let (x, rest) ← valueWithin fuel depth rest
      match ← trivia false rest with
      | ']' :: rest => return ([x], rest)
      | ',' :: rest =>
        let (xs, rest) ← itemsWithin fuel depth rest
        return (x :: xs, rest)
      | _ => none

-- The members of an inline table up to its brace, with those before them. The brace follows a
-- member or stands in front of all.
def membersWithin : Nat → Nat → Entries → Reader Entries
  | 0, _, _, _ => none
  | fuel + 1, depth, es, cs =>
    match es.isEmpty, skipBlank cs with
    | true, '\x7d' :: rest => some (es, rest)
    | _, rest => do
      let (path, rest) ← key? rest
      match rest with
      | '=' :: rest =>
        let (v, rest) ← valueWithin fuel depth (skipBlank rest)
        let es ← es.insert .inline path.dropLast (← path.getLast?) v
        match skipBlank rest with
        | '\x7d' :: rest => return (es, rest)
        | ',' :: rest    => membersWithin fuel depth es rest
        | _              => none
      | _ => none

end

-- Every second call takes at least one character, so this many calls are enough.
def value? : Reader Toml := fun cs =>
  valueWithin (2 * cs.length + 4) maxDepth cs

end RemoteTerm.Toml
