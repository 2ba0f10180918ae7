import RemoteTerm.Hex
/-!
Strings, comments and blanks in TOML.
-/

namespace RemoteTerm.Toml

-- Reads something from the front of a text, if it is there.
abbrev Reader (α : Type) := List Char → Option (α × List Char)

def isBlank (c : Char) : Bool :=
  c = ' ' || c = '\t'

-- Whether a character may stand in a comment or a string: no control code but the tab.
def isPlain (c : Char) : Bool :=
  c = '\t' || (' ' ≤ c && c ≠ '\x7f')

def skipBlank (cs : List Char) : List Char :=
  cs.dropWhile isBlank

-- The rest behind the end of a line.
def newline? : List Char → Option (List Char)
  | '\n' :: rest         => some rest
  | '\r' :: '\n' :: rest => some rest
  | _                    => none

-- Skips blanks, ends of lines, and comments up to their end.
def trivia (inComment : Bool) : List Char → Option (List Char)
  | [] => some []
  | '\n' :: rest => trivia false rest
  | '\r' :: '\n' :: rest => trivia false rest
  | c :: rest =>
    if inComment then if isPlain c then trivia true rest else none
    else if isBlank c then trivia false rest
    else if c = '#' then trivia true rest
    else some (c :: rest)

-- Nothing but a comment may stand in the rest of a line.
def lineEnd? (cs : List Char) : Option (List Char) :=
  match (match skipBlank cs with
    | '#' :: rest => rest.dropWhile isPlain
    | rest        => rest) with
  | []   => some []
  | rest => newline? rest

-- The character of a code point in hexadecimal.
def scalar? (ds : List Char) : Option Char := do
  let n := Hex.number (← ds.mapM Hex.value?)
  if n.isValidChar then return Char.ofNat n else none

-- A character that is written with a backslash, which has been read.
def escape? (cs : List Char) : Option (Char × { rest : List Char // rest.length < cs.length }) :=
  match cs with
  | 'b'  :: rest => some ('\x08', ⟨rest, by simp⟩)
  | 't'  :: rest => some ('\t', ⟨rest, by simp⟩)
  | 'n'  :: rest => some ('\n', ⟨rest, by simp⟩)
  | 'f'  :: rest => some ('\x0c', ⟨rest, by simp⟩)
  | 'r'  :: rest => some ('\r', ⟨rest, by simp⟩)
  | '"'  :: rest => some ('"', ⟨rest, by simp⟩)
  | '\\' :: rest => some ('\\', ⟨rest, by simp⟩)
  | 'u' :: a :: b :: c :: d :: rest =>
    (scalar? [a, b, c, d]).map fun x => (x, ⟨rest, by simp; omega⟩)
  | 'U' :: a :: b :: c :: d :: e :: f :: g :: h :: rest =>
    (scalar? [a, b, c, d, e, f, g, h]).map fun x => (x, ⟨rest, by simp; omega⟩)
  | _ => none

theorem length_dropWhile_le {α : Type} (p : α → Bool) (l : List α) :
    (l.dropWhile p).length ≤ l.length :=
  (List.dropWhile_sublist p).length_le

theorem newline?_length_lt {cs rest : List Char} (h : newline? cs = some rest) :
    rest.length < cs.length := by
  unfold newline? at h
  split at h
  · obtain rfl := Option.some.inj h
    exact Nat.lt_succ_self _
  · obtain rfl := Option.some.inj h
    exact Nat.lt_succ_of_lt (Nat.lt_succ_self _)
  · exact absurd h (by simp)

-- Skips blanks and ends of lines.
def skipLines : List Char → List Char
  | '\n' :: rest | '\r' :: '\n' :: rest => skipLines rest
  | c :: rest => if isBlank c then skipLines rest else c :: rest
  | [] => []

theorem length_skipLines_le (cs : List Char) : (skipLines cs).length ≤ cs.length := by
  fun_induction skipLines cs <;> simp only [List.length_cons, Nat.le_refl] <;> omega

-- Behind a backslash at the end of a line, everything up to the next text is left out.
def lineBreak? (cs : List Char) : Option { rest : List Char // rest.length ≤ cs.length } :=
  match h : newline? (skipBlank cs) with
  | some rest =>
    some ⟨skipLines rest, by
      have h₁ := newline?_length_lt h
      have h₂ := length_dropWhile_le isBlank cs
      have h₃ := length_skipLines_le rest
      simp only [skipBlank] at h₁
      omega⟩
  | none => none

-- A string in double quotes, the first of which has been read.
def basic (cs : List Char) : Option (List Char × List Char) :=
  match cs with
  | [] => none
  | '"' :: rest => some ([], rest)
  | '\\' :: rest => do
    let (c, ⟨rest', _⟩) ← escape? rest
    let (s, rest) ← basic rest'
    return (c :: s, rest)
  | c :: rest => do
    if !isPlain c then none
    let (s, rest) ← basic rest
    return (c :: s, rest)
termination_by cs.length
decreasing_by all_goals simp_all; try omega

-- Quotes right behind the end of a string of several lines: up to two belong to it.
def closing (q : Char) (rest : List Char) : List Char × List Char :=
  let more := (rest.take 2).takeWhile (· = q)
  (more, rest.drop more.length)

-- A string of several lines in three double quotes, which have been read.
def basicLines (cs : List Char) : Option (List Char × List Char) :=
  match cs with
  | [] => none
  | '"' :: '"' :: '"' :: rest => some (closing '"' rest)
  | '\\' :: rest =>
    match lineBreak? rest with
    | some ⟨rest', _⟩ => basicLines rest'
    | none => do
      let (c, ⟨rest', _⟩) ← escape? rest
      let (s, rest) ← basicLines rest'
      return (c :: s, rest)
  | '\n' :: rest | '\r' :: '\n' :: rest => do
    let (s, rest) ← basicLines rest
    return ('\n' :: s, rest)
  | c :: rest => do
    if !isPlain c then none
    let (s, rest) ← basicLines rest
    return (c :: s, rest)
termination_by cs.length
decreasing_by all_goals simp_all; try omega

-- A string in single quotes, the first of which has been read. Nothing in it is an escape.
def literal : List Char → Option (List Char × List Char)
  | [] => none
  | '\'' :: rest => some ([], rest)
  | c :: rest => do
    if !isPlain c then none
    let (s, rest) ← literal rest
    return (c :: s, rest)

-- A string of several lines in three single quotes, which have been read.
def literalLines : List Char → Option (List Char × List Char)
  | [] => none
  | '\'' :: '\'' :: '\'' :: rest => some (closing '\'' rest)
  | '\n' :: rest | '\r' :: '\n' :: rest => do
    let (s, rest) ← literalLines rest
    return ('\n' :: s, rest)
  | c :: rest => do
    if !isPlain c then none
    let (s, rest) ← literalLines rest
    return (c :: s, rest)

-- An end of line right behind the opening quotes does not count.
def firstLine (cs : List Char) : List Char :=
  (newline? cs).getD cs

-- A string of any of the four kinds.
def text? : Reader String := fun cs => do
  let (s, rest) ←
    match cs with
    | '"' :: '"' :: '"' :: rest    => basicLines (firstLine rest)
    | '"' :: rest                  => basic rest
    | '\'' :: '\'' :: '\'' :: rest => literalLines (firstLine rest)
    | '\'' :: rest                 => literal rest
    | _                            => none
  return (String.ofList s, rest)

end RemoteTerm.Toml
