import RemoteTerm.Toml.Number
/-!
Dates and times in TOML, as far as it takes to tell where they end and whether they exist.
-/

namespace RemoteTerm.Toml.Date

def isLeap (year : Nat) : Bool :=
  year % 4 = 0 && (year % 100 ≠ 0 || year % 400 = 0)

def daysIn (year month : Nat) : Nat :=
  match month with
  | 2            => if isLeap year then 29 else 28
  | 4 | 6 | 9 | 11 => 30
  | _            => 31

-- A decimal number of exactly so many digits.
def fixed? (count : Nat) : Reader Nat := fun cs => do
  let ds ← (cs.take count).mapM (digit? 10)
  if ds.length = count then return (ofDigits 10 ds, cs.drop count) else none

-- A number of two digits, at most so large.
def pair? (most : Nat) : Reader Nat := fun cs => do
  let (n, rest) ← fixed? 2 cs
  if n ≤ most then return (n, rest) else none

def mark? (c : Char) : List Char → Option (List Char)
  | d :: rest => if d = c then some rest else none
  | []        => none

-- The rest behind a day that is in the calendar.
def day? (cs : List Char) : Option (List Char) := do
  let (year, rest) ← fixed? 4 cs
  let (month, rest) ← pair? 12 (← mark? '-' rest)
  let (day, rest) ← pair? (daysIn year month) (← mark? '-' rest)
  if month = 0 ∨ day = 0 then none else return rest

-- The rest behind a fraction of a second, if there is one.
def skipFraction (cs : List Char) : List Char :=
  match cs with
  | '.' :: c :: rest => if c.isDigit then rest.dropWhile Char.isDigit else cs
  | _ => cs

-- The rest behind a time of the day, which may be in a leap second.
def time? (cs : List Char) : Option (List Char) := do
  let (_, rest) ← pair? 23 cs
  let (_, rest) ← pair? 59 (← mark? ':' rest)
  let (_, rest) ← pair? 60 (← mark? ':' rest)
  return skipFraction rest

-- The rest behind the distance to universal time.
def offset? : List Char → Option (List Char)
  | c :: rest =>
    if c = 'Z' ∨ c = 'z' then some rest
    else if c = '+' ∨ c = '-' then do
      let (_, rest) ← pair? 23 rest
      let (_, rest) ← pair? 59 (← mark? ':' rest)
      return rest
    else none
  | [] => none

-- The rest behind what may follow a day.
def timeAfterDay? : List Char → Option (List Char)
  | c :: rest =>
    if c = 'T' ∨ c = 't' ∨ c = ' ' then do
      let rest ← time? rest
      return (offset? rest).getD rest
    else none
  | [] => none

-- The rest behind a day, a time or both.
def dateTime? (cs : List Char) : Option (List Char) :=
  match day? cs with
  | some rest => some ((timeAfterDay? rest).getD rest)
  | none      => time? cs

end RemoteTerm.Toml.Date
