import RemoteTerm.Toml
import RemoteTerm.Toml.Text
/-!
Numbers in TOML. Integers have 64 bits, and may be written to four bases. Underscores may stand
between digits, one at a time.
-/

namespace RemoteTerm.Toml

-- The value of a digit to a base of at most sixteen.
def digit? (base : Nat) (c : Char) : Option Nat :=
  ((Hex.value? c).map Fin.val).filter (· < base)

def ofDigits (base : Nat) (ds : List Nat) : Nat :=
  ds.foldl (fun n d => n * base + d) 0

-- The digits in front that may follow a digit.
def moreDigits (base : Nat) : List Char → List Nat × List Char
  | [] => ([], [])
  | '_' :: c :: rest =>
    match digit? base c with
    | none => ([], '_' :: c :: rest)
    | some d =>
      let (ds, rest) := moreDigits base rest
      (d :: ds, rest)
  | c :: rest =>
    match digit? base c with
    | none => ([], c :: rest)
    | some d =>
      let (ds, rest) := moreDigits base rest
      (d :: ds, rest)

-- At least one digit.
def digits? (base : Nat) : Reader (List Nat)
  | [] => none
  | c :: rest => do
    let d ← digit? base c
    let (ds, rest) := moreDigits base rest
    return (d :: ds, rest)

-- The digits of a decimal number. Only zero itself begins with zero.
def wholeDigits? : Reader (List Nat)
  | '0' :: rest => some ([0], rest)
  | cs          => digits? 10 cs

-- Whether there is a minus in front.
def sign (cs : List Char) : Bool × List Char :=
  match cs with
  | '-' :: rest => (true, rest)
  | '+' :: rest => (false, rest)
  | _           => (false, cs)

def signed (negative : Bool) (n : Nat) : Int :=
  if negative then -n else n

-- An integer without a check of its size.
def unbounded? : Reader Int
  | '0' :: 'x' :: rest => (digits? 16 rest).map fun (ds, rest) => (ofDigits 16 ds, rest)
  | '0' :: 'o' :: rest => (digits? 8 rest).map fun (ds, rest) => (ofDigits 8 ds, rest)
  | '0' :: 'b' :: rest => (digits? 2 rest).map fun (ds, rest) => (ofDigits 2 ds, rest)
  | cs =>
    let (negative, rest) := sign cs
    (wholeDigits? rest).map fun (ds, rest) => (signed negative (ofDigits 10 ds), rest)

def integer? : Reader Toml := fun cs => do
  let (n, rest) ← unbounded? cs
  if Int64.minValue.toInt ≤ n ∧ n ≤ Int64.maxValue.toInt then return (.integer n, rest) else none

def fraction? : Reader (List Nat)
  | '.' :: rest => digits? 10 rest
  | _ => none

def exponent? : Reader Int
  | c :: rest =>
    if c = 'e' ∨ c = 'E' then do
      let (negative, rest) := sign rest
      let (ds, rest) ← digits? 10 rest
      return (signed negative (ofDigits 10 ds), rest)
    else none
  | [] => none

-- The float nearest to digits times a power of ten. What is far out of range is settled without the
-- power.
def nearest (ds : List Nat) (e : Int) : Float :=
  let m := ofDigits 10 ds
  if m = 0 ∨ ds.length + e < -400 then 0
  else if 400 < e then 1 / 0
  else Float.ofScientific m (e < 0) e.natAbs

-- A number with a fraction, an exponent or both. One that is too large is refused, unless it is
-- negative.
def decimal? : Reader Toml := fun cs => do
  let (negative, rest) := sign cs
  let (whole, rest) ← wholeDigits? rest
  let (fraction, exponent, rest) ←
    match fraction? rest with
    | some (ds, rest) =>
      match exponent? rest with
      | some (e, rest) => some (ds, e, rest)
      | none           => some (ds, 0, rest)
    | none => (exponent? rest).map fun (e, rest) => ([], e, rest)
  let x := nearest (whole ++ fraction) (exponent - fraction.length)
  if negative then return (.float (-x), rest)
  else if x.isInf then none
  else return (.float x, rest)

-- One of the floats that have no digits.
def special? : Reader Toml := fun cs =>
  match sign cs with
  | (true, 'i' :: 'n' :: 'f' :: rest)  => some (.float (-1 / 0), rest)
  | (false, 'i' :: 'n' :: 'f' :: rest) => some (.float (1 / 0), rest)
  | (_, 'n' :: 'a' :: 'n' :: rest)     => some (.float (0 / 0), rest)
  | _                                  => none

-- A number of any kind. What begins like a float is one if it can be.
def number? : Reader Toml := fun cs =>
  decimal? cs <|> special? cs <|> integer? cs

end RemoteTerm.Toml
