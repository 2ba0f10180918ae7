import RemoteTerm.Json
/-!
Reading numbers. The digits of a number make a significand of 64 bits: once another digit would not
fit, whole digits only count as powers of ten and fractional digits are left out. The value is the
significand times or over a power of ten, in floating point.
-/

namespace RemoteTerm.Json

-- A number as it is written.
structure Numeral where
  negative : Bool
  whole    : List Char
  fraction : List Char := []
  exponent : Int := 0
  -- Whether there is neither point nor exponent.
  isWhole  : Bool := true

namespace Numeral

-- Takes digits into a significand while it fits in 64 bits, and gives the digits left over.
def absorb (n : Nat) : List Char → Nat × List Char
  | [] => (n, [])
  | d :: ds =>
    let m := n * 10 + (d.toNat - '0'.toNat)
    if m < Nat.pow 2 64 then absorb m ds else (n, d :: ds)

-- The power of ten nearest to the exact one.
def tenTo (k : Nat) : Float :=
  Float.ofScientific 1 false k

-- Times a power of ten. Nothing is said for results beyond all numbers.
def scale? (x : Float) (e : Int) : Option Float :=
  if 0 ≤ e then
    if x == 0 then some x
    else if 308 < e then none
    else
      let y := x * tenTo e.toNat
      if y.isInf then none else some y
  else if -308 ≤ e then some (x / tenTo (-e).toNat)
  else if x == 0 then some x
  else scale? (x / tenTo 308) (e + 308)
termination_by e.natAbs

def withSign (n : Numeral) (x : Float) : Float :=
  if n.negative then -x else x

-- The value, or none if it is too large. Zero with a minus sign is no integer.
def value? (n : Numeral) : Option Json :=
  match absorb 0 n.whole with
  | (s, dropped) =>
    if n.isWhole && dropped.isEmpty then
      if !n.negative then some (.integer s)
      else if 0 < s ∧ s ≤ Nat.pow 2 63 then some (.integer (-s))
      else some (.float (-s.toUInt64.toFloat))
    else
      let (s, left) := absorb s n.fraction
      let e := n.exponent + dropped.length - (n.fraction.length - left.length)
      (scale? s.toUInt64.toFloat e).map fun x => .float (n.withSign x)

end Numeral

-- At least one digit.
def digits (cs : List Char) : Except Fault (List Char × List Char) :=
  match cs.takeWhile Char.isDigit, cs.dropWhile Char.isDigit with
  | [], []      => .error .truncated
  | [], _ :: _  => .error .malformed
  | ds, rest    => .ok (ds, rest)

-- The digits before the point. Only zero itself begins with zero.
def wholeDigits (cs : List Char) : Except Fault (List Char × List Char) := do
  let (ds, rest) ← digits cs
  if ds.head? = some '0' ∧ 1 < ds.length then .error .malformed else .ok (ds, rest)

def fractionDigits (cs : List Char) : Except Fault (Option (List Char) × List Char) :=
  match cs with
  | '.' :: rest => do
    let (ds, rest) ← digits rest
    return (some ds, rest)
  | _ => .ok (none, cs)

def exponentDigits (cs : List Char) : Except Fault (Option Int × List Char) :=
  match cs with
  | c :: rest =>
    if c = 'e' ∨ c = 'E' then do
      let (negative, rest) :=
        match rest with
        | '-' :: rest => (true, rest)
        | '+' :: rest => (false, rest)
        | _           => (false, rest)
      let (ds, rest) ← digits rest
      let e := ds.foldl (fun n d => n * 10 + (d.toNat - '0'.toNat)) 0
      return (some (if negative then -(e : Int) else e), rest)
    else .ok (none, cs)
  | [] => .ok (none, cs)

-- A number whose sign has been read.
def number (negative : Bool) (cs : List Char) : Except Fault (Json × List Char) := do
  let (whole, rest) ← wholeDigits cs
  let (fraction, rest) ← fractionDigits rest
  let (exponent, rest) ← exponentDigits rest
  let n : Numeral :=
    { negative, whole
      fraction := fraction.getD []
      exponent := exponent.getD 0
      isWhole  := fraction.isNone && exponent.isNone }
  match n.value? with
  | some v => .ok (v, rest)
  | none   => .error .malformed

end RemoteTerm.Json
