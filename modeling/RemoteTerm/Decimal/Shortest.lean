/-!
Decimals that stand for binary numbers: the fewest digits that read back as the same number, and of
those the nearest.

A positive finite number is m · 2^q. The reals that round to it form an interval around it, whose
ends belong to it if m is even. On a grid of decimals the number has two neighbours, and if any
point of the grid lies in the interval then one of these does.
-/

namespace RemoteTerm.Decimal

-- The number mantissa · 2^exponent.
structure Binary where
  mantissa : Nat
  exponent : Int
deriving DecidableEq, Repr

-- The number digits · 10^exponent.
structure Scaled where
  digits   : Nat
  exponent : Int
deriving DecidableEq, Repr, Inhabited

-- The magnitude of a finite number, from the bits of its 64-bit form.
def Binary.ofBits (bits : UInt64) : Binary :=
  let fraction : Nat := bits.toNat % Nat.pow 2 52
  let biased : Nat := bits.toNat / Nat.pow 2 52 % Nat.pow 2 11
  if biased = 0 then ⟨fraction, -1074⟩ else ⟨Nat.pow 2 52 + fraction, (biased : Int) - 1075⟩

-- Compares a · 10^p with b · 2^q.
def compare (a : Nat) (p : Int) (b : Nat) (q : Int) : Ordering :=
  Ord.compare (a * Nat.pow 10 p.toNat * Nat.pow 2 (-q).toNat)
    (b * Nat.pow 2 q.toNat * Nat.pow 10 (-p).toNat)

namespace Binary

-- Four times the ends of the interval and the number itself. Below a power of two the numbers lie
-- twice as close.
def fourLower (b : Binary) : Nat :=
  if b.mantissa = Nat.pow 2 52 ∧ b.exponent ≠ -1074 then 4 * b.mantissa - 1 else 4 * b.mantissa - 2

def fourUpper (b : Binary) : Nat :=
  4 * b.mantissa + 2

-- Whether a decimal rounds to the number.
def contains (b : Binary) (d : Scaled) : Bool :=
  let low  := compare d.digits d.exponent b.fourLower (b.exponent - 2)
  let high := compare d.digits d.exponent b.fourUpper (b.exponent - 2)
  if b.mantissa % 2 = 0 then low ≠ .lt && high ≠ .gt else low = .gt && high = .lt

-- The largest point of a decimal grid that is not above the number.
def floorOn (b : Binary) (p : Int) : Nat :=
  b.mantissa * Nat.pow 2 b.exponent.toNat * Nat.pow 10 (-p).toNat /
    (Nat.pow 10 p.toNat * Nat.pow 2 (-b.exponent).toNat)

-- The power of ten of the leading digit. All finite numbers are at least 10^-324.
def magnitude (b : Binary) : Int :=
  (Nat.toDigits 10 (b.floorOn (-340))).length - 341

-- Of the two neighbours on a grid the one that rounds to the number, or the nearer of both.
def nearestOn? (b : Binary) (p : Int) : Option Scaled :=
  let below : Scaled := ⟨b.floorOn p, p⟩
  let above : Scaled := ⟨b.floorOn p + 1, p⟩
  match b.contains below, b.contains above with
  | false, false => none
  | true, false  => some below
  | false, true  => some above
  | true, true   =>
    -- The number lies above the middle of both, or not.
    match compare (2 * below.digits + 1) p (2 * b.mantissa) b.exponent with
    | .lt => some above
    | .gt => some below
    | .eq => some (if below.digits % 2 = 0 then below else above)

-- The first grid, from coarse to fine, on which a neighbour rounds to the number. With 17 digits
-- there always is one.
def shortest (b : Binary) : Scaled :=
  let top := b.magnitude
  ((List.range 17).findSome? fun (n : Nat) => b.nearestOn? (top - (n : Int))).getD ⟨b.mantissa, 0⟩

end Binary

-- The digits without the zeros at their end.
def Scaled.trim (d : Scaled) : List Char × Int :=
  let cs := Nat.toDigits 10 d.digits
  let zeros := (cs.reverse.takeWhile (· = '0')).length
  (cs.take (cs.length - zeros), d.exponent + zeros)

end RemoteTerm.Decimal
