import RemoteTerm.Decimal.Shortest
/-!
How the digits of a number are laid out on the line.
-/

namespace RemoteTerm.Decimal

-- Decisions about the text of a number. The exponent is that of the leading digit.
structure Layout where
  -- The exponents for which digits stand at their own places.
  least : Int
  most  : Int
  -- Whether a whole number still shows a point and a zero.
  pointZero : Bool
  -- Whether an exponent shows its plus sign.
  plus : Bool

-- Sixteen places before the point and five zeros behind it, and a sign on every exponent.
def plain : Layout where
  least     := -5
  most      := 15
  pointZero := true
  plus      := true

namespace Layout

def wholePart (l : Layout) : List Char :=
  if l.pointZero then ['.', '0'] else []

-- The digits at their own places.
def positional (l : Layout) (ds : List Char) (leading : Int) : List Char :=
  if leading < 0 then
    '0' :: '.' :: List.replicate (-leading - 1).toNat '0' ++ ds
  else
    let places := leading.toNat + 1
    if ds.length ≤ places then
      ds ++ List.replicate (places - ds.length) '0' ++ l.wholePart
    else
      ds.take places ++ '.' :: ds.drop places

-- One digit before the point, and the exponent.
def scientific (l : Layout) (ds : List Char) (leading : Int) : List Char :=
  let sign := if leading < 0 then ['-'] else if l.plus then ['+'] else []
  let exponent := 'e' :: sign ++ Nat.toDigits 10 leading.natAbs
  match ds with
  | [] => exponent
  | [d] => d :: exponent
  | d :: rest => d :: '.' :: rest ++ exponent

def magnitude (l : Layout) (d : Scaled) : List Char :=
  let (ds, exponent) := d.trim
  let leading := exponent + ds.length - 1
  if l.least ≤ leading ∧ leading ≤ l.most then l.positional ds leading
  else l.scientific ds leading

-- The text of a finite number.
def text (l : Layout) (x : Float) : String :=
  let bits := x.toBits
  let b := Binary.ofBits bits
  let sign := if bits.toNat / Nat.pow 2 63 = 1 then ['-'] else []
  String.ofList (sign ++ if b.mantissa = 0 then '0' :: l.wholePart else l.magnitude b.shortest)

end Layout

end RemoteTerm.Decimal
