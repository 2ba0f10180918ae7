import RemoteTerm.CommandLine
import RemoteTerm.Grid
import RemoteTerm.Text.Blank
/-!
The size of a surface that leaves all rendering to the terminal around it.
-/

namespace RemoteTerm.Surface

structure Console where
  -- The grid where the environment gives none.
  fallback : Grid
deriving DecidableEq, Repr

namespace Console

-- The number of a decimal numeral.
def natural? (cs : List Char) : Option Nat :=
  if cs = [] then none
  else if cs.all Char.isDigit then
    some (cs.foldl (fun n d => n * 10 + (d.toNat - '0'.toNat)) 0)
  else none

-- The positive number of 16 bits that a text gives, blanks around it and a plus in front aside.
def dimension? (s : String) : Option UInt16 := do
  let n ←
    match Text.trim s.toList with
    | '+' :: ds => natural? ds
    | ds        => natural? ds
  if 0 < n ∧ n < UInt16.size then return UInt16.ofNat n else none

-- Each side by itself comes from the environment if it can.
def measure (c : Console) (env : Environment) : Grid where
  cols := ((env.lookup "COLUMNS").bind dimension?).getD c.fallback.cols
  rows := ((env.lookup "LINES").bind dimension?).getD c.fallback.rows

-- Nothing can be selected here.
def selection : String := ""

end Console

end RemoteTerm.Surface
