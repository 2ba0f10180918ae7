/-!
Hexadecimal digits.
-/

namespace RemoteTerm.Hex

def digits : List Char :=
  ['0', '1', '2', '3', '4', '5', '6', '7', '8', '9', 'a', 'b', 'c', 'd', 'e', 'f']

-- The digit of a value, in lower case.
def digit (n : Fin 16) : Char :=
  digits.get ⟨n.val, by simp [digits]⟩

-- The value of a digit in either case.
def value? (c : Char) : Option (Fin 16) :=
  if '0' ≤ c && c ≤ '9' then some (Fin.ofNat 16 (c.toNat - '0'.toNat))
  else if 'a' ≤ c && c ≤ 'f' then some (Fin.ofNat 16 (c.toNat - 'a'.toNat + 10))
  else if 'A' ≤ c && c ≤ 'F' then some (Fin.ofNat 16 (c.toNat - 'A'.toNat + 10))
  else none

theorem value?_digit (n : Fin 16) : value? (digit n) = some n := by
  revert n
  decide

-- The number that a list of digits stands for.
def number (ds : List (Fin 16)) : Nat :=
  ds.foldl (fun n d => n * 16 + d.val) 0

end RemoteTerm.Hex
