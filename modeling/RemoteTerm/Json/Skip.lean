import RemoteTerm.Json.Reader
/-!
Passing over a value that nobody will look at. It may be nested as deep as it likes, its strings may
hold surrogates without a partner, and its numbers may be of any size.
-/

namespace RemoteTerm.Json

-- At least one digit, of which there must be no shortage even at the end of the text.
def passDigits (cs : List Char) : Except Fault (List Char) :=
  match cs with
  | c :: _ => if c.isDigit then .ok (cs.dropWhile Char.isDigit) else .error .malformed
  | []     => .error .malformed

def passExponent (cs : List Char) : Except Fault (List Char) :=
  match cs with
  | c :: rest =>
    if c = 'e' ∨ c = 'E' then
      match rest with
      | '-' :: rest | '+' :: rest => passDigits rest
      | _ => passDigits rest
    else .ok cs
  | [] => .ok []

def passNumber (cs : List Char) : Except Fault (List Char) := do
  if (cs.take 1 = ['0']) ∧ ((cs.drop 1).head?.any Char.isDigit) then .error .malformed
  let rest ← passDigits cs
  match rest with
  | '.' :: rest => passExponent (← passDigits rest)
  | _ => passExponent rest

mutual

def passWithin : Nat → List Char → Except Fault (List Char)
  | 0, _ => .error .truncated
  | fuel + 1, cs =>
    match skipBlank cs with
    | [] => .error .truncated
    | 'n' :: rest => word ['u', 'l', 'l'] rest
    | 't' :: rest => word ['r', 'u', 'e'] rest
    | 'f' :: rest => word ['a', 'l', 's', 'e'] rest
    | '"' :: rest => passString rest
    | '-' :: rest => passNumber rest
    | '[' :: rest => passItemsWithin fuel true rest
    | '\x7b' :: rest => passMembersWithin fuel true rest
    | c :: rest => if c.isDigit then passNumber (c :: rest) else .error .malformed

def passItemsWithin : Nat → Bool → List Char → Except Fault (List Char)
  | 0, _, _ => .error .truncated
  | fuel + 1, first, cs => do
    match ← nextItem first cs with
    | .done rest  => return rest
    | .entry rest => passItemsWithin fuel false (← passWithin fuel rest)

def passMembersWithin : Nat → Bool → List Char → Except Fault (List Char)
  | 0, _, _ => .error .truncated
  | fuel + 1, first, cs => do
    match ← nextMember first cs with
    | .done rest  => return rest
    | .entry rest => passMembersWithin fuel false (← passWithin fuel (← colon (← passString rest)))

end

def pass (cs : List Char) : Except Fault (List Char) :=
  passWithin (fuelFor cs) cs

end RemoteTerm.Json
