import RemoteTerm.Decimal.Layout
import RemoteTerm.Json.Reader
import RemoteTerm.Text.Quoted
/-!
Reading typed data straight from a text. What has the wrong type is reported where it begins, before
the text behind it is looked at, so of two faults the first one in the text wins.
-/

namespace RemoteTerm.Json

-- What is wrong with data in a well-formed text.
inductive DataError where
  | missingField (name : String)
  | duplicateField (name : String)
  | unknownVariant (found : String) (expected : List String)
  | wrongType (found : Unexpected) (expected : String)
  | outOfRange (found : Int) (expected : String)
  | tooShort (count : Nat) (expected : String)
  | tooLong (count expected : Nat)
  | badText (found : String) (expected : String)

inductive DecodeError where
  | fault (f : Fault)
  | data (e : DataError)

def Unexpected.message : Unexpected → String
  | null      => "null"
  | bool b    => s!"boolean `{b}`"
  | integer n => s!"integer `{n}`"
  | float x   => s!"floating point `{Decimal.plain.text x}`"
  | string s  => s!"string {Text.quoted s}"
  | sequence  => "sequence"
  | map       => "map"

namespace DataError

def choices : List String → String
  | []     => "nothing"
  | [a]    => s!"`{a}`"
  | [a, b] => s!"`{a}` or `{b}`"
  | names  => "one of " ++ String.intercalate ", " (names.map fun a => s!"`{a}`")

def elements : Nat → String
  | 1 => "1 element"
  | n => s!"{n} elements"

def message : DataError → String
  | missingField name => s!"missing field `{name}`"
  | duplicateField name => s!"duplicate field `{name}`"
  | unknownVariant found expected =>
    s!"unknown variant `{found}`, expected {choices expected}"
  | wrongType found expected => s!"invalid type: {found.message}, expected {expected}"
  | outOfRange found expected => s!"invalid value: integer `{found}`, expected {expected}"
  | tooShort count expected => s!"invalid length {count}, expected {expected}"
  | tooLong count expected =>
    s!"invalid length {count}, expected {elements expected} in sequence"
  | badText found expected => s!"invalid value: string {Text.quoted found}, expected {expected}"

end DataError

-- Reads something from the front of a text.
abbrev Decoder (α : Type) := List Char → Except DecodeError (α × List Char)

def liftFault {α : Type} (r : Except Fault α) : Except DecodeError α :=
  r.mapError .fault

def liftData {α : Type} (r : Except DataError α) : Except DecodeError α :=
  r.mapError .data

-- The complaint about a value of the wrong type. An array or an object is recognised by its first
-- character, and anything else is read first.
def mismatch (expected : String) (cs : List Char) : DecodeError :=
  match skipBlank cs with
  | '['    :: _ => .data (.wrongType .sequence expected)
  | '\x7b' :: _ => .data (.wrongType .map expected)
  | cs =>
    match value 0 cs with
    | .ok (v, _) => .data (.wrongType v.unexpected expected)
    | .error f   => .fault f

namespace Decoder

def text (expected : String) : Decoder String := fun cs =>
  match skipBlank cs with
  | '"' :: rest => liftFault ((unquote rest).map fun (s, rest) => (String.ofList s, rest))
  | _           => .error (mismatch expected cs)

def boolean : Decoder Bool := fun cs =>
  match skipBlank cs with
  | 't' :: rest => liftFault ((word ['r', 'u', 'e'] rest).map (true, ·))
  | 'f' :: rest => liftFault ((word ['a', 'l', 's', 'e'] rest).map (false, ·))
  | _           => .error (mismatch "a boolean" cs)

end Decoder

-- A whole number from zero to a largest one.
def asUnsigned (largest : Nat) (expected : String) : Json → Except DataError Nat
  | .integer n =>
    if 0 ≤ n ∧ n ≤ largest then .ok n.toNat else .error (.outOfRange n expected)
  | v => .error (.wrongType v.unexpected expected)

def asText (expected : String) : Json → Except DataError String
  | .string s => .ok s
  | v => .error (.wrongType v.unexpected expected)

namespace Decoder

def unsigned (largest : Nat) (expected : String) : Decoder Nat := fun cs =>
  match skipBlank cs with
  | '-' :: rest => do
    let (v, rest) ← liftFault (number true rest)
    return (← liftData (asUnsigned largest expected v), rest)
  | c :: rest =>
    if c.isDigit then do
      let (v, rest) ← liftFault (number false (c :: rest))
      return (← liftData (asUnsigned largest expected v), rest)
    else .error (mismatch expected cs)
  | [] => .error (mismatch expected cs)

-- Something, or null in its place.
def nullable {α : Type} (d : Decoder α) : Decoder (Option α) := fun cs =>
  match skipBlank cs with
  | 'n' :: rest => liftFault ((word ['u', 'l', 'l'] rest).map (none, ·))
  | _           => (d cs).map fun (a, rest) => (some a, rest)

-- The whole of a text. What stands behind the value is looked at last.
def run {α : Type} (d : Decoder α) (s : String) : Except DecodeError α := do
  let (a, rest) ← d s.toList
  if (skipBlank rest).isEmpty then .ok a else .error (.fault .malformed)

end Decoder

end RemoteTerm.Json
