import RemoteTerm.Json.Decode
/-!
Tagged values: an object one of whose members says which variant it is, or an array that begins
with that tag.

The tag is checked where it stands. The other members are read whole and are checked later, when
the variant is known.
-/

namespace RemoteTerm.Json

-- What a tagged value holds beside its tag.
inductive Fields where
  | named (members : List (String × Json))
  | positional (items : List Json)

namespace Fields

-- The one member of a name, if there is one.
def field? (name : String) (members : List (String × Json)) : Option Json :=
  (members.find? (·.1 = name)).map Prod.snd

-- Checks the members of the given names in the order of the text: each once, and of its type.
def check (fields : List (String × (Json → Except DataError Unit))) :
    List String → List (String × Json) → Except DataError Unit
  | _, [] => .ok ()
  | seen, (name, v) :: rest =>
    match fields.lookup name with
    | none => check fields seen rest
    | some f => do
      if name ∈ seen then .error (.duplicateField name)
      f v
      check fields (name :: seen) rest

def require (name : String) (members : List (String × Json)) : Except DataError Json :=
  match field? name members with
  | some v => .ok v
  | none   => .error (.missingField name)

end Fields

-- The shape of a tagged type: the name of the member that is its tag, what a complaint calls the
-- type, and its variants by name.
structure Tagging (α : Type) where
  tag      : String
  typeName : String
  variants : List (String × α)

namespace Tagging

variable {α : Type} (t : Tagging α)

def variant (name : String) : Except DataError α :=
  match t.variants.lookup name with
  | some a => .ok a
  | none   => .error (.unknownVariant name (t.variants.map Prod.fst))

-- The tag itself.
def readTag : Decoder α := fun cs => do
  let (name, rest) ← Decoder.text "variant identifier" cs
  return (← liftData (t.variant name), rest)

-- The members of an object, of which the tag may be any.
def membersWithin (depth : Nat) : Nat → Bool → Option α → Decoder (Option α × List (String × Json))
  | 0, _, _ => fun _ => .error (.fault .truncated)
  | fuel + 1, first, found => fun cs => do
    match ← liftFault (nextMember first cs) with
    | .done rest => return ((found, []), rest)
    | .entry rest =>
      let (name, rest) ← liftFault (unquote rest)
      if String.ofList name = t.tag then
        if found.isSome then .error (.data (.duplicateField t.tag))
        let (a, rest) ← t.readTag (← liftFault (colon rest))
        membersWithin depth fuel false (some a) rest
      else
        let (v, rest) ← liftFault (value depth (← liftFault (colon rest)))
        let ((found, members), rest) ← membersWithin depth fuel false found rest
        return ((found, (String.ofList name, v) :: members), rest)

-- A tagged value inside of which arrays and objects are nested at most so deep.
def read (depth : Nat) : Decoder (α × Fields) := fun cs =>
  match skipBlank cs, depth with
  | '\x7b' :: _, 0 | '[' :: _, 0 => .error (.fault .malformed)
  | '\x7b' :: rest, depth + 1 => do
    let ((found, members), rest) ← t.membersWithin depth (fuelFor rest) true none rest
    match found with
    | some a => return ((a, .named members), rest)
    | none   => .error (.data (.missingField t.tag))
  | '[' :: rest, depth + 1 => do
    match ← liftFault (nextItem true rest) with
    | .done _ => .error (.data (.missingField t.tag))
    | .entry rest =>
      let (a, rest) ← t.readTag rest
      let (xs, rest) ← liftFault (items depth rest)
      return ((a, .positional xs), rest)
  | _, _ => .error (mismatch s!"internally tagged enum {t.typeName}" cs)

end Tagging

end RemoteTerm.Json
