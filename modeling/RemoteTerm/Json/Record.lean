import RemoteTerm.Json.Decode
import RemoteTerm.Json.Skip
/-!
Records: an object with a member for each field, or an array of all fields in their order. Each
field is read with its type where it stands, and members of other names are passed over.
-/

namespace RemoteTerm.Json

-- A field of a record that is being put together.
structure Field (σ : Type) where
  name  : String
  isSet : σ → Bool
  read  : σ → Decoder σ

-- A field that keeps its value in one place of the draft.
def Field.of {σ α : Type} (name : String) (get : σ → Option α) (set : σ → α → σ) (d : Decoder α) :
    Field σ where
  name
  isSet := fun s => (get s).isSome
  read  := fun s cs => (d cs).map fun (a, rest) => (set s a, rest)

namespace Record

variable {σ : Type} (fields : List (Field σ))

def readMembers : Nat → Bool → σ → Decoder σ
  | 0, _, _ => fun _ => .error (.fault .truncated)
  | fuel + 1, first, s => fun cs => do
    match ← liftFault (nextMember first cs) with
    | .done rest => return (s, rest)
    | .entry rest =>
      let (name, rest) ← liftFault (unquote rest)
      let name := String.ofList name
      match fields.find? (·.name = name) with
      | some f =>
        if f.isSet s then .error (.data (.duplicateField name))
        let (s, rest) ← f.read s (← liftFault (colon rest))
        readMembers fuel false s rest
      | none =>
        let rest ← liftFault (pass (← liftFault (colon rest)))
        readMembers fuel false s rest

-- The end of an array that has no further element.
def closeItems (cs : List Char) : Except Fault (List Char) :=
  match skipBlank cs with
  | []          => .error .truncated
  | ']' :: rest => .ok rest
  | _           => .error .malformed

def readItems (expected : String) (count : Nat) (first : Bool) :
    List (Field σ) → σ → Decoder σ
  | [], s => fun cs => liftFault ((closeItems cs).map (s, ·))
  | f :: fs, s => fun cs => do
    match ← liftFault (nextItem first cs) with
    | .done _ => .error (.data (.tooShort count expected))
    | .entry rest =>
      let (s, rest) ← f.read s rest
      readItems expected (count + 1) false fs s rest

-- A record, beginning with an empty draft.
def read (expected : String) (empty : σ) : Decoder σ := fun cs =>
  match skipBlank cs with
  | '\x7b' :: rest => readMembers fields (fuelFor rest) true empty rest
  | '[' :: rest    => readItems expected 0 true fields empty rest
  | _              => .error (mismatch expected cs)

end Record

-- A field that must have been there.
def required {α : Type} (name : String) : Option α → Except DataError α
  | some a => .ok a
  | none   => .error (.missingField name)

end RemoteTerm.Json
