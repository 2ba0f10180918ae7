import RemoteTerm.Frame
import RemoteTerm.Json.Printer
import RemoteTerm.Json.Tagged
/-!
Control frames on the wire: one JSON object for each frame, whose type says what kind it is.
-/

namespace RemoteTerm.Frame

open Json (DataError DecodeError Decoder Fields Tagging)

def toJson : Frame → Json
  | .input data  => .object [("type", .string Kind.input.name), ("data", .string data)]
  | .resize size =>
    .object [("type", .string Kind.resize.name), ("cols", .integer size.cols.toNat),
      ("rows", .integer size.rows.toNat)]

def render (f : Frame) : String :=
  f.toJson.render

def tagging : Tagging Kind where
  tag      := "type"
  typeName := "ControlFrame"
  variants := [(Kind.input.name, .input), (Kind.resize.name, .resize)]

def asCells (v : Json) : Except DataError UInt16 :=
  (Json.asUnsigned 65535 "u16" v).map UInt16.ofNat

def asData (v : Json) : Except DataError String :=
  Json.asText "a string" v

-- The fields of a frame by their names.
def ofMembers (members : List (String × Json)) : Kind → Except DataError Frame
  | .input => do
    Fields.check [("data", fun v => (asData v).map fun _ => ())] [] members
    return .input (← asData (← Fields.require "data" members))
  | .resize => do
    let cells v := (asCells v).map fun _ => ()
    Fields.check [("cols", cells), ("rows", cells)] [] members
    let cols ← Fields.require "cols" members
    let rows ← Fields.require "rows" members
    return .resize ⟨← asCells cols, ← asCells rows⟩

-- The fields of a frame in their order.
def ofItems : Kind → List Json → Except DataError Frame
  | .input, [] => .error (.tooShort 0 "struct variant ControlFrame::Input with 1 element")
  | .input, data :: rest => do
    let data ← asData data
    if rest.isEmpty then return .input data else .error (.tooLong (rest.length + 1) 1)
  | .resize, items => do
    let short := "struct variant ControlFrame::Resize with 2 elements"
    match items with
    | [] => .error (.tooShort 0 short)
    | cols :: items =>
      let cols ← asCells cols
      match items with
      | [] => .error (.tooShort 1 short)
      | rows :: rest =>
        let rows ← asCells rows
        if rest.isEmpty then return .resize ⟨cols, rows⟩ else .error (.tooLong (rest.length + 2) 2)

def ofFields (kind : Kind) : Fields → Except DataError Frame
  | .named members    => ofMembers members kind
  | .positional items => ofItems kind items

def read : Decoder Frame := fun cs => do
  let ((kind, fields), rest) ← tagging.read Json.maxDepth cs
  return (← Json.liftData (ofFields kind fields), rest)

-- The frame of a text.
def decode (s : String) : Except DecodeError Frame :=
  Decoder.run read s

end RemoteTerm.Frame
