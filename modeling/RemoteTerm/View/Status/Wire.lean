import RemoteTerm.Json.Printer
import RemoteTerm.Json.Record
import RemoteTerm.Json.Tagged
import RemoteTerm.View.Status
/-!
The status of a view as JSON, for whoever watches it from another process.
-/

namespace RemoteTerm

open Json (DataError DecodeError Decoder Fields Tagging)

namespace Connection

inductive Kind where
  | connecting
  | connected
  | reconnecting
  | exhausted
deriving DecidableEq

def tagging : Tagging Kind where
  tag      := "state"
  typeName := "Connection"
  variants :=
    [("connecting", .connecting), ("connected", .connected), ("reconnecting", .reconnecting),
     ("exhausted", .exhausted)]

def toJson : Connection → Json
  | .connecting => .object [("state", .string "connecting")]
  | .connected  => .object [("state", .string "connected")]
  | .reconnecting attempt =>
    .object [("state", .string "reconnecting"), ("attempt", .integer attempt.toNat)]
  | .exhausted  => .object [("state", .string "exhausted")]

def asAttempt (v : Json) : Except DataError UInt32 :=
  (Json.asUnsigned 4294967295 "u32" v).map UInt32.ofNat

-- A variant without fields takes any members, but no items.
def plain (c : Connection) : Fields → Except DataError Connection
  | .named _ | .positional [] => .ok c
  | .positional items => .error (.tooLong items.length 0)

def reconnectingOf : Fields → Except DataError Connection
  | .named members => do
    Fields.check [("attempt", fun v => (asAttempt v).map fun _ => ())] [] members
    return .reconnecting (← asAttempt (← Fields.require "attempt" members))
  | .positional [] =>
    .error (.tooShort 0 "an attempt as 1 element")
  | .positional (attempt :: rest) => do
    let attempt ← asAttempt attempt
    if rest.isEmpty then return .reconnecting attempt else .error (.tooLong (rest.length + 1) 1)

def ofFields : Kind → Fields → Except DataError Connection
  | .connecting   => plain .connecting
  | .connected    => plain .connected
  | .reconnecting => reconnectingOf
  | .exhausted    => plain .exhausted

def read (depth : Nat) : Decoder Connection := fun cs => do
  let ((kind, fields), rest) ← tagging.read depth cs
  return (← Json.liftData (ofFields kind fields), rest)

end Connection

namespace Modifiers

def toJson (m : Modifiers) : Json :=
  .object [("ctrl", .bool m.ctrl), ("alt", .bool m.alt), ("shift", .bool m.shift)]

structure Draft where
  ctrl  : Option Bool := none
  alt   : Option Bool := none
  shift : Option Bool := none

def fields : List (Json.Field Draft) :=
  [.of "ctrl" Draft.ctrl (fun d b => { d with ctrl := b }) Decoder.boolean,
   .of "alt" Draft.alt (fun d b => { d with alt := b }) Decoder.boolean,
   .of "shift" Draft.shift (fun d b => { d with shift := b }) Decoder.boolean]

def read : Decoder Modifiers := fun cs => do
  let (d, rest) ← Json.Record.read fields "modifiers with 3 elements" {} cs
  Json.liftData do
    let ctrl ← Json.required "ctrl" d.ctrl
    let alt ← Json.required "alt" d.alt
    let shift ← Json.required "shift" d.shift
    return (⟨ctrl, alt, shift⟩, rest)

end Modifiers

namespace Uuid

def read : Decoder Uuid := fun cs => do
  let (s, rest) ← Decoder.text "a formatted UUID string" cs
  match ofString? s with
  | some u => return (u, rest)
  | none   => .error (.data (.badText s "a formatted UUID string"))

end Uuid

namespace Status

def ofOption {α : Type} (f : α → Json) : Option α → Json
  | some a => f a
  | none   => .null

def toJson (s : Status) : Json :=
  .object
    [("view_id", .string s.viewId.toString),
     ("connection", s.connection.toJson),
     ("latched", s.latched.toJson),
     ("cols", ofOption (fun n => .integer n.toNat) s.cols),
     ("rows", ofOption (fun n => .integer n.toNat) s.rows),
     ("last_notice", ofOption .string s.lastNotice),
     ("closed", .bool s.closed)]

def render (s : Status) : String :=
  s.toJson.render

-- A status of which some fields are known. What may be null is known even when it is null.
structure Draft where
  viewId     : Option Uuid := none
  connection : Option Connection := none
  latched    : Option Modifiers := none
  cols       : Option (Option UInt16) := none
  rows       : Option (Option UInt16) := none
  lastNotice : Option (Option String) := none
  closed     : Option Bool := none

def readCells : Decoder (Option UInt16) :=
  Decoder.nullable fun cs =>
    (Decoder.unsigned 65535 "u16" cs).map fun (n, rest) => (UInt16.ofNat n, rest)

def fields (depth : Nat) : List (Json.Field Draft) :=
  [.of "view_id" Draft.viewId (fun d a => { d with viewId := a }) Uuid.read,
   .of "connection" Draft.connection (fun d a => { d with connection := a })
     (Connection.read depth),
   .of "latched" Draft.latched (fun d a => { d with latched := a }) Modifiers.read,
   .of "cols" Draft.cols (fun d a => { d with cols := some a }) readCells,
   .of "rows" Draft.rows (fun d a => { d with rows := some a }) readCells,
   .of "last_notice" Draft.lastNotice (fun d a => { d with lastNotice := some a })
     (Decoder.nullable (Decoder.text "a string")),
   .of "closed" Draft.closed (fun d a => { d with closed := a }) Decoder.boolean]

-- What may be null may also be left out.
def ofDraft (d : Draft) : Except DataError Status := do
  let viewId ← Json.required "view_id" d.viewId
  let connection ← Json.required "connection" d.connection
  let latched ← Json.required "latched" d.latched
  let closed ← Json.required "closed" d.closed
  return {
    viewId, connection, latched, closed
    cols       := d.cols.join
    rows       := d.rows.join
    lastNotice := d.lastNotice.join }

def read : Decoder Status := fun cs => do
  let (d, rest) ← Json.Record.read (fields (Json.maxDepth - 1)) "a status with 7 elements" {} cs
  return (← Json.liftData (ofDraft d), rest)

-- The status of a text.
def decode (s : String) : Except DecodeError Status :=
  Decoder.run read s

end Status

end RemoteTerm
