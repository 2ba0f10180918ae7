/-!
JSON values. Whole numbers that fit in 64 bits are kept as integers, and all others as floats.
-/

namespace RemoteTerm

inductive Json where
  | null
  | bool (b : Bool)
  | integer (n : Int)
  | float (x : Float)
  | string (s : String)
  | array (items : List Json)
  -- In the order in which they were written, repeated names included.
  | object (members : List (String × Json))
deriving Inhabited

namespace Json

-- Why a text is no JSON value.
inductive Fault where
  -- The text cannot be continued to a value.
  | malformed
  -- The text ends inside the value.
  | truncated
deriving DecidableEq, Repr

-- A value as it appears in a complaint about its type.
inductive Unexpected where
  | null
  | bool (b : Bool)
  | integer (n : Int)
  | float (x : Float)
  | string (s : String)
  | sequence
  | map

def unexpected : Json → Unexpected
  | null      => .null
  | bool b    => .bool b
  | integer n => .integer n
  | float x   => .float x
  | string s  => .string s
  | array _   => .sequence
  | object _  => .map

-- How deep arrays and objects may be nested.
def maxDepth : Nat := 127

end Json

end RemoteTerm
