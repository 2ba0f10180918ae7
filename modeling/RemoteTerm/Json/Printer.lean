import RemoteTerm.Decimal.Layout
import RemoteTerm.Json.Text
/-!
Writing JSON values, without any space.
-/

namespace RemoteTerm.Json

mutual

def toChars : Json → List Char
  | .null       => "null".toList
  | .bool true  => "true".toList
  | .bool false => "false".toList
  | .integer n  => (toString n).toList
  | .float x    => (Decimal.plain.text x).toList
  | .string s   => quote s
  | .array xs   => '[' :: itemsToChars xs ++ [']']
  | .object ms  => '\x7b' :: membersToChars ms ++ ['\x7d']

def itemsToChars : List Json → List Char
  | []          => []
  | [x]         => x.toChars
  | x :: y :: r => x.toChars ++ ',' :: itemsToChars (y :: r)

def membersToChars : List (String × Json) → List Char
  | []                 => []
  | [(n, x)]           => quote n ++ ':' :: x.toChars
  | (n, x) :: y :: r   => quote n ++ ':' :: x.toChars ++ ',' :: membersToChars (y :: r)

end

def render (v : Json) : String :=
  String.ofList v.toChars

end RemoteTerm.Json
