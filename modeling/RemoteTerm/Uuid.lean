import RemoteTerm.Hex
/-!
Universally unique identifiers: 32 hexadecimal digits in groups of 8, 4, 4, 4 and 12.
-/

namespace RemoteTerm

@[ext]
structure Uuid where
  digits : List (Fin 16)
  length_digits : digits.length = 32
deriving DecidableEq

namespace Uuid

def zero : Uuid := ⟨List.replicate 32 ⟨0, Nat.succ_pos 15⟩, List.length_replicate⟩

instance : Inhabited Uuid := ⟨zero⟩

-- Puts the hyphens between the groups.
def hyphenate (s : List Char) : List Char :=
  s.take 8 ++ '-' :: (s.drop 8).take 4 ++ '-' :: (s.drop 12).take 4 ++ '-' :: (s.drop 16).take 4 ++
    '-' :: s.drop 20

def toChars (u : Uuid) : List Char :=
  hyphenate (u.digits.map Hex.digit)

def toString (u : Uuid) : String :=
  String.ofList u.toChars

-- Takes the hyphens out again, where they are at the four places.
def dehyphenate? (s : List Char) : Option (List Char) :=
  let bare := s.take 8 ++ (s.drop 9).take 4 ++ (s.drop 14).take 4 ++ (s.drop 19).take 4 ++ s.drop 24
  if s.length = 36 ∧ hyphenate bare = s then some bare else none

def ofDigits? (s : List Char) : Option Uuid :=
  match s.mapM Hex.value? with
  | some ds => if h : ds.length = 32 then some ⟨ds, h⟩ else none
  | none => none

-- The spellings of an identifier: plain digits, or hyphenated, which may stand in braces or behind
-- a scheme.
def ofChars? (s : List Char) : Option Uuid :=
  match s.length with
  | 32 => ofDigits? s
  | 36 => dehyphenate? s >>= ofDigits?
  | 38 =>
    if s.head? = some '\x7b' ∧ s.getLast? = some '\x7d' then
      dehyphenate? (s.drop 1).dropLast >>= ofDigits?
    else none
  | 45 =>
    if "urn:uuid:".toList.isPrefixOf s then dehyphenate? (s.drop 9) >>= ofDigits? else none
  | _ => none

def ofString? (s : String) : Option Uuid :=
  ofChars? s.toList

end Uuid

end RemoteTerm
