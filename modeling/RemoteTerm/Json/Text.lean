import RemoteTerm.Json
import RemoteTerm.Hex
/-!
Strings in JSON: what is escaped when they are written, and how they are read.
-/

namespace RemoteTerm.Json

-- Quotes, backslashes and control codes are escaped, and everything else stands for itself.
def escape (c : Char) : List Char :=
  match c with
  | '"'    => ['\\', '"']
  | '\\'   => ['\\', '\\']
  | '\x08' => ['\\', 'b']
  | '\x0c' => ['\\', 'f']
  | '\n'   => ['\\', 'n']
  | '\r'   => ['\\', 'r']
  | '\t'   => ['\\', 't']
  | _ =>
    if c < ' ' then
      ['\\', 'u', '0', '0', Hex.digit ⟨c.toNat / 16 % 16, Nat.mod_lt _ (Nat.succ_pos 15)⟩,
       Hex.digit ⟨c.toNat % 16, Nat.mod_lt _ (Nat.succ_pos 15)⟩]
    else [c]

-- The string in quotes.
def quote (s : String) : List Char :=
  '"' :: s.toList.flatMap escape ++ ['"']

-- The escapes of one letter.
def unescape? (c : Char) : Option Char :=
  match c with
  | '"'  => some '"'
  | '\\' => some '\\'
  | '/'  => some '/'
  | 'b'  => some '\x08'
  | 'f'  => some '\x0c'
  | 'n'  => some '\n'
  | 'r'  => some '\r'
  | 't'  => some '\t'
  | _    => none

-- The 16-bit unit of four digits.
def unit? (a b c d : Char) : Option Nat :=
  match Hex.value? a, Hex.value? b, Hex.value? c, Hex.value? d with
  | some a, some b, some c, some d => some (Hex.number [a, b, c, d])
  | _, _, _, _ => none

def isLead (unit : Nat) : Bool := 0xd800 ≤ unit && unit ≤ 0xdbff

def isTrail (unit : Nat) : Bool := 0xdc00 ≤ unit && unit ≤ 0xdfff

-- The character of a pair of surrogates.
def pair (lead trail : Nat) : Char :=
  Char.ofNat (0x10000 + (lead - 0xd800) * 0x400 + (trail - 0xdc00))

def byteCount (cs : List Char) : Nat :=
  cs.foldl (fun n c => n + c.utf8Size) 0

-- Fewer than four characters follow the start of a unit. Four bytes would have been enough to see
-- that they are no digits.
def shortUnit (rest : List Char) : Fault :=
  if byteCount rest < 4 then .truncated else .malformed

-- What is wrong behind the first half of a pair.
def unpaired (rest : List Char) : Fault :=
  match rest with
  | [] | ['\\'] => .truncated
  | '\\' :: 'u' :: rest => if rest.length < 4 then shortUnit rest else .malformed
  | _ => .malformed

-- A string whose opening quote has been read.
def unquote : List Char → Except Fault (List Char × List Char)
  | [] => .error .truncated
  | '"' :: rest => .ok ([], rest)
  | '\\' :: 'u' :: a :: b :: c :: d :: rest =>
    match unit? a b c d with
    | none => .error .malformed
    | some u =>
      if isTrail u then .error .malformed
      else if isLead u then
        match rest with
        | '\\' :: 'u' :: e :: f :: g :: h :: rest' =>
          match unit? e f g h with
          | none => .error .malformed
          | some v =>
            if isTrail v then (unquote rest').map fun (s, rest) => (pair u v :: s, rest)
            else .error .malformed
        | _ => .error (unpaired rest)
      else (unquote rest).map fun (s, rest) => (Char.ofNat u :: s, rest)
  | '\\' :: 'u' :: rest => .error (shortUnit rest)
  | '\\' :: c :: rest =>
    match unescape? c with
    | some e => (unquote rest).map fun (s, rest) => (e :: s, rest)
    | none   => .error .malformed
  | ['\\'] => .error .truncated
  | c :: rest =>
    if c < ' ' then .error .malformed
    else (unquote rest).map fun (s, rest) => (c :: s, rest)

-- Passes over a string that nobody will look at. Its surrogates need not be paired.
def passString : List Char → Except Fault (List Char)
  | [] => .error .truncated
  | '"' :: rest => .ok rest
  | '\\' :: 'u' :: a :: b :: c :: d :: rest =>
    match unit? a b c d with
    | none   => .error .malformed
    | some _ => passString rest
  | '\\' :: 'u' :: rest => .error (shortUnit rest)
  | '\\' :: c :: rest =>
    match unescape? c with
    | some _ => passString rest
    | none   => .error .malformed
  | ['\\'] => .error .truncated
  | c :: rest => if c < ' ' then .error .malformed else passString rest

end RemoteTerm.Json
