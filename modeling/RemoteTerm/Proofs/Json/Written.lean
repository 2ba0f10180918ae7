import RemoteTerm.Json.Reader
/-!
JSON as it is written. A text is a row of tokens with blanks between them, and the tokens are those
of a tree. The tree says what the text means, or that it means nothing: a surrogate may be without
its partner, and a number may be beyond all numbers.
-/

namespace RemoteTerm.Json

-- A part of a string.
inductive Piece where
  -- A character that stands for itself.
  | plain (c : Char) (h : ' ' ≤ c ∧ c ≠ '"' ∧ c ≠ '\\')
  -- A backslash and a letter.
  | short (letter c : Char) (h : unescape? letter = some c)
  -- A backslash, a `u` and the four digits of a unit.
  | unit (a b c d : Char) (u : Nat) (h : unit? a b c d = some u)

def Piece.chars : Piece → List Char
  | plain c _          => [c]
  | short letter _ _   => ['\\', letter]
  | unit a b c d _ _   => ['\\', 'u', a, b, c, d]

-- The parts of a string between its quotes.
abbrev Quoted := List Piece

namespace Quoted

def chars (q : Quoted) : List Char :=
  q.flatMap Piece.chars

-- The characters, unless there is half of a pair of surrogates.
def text? : Quoted → Option (List Char)
  | [] => some []
  | .plain c _ :: q | .short _ c _ :: q => (text? q).map (c :: ·)
  | .unit _ _ _ _ u _ :: q =>
    if isTrail u then none
    else if isLead u then
      match q with
      | .unit _ _ _ _ v _ :: q => if isTrail v then (text? q).map (pair u v :: ·) else none
      | _ => none
    else (text? q).map (Char.ofNat u :: ·)

def string? (q : Quoted) : Option String :=
  q.text?.map String.ofList

end Quoted

-- At least one digit.
structure Digits where
  chars    : List Char
  ne_nil   : chars ≠ []
  isDigit  : ∀ c ∈ chars, c.isDigit = true

-- A number with more digits behind it.
def appendDigits (n : Nat) (ds : List Char) : Nat :=
  ds.foldl (fun n d => n * 10 + (d.toNat - '0'.toNat)) n

def Digits.value (ds : Digits) : Nat :=
  appendDigits 0 ds.chars

structure Exponent where
  capital : Bool
  -- Whether there is a sign, and whether it is a minus.
  sign    : Option Bool
  digits  : Digits

namespace Exponent

def chars (e : Exponent) : List Char :=
  (if e.capital then 'E' else 'e') ::
    (e.sign.elim [] fun minus => if minus then ['-'] else ['+']) ++ e.digits.chars

def value (e : Exponent) : Int :=
  if e.sign = some true then -e.digits.value else e.digits.value

end Exponent

-- A number.
structure Literal where
  negative : Bool := false
  whole    : Digits
  fraction : Option Digits := none
  exponent : Option Exponent := none
  -- Only zero itself begins with zero.
  isZero   : whole.chars.head? = some '0' → whole.chars.length ≤ 1

namespace Literal

-- What follows the sign.
def magnitude (l : Literal) : List Char :=
  l.whole.chars ++ (l.fraction.elim [] fun ds => '.' :: ds.chars) ++
    l.exponent.elim [] Exponent.chars

def chars (l : Literal) : List Char :=
  if l.negative then '-' :: l.magnitude else l.magnitude

def numeral (l : Literal) : Numeral where
  negative := l.negative
  whole    := l.whole.chars
  fraction := l.fraction.elim [] Digits.chars
  exponent := l.exponent.elim 0 Exponent.value
  isWhole  := l.fraction.isNone && l.exponent.isNone

def value? (l : Literal) : Option Json :=
  l.numeral.value?

-- The number of an integer literal, which has no sign, no fraction and no exponent.
def count? (l : Literal) : Option Nat :=
  if l.negative = false ∧ l.fraction.isNone ∧ l.exponent.isNone then some l.whole.value else none

end Literal

inductive Token where
  | null
  | bool (b : Bool)
  | number (l : Literal)
  | string (q : Quoted)
  | openArray
  | closeArray
  | openObject
  | closeObject
  | comma
  | colon

def Token.chars : Token → List Char
  | null        => ['n', 'u', 'l', 'l']
  | bool true   => ['t', 'r', 'u', 'e']
  | bool false  => ['f', 'a', 'l', 's', 'e']
  | number l    => l.chars
  | string q    => '"' :: q.chars ++ ['"']
  | openArray   => ['[']
  | closeArray  => [']']
  | openObject  => ['\x7b']
  | closeObject => ['\x7d']
  | comma       => [',']
  | colon       => [':']

-- Tokens in a text, with any blanks around them.
inductive Spaced : List Token → List Char → Prop
  | blank {cs} : (∀ c ∈ cs, isBlank c = true) → Spaced [] cs
  | token {bs t ts cs} :
    (∀ c ∈ bs, isBlank c = true) → Spaced ts cs → Spaced (t :: ts) (bs ++ t.chars ++ cs)

-- A value.
inductive Written where
  | null
  | bool (b : Bool)
  | number (l : Literal)
  | string (q : Quoted)
  | array (items : List Written)
  | object (members : List (Quoted × Written))

namespace Written

mutual

def tokens : Written → List Token
  | null      => [.null]
  | bool b    => [.bool b]
  | number l  => [.number l]
  | string q  => [.string q]
  | array xs  => .openArray :: itemsTokens true xs
  | object ms => .openObject :: membersTokens true ms

-- There is a comma before every item but the first one.
def itemsTokens : Bool → List Written → List Token
  | _, [] => [.closeArray]
  | first, x :: xs => (if first then [] else [.comma]) ++ x.tokens ++ itemsTokens false xs

def membersTokens : Bool → List (Quoted × Written) → List Token
  | _, [] => [.closeObject]
  | first, (q, x) :: ms =>
    (if first then [] else [.comma]) ++ .string q :: .colon :: x.tokens ++ membersTokens false ms

end

mutual

-- How many arrays and objects are open at once.
def depth : Written → Nat
  | array xs  => itemsDepth xs + 1
  | object ms => membersDepth ms + 1
  | _         => 0

def itemsDepth : List Written → Nat
  | []      => 0
  | x :: xs => max x.depth (itemsDepth xs)

def membersDepth : List (Quoted × Written) → Nat
  | []           => 0
  | (_, x) :: ms => max x.depth (membersDepth ms)

end

mutual

-- What is meant, if anything.
def value? : Written → Option Json
  | null      => some .null
  | bool b    => some (.bool b)
  | number l  => l.value?
  | string q  => q.string?.map .string
  | array xs  => (itemsValue? xs).map .array
  | object ms => (membersValue? ms).map .object

def itemsValue? : List Written → Option (List Json)
  | []      => some []
  | x :: xs => x.value?.bind fun v => (itemsValue? xs).map (v :: ·)

def membersValue? : List (Quoted × Written) → Option (List (String × Json))
  | []           => some []
  | (q, x) :: ms =>
    q.string?.bind fun s => x.value?.bind fun v => (membersValue? ms).map ((s, v) :: ·)

end

end Written

end RemoteTerm.Json
