/-!
Keys as a keyboard reports them by name, and the sequence that each named key sends.
-/

namespace RemoteTerm

-- A key with a fixed sequence.
inductive NamedKey where
  | escape | tab | backTab
  | arrowUp | arrowDown | arrowRight | arrowLeft
  | home | endKey | pageUp | pageDown
  | enter | backspace | insert | delete
  | f1 | f2 | f3 | f4 | f5 | f6 | f7 | f8 | f9 | f10 | f11 | f12
deriving DecidableEq, Repr

-- A key that only changes the meaning of other keys.
inductive ModifierKey where
  | shift | control | alt | altGraph | command | capsLock | numLock | scrollLock
  | function | hyper | super
deriving DecidableEq, Repr

inductive Key where
  | char (c : Char)
  | named (k : NamedKey)
  | modifier (k : ModifierKey)
  | unidentified (name : String)
deriving DecidableEq, Repr

namespace NamedKey

def all : List NamedKey :=
  [.escape, .tab, .backTab, .arrowUp, .arrowDown, .arrowRight, .arrowLeft, .home, .endKey, .pageUp,
   .pageDown, .enter, .backspace, .insert, .delete, .f1, .f2, .f3, .f4, .f5, .f6, .f7, .f8, .f9,
   .f10, .f11, .f12]

def name : NamedKey → String
  | escape     => "Escape"
  | tab        => "Tab"
  | backTab    => "BackTab"
  | arrowUp    => "ArrowUp"
  | arrowDown  => "ArrowDown"
  | arrowRight => "ArrowRight"
  | arrowLeft  => "ArrowLeft"
  | home       => "Home"
  | endKey     => "End"
  | pageUp     => "PageUp"
  | pageDown   => "PageDown"
  | enter      => "Enter"
  | backspace  => "Backspace"
  | insert     => "Insert"
  | delete     => "Delete"
  | f1 => "F1" | f2 => "F2" | f3 => "F3" | f4  => "F4"  | f5  => "F5"  | f6  => "F6"
  | f7 => "F7" | f8 => "F8" | f9 => "F9" | f10 => "F10" | f11 => "F11" | f12 => "F12"

-- Second names that some keyboards report.
def aliases : List (String × NamedKey) :=
  [("Esc", escape), ("Up", arrowUp), ("Down", arrowDown), ("Right", arrowRight),
   ("Left", arrowLeft), ("Del", delete)]

-- What a keyboard may report. Nothing reports a back-tab: it is Shift with Tab.
def reported : List (String × NamedKey) :=
  (all.erase backTab).map (fun k => (k.name, k)) ++ aliases

def ofName? (name : String) : Option NamedKey :=
  reported.lookup name

-- The sequences of a terminal whose cursor keys are in normal mode.
def sequence : NamedKey → String
  | escape     => "\x1b"
  | tab        => "\t"
  | backTab    => "\x1b[Z"
  | arrowUp    => "\x1b[A"
  | arrowDown  => "\x1b[B"
  | arrowRight => "\x1b[C"
  | arrowLeft  => "\x1b[D"
  | home       => "\x1b[H"
  | endKey     => "\x1b[F"
  | pageUp     => "\x1b[5~"
  | pageDown   => "\x1b[6~"
  | enter      => "\r"
  | backspace  => "\x7f"
  | insert     => "\x1b[2~"
  | delete     => "\x1b[3~"
  | f1  => "\x1bOP"   | f2  => "\x1bOQ"   | f3  => "\x1bOR"   | f4  => "\x1bOS"
  | f5  => "\x1b[15~" | f6  => "\x1b[17~" | f7  => "\x1b[18~" | f8  => "\x1b[19~"
  | f9  => "\x1b[20~" | f10 => "\x1b[21~" | f11 => "\x1b[23~" | f12 => "\x1b[24~"

-- The row of buttons that a touch screen shows, from left to right.
def buttonRow : List NamedKey :=
  [escape, tab, backTab, arrowUp, arrowDown, arrowRight, arrowLeft, home, endKey, pageUp, pageDown]

def buttonSequence? (k : NamedKey) : Option String :=
  if k ∈ buttonRow then some k.sequence else none

end NamedKey

namespace ModifierKey

def all : List ModifierKey :=
  [.shift, .control, .alt, .altGraph, .command, .capsLock, .numLock, .scrollLock, .function,
   .hyper, .super]

def name : ModifierKey → String
  | shift      => "Shift"
  | control    => "Control"
  | alt        => "Alt"
  | altGraph   => "AltGraph"
  | command    => "Meta"
  | capsLock   => "CapsLock"
  | numLock    => "NumLock"
  | scrollLock => "ScrollLock"
  | function   => "Fn"
  | hyper      => "Hyper"
  | super      => "Super"

def aliases : List (String × ModifierKey) :=
  [("OS", command), ("FnLock", function)]

def reported : List (String × ModifierKey) :=
  all.map (fun k => (k.name, k)) ++ aliases

def ofName? (name : String) : Option ModifierKey :=
  reported.lookup name

end ModifierKey

namespace Key

-- A name of one character is that character, whatever it is.
def ofName (name : String) : Key :=
  match name.toList with
  | [c] => .char c
  | _ =>
    match NamedKey.ofName? name with
    | some k => .named k
    | none =>
      match ModifierKey.ofName? name with
      | some k => .modifier k
      | none => .unidentified name

def isModifier : Key → Bool
  | modifier _ => true
  | _ => false

-- The sequence that goes with a reported name.
def sequenceFor? (name : String) : Option String :=
  (NamedKey.ofName? name).map NamedKey.sequence

end Key

end RemoteTerm
