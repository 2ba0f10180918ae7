/-!
The control codes: which of them Ctrl makes of a character.
-/

namespace RemoteTerm

-- Ctrl clears the two upper bits of a letter. Some digits and signs stand for the codes that no
-- letter reaches, so that each control code can be typed.
def controlCode (c : Char) : Option UInt8 :=
  if c.toUpper.isUpper then
    some (UInt8.ofNat (c.toUpper.toNat - 64))
  else
    match c with
    | ' ' | '@' | '\x60' | '2' => some 0x00
    | '[' | '{' | '3'          => some 0x1b
    | '\\' | '|' | '4'         => some 0x1c
    | ']' | '}' | '5'          => some 0x1d
    | '^' | '~' | '6'          => some 0x1e
    | '_' | '7' | '/' | '?'    => some 0x1f
    | '8'                      => some 0x7f
    | _                        => none

end RemoteTerm
