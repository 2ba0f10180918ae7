import RemoteTerm.Bytes
/-!
Reading bytes as UTF-8, strictly or with replacements.

A decoder takes one character at a time. Where the bytes are no character, it takes the longest
run of bytes with which a character could begin, and at least one byte.
-/

namespace RemoteTerm.Text.Utf8

-- The bytes that may follow a lead byte: how many, and between which bounds the first one lies. The
-- bounds shut out overlong forms, surrogates, and what lies beyond the last code point.
structure Lead where
  bits  : Nat
  first : UInt8 × UInt8
  more  : Nat

def lead? (b : UInt8) : Option Lead :=
  if b < 0x80 then none
  else if b < 0xc2 then none
  else if b < 0xe0 then some ⟨b.toNat - 0xc0, (0x80, 0xbf), 0⟩
  else if b = 0xe0 then some ⟨0, (0xa0, 0xbf), 1⟩
  else if b = 0xed then some ⟨0xd, (0x80, 0x9f), 1⟩
  else if b < 0xf0 then some ⟨b.toNat - 0xe0, (0x80, 0xbf), 1⟩
  else if b = 0xf0 then some ⟨0, (0x90, 0xbf), 2⟩
  else if b < 0xf4 then some ⟨b.toNat - 0xf0, (0x80, 0xbf), 2⟩
  else if b = 0xf4 then some ⟨4, (0x80, 0x8f), 2⟩
  else none

-- A character, or the length of a run of bytes that is none, and the bytes that follow.
inductive Step where
  | char (c : Char) (rest : Bytes)
  | invalid (rest : Bytes)

def Step.rest : Step → Bytes
  | char _ rest | invalid rest => rest

-- Takes continuation bytes, each six more bits of the code point.
def follow (bits : Nat) : Nat → Bytes → Step
  | 0, rest => .char (Char.ofNat bits) rest
  | _ + 1, [] => .invalid []
  | more + 1, b :: rest =>
    if 0x80 ≤ b && b ≤ 0xbf then follow (bits * 64 + (b.toNat - 0x80)) more rest
    else .invalid (b :: rest)

def step (b : UInt8) (rest : Bytes) : Step :=
  if b < 0x80 then .char (Char.ofNat b.toNat) rest
  else
    match lead? b, rest with
    | some l, c :: rest' =>
      if l.first.1 ≤ c && c ≤ l.first.2 then follow (l.bits * 64 + (c.toNat - 0x80)) l.more rest'
      else .invalid rest
    | _, _ => .invalid rest

theorem length_rest_follow (bits more : Nat) (bs : Bytes) :
    (follow bits more bs).rest.length ≤ bs.length := by
  induction more generalizing bits bs with
  | zero => simp [follow, Step.rest]
  | succ more ih =>
    cases bs with
    | nil => simp [follow, Step.rest]
    | cons b rest =>
      simp only [follow]
      split
      · have := ih (bits * 64 + (b.toNat - 0x80)) rest
        simp only [List.length_cons]
        omega
      · simp [Step.rest]

theorem length_rest_step (b : UInt8) (rest : Bytes) : (step b rest).rest.length ≤ rest.length := by
  unfold step
  split
  · exact Nat.le_refl _
  · split
    · rename_i l c rest' _
      split
      · have := length_rest_follow (l.bits * 64 + (c.toNat - 0x80)) l.more rest'
        simp only [List.length_cons]
        omega
      · exact Nat.le_refl _
    · exact Nat.le_refl _

-- The text of the bytes, if all of them are characters.
def decode? (bs : Bytes) : Option (List Char) :=
  match bs with
  | [] => some []
  | b :: rest =>
    match _h : step b rest with
    | .char c rest' => (decode? rest').map (c :: ·)
    | .invalid _    => none
termination_by bs.length
decreasing_by
  have := length_rest_step b rest
  simp only [_h, Step.rest] at this
  simp only [List.length_cons]
  omega

-- The text of the bytes, with U+FFFD for each run that is no character.
def decodeLossy (bs : Bytes) : List Char :=
  match bs with
  | [] => []
  | b :: rest =>
    match _h : step b rest with
    | .char c rest'  => c :: decodeLossy rest'
    | .invalid rest' => '\ufffd' :: decodeLossy rest'
termination_by bs.length
decreasing_by
  all_goals
    have := length_rest_step b rest
    simp only [_h, Step.rest] at this
    simp only [List.length_cons]
    omega

end RemoteTerm.Text.Utf8
