import RemoteTerm.Key.Encoding
import RemoteTerm.Proofs.Text.Case
/-!
What keys send under modifiers that are held. Alt puts an escape in front and does nothing else,
Ctrl makes a control code of a character whatever its case, and without Ctrl a character is sent as
it is typed.
-/

namespace RemoteTerm

variable {c d : Char} {b : UInt8}

theorem controlCode_of_not_ascii (h : 128 ≤ c.toNat) : controlCode c = none := by
  have hu : ¬ c.toUpper.isUpper = true := by
    rw [toUpper_of_not_ascii h, isUpper_of_not_ascii h]
    exact nofun
  unfold controlCode
  rw [if_neg hu]
  split <;> try rfl
  -- What is left are the signs with a control code, which are all ASCII.
  all_goals exact absurd h (by decide)

-- Ctrl does not look at the case of a letter.
theorem controlCode_toUpper (c : Char) : controlCode c.toUpper = controlCode c := by
  induction c using ascii_cases
  case ascii n hn => revert n; decide
  case beyond c h => rw [toUpper_of_not_ascii h]

theorem controlCode_toLower (c : Char) : controlCode c.toLower = controlCode c := by
  induction c using ascii_cases
  case ascii n hn => revert n; decide
  case beyond c h => rw [toLower_of_not_ascii h]

theorem controlCode_of_case (h : c.toLower = d.toLower) : controlCode c = controlCode d := by
  rw [← controlCode_toLower c, h, controlCode_toLower]

theorem controlCode_bounds (h : controlCode c = some b) : b.toNat < 0x20 ∨ b = 0x7f := by
  induction c using ascii_cases generalizing b
  case ascii n hn =>
    have hb : ∀ n < 128, (controlCode (Char.ofNat n)).all fun b => b.toNat < 0x20 ∨ b = 0x7f := by
      decide
    exact of_decide_eq_true (Option.all_eq_true .. |>.mp (hb n hn) b h)
  case beyond c hc => cases (controlCode_of_not_ascii hc).symm.trans h

-- From the at sign to the tilde, Ctrl keeps the five lowest bits.
theorem controlCode_lowBits (h : 0x40 ≤ c.toNat) (h' : c.toNat ≤ 0x7e) :
    controlCode c = some (UInt8.ofNat (c.toNat % 0x20)) := by
  induction c using ascii_cases
  case ascii n hn  => revert n; decide
  case beyond c hc => omega

namespace Modifiers

-- What Alt puts in front.
def escape (m : Modifiers) : String :=
  if m.alt then "\x1b" else ""

-- Shift makes A to Z of a to z.
def typed (m : Modifiers) (c : Char) : Char :=
  if m.shift = true ∧ 'a' ≤ c ∧ c ≤ 'z' then Char.ofNat (c.toNat - 32) else c

theorem typed_eq (m : Modifiers) (c : Char) :
    m.typed c = if m.shift && c.isLower then c.toUpper else c := by
  simp only [typed, Bool.and_eq_true, isLower_iff]
  split
  case isTrue h => exact (toUpper_of_lower h.2).symm
  case isFalse  => rfl

theorem controlCode_typed (m : Modifiers) (c : Char) : controlCode (m.typed c) = controlCode c := by
  rw [typed_eq]
  split
  case isTrue  => exact controlCode_toUpper c
  case isFalse => rfl

end Modifiers

namespace Key

variable {k : Key} {m : Modifiers} {text : String}

theorem encodeHeld_eq (k : Key) (m : Modifiers) :
    k.encodeHeld m = (k.body m).map (m.escape ++ ·) := by
  simp only [encodeHeld, Modifiers.escape]
  cases m.alt <;> simp

theorem body_alt (k : Key) (m : Modifiers) (alt : Bool) : k.body { m with alt } = k.body m := by
  cases k <;> rfl

theorem encodeHeld_alt (k : Key) (m : Modifiers) :
    k.encodeHeld { m with alt := true } =
      (k.encodeHeld { m with alt := false }).map ("\x1b" ++ ·) := by
  simp [encodeHeld_eq, body_alt, Modifiers.escape]

theorem encodeHeld_control (m : Modifiers) (c : Char) :
    (char c).encodeHeld { m with ctrl := true } =
      (controlCode c).map fun b => m.escape ++ String.singleton (Char.ofUInt8 b) := by
  have hb : (char c).body { m with ctrl := true } =
      (controlCode c).map fun b => String.singleton (Char.ofUInt8 b) := by
    rw [← m.controlCode_typed c, Modifiers.typed_eq]
    exact Option.map_map ..
  rw [encodeHeld_eq, hb, Option.map_map]
  rfl

theorem encodeHeld_plain (m : Modifiers) (c : Char) :
    (char c).encodeHeld { m with ctrl := false } =
      some (m.escape ++ String.singleton (m.typed c)) := by
  rw [encodeHeld_eq, Modifiers.typed_eq]
  rfl

theorem sequence_ne_empty (k : NamedKey) : k.sequence ≠ "" := by
  cases k <;> decide

theorem body_ne_empty (h : k.body m = some text) : text ≠ "" := by
  cases k
  case named k =>
    cases k <;> simp only [body, Option.some.injEq] at h
    case tab => rw [← h]; split <;> exact sequence_ne_empty _
    all_goals exact h ▸ sequence_ne_empty _
  case char c =>
    obtain ⟨c', -, rfl⟩ := Option.map_eq_some_iff.mp h
    exact String.singleton_ne_empty
  all_goals cases h

theorem encodeHeld_ne_empty (h : k.encodeHeld m = some text) : text ≠ "" := by
  rw [encodeHeld_eq] at h
  obtain ⟨body, hb, rfl⟩ := Option.map_eq_some_iff.mp h
  exact fun he => body_ne_empty hb (String.append_eq_empty_iff.mp he).2

theorem encodeLatched_eq_some_iff :
    k.encodeLatched m = some text ↔ m.isEmpty = false ∧ k.encodeHeld m = some text := by
  simp [encodeLatched]

theorem encodeLatched_ne_empty (h : k.encodeLatched m = some text) :
    text ≠ "" ∧ m.isEmpty = false :=
  have ⟨hm, h⟩ := encodeLatched_eq_some_iff.mp h
  ⟨encodeHeld_ne_empty h, hm⟩

theorem encodeLatched_modifier (h : k.isModifier = true) : k.encodeLatched m = none := by
  cases k <;> simp_all [isModifier, encodeLatched, encodeHeld, body]

end Key

namespace Modifiers

variable {m : Modifiers}

-- The laws of what is sent while modifiers are held.
structure Lawful (m : Modifiers) : Prop where
  -- Alt puts an escape in front of what is sent without it, if anything is.
  alt (k : Key) : k.encodeHeld { m with alt := true } =
    (k.encodeHeld { m with alt := false }).map ("\x1b" ++ ·)
  alt_none (k : Key) : k.encodeHeld { m with alt := true } = none ↔
    k.encodeHeld { m with alt := false } = none
  ne_empty {k : Key} {text} : k.encodeHeld m = some text → text ≠ ""
  modifier (k) : (Key.modifier k).encodeHeld m = none
  unidentified (name) : (Key.unidentified name).encodeHeld m = none
  -- With Ctrl neither Shift nor the case of a character counts.
  folded {c d : Char} (shift) : c.toLower = d.toLower →
    (Key.char c).encodeHeld { m with ctrl := true, shift } =
      (Key.char d).encodeHeld { m with ctrl := true }
  -- What is sent with Ctrl is the control code, which is one of the codes that nothing is printed
  -- for. A character without one sends nothing.
  code {c : Char} {b} : controlCode c = some b →
    (Key.char c).encodeHeld { m with ctrl := true } =
        some (m.escape ++ String.singleton (Char.ofUInt8 b)) ∧
      (b.toNat < 0x20 ∨ b = 0x7f)
  codeless {c : Char} : controlCode c = none ↔
    (Key.char c).encodeHeld { m with ctrl := true } = none
  beyond {c : Char} : 0x80 ≤ c.toNat → (Key.char c).encodeHeld { m with ctrl := true } = none
  -- From the at sign to the tilde the code is what the five lowest bits say.
  lowBits {c : Char} : 0x40 ≤ c.toNat → c.toNat ≤ 0x7e →
    controlCode c = some (UInt8.ofNat (c.toNat % 0x20))
  -- Without Ctrl every character is sent, and only Shift changes it.
  plain (c : Char) : (Key.char c).encodeHeld { m with ctrl := false } =
    some (m.escape ++ String.singleton (m.typed c))

theorem lawful (m : Modifiers) : m.Lawful where
  alt k          := k.encodeHeld_alt m
  alt_none k     := by rw [k.encodeHeld_alt m, Option.map_eq_none_iff]
  ne_empty       := Key.encodeHeld_ne_empty
  modifier _     := rfl
  unidentified _ := rfl
  folded {c d} shift h := by
    rw [Key.encodeHeld_control m d, ← controlCode_of_case h]
    exact Key.encodeHeld_control { m with shift } c
  code {c b} h := by
    rw [Key.encodeHeld_control, h]
    exact ⟨rfl, controlCode_bounds h⟩
  codeless {c} := by rw [Key.encodeHeld_control, Option.map_eq_none_iff]
  beyond h     := by rw [Key.encodeHeld_control, controlCode_of_not_ascii h]; rfl
  lowBits h h' := controlCode_lowBits h h'
  plain c      := Key.encodeHeld_plain m c

end Modifiers

end RemoteTerm
