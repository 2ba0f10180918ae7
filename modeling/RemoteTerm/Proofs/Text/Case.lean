/-!
Small and capital letters. Only the letters of ASCII have a case, so that what is said of the case
of a character is checked on ASCII and holds of all others for want of one.
-/

namespace RemoteTerm

-- The characters of ASCII are looked at one by one, and all others alike.
@[elab_as_elim]
theorem ascii_cases {P : Char → Prop} (ascii : ∀ n < 128, P (Char.ofNat n))
    (beyond : ∀ c, 128 ≤ c.toNat → P c) (c : Char) : P c := by
  by_cases h : c.toNat < 128
  case pos => exact Char.ofNat_toNat c ▸ ascii c.toNat h
  case neg => exact beyond c (Nat.not_lt.mp h)

variable {c d : Char}

theorem not_le_of_not_ascii (h : 128 ≤ c.toNat) (hd : d.toNat < 128) : ¬ c ≤ d :=
  Nat.not_le.mpr (Nat.lt_of_lt_of_le hd h)

theorem toUpper_of_not_ascii (h : 128 ≤ c.toNat) : c.toUpper = c :=
  dif_neg fun hc => not_le_of_not_ascii (d := 'z') h (by decide) hc.2

theorem toLower_of_not_ascii (h : 128 ≤ c.toNat) : c.toLower = c :=
  dif_neg fun hc => not_le_of_not_ascii (d := 'Z') h (by decide) hc.2

theorem isUpper_of_not_ascii (h : 128 ≤ c.toNat) : c.isUpper = false :=
  decide_eq_false fun hc => not_le_of_not_ascii (d := 'Z') h (by decide) hc.2

theorem isLower_iff : c.isLower = true ↔ 'a' ≤ c ∧ c ≤ 'z' :=
  Bool.and_eq_true_iff.trans (and_congr decide_eq_true_iff decide_eq_true_iff)

theorem toUpper_of_lower (h : 'a' ≤ c ∧ c ≤ 'z') : c.toUpper = Char.ofNat (c.toNat - 32) := by
  induction c using ascii_cases
  case ascii n hn  => revert n; decide
  case beyond c hc => exact absurd h.2 (not_le_of_not_ascii hc (by decide))

theorem toNat_toLower (c : Char) :
    c.toLower.toNat =
      if 'A'.toNat ≤ c.toNat ∧ c.toNat ≤ 'Z'.toNat then c.toNat + 32 else c.toNat := by
  induction c using ascii_cases
  case ascii n hn => revert n; decide
  case beyond c h =>
    rw [toLower_of_not_ascii h, if_neg fun hz => not_le_of_not_ascii h (by decide) hz.2]

-- The characters that a small letter is the lower case of are itself and its capital.
theorem toLower_eq_iff {small capital : Char} (hs : 'a' ≤ small) (hz : small ≤ 'z')
    (hc : capital.toNat + 32 = small.toNat) :
    c.toLower = small ↔ c = small ∨ c = capital := by
  have ha : 97 ≤ small.toNat := hs
  have hz : small.toNat ≤ 122 := hz
  have hA : 'A'.toNat = 65 := rfl
  have hZ : 'Z'.toNat = 90 := rfl
  simp only [← Char.toNat_inj, toNat_toLower]
  split <;> omega

end RemoteTerm
