import RemoteTerm.Json.Skip
import RemoteTerm.Proofs.Json.Reading
/-!
Passing over values as they are written. Of a text that begins with the tokens of a value, just
these are passed over. It does not matter what the value means, nor whether it means anything.
-/

namespace RemoteTerm.Json

open Written

variable {ts : List Token} {cs rest : List Char} {first : Bool}

theorem passString_plain {c : Char} (h : ' ' ≤ c ∧ c ≠ '"' ∧ c ≠ '\\') :
    passString (c :: cs) = passString cs := by
  have hc : ¬ c < ' ' := Char.not_lt.mpr h.1
  rw [passString] <;> simp [h.2, hc]

theorem passString_short {letter c : Char} (h : unescape? letter = some c) :
    passString ('\\' :: letter :: cs) = passString cs := by
  have hu : letter ≠ 'u' := by
    rintro rfl
    cases h
  rw [passString] <;> simp [h, hu]

theorem passString_chars (q : Quoted) : passString (q.chars ++ '"' :: rest) = .ok rest := by
  induction q with
  | nil => rw [Quoted.chars, List.flatMap_nil, List.nil_append, passString]
  | cons p q hi =>
    cases p <;>
      simp only [Quoted.chars_cons, Piece.chars, List.cons_append, List.nil_append]
    case plain c h        => rw [passString_plain h, hi]
    case short letter c h => rw [passString_short h, hi]
    case unit a b c d u h => simp only [passString, h, hi]

theorem passDigits_chars (ds : Digits) (h : ∀ c, rest.head? = some c → c.isDigit = false) :
    passDigits (ds.chars ++ rest) = .ok rest := by
  have hd : rest.dropWhile Char.isDigit = rest := by
    cases rest
    case nil       => rfl
    case cons c cs => simp [h c rfl]
  obtain ⟨c, cs, hc, hx⟩ := ds.exists_cons
  have hw : (ds.chars ++ rest).dropWhile Char.isDigit = rest := by
    rw [List.dropWhile_append_of_pos ds.isDigit, hd]
  rw [hc, List.cons_append] at hw ⊢
  simp only [passDigits, hx, if_true, hw]

namespace Literal

variable {l : Literal}

theorem passExponent_chars (h : Stops rest) :
    passExponent (l.exponent.elim [] Exponent.chars ++ rest) = .ok rest := by
  cases l.exponent
  case none =>
    cases rest
    case nil       => rfl
    case cons c cs => simp [passExponent, (h c rfl).2]
  case some e =>
    have hm : (if e.capital then 'E' else 'e') = 'e' ∨ (if e.capital then 'E' else 'e') = 'E' := by
      cases e.capital <;> simp
    have hr : passDigits (e.digits.chars ++ rest) = .ok rest := passDigits_chars _ h.noDigit
    simp only [Option.elim_some, Exponent.chars, List.cons_append, List.append_assoc, passExponent,
      if_pos hm]
    cases hs : e.sign
    case some minus => cases minus <;> simpa using hr
    case none =>
      obtain ⟨c, cs, hc, hd⟩ := e.digits.exists_cons
      simp only [Option.elim_none, List.nil_append]
      rw [hc] at hr ⊢
      -- A digit is no sign.
      split
      case h_1 he => cases he; cases hd
      case h_2 he => cases he; cases hd
      case h_3    => exact hr

-- Nothing but zero itself begins with zero.
theorem not_zero_then_digit {more : List Char}
    (h : ∀ c, more.head? = some c → c.isDigit = false) :
    ¬ ((l.whole.chars ++ more).take 1 = ['0'] ∧
      ((l.whole.chars ++ more).drop 1).head?.any Char.isDigit = true) := by
  rintro ⟨hz, hd⟩
  obtain ⟨c, cs, hc, -⟩ := l.whole.exists_cons
  have hl := l.isZero
  rw [hc] at hl hz hd
  obtain rfl : c = '0' := by simpa using hz
  obtain rfl : cs = [] := by simpa using hl rfl
  cases more
  case nil       => cases hd
  case cons c cs => simp [h c rfl] at hd

theorem passNumber_magnitude (h : Stops rest) : passNumber (l.magnitude ++ rest) = .ok rest := by
  have hw := passDigits_chars l.whole (l.fraction_head h)
  have he := l.passExponent_chars h
  have hx : ∀ c, (l.exponent.elim [] Exponent.chars ++ rest).head? = some c →
      c.isDigit = false ∧ c ≠ '.' := exponent_head h
  simp only [magnitude, List.append_assoc, passNumber,
    if_neg (not_zero_then_digit (fraction_head h)), hw, bind, Except.bind]
  generalize l.exponent.elim [] Exponent.chars ++ rest = more at he hx ⊢
  cases l.fraction
  case some ds =>
    have hf := passDigits_chars ds fun c hc => (hx c hc).1
    simp only [Option.elim_some, List.cons_append, hf, he]
  case none =>
    simp only [Option.elim_none, List.nil_append]
    -- Without a fraction there is no point.
    split
    case h_1    => exact absurd rfl (hx '.' rfl).2
    case h_2    => exact he

end Literal

-- Nothing is wrong up to these tokens.
def Leaves (r : Except Fault (List Char)) (ts : List Token) : Prop :=
  ∃ rest, r = .ok rest ∧ Spaced ts rest

-- What is passed over with enough fuel.
structure PassesWithin (fuel : Nat) : Prop where
  value {w : Written} {ts : List Token} {cs : List Char} :
    2 * w.tokens.length ≤ fuel → Parted ts → Spaced (w.tokens ++ ts) cs →
    Leaves (passWithin fuel cs) ts
  items {first : Bool} {xs : List Written} {ts : List Token} {cs : List Char} :
    2 * (itemsTokens first xs).length < fuel → Spaced (itemsTokens first xs ++ ts) cs →
    Leaves (passItemsWithin fuel first cs) ts
  members {first : Bool} {ms : List (Quoted × Written)} {ts : List Token} {cs : List Char} :
    2 * (membersTokens first ms).length < fuel → Spaced (membersTokens first ms ++ ts) cs →
    Leaves (passMembersWithin fuel first cs) ts

theorem passWithin_of_digit {fuel : Nat} {c : Char} (h : skipBlank cs = c :: rest)
    (hc : c.isDigit = true) : passWithin (fuel + 1) cs = passNumber (c :: rest) := by
  rw [passWithin, h]
  -- Nothing else begins with a digit.
  split
  case h_9 he =>
    cases he
    rw [if_pos hc]
  all_goals
    rename_i he
    cases he <;> cases hc

namespace PassesWithin

variable {fuel : Nat}

theorem succ_value {w : Written} (r : PassesWithin fuel) (hf : 2 * w.tokens.length ≤ fuel + 1)
    (hp : Parted ts) (h : Spaced (w.tokens ++ ts) cs) : Leaves (passWithin (fuel + 1) cs) ts := by
  cases w <;> simp only [tokens, List.cons_append, List.nil_append] at h <;>
    obtain ⟨rest, hc, hr⟩ := h.skip
  case null =>
    rw [passWithin, hc]
    exact ⟨rest, rfl, hr⟩
  case bool b =>
    rw [passWithin, hc]
    cases b <;> exact ⟨rest, rfl, hr⟩
  case string q =>
    simp only [Token.chars, List.cons_append, List.append_assoc, List.nil_append] at hc
    rw [passWithin, hc]
    exact ⟨rest, passString_chars q, hr⟩
  case number l =>
    have hl := l.passNumber_magnitude (hr.stops hp)
    simp only [Token.chars, Literal.chars] at hc
    cases hn : l.negative
    case true =>
      simp only [hn, if_true, List.cons_append] at hc
      rw [passWithin, hc]
      exact ⟨rest, hl, hr⟩
    case false =>
      obtain ⟨c, ds, hw, hd⟩ := l.whole.exists_cons
      simp only [hn, Bool.false_eq_true, if_false] at hc
      have hm : l.magnitude ++ rest = c :: (l.magnitude ++ rest).tail := by
        simp [Literal.magnitude, hw]
      rw [passWithin_of_digit (hc.trans hm) hd, ← hm]
      exact ⟨rest, hl, hr⟩
  case array xs =>
    simp only [tokens, List.length_cons] at hf
    rw [passWithin, hc]
    exact r.items (by omega) hr
  case object ms =>
    simp only [tokens, List.length_cons] at hf
    rw [passWithin, hc]
    exact r.members (by omega) hr

theorem succ_items {xs : List Written} (r : PassesWithin fuel)
    (hf : 2 * (itemsTokens first xs).length < fuel + 1)
    (h : Spaced (itemsTokens first xs ++ ts) cs) :
    Leaves (passItemsWithin (fuel + 1) first cs) ts := by
  cases xs
  case nil =>
    obtain ⟨rest, hn, hr⟩ := h.nextItem_done first
    rw [passItemsWithin, hn]
    exact ⟨rest, rfl, hr⟩
  case cons w xs =>
    obtain ⟨t, us, ht, hb⟩ := w.tokens_cons
    have hl : 0 < w.tokens.length := ht ▸ Nat.succ_pos _
    simp only [itemsTokens, List.length_append, List.append_assoc] at h hf
    rw [ht, List.cons_append] at h
    obtain ⟨rest, hn, hr⟩ := h.nextItem_entry hb
    rw [← List.cons_append, ← ht] at hr
    obtain ⟨rest', hv, hr⟩ := r.value (by omega) (parted_itemsTokens xs) hr
    rw [passItemsWithin, hn]
    simp only [bind, Except.bind, hv]
    exact r.items (by omega) hr

theorem succ_members {ms : List (Quoted × Written)} (r : PassesWithin fuel)
    (hf : 2 * (membersTokens first ms).length < fuel + 1)
    (h : Spaced (membersTokens first ms ++ ts) cs) :
    Leaves (passMembersWithin (fuel + 1) first cs) ts := by
  cases ms
  case nil =>
    obtain ⟨rest, hn, hr⟩ := h.nextMember_done first
    rw [passMembersWithin, hn]
    exact ⟨rest, rfl, hr⟩
  case cons m ms =>
    obtain ⟨q, w⟩ := m
    simp only [membersTokens, List.length_append, List.length_cons, List.append_assoc,
      List.cons_append] at h hf
    obtain ⟨rest, hn, hr⟩ := h.nextMember_entry
    obtain ⟨rest', hc, hr⟩ := hr.colon
    obtain ⟨rest'', hv, hr⟩ := r.value (by omega) (parted_membersTokens ms) hr
    rw [passMembersWithin, hn]
    simp only [bind, Except.bind, passString_chars, hc, hv]
    exact r.members (by omega) hr

end PassesWithin

theorem passesWithin (fuel : Nat) : PassesWithin fuel := by
  induction fuel with
  | zero =>
    constructor
    case value =>
      intro w ts cs hf
      obtain ⟨t, us, ht, -⟩ := w.tokens_cons
      simp [ht] at hf
    case items   => exact fun hf => absurd hf (Nat.not_lt_zero _)
    case members => exact fun hf => absurd hf (Nat.not_lt_zero _)
  | succ fuel r =>
    exact ⟨r.succ_value, r.succ_items, r.succ_members⟩

-- Every value is passed over, however deep it is.
theorem Spaced.leaves_pass {w : Written} (h : Spaced (w.tokens ++ ts) cs) (hp : Parted ts) :
    Leaves (pass cs) ts :=
  (passesWithin _).value (Nat.le_of_lt h.two_mul_length_lt) hp h

end RemoteTerm.Json
