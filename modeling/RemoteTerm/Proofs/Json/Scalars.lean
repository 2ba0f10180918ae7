import RemoteTerm.Proofs.Json.Spaced
/-!
Reading strings and numbers as they are written.
-/

namespace RemoteTerm.Json

variable {ts : List Token} {cs rest : List Char} {q : Quoted} {a b c d : Char} {u : Nat}

theorem unquote_plain (h : ' ' ≤ c ∧ c ≠ '"' ∧ c ≠ '\\') :
    unquote (c :: cs) = (unquote cs).map fun (s, rest) => (c :: s, rest) := by
  have hc : ¬ c < ' ' := Char.not_lt.mpr h.1
  rw [unquote] <;> simp [h.2, hc]

theorem unquote_short {letter : Char} (h : unescape? letter = some c) :
    unquote ('\\' :: letter :: cs) = (unquote cs).map fun (s, rest) => (c :: s, rest) := by
  have hu : letter ≠ 'u' := by
    rintro rfl
    cases h
  rw [unquote] <;> simp [h, hu]

namespace Quoted

theorem chars_cons {p : Piece} : chars (p :: q) = p.chars ++ q.chars := rfl

-- A unit can only be read where one has been written.
theorem not_unit {r : List Char}
    (hq : ∀ a b c d u h q', q = .unit a b c d u h :: q' → False) :
    q.chars ++ '"' :: rest ≠ '\\' :: 'u' :: r := by
  match q with
  | [] => simp [chars]
  | .plain c h :: q => simp [chars_cons, Piece.chars, h.2.2]
  | .short letter c h :: q =>
    have hu : letter ≠ 'u' := by
      rintro rfl
      cases h
    simp [chars_cons, Piece.chars, hu]
  | .unit .. :: q => exact (hq _ _ _ _ _ _ _ rfl).elim

theorem reads_unquote {q : Quoted} (h : Spaced ts rest) :
    Reads (unquote (q.chars ++ '"' :: rest)) q.text? ts := by
  fun_induction text? q
  case case1 => exact .ok h
  case case2 c hc q hi =>
    rw [chars_cons, Piece.chars, List.singleton_append, List.cons_append, unquote_plain hc]
    exact hi.map _
  case case3 letter c hc q hi =>
    simp only [chars_cons, Piece.chars, List.cons_append, List.nil_append]
    rw [unquote_short hc]
    exact hi.map _
  case case4 a b c d u hu q ht =>
    simp only [chars_cons, Piece.chars, List.cons_append, List.nil_append, unquote, hu, ht, if_true]
    exact .error
  case case5 a b c d u hu ht hl e f g h' v hv q hv' hi =>
    simp only [chars_cons, Piece.chars, List.cons_append, List.nil_append, unquote, hu, ht, hl, hv,
      hv', if_true, if_false, Bool.false_eq_true]
    exact hi.map _
  case case6 a b c d u hu ht hl e f g h' v hv q hv' =>
    simp only [chars_cons, Piece.chars, List.cons_append, List.nil_append, unquote, hu, ht, hl, hv,
      hv', if_true, if_false, Bool.false_eq_true]
    exact .error
  case case7 a b c d u hu q ht hl hq =>
    simp only [chars_cons, Piece.chars, List.cons_append, List.nil_append, unquote, hu, ht, hl,
      if_true, if_false, Bool.false_eq_true]
    split
    case h_1 hr => exact absurd hr (not_unit hq)
    case h_2    => exact .error
  case case8 a b c d u hu q ht hl hi =>
    simp only [chars_cons, Piece.chars, List.cons_append, List.nil_append, unquote, hu, ht, hl,
      if_false, Bool.false_eq_true]
    exact hi.map _

end Quoted

namespace Stops

theorem noDigit (h : Stops rest) : ∀ c, rest.head? = some c → c.isDigit = false :=
  fun c hc => (h c hc).1

end Stops

namespace Digits

variable {ds : Digits}

theorem exists_cons (ds : Digits) : ∃ c cs, ds.chars = c :: cs ∧ c.isDigit = true := by
  obtain ⟨c, cs, h⟩ := List.exists_cons_of_ne_nil ds.ne_nil
  exact ⟨c, cs, h, ds.isDigit c (h ▸ List.mem_cons_self)⟩

-- Digits are read up to what is none.
theorem digits_chars (h : ∀ c, rest.head? = some c → c.isDigit = false) :
    digits (ds.chars ++ rest) = .ok (ds.chars, rest) := by
  have ht : rest.takeWhile Char.isDigit = [] ∧ rest.dropWhile Char.isDigit = rest := by
    cases rest
    case nil       => exact ⟨rfl, rfl⟩
    case cons c cs => simp [h c rfl]
  obtain ⟨c, cs, hc, -⟩ := ds.exists_cons
  rw [digits, List.takeWhile_append_of_pos ds.isDigit, List.dropWhile_append_of_pos ds.isDigit,
    ht.1, ht.2, List.append_nil, hc]

end Digits

theorem Exponent.exponentDigits_chars {e : Exponent} (h : Stops rest) :
    exponentDigits (e.chars ++ rest) = .ok (some e.value, rest) := by
  have hr : Json.digits (e.digits.chars ++ rest) = .ok (e.digits.chars, rest) :=
    Digits.digits_chars h.noDigit
  have hm : (if e.capital then 'E' else 'e') = 'e' ∨ (if e.capital then 'E' else 'e') = 'E' := by
    cases e.capital
    · exact .inl rfl
    · exact .inr rfl
  cases hs : e.sign
  case some minus =>
    cases minus <;>
      simp only [chars, hs, Option.elim_some, List.cons_append, List.nil_append, exponentDigits,
        if_pos hm, value, Digits.value, appendDigits, Bool.false_eq_true, if_false, if_true,
        hr] <;>
      rfl
  case none =>
    obtain ⟨c, cs, hc, hd⟩ := e.digits.exists_cons
    simp only [chars, hs, Option.elim_none, List.cons_append, List.nil_append, exponentDigits,
      if_pos hm, value, Digits.value, appendDigits]
    rw [hc] at hr ⊢
    -- A digit is no sign.
    split
    case h_1 he => cases he; cases hd
    case h_2 he => cases he; cases hd
    case h_3    => rw [hr]; rfl

namespace Numeral

theorem le_appendDigits {n : Nat} {ds : List Char} : n ≤ appendDigits n ds := by
  induction ds generalizing n with
  | nil => exact Nat.le_refl _
  | cons d ds hi => exact Nat.le_trans (show n ≤ n * 10 + (d.toNat - '0'.toNat) by omega) hi

theorem absorb_of_lt {n : Nat} {ds : List Char} (h : appendDigits n ds < Nat.pow 2 64) :
    absorb n ds = (appendDigits n ds, []) := by
  induction ds generalizing n with
  | nil => rfl
  | cons d ds hi =>
    have hd : n * 10 + (d.toNat - '0'.toNat) < Nat.pow 2 64 := Nat.lt_of_le_of_lt le_appendDigits h
    rw [absorb, if_pos hd]
    exact hi h

theorem absorb_of_le {n : Nat} {ds : List Char} (hn : n < Nat.pow 2 64)
    (h : Nat.pow 2 64 ≤ appendDigits n ds) :
    (absorb n ds).2 ≠ [] := by
  induction ds generalizing n with
  | nil => exact absurd hn (Nat.not_lt.mpr h)
  | cons d ds hi =>
    rw [absorb]
    split
    case isTrue hd  => exact hi hd h
    case isFalse hd => nofun

-- A number is an integer or a float.
theorem value?_ne_string {x : Numeral} {s : String} : x.value? ≠ some (.string s) := by
  intro h
  simp only [value?] at h
  split at h
  case isTrue =>
    split at h
    case isTrue  => cases h
    case isFalse => split at h <;> cases h
  case isFalse =>
    obtain ⟨_, _, he⟩ := Option.map_eq_some_iff.mp h
    cases he

-- Only a numeral without sign, point and exponent stands for an integer that is not negative.
theorem of_value {x : Numeral} {k : Int} (h : x.value? = some (.integer k)) (hk : 0 ≤ k) :
    x.isWhole = true ∧ x.negative = false ∧ absorb 0 x.whole = (k.toNat, []) := by
  rw [value?] at h
  generalize absorb 0 x.whole = a at h ⊢
  obtain ⟨s, dropped⟩ := a
  by_cases hw : (x.isWhole && dropped.isEmpty) = true
  case neg => simp [hw] at h
  case pos =>
    simp only [hw, if_true] at h
    cases hn : x.negative
    case true =>
      simp only [hn, Bool.not_true, Bool.false_eq_true, if_false] at h
      split at h
      case isFalse => cases h
      case isTrue hs =>
        have := Json.integer.inj (Option.some.inj h)
        omega
    case false =>
      simp only [hn, Bool.not_false, if_true] at h
      obtain rfl := Json.integer.inj (Option.some.inj h)
      simp_all

end Numeral

namespace Literal

variable {l : Literal} {n : Nat}

theorem fractionDigits_eq (h : ∀ c, rest.head? = some c → c.isDigit = false ∧ c ≠ '.') :
    fractionDigits ((l.fraction.elim [] fun ds => '.' :: ds.chars) ++ rest) =
      .ok (l.fraction.map Digits.chars, rest) := by
  cases l.fraction
  case none =>
    cases rest
    case nil       => rfl
    case cons c cs => simp [fractionDigits, (h c rfl).2]
  case some ds =>
    simp only [Option.elim_some, List.cons_append, fractionDigits,
      Digits.digits_chars fun c hc => (h c hc).1]
    rfl

theorem exponentDigits_eq (h : Stops rest) :
    exponentDigits (l.exponent.elim [] Exponent.chars ++ rest) =
      .ok (l.exponent.map Exponent.value, rest) := by
  cases l.exponent
  case some e => exact e.exponentDigits_chars h
  case none =>
    cases rest
    case nil       => rfl
    case cons c cs => simp [exponentDigits, (h c rfl).2]

-- What stands behind the whole digits, or behind the fraction, begins with no digit and no point.
theorem exponent_head (h : Stops rest) :
    ∀ c, (l.exponent.elim [] Exponent.chars ++ rest).head? = some c →
      c.isDigit = false ∧ c ≠ '.' := by
  cases l.exponent
  case none   => exact fun c hc => ⟨(h c hc).1, (h c hc).2.1⟩
  case some e =>
    rintro c ⟨⟩
    cases e.capital <;> exact ⟨rfl, by decide⟩

theorem fraction_head (h : Stops rest) :
    ∀ c, ((l.fraction.elim [] fun ds => '.' :: ds.chars) ++
      (l.exponent.elim [] Exponent.chars ++ rest)).head? = some c → c.isDigit = false := by
  cases l.fraction
  case none    => exact fun c hc => (exponent_head h c hc).1
  case some ds => rintro c ⟨⟩; rfl

theorem wholeDigits_eq (h : ∀ c, rest.head? = some c → c.isDigit = false) :
    wholeDigits (l.whole.chars ++ rest) = .ok (l.whole.chars, rest) := by
  have hz : ¬ (l.whole.chars.head? = some '0' ∧ 1 < l.whole.chars.length) :=
    fun hz => absurd (l.isZero hz.1) (Nat.not_le.mpr hz.2)
  simp only [wholeDigits, Digits.digits_chars h]
  exact if_neg hz

-- A number is read whole, and it is refused if it is beyond all numbers.
theorem number_magnitude (h : Stops rest) :
    number l.negative (l.magnitude ++ rest) =
      l.value?.elim (.error .malformed) fun v => .ok (v, rest) := by
  have hw := wholeDigits_eq (l := l) (fraction_head (l := l) h)
  have hf := fractionDigits_eq (l := l) (exponent_head (l := l) h)
  have he := exponentDigits_eq (l := l) h
  have hn : l.numeral =
      { negative := l.negative
        whole    := l.whole.chars
        fraction := (l.fraction.map Digits.chars).getD []
        exponent := (l.exponent.map Exponent.value).getD 0
        isWhole  :=
          (l.fraction.map Digits.chars).isNone && (l.exponent.map Exponent.value).isNone } := by
    cases hf : l.fraction <;> cases he : l.exponent <;> simp [numeral, hf, he]
  simp only [magnitude, List.append_assoc, number, hw, value?, hn]
  simp only [bind, Except.bind, hf, he]
  split <;> simp_all

theorem reads_number (h : Spaced ts rest) (hs : Stops rest) :
    Reads (number l.negative (l.magnitude ++ rest)) l.value? ts := by
  rw [number_magnitude hs]
  cases l.value?
  case none => exact .error
  case some => exact .ok h

theorem value?_of_count (h : l.count? = some n) (hn : n < Nat.pow 2 64) :
    l.value? = some (.integer n) := by
  simp only [count?] at h
  split at h
  case isFalse => cases h
  case isTrue hl =>
    obtain rfl := Option.some.inj h
    have ha : Numeral.absorb 0 l.whole.chars = (l.whole.value, []) := Numeral.absorb_of_lt hn
    simp [value?, numeral, Numeral.value?, hl, ha]

theorem count?_of_value {k : Int} (h : l.value? = some (.integer k)) (hk : 0 ≤ k) :
    l.count? = some k.toNat := by
  obtain ⟨hw, hn, ha⟩ := Numeral.of_value h hk
  obtain ⟨hf, he⟩ := Bool.and_eq_true_iff.mp hw
  have hv : l.whole.value = k.toNat := by
    by_cases hl : l.whole.value < Nat.pow 2 64
    case pos => exact congrArg Prod.fst ((Numeral.absorb_of_lt hl).symm.trans ha)
    case neg =>
      exact absurd (congrArg Prod.snd ha) (Numeral.absorb_of_le (by decide) (Nat.not_lt.mp hl))
  simp only [numeral] at hn
  simp [count?, hn, hf, he, hv]

end Literal

end RemoteTerm.Json
