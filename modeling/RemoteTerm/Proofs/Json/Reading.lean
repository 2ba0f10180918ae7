import RemoteTerm.Proofs.Json.Scalars
/-!
Reading values as they are written. From a text that begins with the tokens of a value, the reader
takes just these and gives what they mean. It refuses them if they mean nothing.
-/

namespace RemoteTerm.Json

open Written

variable {ts : List Token} {t : Token} {cs rest : List Char} {q : Quoted} {first : Bool}

namespace Spaced

-- There is fuel for all tokens of a text.
theorem two_mul_length_lt {us : List Token} (h : Spaced (us ++ ts) cs) :
    2 * us.length < fuelFor cs := by
  have := h.length_le
  simp only [List.length_append] at this
  simp only [fuelFor]
  omega

theorem colon (h : Spaced (.colon :: ts) cs) :
    ∃ rest, Json.colon cs = .ok rest ∧ Spaced ts rest := by
  obtain ⟨rest, hc, h⟩ := h.skip
  exact ⟨rest, by rw [Json.colon, hc]; rfl, h⟩

theorem nextItem_done (first : Bool) (h : Spaced (.closeArray :: ts) cs) :
    ∃ rest, nextItem first cs = .ok (.done rest) ∧ Spaced ts rest := by
  obtain ⟨rest, hc, h⟩ := h.skip
  exact ⟨rest, by rw [nextItem, hc]; rfl, h⟩

theorem nextItem_entry (ht : t.begins = true)
    (h : Spaced ((if first then [] else [.comma]) ++ t :: ts) cs) :
    ∃ rest, nextItem first cs = .ok (.entry rest) ∧ Spaced (t :: ts) rest := by
  cases first
  case false =>
    obtain ⟨rest, hc, h⟩ := h.skip
    exact ⟨rest, by rw [nextItem, hc]; rfl, h⟩
  case true =>
    obtain ⟨rest, hc, h⟩ := h.skip
    refine ⟨t.chars ++ rest, ?_, h.of_chars⟩
    rw [nextItem, hc]
    cases t
    case number l =>
      obtain ⟨c, ds, hl, hd⟩ := l.chars_head
      rw [Token.chars, hl, List.cons_append]
      split
      case h_4 => rfl
      case h_1 he => cases he
      all_goals
        rename_i he
        cases he
        obtain he | he := hd <;> cases he
    case bool b => cases b <;> rfl
    all_goals first | rfl | cases ht

theorem nextMember_done (first : Bool) (h : Spaced (.closeObject :: ts) cs) :
    ∃ rest, nextMember first cs = .ok (.done rest) ∧ Spaced ts rest := by
  obtain ⟨rest, hc, h⟩ := h.skip
  exact ⟨rest, by rw [nextMember, hc]; rfl, h⟩

theorem nextMember_entry (h : Spaced ((if first then [] else [.comma]) ++ .string q :: ts) cs) :
    ∃ rest, nextMember first cs = .ok (.entry (q.chars ++ '"' :: rest)) ∧ Spaced ts rest := by
  cases first
  case false =>
    obtain ⟨rest, hc, h⟩ := h.skip
    obtain ⟨rest', hc', h⟩ := h.skip
    refine ⟨rest', ?_, h⟩
    simp [nextMember, hc, hc', Token.chars]
  case true =>
    obtain ⟨rest, hc, h⟩ := h.skip
    refine ⟨rest, ?_, h⟩
    simp [nextMember, hc, Token.chars]

end Spaced

namespace Written

theorem parted_itemsTokens (xs : List Written) : Parted (itemsTokens false xs ++ ts) := by
  cases xs <;> rintro t ⟨⟩ <;> rfl

theorem parted_membersTokens (ms : List (Quoted × Written)) :
    Parted (membersTokens false ms ++ ts) := by
  cases ms <;> rintro t ⟨⟩ <;> rfl

theorem tokens_cons (w : Written) : ∃ t ts, w.tokens = t :: ts ∧ t.begins = true := by
  cases w <;> exact ⟨_, _, by rw [tokens], rfl⟩

end Written

-- What the readers make of values that are nested at most so deep, with enough fuel.
structure ReadsWithin (fuel : Nat) : Prop where
  value {d : Nat} {w : Written} {ts : List Token} {cs : List Char} :
    w.depth ≤ d → 2 * w.tokens.length ≤ fuel → Parted ts → Spaced (w.tokens ++ ts) cs →
    Reads (valueWithin fuel d cs) w.value? ts
  items {d : Nat} {first : Bool} {xs : List Written} {ts : List Token} {cs : List Char} :
    itemsDepth xs ≤ d → 2 * (itemsTokens first xs).length < fuel →
    Spaced (itemsTokens first xs ++ ts) cs →
    Reads (itemsWithin fuel d first cs) (itemsValue? xs) ts
  members {d : Nat} {first : Bool} {ms : List (Quoted × Written)} {ts : List Token}
      {cs : List Char} :
    membersDepth ms ≤ d → 2 * (membersTokens first ms).length < fuel →
    Spaced (membersTokens first ms ++ ts) cs →
    Reads (membersWithin fuel d first cs) (membersValue? ms) ts

theorem valueWithin_of_digit {fuel d : Nat} {c : Char} (h : skipBlank cs = c :: rest)
    (hc : c.isDigit = true) : valueWithin (fuel + 1) d cs = number false (c :: rest) := by
  rw [valueWithin, h]
  -- Nothing else begins with a digit.
  split
  case h_9 he =>
    cases he
    rw [if_pos hc]
  all_goals
    rename_i he
    cases he <;> cases hc

namespace ReadsWithin

variable {fuel d : Nat}

theorem succ_value {w : Written} (r : ReadsWithin fuel) (hd : w.depth ≤ d)
    (hf : 2 * w.tokens.length ≤ fuel + 1) (hp : Parted ts) (h : Spaced (w.tokens ++ ts) cs) :
    Reads (valueWithin (fuel + 1) d cs) w.value? ts := by
  cases w <;> simp only [tokens, List.cons_append, List.nil_append] at h <;>
    obtain ⟨rest, hc, hr⟩ := h.skip
  case null =>
    rw [valueWithin, hc]
    exact .ok hr
  case bool b =>
    rw [valueWithin, hc]
    cases b <;> exact .ok hr
  case string q =>
    simp only [Token.chars, List.cons_append, List.append_assoc, List.nil_append] at hc
    rw [valueWithin, hc, value?, Quoted.string?, Option.map_map]
    exact (Quoted.reads_unquote hr).map (Json.string ∘ String.ofList)
  case number l =>
    have hs := hr.stops hp
    simp only [Token.chars, Literal.chars] at hc
    cases hn : l.negative
    case true =>
      simp only [hn, if_true, List.cons_append] at hc
      rw [valueWithin, hc]
      exact hn ▸ Literal.reads_number hr hs
    case false =>
      obtain ⟨c, ds, hw, hd⟩ := l.whole.exists_cons
      simp only [hn, Bool.false_eq_true, if_false] at hc
      have hm : l.magnitude ++ rest = c :: (l.magnitude ++ rest).tail := by
        simp [Literal.magnitude, hw]
      rw [valueWithin_of_digit (hc.trans hm) hd, ← hm]
      exact hn ▸ Literal.reads_number hr hs
  case array xs =>
    obtain ⟨d, rfl⟩ : ∃ d', d = d' + 1 := ⟨d - 1, by simp only [depth] at hd; omega⟩
    simp only [tokens, List.length_cons] at hf
    simp only [depth] at hd
    rw [valueWithin, hc]
    exact (r.items (by omega) (by omega) hr).map _
  case object ms =>
    obtain ⟨d, rfl⟩ : ∃ d', d = d' + 1 := ⟨d - 1, by simp only [depth] at hd; omega⟩
    simp only [tokens, List.length_cons] at hf
    simp only [depth] at hd
    rw [valueWithin, hc]
    exact (r.members (by omega) (by omega) hr).map _

theorem succ_items {xs : List Written} (r : ReadsWithin fuel) (hd : itemsDepth xs ≤ d)
    (hf : 2 * (itemsTokens first xs).length < fuel + 1)
    (h : Spaced (itemsTokens first xs ++ ts) cs) :
    Reads (itemsWithin (fuel + 1) d first cs) (itemsValue? xs) ts := by
  cases xs
  case nil =>
    obtain ⟨rest, hn, hr⟩ := h.nextItem_done first
    rw [itemsWithin, hn]
    exact .ok hr
  case cons w xs =>
    obtain ⟨t, us, ht, hb⟩ := w.tokens_cons
    have hl : 0 < w.tokens.length := ht ▸ Nat.succ_pos _
    simp only [itemsTokens, itemsDepth, List.length_append, List.append_assoc] at h hd hf
    rw [ht, List.cons_append] at h
    obtain ⟨rest, hn, hr⟩ := h.nextItem_entry hb
    rw [← List.cons_append, ← ht] at hr
    rw [itemsWithin, hn, itemsValue?]
    apply (r.value (d := d) (by omega) (by omega) (parted_itemsTokens xs) hr).bind
    intro v rest hr
    exact (r.items (d := d) (by omega) (by omega) hr).map (v :: ·)

theorem succ_members {ms : List (Quoted × Written)} (r : ReadsWithin fuel)
    (hd : membersDepth ms ≤ d) (hf : 2 * (membersTokens first ms).length < fuel + 1)
    (h : Spaced (membersTokens first ms ++ ts) cs) :
    Reads (membersWithin (fuel + 1) d first cs) (membersValue? ms) ts := by
  cases ms
  case nil =>
    obtain ⟨rest, hn, hr⟩ := h.nextMember_done first
    rw [membersWithin, hn]
    exact .ok hr
  case cons m ms =>
    obtain ⟨q, w⟩ := m
    simp only [membersTokens, membersDepth, List.length_append, List.length_cons,
      List.append_assoc, List.cons_append] at h hd hf
    obtain ⟨rest, hn, hr⟩ := h.nextMember_entry
    rw [membersWithin, hn, membersValue?, Quoted.string?, Option.bind_map]
    apply (Quoted.reads_unquote hr).bind
    intro s rest hr
    obtain ⟨rest, hc, hr⟩ := hr.colon
    simp only [hc]
    apply (r.value (d := d) (by omega) (by omega) (parted_membersTokens ms) hr).bind
    intro v rest hr
    exact (r.members (d := d) (by omega) (by omega) hr).map ((String.ofList s, v) :: ·)

end ReadsWithin

theorem readsWithin (fuel : Nat) : ReadsWithin fuel := by
  induction fuel with
  | zero =>
    constructor
    case value =>
      intro d w ts cs _ hf
      obtain ⟨t, us, ht, -⟩ := w.tokens_cons
      simp [ht] at hf
    case items   => exact fun _ hf => absurd hf (Nat.not_lt_zero _)
    case members => exact fun _ hf => absurd hf (Nat.not_lt_zero _)
  | succ fuel r =>
    exact ⟨r.succ_value, r.succ_items, r.succ_members⟩

-- What a text makes of the value that it begins with.
theorem Spaced.reads_value {d : Nat} {w : Written} (h : Spaced (w.tokens ++ ts) cs)
    (hd : w.depth ≤ d) (hp : Parted ts) : Reads (value d cs) w.value? ts :=
  (readsWithin _).value hd (Nat.le_of_lt h.two_mul_length_lt) hp h

end RemoteTerm.Json
