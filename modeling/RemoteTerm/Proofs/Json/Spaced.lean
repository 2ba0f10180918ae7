import RemoteTerm.Proofs.Json.Written
/-!
Tokens in a text: where the next one is found, what stands behind it, and what it means that a
reader takes some tokens from the front of a text.
-/

namespace RemoteTerm.Json

variable {ε δ α β : Type} {ts us : List Token} {t : Token} {cs rest : List Char}

-- What a reader should make of a text: a value and the tokens behind it, or a refusal.
inductive Reads : Except ε (α × List Char) → Option α → List Token → Prop
  | ok {a rest ts} : Spaced ts rest → Reads (.ok (a, rest)) (some a) ts
  | error {e ts} : Reads (.error e) none ts

namespace Reads

theorem map {r : Except ε (α × List Char)} {a? : Option α} (f : α → β) (h : Reads r a? ts) :
    Reads (r.map fun (a, rest) => (f a, rest)) (a?.map f) ts := by
  cases h
  case ok h  => exact .ok h
  case error => exact .error

theorem mapError {r : Except ε (α × List Char)} {a? : Option α} (f : ε → δ) (h : Reads r a? ts) :
    Reads (r.mapError f) a? ts := by
  cases h
  case ok h  => exact .ok h
  case error => exact .error

theorem bind {r : Except ε (α × List Char)} {a? : Option α}
    {f : α × List Char → Except ε (β × List Char)} {g : α → Option β} (h : Reads r a? ts)
    (hf : ∀ a rest, Spaced ts rest → Reads (f (a, rest)) (g a) us) :
    Reads (r >>= f) (a?.bind g) us := by
  cases h
  case ok h  => exact hf _ _ h
  case error => exact .error

end Reads

-- What does not go on with a number.
def Stops (cs : List Char) : Prop :=
  ∀ c, cs.head? = some c → c.isDigit = false ∧ c ≠ '.' ∧ c ≠ 'e' ∧ c ≠ 'E'

def Token.isNumber : Token → Bool
  | number _ => true
  | _        => false

-- Tokens that do not begin with a number.
def Parted (ts : List Token) : Prop :=
  ∀ t, ts.head? = some t → t.isNumber = false

namespace Token

-- Whether a value begins there.
def begins : Token → Bool
  | null | bool _ | number _ | string _ | openArray | openObject => true
  | _ => false

theorem chars_stop (h : t.isNumber = false) : Stops (t.chars ++ cs) := by
  cases t
  case number l => cases h
  case bool b   => cases b <;> rintro c ⟨⟩ <;> decide
  all_goals rintro c ⟨⟩; decide

end Token

theorem isBlank_stop {c : Char} (h : isBlank c = true) : Stops (c :: cs) := by
  rintro c ⟨⟩
  simp only [isBlank, Bool.or_eq_true, decide_eq_true_eq] at h
  obtain ((rfl | rfl) | rfl) | rfl := h <;> decide

theorem skipBlank_append {bs : List Char} (h : ∀ c ∈ bs, isBlank c = true) :
    skipBlank (bs ++ cs) = skipBlank cs :=
  List.dropWhile_append_of_pos h

theorem skipBlank_of_head {c : Char} (h : isBlank c = false) : skipBlank (c :: cs) = c :: cs := by
  simp [skipBlank, h]

theorem Literal.chars_head (l : Literal) :
    ∃ c cs, l.chars = c :: cs ∧ (c = '-' ∨ c.isDigit = true) := by
  obtain ⟨c, ds, h⟩ := List.exists_cons_of_ne_nil l.whole.ne_nil
  have hd : c.isDigit = true := l.whole.isDigit c (h ▸ List.mem_cons_self)
  cases hn : l.negative
  case true  => exact ⟨'-', l.magnitude, by simp [chars, hn], .inl rfl⟩
  case false =>
    refine ⟨c, l.magnitude.tail, ?_, .inr hd⟩
    simp [chars, hn, magnitude, h]

theorem not_isBlank_of_isDigit {c : Char} (h : c.isDigit = true) : isBlank c = false := by
  simp only [isBlank, Bool.or_eq_false_iff, decide_eq_false_iff_not]
  refine ⟨⟨⟨?_, ?_⟩, ?_⟩, ?_⟩ <;> rintro rfl <;> cases h

theorem Token.skipBlank_chars : skipBlank (t.chars ++ cs) = t.chars ++ cs := by
  cases t
  case number l =>
    obtain ⟨c, ds, h, hc⟩ := l.chars_head
    simp only [Token.chars, h, List.cons_append]
    apply skipBlank_of_head
    obtain rfl | hc := hc
    · rfl
    · exact not_isBlank_of_isDigit hc
  case bool b => cases b <;> rfl
  all_goals rfl

namespace Spaced

-- The next token is found behind the blanks.
theorem skip (h : Spaced (t :: ts) cs) :
    ∃ rest, skipBlank cs = t.chars ++ rest ∧ Spaced ts rest := by
  cases h
  case token bs rest hb h =>
    refine ⟨rest, ?_, h⟩
    rw [List.append_assoc, skipBlank_append hb, Token.skipBlank_chars]

theorem skip_nil (h : Spaced [] cs) : skipBlank cs = [] := by
  cases h
  case blank h =>
    have hs : skipBlank (cs ++ []) = skipBlank [] := skipBlank_append h
    simpa [skipBlank] using hs

theorem of_chars (h : Spaced ts cs) : Spaced (t :: ts) (t.chars ++ cs) := by
  have ht : Spaced (t :: ts) ([] ++ t.chars ++ cs) := .token nofun h
  exact ht

-- Behind a number there is no other one.
theorem stops (h : Spaced ts cs) (hn : Parted ts) : Stops cs := by
  cases h
  case blank h =>
    cases cs
    case nil => nofun
    case cons c cs => exact isBlank_stop (h c List.mem_cons_self)
  case token bs t ts cs hb h =>
    cases bs
    case nil => exact Token.chars_stop (hn t rfl)
    case cons c bs => exact isBlank_stop (hb c List.mem_cons_self)

theorem length_le (h : Spaced ts cs) : ts.length ≤ cs.length := by
  induction h with
  | blank => exact Nat.zero_le _
  | @token bs t ts cs hb h hi =>
    have : 0 < t.chars.length := by
      cases t
      case number l =>
        obtain ⟨c, ds, h, -⟩ := l.chars_head
        simp [Token.chars, h]
      case bool b => cases b <;> exact Nat.succ_pos _
      all_goals exact Nat.succ_pos _
    simp only [List.length_cons, List.length_append]
    omega

end Spaced

end RemoteTerm.Json
