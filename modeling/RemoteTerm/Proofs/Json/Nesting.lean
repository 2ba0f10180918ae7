import RemoteTerm.Proofs.Json.Fields
/-!
How deep the values are nested that are read. A value that is nested deeper than a reader allows is
refused, wherever it stands.
-/

namespace RemoteTerm.Json

open Written

variable {α ε : Type} {ts : List Token} {cs : List Char} {first : Bool}

theorem Reads.spaced {r : Except ε (α × List Char)} {a? : Option α} {x : α × List Char}
    (h : Reads r a? ts) (hr : r = .ok x) : Spaced ts x.2 := by
  cases h
  case ok h  => cases hr; exact h
  case error => cases hr

theorem Reads.value_eq {r : Except ε (α × List Char)} {a? : Option α} {x : α × List Char}
    (h : Reads r a? ts) (hr : r = .ok x) : a? = some x.1 := by
  cases h
  case ok h  => cases hr; rfl
  case error => cases hr

-- What is read with enough fuel is not nested deeper than that.
structure KeepsWithin (fuel : Nat) : Prop where
  value {d : Nat} {w : Written} {ts : List Token} {cs : List Char} {x : Json × List Char} :
    2 * w.tokens.length ≤ fuel → Parted ts → Spaced (w.tokens ++ ts) cs →
    valueWithin fuel d cs = .ok x → w.depth ≤ d
  items {d : Nat} {first : Bool} {xs : List Written} {ts : List Token} {cs : List Char}
      {x : List Json × List Char} :
    2 * (itemsTokens first xs).length < fuel → Spaced (itemsTokens first xs ++ ts) cs →
    itemsWithin fuel d first cs = .ok x → itemsDepth xs ≤ d
  members {d : Nat} {first : Bool} {ms : List (Quoted × Written)} {ts : List Token}
      {cs : List Char} {x : List (String × Json) × List Char} :
    2 * (membersTokens first ms).length < fuel → Spaced (membersTokens first ms ++ ts) cs →
    membersWithin fuel d first cs = .ok x → membersDepth ms ≤ d

namespace KeepsWithin

variable {fuel d : Nat}

theorem succ_value {w : Written} {x : Json × List Char} (k : KeepsWithin fuel)
    (hf : 2 * w.tokens.length ≤ fuel + 1) (h : Spaced (w.tokens ++ ts) cs)
    (hx : valueWithin (fuel + 1) d cs = .ok x) : w.depth ≤ d := by
  cases w <;> try exact Nat.zero_le d
  case array xs =>
    simp only [tokens, List.cons_append, List.length_cons] at h hf
    obtain ⟨rest, hc, hr⟩ := h.skip
    rw [valueWithin, hc] at hx
    cases d
    case zero   => cases hx
    case succ d =>
      obtain ⟨y, hy, -⟩ := map_eq_ok_iff.mp hx
      exact Nat.succ_le_succ (k.items (by omega) hr hy)
  case object ms =>
    simp only [tokens, List.cons_append, List.length_cons] at h hf
    obtain ⟨rest, hc, hr⟩ := h.skip
    rw [valueWithin, hc] at hx
    cases d
    case zero   => cases hx
    case succ d =>
      obtain ⟨y, hy, -⟩ := map_eq_ok_iff.mp hx
      exact Nat.succ_le_succ (k.members (by omega) hr hy)

theorem succ_items {xs : List Written} {x : List Json × List Char} (k : KeepsWithin fuel)
    (hf : 2 * (itemsTokens first xs).length < fuel + 1)
    (h : Spaced (itemsTokens first xs ++ ts) cs)
    (hx : itemsWithin (fuel + 1) d first cs = .ok x) : itemsDepth xs ≤ d := by
  cases xs
  case nil => exact Nat.zero_le d
  case cons w xs =>
    obtain ⟨t, us, ht, hb⟩ := w.tokens_cons
    have hl : 0 < w.tokens.length := ht ▸ Nat.succ_pos _
    simp only [itemsTokens, List.length_append, List.append_assoc] at h hf
    rw [ht, List.cons_append] at h
    obtain ⟨rest, hn, hr⟩ := h.nextItem_entry hb
    rw [← List.cons_append, ← ht] at hr
    rw [itemsWithin, hn] at hx
    obtain ⟨_, ⟨⟩, hx⟩ := bind_eq_ok_iff.mp hx
    obtain ⟨v, hv, hx⟩ := bind_eq_ok_iff.mp hx
    obtain ⟨y, hy, -⟩ := bind_eq_ok_iff.mp hx
    have hw : w.depth ≤ d := k.value (by omega) (parted_itemsTokens xs) hr hv
    have hr := ((readsWithin fuel).value hw (by omega) (parted_itemsTokens xs) hr).spaced hv
    exact Nat.max_le.mpr ⟨hw, k.items (by omega) hr hy⟩

theorem succ_members {ms : List (Quoted × Written)} {x : List (String × Json) × List Char}
    (k : KeepsWithin fuel) (hf : 2 * (membersTokens first ms).length < fuel + 1)
    (h : Spaced (membersTokens first ms ++ ts) cs)
    (hx : membersWithin (fuel + 1) d first cs = .ok x) : membersDepth ms ≤ d := by
  cases ms
  case nil => exact Nat.zero_le d
  case cons m ms =>
    obtain ⟨q, w⟩ := m
    simp only [membersTokens, List.length_append, List.length_cons, List.append_assoc,
      List.cons_append] at h hf
    obtain ⟨rest, hn, hr⟩ := h.nextMember_entry
    rw [membersWithin, hn] at hx
    obtain ⟨_, ⟨⟩, hx⟩ := bind_eq_ok_iff.mp hx
    obtain ⟨⟨name, rest'⟩, hq, hx⟩ := bind_eq_ok_iff.mp hx
    obtain ⟨rest'', hc, hr⟩ := ((Quoted.reads_unquote hr).spaced hq).colon
    obtain ⟨_, hc', hx⟩ := bind_eq_ok_iff.mp hx
    obtain rfl := Except.ok.inj (hc.symm.trans hc')
    obtain ⟨v, hv, hx⟩ := bind_eq_ok_iff.mp hx
    obtain ⟨y, hy, -⟩ := bind_eq_ok_iff.mp hx
    have hw : w.depth ≤ d := k.value (by omega) (parted_membersTokens ms) hr hv
    have hr := ((readsWithin fuel).value hw (by omega) (parted_membersTokens ms) hr).spaced hv
    exact Nat.max_le.mpr ⟨hw, k.members (by omega) hr hy⟩

end KeepsWithin

theorem keepsWithin (fuel : Nat) : KeepsWithin fuel := by
  induction fuel with
  | zero =>
    constructor
    case value =>
      intro d w ts cs x hf
      obtain ⟨t, us, ht, -⟩ := w.tokens_cons
      simp [ht] at hf
    case items   => exact fun hf => absurd hf (Nat.not_lt_zero _)
    case members => exact fun hf => absurd hf (Nat.not_lt_zero _)
  | succ fuel k =>
    exact ⟨fun hf _ => k.succ_value hf, k.succ_items, k.succ_members⟩

theorem Reads.refused {r : Except ε (α × List Char)} (h : ∀ x, r ≠ .ok x) : Reads r none ts := by
  cases r
  case ok x    => exact absurd rfl (h x)
  case error e => exact .error

-- A number begins with a minus or a digit, and with nothing else.
theorem Literal.chars_head_ne (l : Literal) :
    ∃ c cs, l.chars = c :: cs ∧ ∀ {d : Char}, (d = '-' || d.isDigit) = false → c ≠ d := by
  obtain ⟨c, cs, h, hc⟩ := l.chars_head
  refine ⟨c, cs, h, ?_⟩
  rintro d hd rfl
  simp_all

namespace Spaced

variable {d : Nat} {w : Written}

-- What a text makes of the value that it begins with, be it nested too deep or not.
theorem reads_value_within (h : Spaced (w.tokens ++ ts) cs) (hp : Parted ts) :
    Reads (value d cs) (if w.depth ≤ d then w.value? else none) ts := by
  split
  case isTrue hd  => exact h.reads_value hd hp
  case isFalse hd =>
    have hf := Nat.le_of_lt h.two_mul_length_lt
    exact .refused fun x hx => hd ((keepsWithin _).value hf hp h hx)

-- What a text makes of the items that it goes on with.
theorem reads_items_within {xs : List Written} (h : Spaced (itemsTokens false xs ++ ts) cs) :
    Reads (items d cs) (if itemsDepth xs ≤ d then itemsValue? xs else none) ts := by
  split
  case isTrue hd  => exact (readsWithin _).items hd h.two_mul_length_lt h
  case isFalse hd =>
    exact .refused fun x hx => hd ((keepsWithin _).items h.two_mul_length_lt h hx)

end Spaced

namespace Tagging

variable {t : Tagging α} {found : Option α} {d : Nat} {w : Written} {ms : List (Quoted × Written)}

-- A tag is a string.
theorem depth_of_readTag {x : α × List Char} (h : Spaced (w.tokens ++ ts) cs)
    (hx : t.readTag cs = .ok x) : w.depth = 0 := by
  have hv := (reads_readTag h).value_eq hx
  cases w <;> first | rfl | cases hv

theorem depth_le_of_members {fuel : Nat} {x : (Option α × List (String × Json)) × List Char}
    (hf : 2 * (membersTokens first ms).length < fuel)
    (h : Spaced (membersTokens first ms ++ ts) cs)
    (hx : t.membersWithin d fuel first found cs = .ok x) : membersDepth ms ≤ d := by
  obtain ⟨fuel, rfl⟩ := Nat.exists_eq_succ_of_ne_zero (Nat.ne_zero_of_lt hf)
  induction ms generalizing fuel first found cs x with
  | nil => exact Nat.zero_le d
  | cons m ms hi =>
    obtain ⟨q, w⟩ := m
    simp only [membersTokens, List.length_append, List.length_cons, List.append_assoc,
      List.cons_append] at h hf
    have hm : 0 < (membersTokens false ms).length := by cases ms <;> exact Nat.succ_pos _
    obtain ⟨fuel, rfl⟩ := Nat.exists_eq_succ_of_ne_zero (n := fuel) (by omega)
    obtain ⟨rest, hn, hr⟩ := h.nextMember_entry
    rw [membersWithin] at hx
    dsimp only at hx
    rw [hn] at hx
    obtain ⟨_, ⟨⟩, hx⟩ := bind_eq_ok_iff.mp hx
    obtain ⟨⟨name, rest'⟩, hq, hx⟩ := bind_eq_ok_iff.mp hx
    obtain ⟨rest'', hc, hr⟩ := (((Quoted.reads_unquote hr).mapError _).spaced hq).colon
    simp only [hc] at hx
    split at hx
    case isFalse =>
      obtain ⟨_, ⟨⟩, hx⟩ := bind_eq_ok_iff.mp hx
      obtain ⟨v, hv, hx⟩ := bind_eq_ok_iff.mp hx
      obtain ⟨y, hy, -⟩ := bind_eq_ok_iff.mp hx
      have hv' :=
        (hr.reads_value_within (d := d) (parted_membersTokens ms)).mapError DecodeError.fault
      have hw : w.depth ≤ d := (Option.ite_none_right_eq_some.mp (hv'.value_eq hv)).1
      exact Nat.max_le.mpr ⟨hw, hi (hv'.spaced hv) fuel (by omega) hy⟩
    case isTrue =>
      split at hx
      case isTrue => cases hx
      case isFalse =>
        obtain ⟨_, ⟨⟩, hx⟩ := bind_eq_ok_iff.mp hx
        obtain ⟨v, hv, hx⟩ := bind_eq_ok_iff.mp hx
        have hw : w.depth ≤ d := depth_of_readTag hr hv ▸ Nat.zero_le d
        exact Nat.max_le.mpr ⟨hw, hi ((reads_readTag hr).spaced hv) fuel (by omega) hx⟩

variable (t d)

-- What is made of a value in which arrays and objects are nested at most so deep.
def tagged? (w : Written) : Option (α × Fields) :=
  if w.depth ≤ d then
    match w with
    | .object ms      => (t.members? none ms).bind fun r => r.1.map fun a => (a, .named r.2)
    | .array (x :: xs) =>
      (t.variant? x).bind fun a => (itemsValue? xs).map fun vs => (a, .positional vs)
    | _ => none
  else none

variable {t d}

theorem reads_object (h : Spaced ((Written.object ms).tokens ++ ts) cs) :
    Reads (t.read d cs) (t.tagged? d (.object ms)) ts := by
  rw [tagged?]
  split
  case isTrue hd  => exact reads_read hd h
  case isFalse hd =>
    refine .refused fun x hx => hd ?_
    simp only [tokens, List.cons_append] at h
    obtain ⟨rest, hc, hr⟩ := h.skip
    simp only [Token.chars, List.cons_append, List.nil_append] at hc
    unfold read at hx
    rw [hc] at hx
    cases d
    case zero   => cases hx
    case succ d =>
      obtain ⟨y, hy, -⟩ := bind_eq_ok_iff.mp hx
      have hf := Nat.lt_of_lt_of_le hr.two_mul_length_lt (Nat.le_refl _)
      exact Nat.succ_le_succ (depth_le_of_members hf hr hy)

theorem tagged?_array {xs : List Written} :
    t.tagged? (d + 1) (.array (w :: xs)) =
      (t.variant? w).bind fun a =>
        (if itemsDepth xs ≤ d then itemsValue? xs else none).map fun vs => (a, .positional vs) := by
  simp only [tagged?, depth, itemsDepth, Nat.add_le_add_iff_right, Nat.max_le]
  cases hv : t.variant? w
  case none   => simp
  case some a =>
    -- A tag is a string.
    have hw : w.depth ≤ d := by cases w <;> first | exact Nat.zero_le d | cases hv
    by_cases hx : itemsDepth xs ≤ d <;> simp [hw, hx]

theorem reads_array {xs : List Written} (h : Spaced ((Written.array xs).tokens ++ ts) cs) :
    Reads (t.read d cs) (t.tagged? d (.array xs)) ts := by
  simp only [tokens, List.cons_append] at h
  obtain ⟨rest, hc, hr⟩ := h.skip
  simp only [Token.chars, List.cons_append, List.nil_append] at hc
  unfold read
  rw [hc]
  cases d
  case zero   => simp only [tagged?, depth]; exact .error
  case succ d =>
    cases xs
    case nil =>
      obtain ⟨rest, hn, hr⟩ := hr.nextItem_done true
      simp only [tagged?, ite_self, hn]
      exact .error
    case cons w xs =>
      obtain ⟨u, us, hu, hb⟩ := w.tokens_cons
      rw [itemsTokens, List.append_assoc, List.append_assoc, hu, List.cons_append] at hr
      obtain ⟨rest, hn, hr⟩ := hr.nextItem_entry hb
      rw [← List.cons_append, ← hu] at hr
      simp only [hn, tagged?_array, Option.map_eq_bind]
      apply (reads_readTag hr).bind
      intro a rest hr
      have hx := hr.reads_items_within (d := d)
      exact (hx.mapError DecodeError.fault).bind fun vs rest hr => .ok hr

-- Nothing else is tagged.
theorem reads_tagged (h : Spaced (w.tokens ++ ts) cs) :
    Reads (t.read d cs) (t.tagged? d w) ts := by
  cases w
  case object ms => exact reads_object h
  case array xs  => exact reads_array h
  all_goals
    simp only [tokens, List.cons_append, List.nil_append] at h
    obtain ⟨rest, hc, -⟩ := h.skip
    simp only [tagged?, ite_self]
    unfold read
    rw [hc]
  case number l =>
    obtain ⟨c, ds, hl, hd⟩ := l.chars_head_ne
    rw [Token.chars, hl, List.cons_append]
    split
    case h_5 => exact .error
    all_goals
      rename_i he
      exact absurd (List.cons.inj he).1 (hd (by decide))
  case bool b => cases b <;> exact .error
  all_goals exact .error

end Tagging

end RemoteTerm.Json
