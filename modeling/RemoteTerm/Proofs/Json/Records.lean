import Mathlib.Data.List.Nodup
import RemoteTerm.Json.Record
import RemoteTerm.Proofs.Json.Nesting
import RemoteTerm.Proofs.Json.Skipping
/-!
Reading records as they are written. Each field has to be written once, and where it stands among
the other members makes no difference.
-/

namespace RemoteTerm.Json

open Written

variable {α σ : Type} {ts : List Token} {cs rest : List Char} {first : Bool} {w : Written}
  {ms : List (Quoted × Written)}

namespace Written

def bool? : Written → Option Bool
  | bool b => some b
  | _      => none

def text? : Written → Option String
  | string q => q.string?
  | _        => none

-- A whole number from zero to a largest one.
def count? (largest : Nat) : Written → Option Nat
  | number l => l.count?.filter (· ≤ largest)
  | _        => none

-- What is meant by something that may be null.
def nullable? (m : Written → Option α) : Written → Option (Option α)
  | null => some none
  | w    => (m w).map some

-- Every name means something.
def NamesLegible (ms : List (Quoted × Written)) : Prop :=
  ∀ m ∈ ms, m.1.string?.isSome = true

theorem count?_eq_some_iff {largest n : Nat} :
    count? largest w = some n ↔ ∃ l, w = number l ∧ l.count? = some n ∧ n ≤ largest := by
  cases w
  case number l => simp [count?, Option.filter_eq_some_iff]
  all_goals simp [count?]

end Written

-- What a decoder makes of a value, whatever stands behind it.
def Decoder.Takes (d : Decoder α) (m : Written → Option α) : Prop :=
  ∀ {w : Written} {ts : List Token} {cs : List Char},
    Parted ts → Spaced (w.tokens ++ ts) cs → Reads (d cs) (m w) ts

namespace Decoder

variable {d : Decoder α} {m : Written → Option α} {expected : String}

theorem takes_text : (text expected).Takes Written.text? := by
  intro w ts cs hp h
  by_cases hw : ∃ q, w = .string q
  case pos =>
    obtain ⟨q, rfl⟩ := hw
    exact reads_text h
  case neg =>
    obtain ⟨e, he⟩ := text_refused expected h (not_exists.mp hw)
    have hn : w.text? = none := by cases w <;> first | rfl | exact absurd ⟨_, rfl⟩ hw
    rw [he, hn]
    exact .error

theorem takes_boolean : boolean.Takes Written.bool? := by
  intro w ts cs hp h
  cases w <;> simp only [tokens, List.cons_append, List.nil_append] at h <;>
    obtain ⟨rest, hc, hr⟩ := h.skip <;> rw [boolean, hc]
  case bool b => cases b <;> exact .ok hr
  case number l =>
    obtain ⟨c, ds, hl, hd⟩ := l.chars_head_ne
    rw [Token.chars, hl, List.cons_append]
    split
    case h_3 => exact .error
    all_goals
      rename_i he
      exact absurd (List.cons.inj he).1 (hd (by decide))
  all_goals exact .error

-- Nothing else begins as null does.
theorem takes_nullable (hd : d.Takes m) : (nullable d).Takes (Written.nullable? m) := by
  intro w ts cs hp h
  have take := (hd hp h).map some
  cases w <;> simp only [tokens, List.cons_append, List.nil_append] at h <;>
    obtain ⟨rest, hc, hr⟩ := h.skip <;> rw [nullable, hc]
  case null   => exact .ok hr
  case bool b => cases b <;> exact take
  case number l =>
    obtain ⟨c, ds, hl, hd⟩ := l.chars_head_ne
    rw [Token.chars, hl, List.cons_append]
    split
    case h_1 he => exact absurd (List.cons.inj he).1 (hd (by decide))
    case h_2    => exact take
  all_goals exact take

theorem value?_asUnsigned {l : Literal} {largest : Nat} (hl : largest < Nat.pow 2 64) :
    (l.value?.bind fun v => (asUnsigned largest expected v).toOption) =
      l.count?.filter (· ≤ largest) := by
  ext n
  simp only [Option.bind_eq_some_iff, toOption_eq_some_iff, asUnsigned_eq_ok_iff,
    Option.filter_eq_some_iff, decide_eq_true_eq]
  constructor
  case mp =>
    rintro ⟨v, hv, rfl, hn⟩
    exact ⟨Literal.count?_of_value hv (Int.natCast_nonneg n), hn⟩
  case mpr =>
    rintro ⟨hc, hn⟩
    exact ⟨_, Literal.value?_of_count hc (Nat.lt_of_le_of_lt hn hl), rfl, hn⟩

theorem reads_count (l : Literal) (expected : String) {largest : Nat} (hl : largest < Nat.pow 2 64)
    (h : Spaced ts rest) (hs : Stops rest) :
    Reads (do
        let (v, rest) ← liftFault (number l.negative (l.magnitude ++ rest))
        return (← liftData (asUnsigned largest expected v), rest))
      (Written.count? largest (.number l)) ts := by
  rw [Written.count?, ← value?_asUnsigned hl]
  apply ((Literal.reads_number h hs).mapError DecodeError.fault).bind
  intro v rest hr
  simp only
  cases asUnsigned largest expected v
  case error => exact .error
  case ok    => exact .ok hr

theorem takes_unsigned {largest : Nat} (hl : largest < Nat.pow 2 64) :
    (unsigned largest expected).Takes (Written.count? largest) := by
  intro w ts cs hp h
  cases w <;> simp only [tokens, List.cons_append, List.nil_append] at h <;>
    obtain ⟨rest, hc, hr⟩ := h.skip
  case number l =>
    have hn := reads_count l expected hl hr (hr.stops hp)
    simp only [Token.chars, Literal.chars] at hc
    cases hs : l.negative <;> rw [hs] at hn
    case true =>
      simp only [hs, if_true, List.cons_append] at hc
      rw [unsigned, hc]
      exact hn
    case false =>
      obtain ⟨c, ds, hw, hd⟩ := l.whole.exists_cons
      simp only [hs, Bool.false_eq_true, if_false] at hc
      have hm : l.magnitude ++ rest = c :: (l.magnitude ++ rest).tail := by
        simp [Literal.magnitude, hw]
      rw [hm] at hc hn
      rw [unsigned, hc]
      split
      case h_1 he => cases he; cases hd
      case h_2 he => cases he; rw [if_pos hd]; exact hn
      case h_3 he => cases he
  case bool b => rw [unsigned, hc]; cases b <;> exact .error
  all_goals rw [unsigned, hc]; exact .error

end Decoder

-- A field that keeps its value in one place of the draft, and what is meant by its value.
structure Column (σ : Type) where
  {α : Type}
  name    : String
  get     : σ → Option α
  set     : σ → α → σ
  decoder : Decoder α
  means   : Written → Option α
  takes   : decoder.Takes means

namespace Column

def field (c : Column σ) : Field σ :=
  .of c.name c.get c.set c.decoder

-- What members make of the place of a field in a draft.
inductive Holds (c : Column σ) (ms : List (Quoted × Written)) (s s' : σ) : Prop
  | kept : named c.name ms = [] → c.get s' = c.get s → Holds c ms s s'
  | filled {w a} :
    c.get s = none → named c.name ms = [w] → c.means w = some a → c.get s' = some a →
    Holds c ms s s'

-- Fields that have different names and different places, and between them the whole draft.
structure Lawful (cols : List (Column σ)) : Prop where
  names : (cols.map Column.name).Nodup
  get_set       : ∀ c ∈ cols, ∀ s a, c.get (c.set s a) = some a
  get_set_of_ne : ∀ c ∈ cols, ∀ c' ∈ cols, c.name ≠ c'.name → ∀ s a, c.get (c'.set s a) = c.get s
  ext           : ∀ s s', (∀ c ∈ cols, c.get s' = c.get s) → s' = s

theorem Lawful.eq_of_name {cols : List (Column σ)} (hl : Lawful cols) {c c' : Column σ}
    (hc : c ∈ cols) (hc' : c' ∈ cols) (hn : c.name = c'.name) : c = c' :=
  List.inj_on_of_nodup_map hl.names hc hc' hn

section

variable {c : Column σ} {s s₁ s' : σ} {q : Quoted} {name : String}

theorem holds_nil : c.Holds [] s s' ↔ c.get s' = c.get s := by
  constructor
  case mp =>
    rintro (⟨-, h⟩ | ⟨-, ⟨⟩, -, -⟩)
    exact h
  case mpr => exact .kept rfl

theorem holds_cons_of_ne (hq : q.string? = some name) (hn : name ≠ c.name) :
    c.Holds ((q, w) :: ms) s s' ↔ c.Holds ms s s' := by
  have h : named c.name ((q, w) :: ms) = named c.name ms := by simp [named_cons, hq, hn]
  constructor
  case mp =>
    rintro (⟨hm, hs⟩ | ⟨hs, hm, hv, hs'⟩)
    · exact .kept (h ▸ hm) hs
    · exact .filled hs (h ▸ hm) hv hs'
  case mpr =>
    rintro (⟨hm, hs⟩ | ⟨hs, hm, hv, hs'⟩)
    · exact .kept (h ▸ hm) hs
    · exact .filled hs (h ▸ hm) hv hs'

theorem holds_cons_self (hq : q.string? = some c.name) :
    c.Holds ((q, w) :: ms) s s' ↔
      c.get s = none ∧ ∃ a, c.means w = some a ∧ named c.name ms = [] ∧ c.get s' = some a := by
  have h : named c.name ((q, w) :: ms) = w :: named c.name ms := by simp [named_cons, hq]
  constructor
  case mp =>
    rintro (⟨hm, -⟩ | ⟨hs, hm, hv, hs'⟩)
    · simp [h] at hm
    · obtain ⟨rfl, hn⟩ : w = _ ∧ named c.name ms = [] := by simpa [h] using hm
      exact ⟨hs, _, hv, hn, hs'⟩
  case mpr =>
    rintro ⟨hs, a, hv, hn, hs'⟩
    exact .filled hs (by rw [h, hn]) hv hs'

-- A field that is known already is not written again.
theorem holds_of_get {a : c.α} (h : c.get s = some a) :
    c.Holds ms s s' ↔ named c.name ms = [] ∧ c.get s' = some a := by
  constructor
  case mp =>
    rintro (⟨hm, hs⟩ | ⟨hs, -, -, -⟩)
    · exact ⟨hm, hs.trans h⟩
    · simp [h] at hs
  case mpr =>
    rintro ⟨hm, hs⟩
    exact .kept hm (hs.trans h.symm)

theorem holds_congr (h : c.get s₁ = c.get s) : c.Holds ms s₁ s' ↔ c.Holds ms s s' := by
  constructor
  case mp =>
    rintro (⟨hm, hs⟩ | ⟨hs, hm, hv, hs'⟩)
    · exact .kept hm (hs.trans h)
    · exact .filled (h ▸ hs) hm hv hs'
  case mpr =>
    rintro (⟨hm, hs⟩ | ⟨hs, hm, hv, hs'⟩)
    · exact .kept hm (hs.trans h.symm)
    · exact .filled (h ▸ hs) hm hv hs'

-- A member fills the place of its field, and is of no matter to all others.
theorem Lawful.holds_set {cols : List (Column σ)} {c' : Column σ} {a : c.α} (hl : Lawful cols)
    (hc : c ∈ cols) (hc' : c' ∈ cols) (hq : q.string? = some c.name) (hs : c.get s = none)
    (ha : c.means w = some a) : c'.Holds ((q, w) :: ms) s s' ↔ c'.Holds ms (c.set s a) s' := by
  by_cases hn : c.name = c'.name
  case pos =>
    obtain rfl := hl.eq_of_name hc hc' hn
    rw [holds_cons_self hq, holds_of_get (hl.get_set c hc s a)]
    simp [hs, ha]
  case neg =>
    rw [holds_cons_of_ne hq hn, holds_congr (hl.get_set_of_ne c' hc' c hc (Ne.symm hn) s a)]

end

end Column

namespace Record

variable (cols : List (Column σ))

-- What is made of the members of an object when some fields are known already.
def members? : σ → List (Quoted × Written) → Option σ
  | s, [] => some s
  | s, (q, w) :: ms =>
    q.string?.bind fun name =>
      match cols.find? (·.name = name) with
      | some c =>
        if (c.get s).isSome then none else (c.means w).bind fun a => members? (c.set s a) ms
      | none => members? s ms

-- What is made of the items of an array.
def items? : List (Column σ) → σ → List Written → Option σ
  | [], s, []                => some s
  | c :: cols, s, w :: xs => (c.means w).bind fun a => items? cols (c.set s a) xs
  | _, _, _                  => none

def record? (s : σ) : Written → Option σ
  | .object ms => members? cols s ms
  | .array xs  => items? cols s xs
  | _          => none

variable {cols} {s s' : σ}

theorem reads_members {fuel : Nat} (hf : 2 * (membersTokens first ms).length < fuel)
    (h : Spaced (membersTokens first ms ++ ts) cs) :
    Reads (readMembers (cols.map Column.field) fuel first s cs) (members? cols s ms) ts := by
  obtain ⟨fuel, rfl⟩ := Nat.exists_eq_succ_of_ne_zero (Nat.ne_zero_of_lt hf)
  induction ms generalizing fuel first s cs with
  | nil =>
    obtain ⟨rest, hn, hr⟩ := h.nextMember_done first
    rw [readMembers]
    dsimp only
    rw [hn]
    exact .ok hr
  | cons m ms hi =>
    obtain ⟨q, w⟩ := m
    simp only [membersTokens, List.length_append, List.length_cons, List.append_assoc,
      List.cons_append] at h hf
    obtain ⟨fuel, rfl⟩ := Nat.exists_eq_succ_of_ne_zero (n := fuel) (by omega)
    obtain ⟨rest, hn, hr⟩ := h.nextMember_entry
    rw [readMembers]
    dsimp only
    rw [hn, members?, Quoted.string?, Option.bind_map]
    apply ((Quoted.reads_unquote hr).mapError _).bind
    intro name rest hr
    obtain ⟨rest, hc, hr⟩ := hr.colon
    have hx : (cols.map Column.field).find? (·.name = String.ofList name) =
        (cols.find? (·.name = String.ofList name)).map Column.field := List.find?_map ..
    simp only [hc, Function.comp, hx]
    cases cols.find? (·.name = String.ofList name)
    case none =>
      obtain ⟨rest, hp, hr⟩ := hr.leaves_pass (parted_membersTokens ms)
      have hm := hi (s := s) hr fuel (by omega)
      simp only [Option.map_none, liftFault, Except.mapError, bind, Except.bind, hp]
      exact hm
    case some c =>
      simp only [Option.map_some, Column.field, Field.of]
      split
      case isTrue  => exact .error
      case isFalse =>
        have hv := (c.takes (parted_membersTokens ms) hr).map (c.set s)
        have he : ((c.means w).bind fun a => members? cols (c.set s a) ms) =
            ((c.means w).map (c.set s)).bind fun s => members? cols s ms := by
          rw [Option.bind_map]
          rfl
        rw [he]
        exact hv.bind fun s rest hr => hi hr fuel (by omega)

-- An array that goes on is not at its end.
theorem closeItems_refused {t : Token} (ht : t.begins = true)
    (h : Spaced ((if first then [] else [.comma]) ++ t :: ts) cs) :
    ∃ e, closeItems cs = .error e := by
  cases first
  case false =>
    obtain ⟨rest, hc, -⟩ := h.skip
    exact ⟨_, by rw [closeItems, hc]; rfl⟩
  case true =>
    obtain ⟨rest, hc, -⟩ := h.skip
    rw [closeItems, hc]
    cases t
    case number l =>
      obtain ⟨c, ds, hl, hd⟩ := l.chars_head_ne
      rw [Token.chars, hl, List.cons_append]
      split
      case h_2 he => exact absurd (List.cons.inj he).1 (hd (by decide))
      all_goals exact ⟨_, rfl⟩
    case bool b => cases b <;> exact ⟨_, rfl⟩
    all_goals first | exact ⟨_, rfl⟩ | cases ht

theorem reads_items {expected : String} {count : Nat} {xs : List Written}
    (h : Spaced (itemsTokens first xs ++ ts) cs) :
    Reads (readItems expected count first (cols.map Column.field) s cs) (items? cols s xs) ts := by
  induction cols generalizing s count first xs cs with
  | nil =>
    rw [List.map_nil, readItems]
    dsimp only
    cases xs
    case nil =>
      obtain ⟨rest, hc, hr⟩ := h.skip
      rw [closeItems, hc]
      exact .ok hr
    case cons w xs =>
      obtain ⟨t, us, ht, hb⟩ := w.tokens_cons
      rw [itemsTokens, List.append_assoc, List.append_assoc, ht, List.cons_append] at h
      obtain ⟨e, he⟩ := closeItems_refused hb h
      rw [he]
      exact .error
  | cons c cols hi =>
    rw [List.map_cons, readItems]
    dsimp only
    cases xs
    case nil =>
      obtain ⟨rest, hn, hr⟩ := h.nextItem_done first
      rw [hn]
      exact .error
    case cons w xs =>
      obtain ⟨t, us, ht, hb⟩ := w.tokens_cons
      rw [itemsTokens, List.append_assoc, List.append_assoc, ht, List.cons_append] at h
      obtain ⟨rest, hn, hr⟩ := h.nextItem_entry hb
      rw [← List.cons_append, ← ht] at hr
      have hv := (c.takes (parted_itemsTokens xs) hr).map (c.set s)
      have he : items? (c :: cols) s (w :: xs) =
          ((c.means w).map (c.set s)).bind fun s => items? cols s xs := by
        rw [Option.bind_map]
        rfl
      rw [hn, he]
      exact hv.bind fun s rest hr => hi hr

theorem takes_read {expected : String} :
    Decoder.Takes (read (cols.map Column.field) expected s) (record? cols s) := by
  intro w ts cs hp h
  cases w <;> simp only [tokens, List.cons_append, List.nil_append] at h <;>
    obtain ⟨rest, hc, hr⟩ := h.skip <;> rw [read, hc]
  case object ms => exact reads_members hr.two_mul_length_lt hr
  case array xs  => exact reads_items hr
  case bool b    => cases b <;> exact .error
  case number l  =>
    obtain ⟨c, ds, hl, hd⟩ := l.chars_head_ne
    rw [Token.chars, hl, List.cons_append]
    split
    case h_3 => exact .error
    all_goals
      rename_i he
      exact absurd (List.cons.inj he).1 (hd (by decide))
  all_goals exact .error

-- Each field is known from just one of the two: the draft, or one member.
theorem members?_eq_some_iff (hl : Column.Lawful cols) :
    members? cols s ms = some s' ↔ NamesLegible ms ∧ ∀ c ∈ cols, c.Holds ms s s' := by
  induction ms generalizing s with
  | nil =>
    simp only [members?, Option.some.injEq, Column.holds_nil]
    refine ⟨?_, fun h => (hl.ext _ _ h.2).symm⟩
    rintro rfl
    simp [NamesLegible]
  | cons m ms hi =>
    obtain ⟨q, w⟩ := m
    cases hq : q.string?
    case none => simp [members?, NamesLegible, hq]
    case some name =>
      have hn : NamesLegible ((q, w) :: ms) ↔ NamesLegible ms := by simp [NamesLegible, hq]
      simp only [members?, hq, Option.bind_some, hn]
      cases hf : cols.find? (·.name = name)
      case none =>
        rw [List.find?_eq_none] at hf
        refine hi.trans (and_congr_right fun _ => forall₂_congr fun c hc => ?_)
        have hn : name ≠ c.name := fun h => hf c hc (by simp [h])
        exact (Column.holds_cons_of_ne hq hn).symm
      case some c =>
        have hc : c ∈ cols := List.mem_of_find?_eq_some hf
        obtain rfl : c.name = name := by simpa using List.find?_some hf
        -- A field that is known already, or a value of the wrong type.
        have refused (h : c.get s = none → c.means w = none) :
            ¬ ∀ c ∈ cols, c.Holds ((q, w) :: ms) s s' := fun hh => by
          obtain ⟨hs, a, ha, -⟩ := (Column.holds_cons_self hq).mp (hh c hc)
          cases (h hs).symm.trans ha
        cases hs : c.get s
        case some b => simp [hs, refused (by simp [hs])]
        case none =>
          cases ha : c.means w
          case none   => simp [hs, ha, refused fun _ => ha]
          case some a =>
            simp only [hs, ha, Option.isSome_none, Bool.false_eq_true, if_false, Option.bind_some]
            refine hi.trans (and_congr_right fun _ => forall₂_congr fun c' hc' => ?_)
            exact (hl.holds_set hc hc' hq hs ha).symm

end Record

end RemoteTerm.Json
