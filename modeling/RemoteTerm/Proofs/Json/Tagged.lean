import RemoteTerm.Json.Tagged
import RemoteTerm.Proofs.Json.Reading
/-!
Reading tagged objects as they are written. There has to be one tag, and it may stand anywhere among
the other members.
-/

namespace RemoteTerm.Json

open Written

variable {α : Type} {ts : List Token} {cs rest : List Char} {q : Quoted} {w : Written}
  {ms : List (Quoted × Written)}

namespace Written

-- The values of the members with a name, in their order.
def named (name : String) (ms : List (Quoted × Written)) : List Written :=
  (ms.filter (·.1.string? = some name)).map Prod.snd

-- Members apart from those with a name, and what they mean.
inductive Without (name : String) : List (Quoted × Written) → List (String × Json) → Prop
  | nil : Without name [] []
  | skip {q w ms js} : q.string? = some name → Without name ms js → Without name ((q, w) :: ms) js
  | keep {q w ms js} {s : String} {v : Json} :
    q.string? = some s → s ≠ name → w.value? = some v → Without name ms js →
    Without name ((q, w) :: ms) ((s, v) :: js)

theorem named_cons {name : String} :
    named name ((q, w) :: ms) = (if q.string? = some name then [w] else []) ++ named name ms := by
  by_cases h : q.string? = some name <;> simp [named, h]

variable {name s : String} {js : List (String × Json)}

theorem without_cons_iff (hq : q.string? = some name) :
    Without name ((q, w) :: ms) js ↔ Without name ms js := by
  refine ⟨fun h => ?_, .skip hq⟩
  cases h with
  | skip _ h      => exact h
  | keep hs hn _ _ => exact absurd (Option.some.inj (hs.symm.trans hq)) hn

theorem without_cons_iff_of_ne (hq : q.string? = some s) (hn : s ≠ name) :
    Without name ((q, w) :: ms) js ↔
      ∃ v js', w.value? = some v ∧ Without name ms js' ∧ js = (s, v) :: js' := by
  constructor
  case mpr =>
    rintro ⟨v, js', hv, h, rfl⟩
    exact .keep hq hn hv h
  case mp =>
    intro h
    cases h with
    | skip hs _ => exact absurd (Option.some.inj (hq.symm.trans hs)) hn
    | keep hs _ hv h =>
      obtain rfl := Option.some.inj (hq.symm.trans hs)
      exact ⟨_, _, hv, h, rfl⟩

end Written

theorem Decoder.reads_text {expected : String} (h : Spaced (.string q :: ts) cs) :
    Reads (Decoder.text expected cs) q.string? ts := by
  obtain ⟨rest, hc, h⟩ := h.skip
  simp only [Token.chars, List.cons_append, List.append_assoc, List.nil_append] at hc
  rw [Decoder.text, hc]
  exact ((Quoted.reads_unquote h).map String.ofList).mapError _

-- A text is not looked for in anything else.
theorem Decoder.text_refused (expected : String) (h : Spaced (w.tokens ++ ts) cs)
    (hw : ∀ q, w ≠ .string q) : ∃ e, Decoder.text expected cs = .error e := by
  cases w <;> simp only [tokens, List.cons_append, List.nil_append] at h <;>
    obtain ⟨rest, hc, -⟩ := h.skip <;> rw [Decoder.text, hc]
  case string q => exact absurd rfl (hw q)
  case bool b   => cases b <;> exact ⟨_, rfl⟩
  case number l =>
    obtain ⟨c, ds, hl, hd⟩ := l.chars_head
    rw [Token.chars, hl, List.cons_append]
    split
    case h_1 he =>
      cases he
      obtain he | he := hd <;> cases he
    case h_2 => exact ⟨_, rfl⟩
  all_goals exact ⟨_, rfl⟩

theorem Decoder.run_eq_ok_iff {d : Decoder α} {s : String} {a? : Option α} {a : α}
    (h : Reads (d s.toList) a? []) : d.run s = .ok a ↔ a? = some a := by
  rw [Decoder.run]
  generalize d s.toList = r at h ⊢
  cases h
  case ok h  => simp [bind, Except.bind, h.skip_nil]
  case error => simp [bind, Except.bind]

namespace Tagging

variable (t : Tagging α)

-- The variant that a value names.
def variant? : Written → Option α
  | .string q => q.string?.bind fun s => t.variants.lookup s
  | _         => none

-- What is made of members when a tag may have been found before.
def members? : Option α → List (Quoted × Written) → Option (Option α × List (String × Json))
  | found, [] => some (found, [])
  | found, (q, w) :: ms =>
    q.string?.bind fun s =>
      if s = t.tag then
        if found.isSome then none else (t.variant? w).bind fun a => members? (some a) ms
      else w.value?.bind fun v => (members? found ms).map fun r => (r.1, (s, v) :: r.2)

variable {t} {found : Option α}

theorem reads_readTag (h : Spaced (w.tokens ++ ts) cs) :
    Reads (t.readTag cs) (t.variant? w) ts := by
  by_cases hw : ∃ q, w = .string q
  case pos =>
    obtain ⟨q, rfl⟩ := hw
    apply (Decoder.reads_text h).bind
    intro s rest hr
    simp only [variant]
    cases t.variants.lookup s
    case none   => exact .error
    case some a => exact .ok hr
  case neg =>
    obtain ⟨e, he⟩ := Decoder.text_refused "variant identifier" h (not_exists.mp hw)
    have hn : t.variant? w = none := by cases w <;> first | rfl | exact absurd ⟨_, rfl⟩ hw
    rw [readTag, he, hn]
    exact .error

-- Members are read one after the other, and the tag as soon as it is met.
theorem reads_members {fuel d : Nat} {first : Bool} (hd : membersDepth ms ≤ d)
    (hf : 2 * (membersTokens first ms).length < fuel)
    (h : Spaced (membersTokens first ms ++ ts) cs) :
    Reads (t.membersWithin d fuel first found cs) (t.members? found ms) ts := by
  obtain ⟨fuel, rfl⟩ := Nat.exists_eq_succ_of_ne_zero (Nat.ne_zero_of_lt hf)
  induction ms generalizing fuel first found cs with
  | nil =>
    obtain ⟨rest, hn, hr⟩ := h.nextMember_done first
    rw [membersWithin]
    dsimp only
    rw [hn]
    exact .ok hr
  | cons m ms hi =>
    obtain ⟨q, w⟩ := m
    simp only [membersTokens, membersDepth, List.length_append, List.length_cons,
      List.append_assoc, List.cons_append] at h hd hf
    have hm : 0 < (membersTokens false ms).length := by cases ms <;> exact Nat.succ_pos _
    obtain ⟨fuel, rfl⟩ := Nat.exists_eq_succ_of_ne_zero (n := fuel) (by omega)
    obtain ⟨rest, hn, hr⟩ := h.nextMember_entry
    rw [membersWithin]
    dsimp only
    rw [hn, members?, Quoted.string?, Option.bind_map]
    apply ((Quoted.reads_unquote hr).mapError _).bind
    intro s rest hr
    obtain ⟨rest, hc, hr⟩ := hr.colon
    simp only [hc, Function.comp]
    split
    case isFalse =>
      have hv := hr.reads_value (d := d) (by omega) (parted_membersTokens ms)
      apply (hv.mapError _).bind
      intro v rest hr
      exact (hi (by omega) hr fuel (by omega)).map fun r => (r.1, (String.ofList s, v) :: r.2)
    case isTrue =>
      cases hs : found.isSome
      case true => exact .error
      case false =>
        apply (reads_readTag hr).bind
        intro a rest hr
        exact hi (by omega) hr fuel (by omega)

theorem reads_read {d : Nat} (hd : (Written.object ms).depth ≤ d)
    (h : Spaced ((Written.object ms).tokens ++ ts) cs) :
    Reads (t.read d cs)
      ((t.members? none ms).bind fun r => r.1.map fun a => (a, .named r.2)) ts := by
  simp only [depth] at hd
  obtain ⟨d, rfl⟩ : ∃ d', d = d' + 1 := ⟨d - 1, by omega⟩
  simp only [tokens, List.cons_append] at h
  obtain ⟨rest, hc, hr⟩ := h.skip
  simp only [Token.chars, List.cons_append, List.nil_append] at hc
  unfold read
  rw [hc]
  apply (reads_members (by omega) hr.two_mul_length_lt hr).bind
  rintro ⟨found, js⟩ rest hr
  cases found
  case none   => exact .error
  case some a => exact .ok hr

-- There is one tag in all, and every other member means something.
theorem members?_eq_some_iff {found' : Option α} {js : List (String × Json)} :
    t.members? found ms = some (found', js) ↔
      Without t.tag ms js ∧
        found.toList.map some ++ (named t.tag ms).map t.variant? = found'.toList.map some := by
  induction ms generalizing found js with
  | nil =>
    have hn : Without t.tag [] js ↔ js = [] := ⟨fun h => by cases h; rfl, fun h => h ▸ .nil⟩
    rw [hn]
    cases found <;> cases found' <;> simp [members?, named, and_comm, eq_comm]
  | cons m ms hi =>
    obtain ⟨q, w⟩ := m
    cases hq : q.string?
    case none =>
      have hn : ¬ Without t.tag ((q, w) :: ms) js := fun h => by cases h <;> simp_all
      simp [members?, hq, hn]
    case some s =>
      by_cases hs : s = t.tag
      case neg =>
        simp only [members?, hq, hs, Option.bind_some, if_false, without_cons_iff_of_ne hq hs,
          named_cons, Option.some.injEq, List.nil_append]
        constructor
        case mp =>
          intro h
          obtain ⟨v, hv, h⟩ := Option.bind_eq_some_iff.mp h
          obtain ⟨⟨f, js'⟩, hm, he⟩ := Option.map_eq_some_iff.mp h
          cases he
          obtain ⟨hw, hf⟩ := hi.mp hm
          exact ⟨⟨v, js', hv, hw, rfl⟩, hf⟩
        case mpr =>
          rintro ⟨⟨v, js', hv, hw, rfl⟩, hf⟩
          simp [hv, hi.mpr ⟨hw, hf⟩]
      case pos =>
        subst hs
        simp only [members?, hq, Option.bind_some, if_true, without_cons_iff hq, named_cons,
          List.singleton_append, List.map_cons]
        cases found
        case some b => cases found' <;> simp
        case none =>
          cases hv : t.variant? w
          case none   => cases found' <;> simp
          case some a => simpa using @hi (some a) js

end Tagging

end RemoteTerm.Json
