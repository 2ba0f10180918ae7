import RemoteTerm.Proofs.Json.Tagged
/-!
The fields of a variant, when it is known which one it is: what the checks ask of the members, and
how these have been written.
-/

namespace RemoteTerm.Json

open Written

variable {name s : String} {v : Json} {js : List (String × Json)}

theorem bind_eq_ok_iff {ε α β : Type} {x : Except ε α} {f : α → Except ε β} {b : β} :
    x >>= f = .ok b ↔ ∃ a, x = .ok a ∧ f a = .ok b := by
  cases x <;> simp [bind, Except.bind]

theorem map_eq_ok_iff {ε α β : Type} {x : Except ε α} {f : α → β} {b : β} :
    x.map f = .ok b ↔ ∃ a, x = .ok a ∧ f a = b := by
  cases x <;> simp [Except.map]

theorem toOption_eq_some_iff {ε α : Type} {x : Except ε α} {a : α} :
    x.toOption = some a ↔ x = .ok a := by
  cases x <;> simp [Except.toOption]

theorem asText_eq_ok_iff {expected : String} : asText expected v = .ok s ↔ v = .string s := by
  cases v <;> simp [asText]

theorem asUnsigned_eq_ok_iff {largest n : Nat} {expected : String} :
    asUnsigned largest expected v = .ok n ↔ v = .integer n ∧ n ≤ largest := by
  cases v
  case integer i =>
    simp only [asUnsigned]
    split
    case isTrue h  => simp; omega
    case isFalse h => simp; omega
  all_goals simp [asUnsigned]

namespace Fields

-- The values with a name, in their order.
def values (name : String) (js : List (String × Json)) : List Json :=
  (js.filter (·.1 = name)).map Prod.snd

theorem values_cons :
    values name ((s, v) :: js) = (if s = name then [v] else []) ++ values name js := by
  by_cases h : s = name <;> simp [values, h]

theorem field?_eq_head? : field? name js = (values name js).head? := by
  simp [field?, values, List.head?_map, List.head?_filter]

theorem require_eq_ok_iff : require name js = .ok v ↔ (values name js).head? = some v := by
  rw [require, field?_eq_head?]
  cases (values name js).head? <;> simp

variable {fields : List (String × (Json → Except DataError Unit))} {seen : List String}
  {f : Json → Except DataError Unit}

theorem check_cons_of_none (h : fields.lookup s = none) :
    check fields seen ((s, v) :: js) = check fields seen js := by
  rw [check, h]

theorem check_cons_of_some (h : fields.lookup s = some f) :
    check fields seen ((s, v) :: js) = .ok () ↔
      s ∉ seen ∧ f v = .ok () ∧ check fields (s :: seen) js = .ok () := by
  simp only [check, h]
  by_cases hs : s ∈ seen <;> cases f v <;> simp [hs, bind, Except.bind]

-- A field is there once at most, or not at all if it has been seen before, and its value passes.
def Passes (seen : List String) (js : List (String × Json)) (name : String)
    (f : Json → Except DataError Unit) : Prop :=
  (∀ v ∈ values name js, f v = .ok ()) ∧ (values name js).length ≤ if name ∈ seen then 0 else 1

theorem passes_cons_of_ne (h : s ≠ name) :
    Passes seen ((s, v) :: js) name f ↔ Passes (s :: seen) js name f := by
  simp [Passes, values_cons, h, Ne.symm h]

theorem passes_cons_self :
    Passes seen ((s, v) :: js) s f ↔ s ∉ seen ∧ f v = .ok () ∧ Passes (s :: seen) js s f := by
  by_cases h : s ∈ seen <;> simp [Passes, values_cons, h, and_assoc]

theorem check_eq_ok_iff :
    check fields seen js = .ok () ↔
      ∀ name f, fields.lookup name = some f → Passes seen js name f := by
  induction js generalizing seen with
  | nil => simp [check, Passes, values]
  | cons m js hi =>
    obtain ⟨s, v⟩ := m
    cases hs : fields.lookup s
    case none =>
      rw [check_cons_of_none hs, hi]
      refine forall_congr' fun name => forall_congr' fun f => imp_congr_right fun hf => ?_
      have hn : s ≠ name := by
        rintro rfl
        cases hs.symm.trans hf
      simp [Passes, values_cons, hn]
    case some g =>
      rw [check_cons_of_some hs, hi]
      constructor
      case mp =>
        rintro ⟨hn, hv, h⟩ name f hf
        by_cases he : s = name
        case pos =>
          subst he
          obtain rfl := Option.some.inj (hs.symm.trans hf)
          exact passes_cons_self.mpr ⟨hn, hv, h s g hs⟩
        case neg => exact (passes_cons_of_ne he).mpr (h name f hf)
      case mpr =>
        intro h
        obtain ⟨hn, hv, -⟩ := passes_cons_self.mp (h s g hs)
        refine ⟨hn, hv, fun name f hf => ?_⟩
        by_cases he : s = name
        case pos =>
          subst he
          exact (passes_cons_self.mp (h s f hf)).2.2
        case neg => exact (passes_cons_of_ne he).mp (h name f hf)

theorem values_of_check (hc : check fields [] js = .ok ()) (hf : fields.lookup name = some f)
    (hr : require name js = .ok v) : values name js = [v] := by
  obtain ⟨-, hl⟩ := check_eq_ok_iff.mp hc name f hf
  obtain ⟨vs, hv⟩ := List.head?_eq_some_iff.mp (require_eq_ok_iff.mp hr)
  simp_all

theorem check_of_values (h : ∀ e ∈ fields, ∃ v, values e.1 js = [v] ∧ e.2 v = .ok ()) :
    check fields [] js = .ok () := by
  refine check_eq_ok_iff.mpr fun name f hf => ?_
  obtain ⟨l₁, l₂, rfl, -⟩ := List.lookup_eq_some_iff.mp hf
  obtain ⟨v, hv, hp⟩ := h (name, f) (by simp)
  simp only at hv hp
  simp [Passes, hv, hp]

end Fields

namespace Written

open Fields (values)

variable {tag : String} {w : Written} {ms : List (Quoted × Written)}

theorem value?_eq_string_iff {s : String} :
    w.value? = some (.string s) ↔ ∃ q, w = .string q ∧ q.string? = some s := by
  cases w
  case number l =>
    exact iff_of_false Numeral.value?_ne_string nofun
  all_goals simp [value?]

theorem value?_eq_integer_iff {n : Nat} (hn : n < Nat.pow 2 64) :
    w.value? = some (.integer n) ↔ ∃ l, w = .number l ∧ l.count? = some n := by
  cases w
  case number l =>
    simp only [value?, number.injEq, exists_eq_left']
    refine ⟨fun h => ?_, fun h => Literal.value?_of_count h hn⟩
    exact Literal.count?_of_value h (Int.natCast_nonneg n)
  all_goals simp [value?]

-- Every name means something, and so does every value but those with the name of the tag.
def Legible (tag : String) (ms : List (Quoted × Written)) : Prop :=
  ∀ m ∈ ms, ∃ s, m.1.string? = some s ∧ (s ≠ tag → m.2.value?.isSome = true)

theorem exists_without_iff : (∃ js, Without tag ms js) ↔ Legible tag ms := by
  induction ms with
  | nil => exact ⟨fun _ => nofun, fun _ => ⟨[], .nil⟩⟩
  | cons m ms hi =>
    obtain ⟨q, w⟩ := m
    rw [Legible, List.forall_mem_cons, ← Legible, ← hi]
    constructor
    case mp =>
      rintro ⟨js, h⟩
      cases h with
      | skip hq h       => exact ⟨⟨tag, hq, absurd rfl⟩, _, h⟩
      | keep hq _ hv h  => exact ⟨⟨_, hq, fun _ => by simp [hv]⟩, _, h⟩
    case mpr =>
      rintro ⟨⟨s, hq, hv⟩, js, h⟩
      by_cases hs : s = tag
      case pos => exact ⟨js, .skip (hs ▸ hq) h⟩
      case neg =>
        obtain ⟨v, hv⟩ := Option.isSome_iff_exists.mp (hv hs)
        exact ⟨_, .keep hq hs hv h⟩

-- The members apart from the tag are those that have been written, in their order.
theorem Without.map_named (h : Without tag ms js) (hn : name ≠ tag) :
    (named name ms).map value? = (values name js).map some := by
  induction h with
  | nil => rfl
  | @skip q w ms js hq h hi =>
    have hq : q.string? ≠ some name := fun he => hn (Option.some.inj (he.symm.trans hq))
    simpa [named_cons, hq] using hi
  | @keep q w ms js s v hq hs hv h hi =>
    by_cases he : s = name <;> simp [named_cons, Fields.values_cons, hq, he, hv, hi]

theorem Without.values_eq_iff (h : Without tag ms js) (hn : name ≠ tag) :
    values name js = [v] ↔ ∃ w, named name ms = [w] ∧ w.value? = some v := by
  have hm := h.map_named hn
  constructor
  case mp =>
    intro hv
    rw [hv, List.map_singleton, List.map_eq_singleton_iff] at hm
    exact hm
  case mpr =>
    rintro ⟨w, hw, hv⟩
    rw [hw, List.map_singleton, hv, eq_comm, List.map_eq_singleton_iff] at hm
    obtain ⟨v', hv', he⟩ := hm
    rw [hv', Option.some.inj he]

theorem Without.values_eq_string_iff (h : Without tag ms js) (hn : name ≠ tag) :
    values name js = [.string s] ↔ ∃ q, named name ms = [.string q] ∧ q.string? = some s := by
  simp only [h.values_eq_iff hn, value?_eq_string_iff]
  constructor
  case mp =>
    rintro ⟨_, hw, q, rfl, hq⟩
    exact ⟨q, hw, hq⟩
  case mpr =>
    rintro ⟨q, hw, hq⟩
    exact ⟨_, hw, q, rfl, hq⟩

theorem Without.values_eq_integer_iff {n : Nat} (h : Without tag ms js) (hn : name ≠ tag)
    (hl : n < Nat.pow 2 64) :
    values name js = [.integer n] ↔ ∃ l, named name ms = [.number l] ∧ l.count? = some n := by
  simp only [h.values_eq_iff hn, value?_eq_integer_iff hl]
  constructor
  case mp =>
    rintro ⟨_, hw, l, rfl, hl⟩
    exact ⟨l, hw, hl⟩
  case mpr =>
    rintro ⟨l, hw, hl⟩
    exact ⟨_, hw, l, rfl, hl⟩

end Written

end RemoteTerm.Json
