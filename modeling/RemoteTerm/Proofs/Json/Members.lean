import RemoteTerm.Proofs.Json.Records
/-!
The members that are asked for. What is found there depends neither on their order nor on members
that nobody asks for.
-/

namespace RemoteTerm.Json

open Written

variable {α β σ : Type} {name s : String} {q : Quoted} {w : Written}
  {ms ms' : List (Quoted × Written)}

namespace Written

-- Just one member has the name, and this is what its value means.
def Given (name : String) (m : Written → Option α) (ms : List (Quoted × Written)) (a : α) : Prop :=
  ∃ w, named name ms = [w] ∧ m w = some a

-- What is found of a field, be it there or not.
def Found (name : String) (m : Written → Option α) (ms : List (Quoted × Written))
    (a? : Option α) : Prop :=
  (named name ms = [] ∧ a? = none) ∨ ∃ a, Given name m ms a ∧ a? = some a

-- What may be left out may also be null.
def Optional (name : String) (m : Written → Option α) (ms : List (Quoted × Written))
    (a? : Option α) : Prop :=
  (named name ms = [] ∧ a? = none) ∨ Given name (nullable? m) ms a?

-- Members in another order, or with one more of a name that is not known.
inductive Rearranged (known : List String) (free : Written → Prop) :
    List (Quoted × Written) → List (Quoted × Written) → Prop
  | order {ms ms' : List (Quoted × Written)} : ms.Perm ms' → Rearranged known free ms ms'
  | unknown {ms : List (Quoted × Written)} {q : Quoted} {w : Written} {name : String} :
    q.string? = some name → name ∉ known → free w → Rearranged known free ms ((q, w) :: ms)

variable {m : Written → Option α} {a : α} {a? : Option α} {known : List String}
  {free : Written → Prop}

namespace Rearranged

variable (h : Rearranged known free ms ms')

include h

-- Only where there are several members of a name is there an order among them.
theorem named_perm (hk : name ∈ known) : (named name ms).Perm (named name ms') := by
  cases h
  case order h => exact (h.filter _).map _
  case unknown q w s hq hn _ =>
    have hs : s ≠ name := (ne_of_mem_of_not_mem hk hn).symm
    simp [named_cons, hq, hs]

theorem named_eq_nil_iff (hk : name ∈ known) : named name ms = [] ↔ named name ms' = [] := by
  rw [← List.perm_nil, ← List.perm_nil, (h.named_perm hk).congr_left]

theorem given_iff (hk : name ∈ known) : Given name m ms a ↔ Given name m ms' a := by
  refine exists_congr fun w => and_congr_left' ?_
  rw [← List.perm_singleton, ← List.perm_singleton, (h.named_perm hk).congr_left]

theorem optional_iff (hk : name ∈ known) : Optional name m ms a? ↔ Optional name m ms' a? :=
  or_congr (and_congr_left' (h.named_eq_nil_iff hk)) (h.given_iff hk)

theorem namesLegible_iff : NamesLegible ms ↔ NamesLegible ms' := by
  cases h
  case order h => exact forall_congr' fun m => by rw [h.mem_iff]
  case unknown q w s hq _ _ => simp [NamesLegible, hq]

end Rearranged

theorem found_some_iff : Found name m ms (some a) ↔ Given name m ms a := by
  simp [Found]

theorem found_join_iff {m : Written → Option α} :
    (∃ x, Found name (nullable? m) ms x ∧ x.join = a?) ↔ Optional name m ms a? := by
  constructor
  case mp =>
    rintro ⟨x, ⟨hn, rfl⟩ | ⟨b, hg, rfl⟩, rfl⟩
    · exact .inl ⟨hn, rfl⟩
    · exact .inr hg
  case mpr =>
    rintro (⟨hn, rfl⟩ | hg)
    · exact ⟨none, .inl ⟨hn, rfl⟩, rfl⟩
    · exact ⟨some a?, .inr ⟨a?, hg, rfl⟩, rfl⟩

end Written

theorem Column.holds_iff {c : Column σ} {s s' : σ} (hs : c.get s = none) :
    c.Holds ms s s' ↔ Found c.name c.means ms (c.get s') := by
  constructor
  case mp =>
    rintro (⟨hm, hg⟩ | ⟨-, hm, hv, hg⟩)
    · exact .inl ⟨hm, hg.trans hs⟩
    · exact .inr ⟨_, ⟨_, hm, hv⟩, hg⟩
  case mpr =>
    rintro (⟨hm, hg⟩ | ⟨a, ⟨w, hm, hv⟩, hg⟩)
    · exact .kept hm (hg.trans hs.symm)
    · exact .filled hs hm hv hg

-- From a draft that is empty, just what is found gets known.
theorem Record.members?_empty_iff {cols : List (Column σ)} {s s' : σ} (hl : Column.Lawful cols)
    (hs : ∀ c ∈ cols, c.get s = none) :
    members? cols s ms = some s' ↔
      NamesLegible ms ∧ ∀ c ∈ cols, Found c.name c.means ms (c.get s') := by
  rw [members?_eq_some_iff hl]
  exact and_congr_right' (forall₂_congr fun c hc => Column.holds_iff (hs c hc))

end RemoteTerm.Json
