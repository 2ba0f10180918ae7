import Mathlib.Data.List.Nodup
import RemoteTerm.Key.Encoding
/-!
The names of keys. A name is one character, or it is listed for a named key or for a modifier key,
or it is strange, and it is never two of these. So the sequence that goes with a name by itself is
what the key of that name sends.
-/

namespace RemoteTerm

section
variable {α : Type} {table : List (String × α)} {name : String} {a : α}

theorem lookup_iff_mem (h : (table.map Prod.fst).Nodup) :
    table.lookup name = some a ↔ (name, a) ∈ table := by
  have hmem {b : α} (hl : table.lookup name = some b) : (name, b) ∈ table := by
    obtain ⟨pre, post, rfl, -⟩ := List.lookup_eq_some_iff.mp hl
    exact List.mem_append_right pre List.mem_cons_self
  refine ⟨hmem, fun hm => ?_⟩
  cases hl : table.lookup name
  case none   => simpa using List.lookup_eq_none_iff.mp hl _ hm
  case some b => cases List.inj_on_of_nodup_map h hm (hmem hl) rfl; rfl

theorem lookup_of_unlisted (h : name ∉ table.map Prod.fst) : table.lookup name = none :=
  List.lookup_eq_none_iff.mpr fun _ hp => bne_iff_ne.mpr fun he => h (he ▸ List.mem_map_of_mem hp)

end

namespace Key

-- The names that are listed for a key.
def names : List String :=
  NamedKey.reported.map Prod.fst ++ ModifierKey.reported.map Prod.fst

-- Names that are the same but for the case of letters are folded to the same list.
def folded (name : String) : List Char :=
  name.toList.map Char.toLower

-- A name that says nothing about a key.
structure Strange (name : String) : Prop where
  ne_singleton (c : Char) : name ≠ String.singleton c
  unlisted : name ∉ names

-- What key a name stands for.
inductive Reads : String → Key → Prop
  | char (c : Char) : Reads (String.singleton c) (char c)
  | named {name : String} {k : NamedKey} : (name, k) ∈ NamedKey.reported → Reads name (named k)
  | modifier {name : String} {m : ModifierKey} : (name, m) ∈ ModifierKey.reported →
    Reads name (modifier m)
  | unidentified {name : String} : Strange name → Reads name (unidentified name)

-- A key that sends nothing, whatever modifiers are held with it or armed for it.
def Silent (k : Key) : Prop :=
  ∀ m, k.encodeHeld m = none ∧ k.encodeLatched m = none

variable {k : NamedKey} {m : ModifierKey} {name listed text : String} {c : Char}

theorem folded_nodup : (names.map folded).Nodup := by
  decide

theorem one_lt_length : ∀ name ∈ names, 1 < name.length := by
  decide

theorem reported_ne_backTab : ∀ p ∈ NamedKey.reported, p.2 ≠ .backTab := by
  decide

theorem names_nodup : names.Nodup :=
  .of_map folded folded_nodup

theorem mem_names_of_named (h : (name, k) ∈ NamedKey.reported) : name ∈ names :=
  List.mem_append_left _ (List.mem_map_of_mem h)

theorem mem_names_of_modifier (h : (name, m) ∈ ModifierKey.reported) : name ∈ names :=
  List.mem_append_right _ (List.mem_map_of_mem h)

theorem ne_singleton_of_listed (h : name ∈ names) (c : Char) : name ≠ String.singleton c := by
  rintro rfl
  exact absurd (one_lt_length _ h) (by simp)

-- A name is of one of these kinds.
@[elab_as_elim]
theorem name_cases {P : String → Prop} (char : ∀ c, P (String.singleton c))
    (named : ∀ name k, (name, k) ∈ NamedKey.reported → P name)
    (modifier : ∀ name m, (name, m) ∈ ModifierKey.reported → P name)
    (strange : ∀ name, Strange name → P name) (name : String) : P name := by
  by_cases hc : ∃ c, name = String.singleton c
  case pos =>
    obtain ⟨c, rfl⟩ := hc
    exact char c
  case neg =>
    by_cases hn : name ∈ names
    case neg => exact strange name ⟨fun c h => hc ⟨c, h⟩, hn⟩
    case pos =>
      obtain hn | hm := List.mem_append.mp hn
      case inl =>
        obtain ⟨⟨_, k⟩, hk, rfl⟩ := List.mem_map.mp hn
        exact named _ k hk
      case inr =>
        obtain ⟨⟨_, m⟩, hk, rfl⟩ := List.mem_map.mp hm
        exact modifier _ m hk

theorem named_ofName?_iff : NamedKey.ofName? name = some k ↔ (name, k) ∈ NamedKey.reported :=
  lookup_iff_mem names_nodup.of_append_left

theorem modifier_ofName?_iff :
    ModifierKey.ofName? name = some m ↔ (name, m) ∈ ModifierKey.reported :=
  lookup_iff_mem names_nodup.of_append_right

theorem ofName_singleton (c : Char) : ofName (String.singleton c) = char c := by
  simp [ofName]

-- The tables are looked up in turn for a name of none or several characters.
theorem ofName_of_ne_singleton (h : ∀ c, name ≠ String.singleton c) :
    ofName name =
      (NamedKey.ofName? name).elim
        ((ModifierKey.ofName? name).elim (unidentified name) modifier) named := by
  unfold ofName
  split
  case h_1 c hc =>
    exact absurd (String.toList_inj.mp (hc.trans (String.toList_singleton c).symm)) (h c)
  case h_2 =>
    cases NamedKey.ofName? name <;> cases ModifierKey.ofName? name <;> rfl

theorem ofName_of_named (h : (name, k) ∈ NamedKey.reported) : ofName name = named k := by
  rw [ofName_of_ne_singleton (ne_singleton_of_listed (mem_names_of_named h)),
    named_ofName?_iff.mpr h]
  rfl

theorem ofName_of_modifier (h : (name, m) ∈ ModifierKey.reported) : ofName name = modifier m := by
  -- The table of named keys comes first, and it has no name of a modifier key.
  have hn : NamedKey.ofName? name = none := lookup_of_unlisted fun hn =>
    List.disjoint_of_nodup_append names_nodup hn (List.mem_map_of_mem h)
  rw [ofName_of_ne_singleton (ne_singleton_of_listed (mem_names_of_modifier h)), hn,
    modifier_ofName?_iff.mpr h]
  rfl

theorem ofName_of_strange (h : Strange name) : ofName name = unidentified name := by
  have hn : NamedKey.ofName? name = none :=
    lookup_of_unlisted (mt (List.mem_append_left _) h.unlisted)
  have hm : ModifierKey.ofName? name = none :=
    lookup_of_unlisted (mt (List.mem_append_right _) h.unlisted)
  rw [ofName_of_ne_singleton h.ne_singleton, hn, hm]
  rfl

theorem ofName_eq_iff {key : Key} : ofName name = key ↔ Reads name key := by
  constructor
  case mp =>
    rintro rfl
    cases name using name_cases
    case char c     => rw [ofName_singleton]; exact .char c
    case named h    => rw [ofName_of_named h]; exact .named h
    case modifier h => rw [ofName_of_modifier h]; exact .modifier h
    case strange h  => rw [ofName_of_strange h]; exact .unidentified h
  case mpr =>
    intro h
    cases h
    case char c         => exact ofName_singleton c
    case named h        => exact ofName_of_named h
    case modifier h     => exact ofName_of_modifier h
    case unidentified h => exact ofName_of_strange h

theorem ofName_eq_named_iff : ofName name = named k ↔ (name, k) ∈ NamedKey.reported :=
  ofName_eq_iff.trans ⟨fun | .named h => h, .named⟩

theorem sequenceFor?_eq_some_iff :
    sequenceFor? name = some text ↔ ∃ k, ofName name = named k ∧ k.sequence = text := by
  simp only [sequenceFor?, Option.map_eq_some_iff, named_ofName?_iff, ofName_eq_named_iff]

theorem ofName_ne_backTab : ofName name ≠ named .backTab := fun h =>
  reported_ne_backTab _ (ofName_eq_named_iff.mp h) rfl

theorem encodeHeld_named (k : NamedKey) : (named k).encodeHeld ∅ = some k.sequence := by
  cases k <;> rfl

theorem encodeHeld_char (c : Char) : (char c).encodeHeld ∅ = some (String.singleton c) :=
  rfl

theorem silent_modifier (m : ModifierKey) : (modifier m).Silent := fun _ =>
  ⟨rfl, ite_self none⟩

theorem silent_unidentified (name : String) : (unidentified name).Silent := fun _ =>
  ⟨rfl, ite_self none⟩

theorem length_folded (name : String) : (folded name).length = name.length := by
  rw [folded, List.length_map, String.length_toList]

namespace Strange

theorem empty : Strange "" where
  ne_singleton _ h := String.singleton_ne_empty h.symm
  unlisted h       := absurd (one_lt_length _ h) (by decide)

-- No two listed names are the same but for the case of letters.
theorem of_folded (hl : listed ∈ names) (hn : name ≠ listed) (hf : folded name = folded listed) :
    Strange name where
  ne_singleton c h := by
    have hs := one_lt_length listed hl
    have : listed.length = 1 := by
      rw [← length_folded, ← hf, h, length_folded, String.length_singleton]
    omega
  unlisted h := hn (List.inj_on_of_nodup_map folded_nodup h hl hf)

theorem of_append {rest : String} (hl : listed ∈ names) (hn : listed ++ rest ∉ names) :
    Strange (listed ++ rest) where
  ne_singleton c h := by
    have hs := one_lt_length listed hl
    have : listed.length + rest.length = 1 := by
      rw [← String.length_append, h, String.length_singleton]
    omega
  unlisted := hn

end Strange

-- How a name is read, and what comes of it.
structure Recognized (name : String) : Prop where
  reads_iff {key : Key} : ofName name = key ↔ Reads name key
  -- The sequence that goes with the name is the one of the named key that it is read as, and that
  -- key sends it.
  sequence_iff {text : String} : sequenceFor? name = some text ↔
    ∃ k, ofName name = named k ∧ k.sequence = text
  sequence_sent {text : String} : sequenceFor? name = some text →
    (ofName name).encodeHeld ∅ = some text
  character {c : Char} : name = String.singleton c →
    ofName name = char c ∧ (ofName name).encodeHeld ∅ = some name
  modifier {m : ModifierKey} : (name, m) ∈ ModifierKey.reported →
    ofName name = modifier m ∧ (ofName name).Silent
  strange : Strange name → ofName name = unidentified name ∧ (ofName name).Silent
  -- The empty name is strange. So is one that differs from a listed name in the case of its
  -- letters alone, and one that goes on after a listed name, if it is not listed itself.
  empty : name = "" → Strange name
  cased {listed : String} : listed ∈ names → name ≠ listed → folded name = folded listed →
    Strange name
  longer {listed rest : String} : listed ∈ names → name = listed ++ rest → name ∉ names →
    Strange name
  ne_backTab : ofName name ≠ named .backTab

theorem recognized (name : String) : Recognized name where
  reads_iff    := ofName_eq_iff
  sequence_iff := sequenceFor?_eq_some_iff
  sequence_sent h := by
    obtain ⟨k, hk, rfl⟩ := sequenceFor?_eq_some_iff.mp h
    rw [hk, encodeHeld_named]
  character h := by
    rw [h, ofName_singleton]
    exact ⟨rfl, encodeHeld_char _⟩
  modifier h := by
    rw [ofName_of_modifier h]
    exact ⟨rfl, silent_modifier _⟩
  strange h := by
    rw [ofName_of_strange h]
    exact ⟨rfl, silent_unidentified name⟩
  empty h         := h ▸ .empty
  cased           := .of_folded
  longer hl hr hn := hr ▸ .of_append hl (hr ▸ hn)
  ne_backTab      := ofName_ne_backTab

end Key

end RemoteTerm
