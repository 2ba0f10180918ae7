import Mathlib.Logic.Relation
import RemoteTerm.Config.Decode
/-!
What a configuration knows of a document: ten fields, each by its name in its section, with the
default that it takes where it is missing. Nothing else in a document counts.
-/

namespace RemoteTerm

namespace Config

open Toml (Entries)

-- What a field may be.
inductive Kind where
  | text
  -- A whole number that is not negative and below a bound.
  | whole (bound : Nat)

def Kind.fits : Kind → Toml → Bool
  | text, .string _         => true
  | whole bound, .integer n => 0 ≤ n && n < bound
  | _, _                    => false

-- A field of a configuration as documents have it.
structure Known where
  group   : String
  name    : String
  kind    : Kind
  default : Toml
  value   : Config → Toml

def known : List Known :=
  [⟨"server", "url", .text, .string "ws://127.0.0.1:8080/ws/terminal", (.string ·.server.url)⟩,
   ⟨"server", "session", .text, .string "main", (.string ·.server.session)⟩,
   ⟨"reconnect", "base_delay_ms", .whole UInt64.size, .integer 1000,
     (.integer ·.reconnect.baseDelay.toNat)⟩,
   ⟨"reconnect", "max_delay_ms", .whole UInt64.size, .integer 30000,
     (.integer ·.reconnect.maxDelay.toNat)⟩,
   ⟨"reconnect", "max_attempts", .whole UInt32.size, .integer 10,
     (.integer ·.reconnect.maxAttempts.toNat)⟩,
   ⟨"terminal", "redraw_delay_ms", .whole UInt64.size, .integer 75,
     (.integer ·.terminal.redrawDelay.toNat)⟩,
   ⟨"terminal", "resize_debounce_ms", .whole UInt64.size, .integer 100,
     (.integer ·.terminal.resizeDebounce.toNat)⟩,
   ⟨"terminal", "default_cols", .whole UInt16.size, .integer 80, (.integer ·.terminal.cols.toNat)⟩,
   ⟨"terminal", "default_rows", .whole UInt16.size, .integer 24, (.integer ·.terminal.rows.toNat)⟩,
   ⟨"log", "level", .text, .string "info", (.string ·.log.level)⟩]

theorem Kind.exists_string {v : Toml} (h : text.fits v = true) : ∃ s, .string s = v := by
  cases v <;> simp only [fits, Bool.false_eq_true] at h
  exact ⟨_, rfl⟩

-- A whole number in the range of a type is one of that type.
theorem Kind.exists_whole {α : Type} {bound : Nat} {ofNat : Nat → α} {toNat : α → Nat} {v : Toml}
    (ht : ∀ n, n < bound → toNat (ofNat n) = n) (h : (whole bound).fits v = true) :
    ∃ a, .integer (toNat a) = v := by
  cases v <;> simp only [fits, Bool.false_eq_true] at h
  case integer n =>
    simp only [Bool.and_eq_true, decide_eq_true_eq] at h
    exact ⟨ofNat n.toNat, by rw [ht n.toNat (by omega), Int.toNat_of_nonneg h.1]⟩

theorem fits_default : ∀ k ∈ known, k.kind.fits k.default = true := by
  decide

end Config

namespace Toml

def isTable : Toml → Bool
  | table .. => true
  | _        => false

namespace Entries

-- The entries of a section. There are none if it is missing or something else than a table.
def group (es : Entries) (name : String) : Entries :=
  match es.lookup name with
  | some (.table _ fields) => fields
  | _                      => []

def field? (es : Entries) (k : Config.Known) : Option Toml :=
  (es.group k.group).lookup k.name

-- A document in which each known section is a table, and each known field in it is of its kind.
def Typed (es : Entries) : Prop :=
  ∀ k ∈ Config.known,
    (∀ v ∈ es.lookup k.group, v.isTable = true) ∧ ∀ v ∈ es.field? k, k.kind.fits v = true

instance (es : Entries) : Decidable es.Typed :=
  inferInstanceAs (Decidable (∀ k ∈ Config.known, _ ∧ _))

-- Each field of a configuration is what a document says, or its default where it says nothing.
def Describes (es : Entries) (c : Config) : Prop :=
  ∀ k ∈ Config.known, k.value c = (es.field? k).getD k.default

-- The changes to a document that do not count.
inductive Change : Entries → Entries → Prop
  -- Neighbouring sections change places, and neighbouring fields of a section.
  | sections {pre a b post} : a.1 ≠ b.1 → Change (pre ++ a :: b :: post) (pre ++ b :: a :: post)
  | fields {pre name o before a b after post} :
    a.1 ≠ b.1 →
    Change (pre ++ (name, .table o (before ++ a :: b :: after)) :: post)
      (pre ++ (name, .table o (before ++ b :: a :: after)) :: post)
  -- A section that is not known is added, and a field that its section does not know.
  | unknownSection {pre name v post} :
    (∀ k ∈ Config.known, k.group ≠ name) → Change (pre ++ post) (pre ++ (name, v) :: post)
  | unknownField {pre name o before key v after post} :
    (∀ k ∈ Config.known, k.group = name → k.name ≠ key) →
    Change (pre ++ (name, .table o (before ++ after)) :: post)
      (pre ++ (name, .table o (before ++ (key, v) :: after)) :: post)
  -- A section is added that has nothing in it.
  | emptySection {pre name o post} :
    List.lookup name (pre ++ post) = none →
    Change (pre ++ post) (pre ++ (name, .table o []) :: post)

-- Whether two documents say the same of a field.
structure Alike (k : Config.Known) (es es' : Entries) : Prop where
  table : (∀ v ∈ es.lookup k.group, v.isTable = true) ↔ ∀ v ∈ es'.lookup k.group, v.isTable = true
  field : es.field? k = es'.field? k

variable {es es' es'' pre post fs fs' : Entries} {a b : String × Toml} {key name : String}
  {v : Toml} {o : Origin} {k : Config.Known} {c : Config}

theorem lookup_swap (h : a.1 ≠ b.1) :
    List.lookup key (pre ++ a :: b :: post) = List.lookup key (pre ++ b :: a :: post) := by
  obtain ⟨x, v⟩ := a
  obtain ⟨y, w⟩ := b
  simp only [List.lookup_append, List.lookup_cons]
  congr 1
  cases hx : key == x <;> cases hy : key == y <;> try rfl
  exact absurd ((beq_iff_eq.mp hx).symm.trans (beq_iff_eq.mp hy)) h

theorem lookup_added (h : key ≠ name) :
    List.lookup key (pre ++ (name, v) :: post) = List.lookup key (pre ++ post) := by
  simp only [List.lookup_append, List.lookup_cons, beq_eq_false_iff_ne.mpr h]

namespace Alike

theorem symm (h : Alike k es es') : Alike k es' es :=
  ⟨h.table.symm, h.field.symm⟩

theorem trans (h : Alike k es es') (h' : Alike k es' es'') : Alike k es es'' :=
  ⟨h.table.trans h'.table, h.field.trans h'.field⟩

theorem of_lookup (h : es.lookup k.group = es'.lookup k.group) : Alike k es es' := by
  constructor <;> simp only [field?, group, h]

-- Within a section, only what is said of the field counts.
theorem of_table (h : k.group = name → fs.lookup k.name = fs'.lookup k.name) :
    Alike k (pre ++ (name, .table o fs) :: post) (pre ++ (name, .table o fs') :: post) := by
  constructor <;> simp only [field?, group, List.lookup_append, List.lookup_cons] <;>
    cases pre.lookup k.group <;> cases hg : k.group == name <;> try rfl
  case table.none.true => simp [isTable]
  case field.none.true => exact h (beq_iff_eq.mp hg)

theorem of_empty (h : List.lookup name (pre ++ post) = none) :
    Alike k (pre ++ post) (pre ++ (name, .table o []) :: post) := by
  by_cases hg : k.group = name
  case neg => exact of_lookup (lookup_added hg).symm
  case pos =>
    subst hg
    rw [List.lookup_append, Option.or_eq_none_iff] at h
    constructor <;> simp [field?, group, h, List.lookup_append, isTable]

end Alike

theorem Change.alike (h : Change es es') (hk : k ∈ Config.known) : Alike k es es' := by
  cases h
  case sections hn       => exact .of_lookup (lookup_swap hn)
  case fields hn         => exact .of_table fun _ => lookup_swap hn
  case unknownSection hn => exact .of_lookup (lookup_added (hn k hk)).symm
  case unknownField hn   => exact .of_table fun hg => (lookup_added (hn k hk hg)).symm
  case emptySection hn   => exact .of_empty hn

theorem alike_of_changes (h : Relation.EqvGen Change es es') (hk : k ∈ Config.known) :
    Alike k es es' := by
  induction h with
  | rel _ _ h               => exact h.alike hk
  | refl                    => exact ⟨.rfl, rfl⟩
  | symm _ _ _ hi           => exact hi.symm
  | trans _ _ _ _ _ hi hi' => exact hi.trans hi'

theorem describes_iff_of_changes (h : Relation.EqvGen Change es es') :
    es.Describes c ↔ es'.Describes c :=
  forall₂_congr fun k hk => by rw [(alike_of_changes h hk).field]

namespace Typed

theorem tables (h : es.Typed) : ∀ k ∈ Config.known, ∀ v ∈ es.lookup k.group, v.isTable = true :=
  fun k hk => (h k hk).1

theorem fits (h : es.Typed) :
    ∀ k ∈ Config.known, k.kind.fits ((es.field? k).getD k.default) = true := by
  intro k hk
  cases hf : es.field? k
  case none   => exact Config.fits_default k hk
  case some v => exact (h k hk).2 v hf

open Config.Kind in
theorem exists_described (h : es.Typed) : ∃ c, es.Describes c := by
  have hf := h.fits
  simp only [Config.known, List.forall_mem_cons] at hf
  obtain ⟨hu, hs, hb, hm, ha, hd, hz, hc, hr, hl, -⟩ := hf
  obtain ⟨url, hu⟩ := exists_string hu
  obtain ⟨session, hs⟩ := exists_string hs
  obtain ⟨base, hb⟩ := exists_whole (fun _ => UInt64.toNat_ofNat_of_lt) hb
  obtain ⟨max, hm⟩ := exists_whole (fun _ => UInt64.toNat_ofNat_of_lt) hm
  obtain ⟨attempts, ha⟩ := exists_whole (fun _ => UInt32.toNat_ofNat_of_lt) ha
  obtain ⟨redraw, hd⟩ := exists_whole (fun _ => UInt64.toNat_ofNat_of_lt) hd
  obtain ⟨debounce, hz⟩ := exists_whole (fun _ => UInt64.toNat_ofNat_of_lt) hz
  obtain ⟨cols, hc⟩ := exists_whole (fun _ => UInt16.toNat_ofNat_of_lt) hc
  obtain ⟨rows, hr⟩ := exists_whole (fun _ => UInt16.toNat_ofNat_of_lt) hr
  obtain ⟨level, hl⟩ := exists_string hl
  refine ⟨⟨⟨url, session⟩, ⟨base, max, attempts⟩, ⟨redraw, debounce, cols, rows⟩, ⟨level⟩⟩, ?_⟩
  simp only [Describes, Config.known, List.forall_mem_cons]
  exact ⟨hu, hs, hb, hm, ha, hd, hz, hc, hr, hl, List.forall_mem_nil _⟩

-- What does not count, does not count for this either.
theorem tables_of_changes (h : es.Typed) (hc : Relation.EqvGen Change es es') :
    ∀ k ∈ Config.known, ∀ v ∈ es'.lookup k.group, v.isTable = true :=
  fun k hk => (alike_of_changes hc hk).table.mp (h.tables k hk)

end Typed

end Entries

end Toml

end RemoteTerm
