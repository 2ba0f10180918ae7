import RemoteTerm.Proofs.Config.Accepted
import RemoteTerm.Proofs.Config.Known
/-!
What a document makes of a configuration. Sections and fields that are missing take their defaults,
also in a section that is there in part, and the whole is accepted or refused by its first flaw.
-/

namespace RemoteTerm

open Toml (Entries)

namespace Config

-- Why a configuration is not accepted, by what is wrong with it.
def Flaw.In (c : Config) : Flaw → Prop
  | zeroBaseDelay => c.reconnect.baseDelay = 0
  | maxBelowBase  => c.reconnect.maxDelay < c.reconnect.baseDelay
  | emptyGrid     => c.terminal.cols = 0 ∨ c.terminal.rows = 0
  | emptySession  => c.server.session = ""

-- The flaws in the order in which a configuration is looked through for them.
def flaws : List Flaw :=
  [.zeroBaseDelay, .maxBelowBase, .emptyGrid, .emptySession]

def Flaw.FirstIn (c : Config) (f : Flaw) : Prop :=
  ∃ before after, flaws = before ++ f :: after ∧ f.In c ∧ ∀ g ∈ before, ¬ g.In c

instance (c : Config) : DecidablePred (Flaw.In c)
  | .zeroBaseDelay => inferInstanceAs (Decidable (c.reconnect.baseDelay = 0))
  | .maxBelowBase  => inferInstanceAs (Decidable (c.reconnect.maxDelay < c.reconnect.baseDelay))
  | .emptyGrid     => inferInstanceAs (Decidable (c.terminal.cols = 0 ∨ c.terminal.rows = 0))
  | .emptySession  => inferInstanceAs (Decidable (c.server.session = ""))

variable {c : Config} {f : Flaw}

theorem flaw?_eq_find? : c.flaw? = flaws.find? (·.In c) := by
  simp only [flaw?, flaws, List.find?_cons, List.find?_nil, Flaw.In]
  grind

theorem flaw?_eq_some_iff : c.flaw? = some f ↔ f.FirstIn c := by
  rw [flaw?_eq_find?, List.find?_eq_some_iff_append]
  simp only [decide_eq_true_eq, Bool.not_eq_true', decide_eq_false_iff_not]
  constructor
  · rintro ⟨hf, before, after, he, hb⟩
    exact ⟨before, after, he, hf, hb⟩
  · rintro ⟨before, after, he, hf, hb⟩
    exact ⟨hf, before, after, he, hb⟩

namespace Fields

variable {α : Type} {fs : Entries} {i : Nat} {name : String} {d a : α} {write : α → Toml}
  {decode : Toml → Option α}

-- A field is read for what it would be written as, and so is its default.
theorem read_eq_some_iff (h : ∀ v a, decode v = some a ↔ v = write a) :
    (named fs).read i name decode d = some a ↔ write a = (fs.lookup name).getD (write d) := by
  simp only [read, get?]
  cases fs.lookup name
  case some v => simp only [h, Option.getD_some, eq_comm]
  case none   =>
    have hi : write a = write d ↔ a = d :=
      ⟨fun he => Option.some.inj (((h _ a).mpr he.symm).symm.trans ((h _ d).mpr rfl)), congrArg _⟩
    simp only [Option.some.injEq, Option.getD_none, hi, eq_comm]

theorem string?_eq_some_iff {v : Toml} {s : String} : v.string? = some s ↔ v = .string s := by
  cases v <;> simp [Toml.string?]

-- A whole number is read if it is in the range of its type.
theorem below?_eq_some_iff {bound : Nat} {ofNat : Nat → α} {toNat : α → Nat}
    (hb : ∀ a, toNat a < bound) (ho : ∀ a, ofNat (toNat a) = a)
    (ht : ∀ n, n < bound → toNat (ofNat n) = n) (v : Toml) (a : α) :
    (v.below? bound).map ofNat = some a ↔ v = .integer (toNat a) := by
  cases v <;> simp only [Toml.below?, Option.map_none, reduceCtorEq, Toml.integer.injEq]
  case integer n =>
    split
    case isTrue h =>
      have hn : ((n.toNat : Nat) : Int) = n := Int.toNat_of_nonneg h.1
      constructor
      case mp =>
        intro ha
        cases ha
        rw [ht n.toNat (by omega), hn]
      case mpr =>
        rintro rfl
        simp [ho]
    case isFalse h =>
      simp only [Option.map_none, reduceCtorEq, false_iff]
      rintro rfl
      exact h ⟨Int.natCast_nonneg _, Int.ofNat_lt.mpr (hb a)⟩

theorem string_eq_some_iff {d s : String} :
    (named fs).string i name d = some s ↔ .string s = (fs.lookup name).getD (.string d) :=
  read_eq_some_iff fun _ _ => string?_eq_some_iff

theorem uint16_eq_some_iff {d n : UInt16} :
    (named fs).uint16 i name d = some n ↔
      .integer n.toNat = (fs.lookup name).getD (.integer d.toNat) :=
  read_eq_some_iff (below?_eq_some_iff UInt16.toNat_lt (fun _ => UInt16.ofNat_toNat)
    fun _ => UInt16.toNat_ofNat_of_lt)

theorem uint32_eq_some_iff {d n : UInt32} :
    (named fs).uint32 i name d = some n ↔
      .integer n.toNat = (fs.lookup name).getD (.integer d.toNat) :=
  read_eq_some_iff (below?_eq_some_iff UInt32.toNat_lt (fun _ => UInt32.ofNat_toNat)
    fun _ => UInt32.toNat_ofNat_of_lt)

theorem uint64_eq_some_iff {d n : UInt64} :
    (named fs).uint64 i name d = some n ↔
      .integer n.toNat = (fs.lookup name).getD (.integer d.toNat) :=
  read_eq_some_iff (below?_eq_some_iff UInt64.toNat_lt (fun _ => UInt64.ofNat_toNat)
    fun _ => UInt64.toNat_ofNat_of_lt)

end Fields

section

variable {es fs : Entries} {x : Server} {r : Reconnect} {t : Terminal} {l : Log}

theorem server_eq_some_iff :
    Server.ofFields? (.named fs) = some x ↔
      .string x.url = (fs.lookup "url").getD (.string "ws://127.0.0.1:8080/ws/terminal") ∧
        .string x.session = (fs.lookup "session").getD (.string "main") := by
  simp only [Server.ofFields?, Option.bind_eq_bind, Option.bind_eq_some_iff, Option.pure_def,
    Option.some.injEq, Fields.string_eq_some_iff]
  constructor
  case mp =>
    rintro ⟨url, hu, session, hs, rfl⟩
    exact ⟨hu, hs⟩
  case mpr =>
    rintro ⟨hu, hs⟩
    exact ⟨_, hu, _, hs, rfl⟩

theorem reconnect_eq_some_iff :
    Reconnect.ofFields? (.named fs) = some r ↔
      .integer r.baseDelay.toNat = (fs.lookup "base_delay_ms").getD (.integer 1000) ∧
        .integer r.maxDelay.toNat = (fs.lookup "max_delay_ms").getD (.integer 30000) ∧
        .integer r.maxAttempts.toNat = (fs.lookup "max_attempts").getD (.integer 10) := by
  simp only [Reconnect.ofFields?, Option.bind_eq_bind, Option.bind_eq_some_iff, Option.pure_def,
    Option.some.injEq, Fields.uint64_eq_some_iff, Fields.uint32_eq_some_iff]
  constructor
  case mp =>
    rintro ⟨base, hb, max, hm, attempts, ha, rfl⟩
    exact ⟨hb, hm, ha⟩
  case mpr =>
    rintro ⟨hb, hm, ha⟩
    exact ⟨_, hb, _, hm, _, ha, rfl⟩

theorem terminal_eq_some_iff :
    Terminal.ofFields? (.named fs) = some t ↔
      .integer t.redrawDelay.toNat = (fs.lookup "redraw_delay_ms").getD (.integer 75) ∧
        .integer t.resizeDebounce.toNat = (fs.lookup "resize_debounce_ms").getD (.integer 100) ∧
        .integer t.cols.toNat = (fs.lookup "default_cols").getD (.integer 80) ∧
        .integer t.rows.toNat = (fs.lookup "default_rows").getD (.integer 24) := by
  simp only [Terminal.ofFields?, Option.bind_eq_bind, Option.bind_eq_some_iff, Option.pure_def,
    Option.some.injEq, Fields.uint64_eq_some_iff, Fields.uint16_eq_some_iff]
  constructor
  case mp =>
    rintro ⟨redraw, hd, debounce, hz, cols, hc, rows, hr, rfl⟩
    exact ⟨hd, hz, hc, hr⟩
  case mpr =>
    rintro ⟨hd, hz, hc, hr⟩
    exact ⟨_, hd, _, hz, _, hc, _, hr, rfl⟩

theorem log_eq_some_iff :
    Log.ofFields? (.named fs) = some l ↔
      .string l.level = (fs.lookup "level").getD (.string "info") := by
  simp only [Log.ofFields?, Option.bind_eq_bind, Option.bind_eq_some_iff, Option.pure_def,
    Option.some.injEq, Fields.string_eq_some_iff]
  constructor
  case mp =>
    rintro ⟨level, hl, rfl⟩
    exact hl
  case mpr =>
    intro hl
    exact ⟨_, hl, rfl⟩

-- A section that is missing is read as one that has nothing in it.
theorem readSection_eq {α : Type} {name : String} {decode : Fields → Option α} {d : α}
    (ht : ∀ v ∈ es.lookup name, v.isTable = true) (hd : decode (.named []) = some d) :
    readSection es name decode d = decode (.named (es.group name)) := by
  simp only [readSection, Toml.Entries.group]
  cases hl : es.lookup name
  case none   => exact hd.symm
  case some v =>
    have hv := ht v hl
    cases v <;> simp only [Toml.isTable, Bool.false_eq_true] at hv
    rfl

-- A configuration comes out of a document if every field of it is as the document describes it.
theorem ofToml?_eq_some_iff {c : Config}
    (ht : ∀ k ∈ known, ∀ v ∈ es.lookup k.group, v.isTable = true) :
    ofToml? es = some c ↔ es.Describes c := by
  simp only [known, List.forall_mem_cons, List.not_mem_nil, false_implies, implies_true, and_true]
    at ht
  obtain ⟨hs, -, hr, -, -, ht, -, -, -, hl⟩ := ht
  have server : readSection es "server" Server.ofFields? {} = _ := readSection_eq hs rfl
  have reconnect : readSection es "reconnect" Reconnect.ofFields? {} = _ := readSection_eq hr rfl
  have terminal : readSection es "terminal" Terminal.ofFields? {} = _ := readSection_eq ht rfl
  have log : readSection es "log" Log.ofFields? {} = _ := readSection_eq hl rfl
  simp only [ofToml?, Option.bind_eq_bind, Option.bind_eq_some_iff, Option.pure_def,
    Option.some.injEq, server, reconnect, terminal, log, server_eq_some_iff, reconnect_eq_some_iff,
    terminal_eq_some_iff, log_eq_some_iff, Toml.Entries.Describes, known, List.forall_mem_cons,
    Toml.Entries.field?]
  constructor
  case mp =>
    rintro ⟨server, ⟨hu, hs⟩, reconnect, ⟨hb, hm, ha⟩, terminal, ⟨hd, hz, hc, hr⟩, log, hl, rfl⟩
    exact ⟨hu, hs, hb, hm, ha, hd, hz, hc, hr, hl, List.forall_mem_nil _⟩
  case mpr =>
    rintro ⟨hu, hs, hb, hm, ha, hd, hz, hc, hr, hl, -⟩
    exact ⟨_, ⟨hu, hs⟩, _, ⟨hb, hm, ha⟩, _, ⟨hd, hz, hc, hr⟩, _, hl, rfl⟩

end

-- What a text makes of a configuration, by the document that it is read as.
structure Filled (s : String) (es : Entries) (c : Config) : Prop where
  decoded   : ofToml? es = some c
  described : es.Describes c
  -- Neither the order of a document nor what is not known in it, nor a section without anything in
  -- it, plays a part.
  unmoved {es'} : Relation.EqvGen Entries.Change es es' → ofToml? es' = some c
  retold {s' es'} :
    Toml.ofText? s' = some es' → Relation.EqvGen Entries.Change es es' → ofText s' = ofText s
  -- The text comes to this configuration or to the first of its flaws.
  returned {c'} : ofText s = .ok c' ↔ c' = c ∧ c.Valid
  refused {e}   : ofText s = .error e ↔ ∃ f, e = .invalid f ∧ f.FirstIn c

section

variable {s : String} {es : Entries} {e : Error}

theorem ofText_eq {c : Config} (hs : Toml.ofText? s = some es) (hc : ofToml? es = some c) :
    ofText s = c.accept.mapError .invalid := by
  simp only [ofText, hs, Option.bind_some, hc]

-- Every text whose document is typed comes to a configuration or to a flaw in it.
theorem filled_of_typed (hs : Toml.ofText? s = some es) (h : es.Typed) : ∃ c, Filled s es c := by
  obtain ⟨c, hd⟩ := h.exists_described
  have hc : ofToml? es = some c := (ofToml?_eq_some_iff h.tables).mpr hd
  have unmoved {es'} (ha : Relation.EqvGen Entries.Change es es') : ofToml? es' = some c :=
    (ofToml?_eq_some_iff (h.tables_of_changes ha)).mpr
      ((Entries.describes_iff_of_changes ha).mp hd)
  refine ⟨c, hc, hd, unmoved, fun hs' ha => ?retold, ?returned, ?refused⟩
  case retold => rw [ofText_eq hs hc, ofText_eq hs' (unmoved ha)]
  case returned =>
    intro c'
    rw [ofText_eq hs hc, mapError_eq_ok_iff, accept_eq_ok_iff, flaw?_eq_none_iff, eq_comm]
  case refused =>
    intro e
    simp only [ofText_eq hs hc, mapError_eq_error_iff, accept_eq_error_iff, flaw?_eq_some_iff]

-- Sections that are there in part, empty, missing or not known, and a field that is not known.
theorem filled_of_typed_partial :
    let s := "[terminal]\nmargin = 1\ndefault_cols = 132\n[log]\n[theme]\ndark = true\n" ++
      "[server]\nsession = 'build'\n"
    ∃ es c, Toml.ofText? s = some es ∧ es.Typed ∧ Filled s es c ∧
      c = { server := { session := "build" }, terminal := { cols := 132 } } ∧ ofText s = .ok c := by
  intro s
  have h : (Toml.ofText? s).any (fun es => decide es.Typed) = true := by decide +kernel
  obtain ⟨es, hs, ht⟩ := (Option.any_eq_true _ _).mp h
  obtain ⟨c, hc⟩ := filled_of_typed hs (of_decide_eq_true ht)
  have hr : (Toml.ofText? s).bind ofToml? =
      some { server := { session := "build" }, terminal := { cols := 132 } } := by
    decide +kernel
  rw [hs, Option.bind_some, hc.decoded, Option.some.injEq] at hr
  subst hr
  exact ⟨es, _, hs, of_decide_eq_true ht, hc, rfl, hc.returned.mpr ⟨rfl, flaw?_eq_none_iff.mp rfl⟩⟩

end

end Config

end RemoteTerm
