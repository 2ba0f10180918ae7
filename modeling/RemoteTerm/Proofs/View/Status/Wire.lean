import Mathlib.Logic.Relation
import RemoteTerm.Proofs.View.Status.Parts
/-!
A status on the wire: what has to be written for it to be read, what makes no difference to the
reader, and that what is printed is read as it was.
-/

namespace RemoteTerm.Status

open Json Json.Written

def cells? (w : Written) : Option UInt16 :=
  (count? 65535 w).map UInt16.ofNat

-- The members that a status has been written as.
@[mk_iff]
structure Carried (ms : List (Quoted × Written)) (s : Status) : Prop where
  names      : NamesLegible ms
  viewId     : Given "view_id" Uuid.written? ms s.viewId
  connection : Given "connection" (Connection.written? (maxDepth - 1)) ms s.connection
  latched    : Given "latched" Modifiers.written? ms s.latched
  cols       : Optional "cols" cells? ms s.cols
  rows       : Optional "rows" cells? ms s.rows
  lastNotice : Optional "last_notice" text? ms s.lastNotice
  closed     : Given "closed" bool? ms s.closed

-- A change to the members that makes no difference.
inductive Change : List (Quoted × Written) → List (Quoted × Written) → Prop
  | members {ms ms' : List (Quoted × Written)} :
    Rearranged ["view_id", "connection", "latched", "cols", "rows", "last_notice", "closed"]
      (fun _ => True) ms ms' →
    Change ms ms'
  -- A field that is left out may be null as well.
  | null {ms : List (Quoted × Written)} {q : Quoted} {name : String} :
    q.string? = some name → name ∈ ["cols", "rows", "last_notice"] → named name ms = [] →
    Change ms ((q, .null) :: ms)
  | connection {ms ns ns' : List (Quoted × Written)} {q : Quoted} :
    q.string? = some "connection" → Rearranged ["state", "attempt"] Connection.Free ns ns' →
    Change ((q, .object ns) :: ms) ((q, .object ns') :: ms)
  | latched {ms ns ns' : List (Quoted × Written)} {q : Quoted} :
    q.string? = some "latched" → Rearranged ["ctrl", "alt", "shift"] (fun _ => True) ns ns' →
    Change ((q, .object ns) :: ms) ((q, .object ns') :: ms)

-- Members that differ by any number of such changes.
abbrev Alike : List (Quoted × Written) → List (Quoted × Written) → Prop :=
  Relation.EqvGen Change

structure Conveyed (s : Status) : Prop where
  -- The status comes back as it was.
  back  : decode s.render = .ok s
  -- It is found in both of two texts or in neither.
  alike {ms ms' : List (Quoted × Written)} {text text' : String} :
    Alike ms ms' → Spaced (Written.object ms).tokens text.toList →
    Spaced (Written.object ms').tokens text'.toList → (decode text = .ok s ↔ decode text' = .ok s)

theorem takes_readCells : Decoder.Takes readCells (nullable? cells?) := by
  apply Decoder.takes_nullable
  intro w ts cs hp h
  exact (Decoder.takes_unsigned (by decide) hp h).map UInt16.ofNat

def columns : List (Column Draft) :=
  [⟨"view_id", Draft.viewId, fun d a => { d with viewId := a }, Uuid.read, Uuid.written?,
      Uuid.takes_read⟩,
   ⟨"connection", Draft.connection, fun d a => { d with connection := a },
      Connection.read (maxDepth - 1), Connection.written? (maxDepth - 1), Connection.takes_read⟩,
   ⟨"latched", Draft.latched, fun d a => { d with latched := a }, Modifiers.read,
      Modifiers.written?, Modifiers.takes_read⟩,
   ⟨"cols", Draft.cols, fun d a => { d with cols := some a }, readCells, nullable? cells?,
      takes_readCells⟩,
   ⟨"rows", Draft.rows, fun d a => { d with rows := some a }, readCells, nullable? cells?,
      takes_readCells⟩,
   ⟨"last_notice", Draft.lastNotice, fun d a => { d with lastNotice := some a },
      Decoder.nullable (Decoder.text "a string"), nullable? text?,
      Decoder.takes_nullable Decoder.takes_text⟩,
   ⟨"closed", Draft.closed, fun d a => { d with closed := a }, Decoder.boolean, bool?,
      Decoder.takes_boolean⟩]

theorem lawful_columns : Column.Lawful columns where
  names         := by decide
  get_set       := by simp [columns]
  get_set_of_ne := by simp [columns]
  ext           := by
    rintro ⟨i, c, l, x, y, n, b⟩ ⟨i', c', l', x', y', n', b'⟩
    simp +contextual [columns]

-- What is made of a value.
def written? (w : Written) : Option Status :=
  (Record.record? columns {} w).bind fun d => (ofDraft d).toOption

variable {s : Status} {d : Draft} {w : Written} {ms ms' : List (Quoted × Written)} {text : String}

theorem takes_read : Decoder.Takes read written? := by
  intro w ts cs hp h
  have hd (expected : String) :
      Reads (Record.read (columns.map Column.field) expected {} cs) _ ts := Record.takes_read hp h
  apply (hd _).bind
  intro d rest hr
  dsimp only
  cases ofDraft d
  case error => exact .error
  case ok    => exact .ok hr

theorem required_eq_ok_iff {α : Type} {name : String} {a? : Option α} {a : α} :
    required name a? = .ok a ↔ a? = some a := by
  cases a? <;> simp [required]

theorem ofDraft_eq_ok_iff :
    ofDraft d = .ok s ↔ d.viewId = some s.viewId ∧ d.connection = some s.connection ∧
      d.latched = some s.latched ∧ d.cols.join = s.cols ∧ d.rows.join = s.rows ∧
      d.lastNotice.join = s.lastNotice ∧ d.closed = some s.closed := by
  obtain ⟨id, c, l, cols, rows, n, b⟩ := s
  simp only [ofDraft, bind_eq_ok_iff, required_eq_ok_iff, pure, Except.pure, Except.ok.injEq,
    Status.mk.injEq]
  grind

theorem written?_object : written? (.object ms) = some s ↔ Carried ms s := by
  have hm (d : Draft) : Record.members? columns {} ms = some d ↔ _ :=
    Record.members?_empty_iff lawful_columns (by simp [columns])
  simp only [written?, Record.record?, Option.bind_eq_some_iff, toOption_eq_some_iff,
    ofDraft_eq_ok_iff, hm]
  simp only [columns, List.forall_mem_cons, List.not_mem_nil]
  constructor
  case mp =>
    rintro ⟨d, ⟨hn, hi, hc, hl, hcols, hrows, ht, hb, -⟩, ei, ec, el, ecols, erows, et, eb⟩
    rw [ei, found_some_iff] at hi
    rw [ec, found_some_iff] at hc
    rw [el, found_some_iff] at hl
    rw [eb, found_some_iff] at hb
    exact ⟨hn, hi, hc, hl, found_join_iff.mp ⟨_, hcols, ecols⟩, found_join_iff.mp ⟨_, hrows, erows⟩,
      found_join_iff.mp ⟨_, ht, et⟩, hb⟩
  case mpr =>
    intro h
    obtain ⟨cols, hcols, ecols⟩ := found_join_iff.mpr h.cols
    obtain ⟨rows, hrows, erows⟩ := found_join_iff.mpr h.rows
    obtain ⟨t, ht, et⟩ := found_join_iff.mpr h.lastNotice
    refine ⟨⟨some s.viewId, some s.connection, some s.latched, cols, rows, t, some s.closed⟩,
      ⟨h.names, found_some_iff.mpr h.viewId, found_some_iff.mpr h.connection,
        found_some_iff.mpr h.latched, hcols, hrows, ht, found_some_iff.mpr h.closed, by simp⟩,
      rfl, rfl, rfl, ecols, erows, et, rfl⟩

-- Just the status that has been written is read.
theorem decode_eq_ok_iff (h : Spaced (Written.object ms).tokens text.toList) :
    decode text = .ok s ↔ Carried ms s := by
  rw [← List.append_nil (Written.tokens _)] at h
  rw [decode, Decoder.run_eq_ok_iff (takes_read (by simp [Parted]) h), written?_object]

theorem carried_change (h : Change ms ms') : Carried ms s ↔ Carried ms' s := by
  rw [carried_iff, carried_iff]
  cases h
  case members h =>
    rw [h.namesLegible_iff]
    repeat rw [h.given_iff (by simp)]
    repeat rw [h.optional_iff (by simp)]
  case null q name hq hn hm =>
    simp only [List.mem_cons, List.not_mem_nil, or_false] at hn
    obtain rfl | rfl | rfl := hn <;>
      simp [NamesLegible, Given, Optional, named_cons, hq, hm, nullable?, @eq_comm _ none]
  case connection ns ns' q hq h =>
    simp [NamesLegible, Given, Optional, named_cons, hq, Connection.written?_rearranged h]
  case latched ns ns' q hq h =>
    simp [NamesLegible, Given, Optional, named_cons, hq, Modifiers.written?_rearranged h]

theorem carried_alike (h : Alike ms ms') : Carried ms s ↔ Carried ms' s := by
  have he : Equivalence fun ms ms' => (Carried ms s ↔ Carried ms' s) :=
    ⟨fun _ => Iff.rfl, Iff.symm, Iff.trans⟩
  exact he.eqvGen_iff.mp (h.mono fun _ _ => carried_change)

-- The value that a field is printed as when it may be left out.
def orNull {α : Type} (f : α → Written) : Option α → Written
  | some a => f a
  | none   => .null

-- The members that a status is printed as.
def members (s : Status) : List (Quoted × Written) :=
  [(.of "view_id", .string (.of s.viewId.toString)),
   (.of "connection", .object s.connection.members),
   (.of "latched", .object s.latched.members),
   (.of "cols", orNull (fun n => .number (.of n.toNat)) s.cols),
   (.of "rows", orNull (fun n => .number (.of n.toNat)) s.rows),
   (.of "last_notice", orNull (fun t => .string (.of t)) s.lastNotice),
   (.of "closed", .bool s.closed)]

theorem prints_orNull {α : Type} {f : α → Written} {g : α → Json} (h : ∀ a, Prints (f a) (g a))
    (a? : Option α) : Prints (orNull f a?) (ofOption g a?) := by
  cases a?
  case none   => exact Prints.null
  case some a => exact h a

theorem nullable?_orNull {α : Type} {f : α → Written} {m : Written → Option α}
    (h : ∀ a, nullable? m (f a) = some (some a)) (a? : Option α) :
    nullable? m (orNull f a?) = some a? := by
  cases a?
  case none   => rfl
  case some a => exact h a

theorem cells?_of (n : UInt16) : cells? (.number (.of n.toNat)) = some n := by
  have hc : count? 65535 (.number (.of n.toNat)) = some n.toNat :=
    count?_eq_some_iff.mpr ⟨_, rfl, Literal.count?_of, Nat.le_of_lt_succ n.toNat_lt⟩
  rw [cells?, hc, Option.map_some, UInt16.ofNat_toNat]

theorem prints_members : Prints (.object s.members) s.toJson := by
  rw [members, toJson]
  apply Prints.object
  simp [Prints.string, Prints.bool, Connection.prints_members, Modifiers.prints_members,
    prints_orNull fun _ => Prints.integer, prints_orNull fun _ => Prints.string]

theorem spaced_render : Spaced (Written.object s.members).tokens s.render.toList := by
  rw [render, Json.render, String.toList_ofList, ← prints_members]
  exact spaced_flatMap [] _ (by simp)

theorem carried_members : Carried s.members s := by
  have hc (n? : Option UInt16) :
      nullable? cells? (orNull (fun n => .number (.of n.toNat)) n?) = some n? := by
    apply nullable?_orNull
    exact fun n => congrArg (Option.map some) (cells?_of n)
  have ht (t? : Option String) :
      nullable? text? (orNull (fun t => .string (.of t)) t?) = some t? := by
    apply nullable?_orNull
    exact fun _ => congrArg (Option.map some) Quoted.string?_of
  have hn : Connection.written? (maxDepth - 1) (.object s.connection.members) = _ :=
    Connection.written?_members (d := maxDepth - 2)
  constructor <;>
    simp [NamesLegible, Given, Optional, members, named, Quoted.string?_of, bool?, hc, ht, hn,
      Uuid.written?_toString, Modifiers.written?_members]

theorem conveyed (s : Status) : Conveyed s where
  back            := (decode_eq_ok_iff spaced_render).mpr carried_members
  alike ha h h' := by rw [decode_eq_ok_iff h, decode_eq_ok_iff h', carried_alike ha]

-- The members are out of order, one is unknown and means nothing, one is null and two are left out.
example :
    (decode <| "\x7b\"rows\":null,\"x\":\"\\ud800\",\"closed\":false," ++
      "\"latched\":[true,false,false]," ++
      "\"connection\":\x7b\"attempt\":2,\"state\":\"reconnecting\"\x7d," ++
      "\"view_id\":\"00000000000000000000000000000000\"\x7d").toOption =
      some { initial .zero with connection := .reconnecting 2, latched := { ctrl := true } } := by
  decide +kernel

end RemoteTerm.Status
