import Mathlib.Tactic.MkIffOfInductiveProp
import RemoteTerm.View.Status.Wire
import RemoteTerm.Proofs.Json.Members
import RemoteTerm.Proofs.Json.Printer
/-!
The parts of a status on the wire: identifiers, connections and sets of modifiers. For each of them,
what has to be written, and that it is what is printed.
-/

namespace RemoteTerm

open Json Json.Written

namespace Uuid

-- The groups that the hyphens stand between.
theorem exists_groups {s : List Char} (h : s.length = 32) :
    ∃ a b c d e : List Char, s = a ++ (b ++ (c ++ (d ++ e))) ∧ a.length = 8 ∧ b.length = 4 ∧
      c.length = 4 ∧ d.length = 4 ∧ e.length = 12 := by
  refine ⟨s.take 8, (s.drop 8).take 4, (s.drop 12).take 4, (s.drop 16).take 4, s.drop 20, ?_, ?_⟩
  · have h₁ : s.drop 12 = (s.drop 8).drop 4  := by rw [List.drop_drop]
    have h₂ : s.drop 16 = (s.drop 12).drop 4 := by rw [List.drop_drop]
    have h₃ : s.drop 20 = (s.drop 16).drop 4 := by rw [List.drop_drop]
    rw [h₃, List.take_append_drop, h₂, List.take_append_drop, h₁, List.take_append_drop,
      List.take_append_drop]
  · simp [h]

theorem hyphenate_groups {a b c d e : List Char} (ha : a.length = 8) (hb : b.length = 4)
    (hc : c.length = 4) (hd : d.length = 4) :
    hyphenate (a ++ (b ++ (c ++ (d ++ e)))) =
      a ++ '-' :: (b ++ '-' :: (c ++ '-' :: (d ++ '-' :: e))) := by
  simp (disch := omega) [hyphenate, List.drop_append, List.drop_of_length_le, ha, hb, hc]

theorem length_hyphenate {s : List Char} (h : s.length = 32) : (hyphenate s).length = 36 := by
  simp [hyphenate, h]

theorem dehyphenate?_hyphenate {s : List Char} (h : s.length = 32) :
    dehyphenate? (hyphenate s) = some s := by
  obtain ⟨a, b, c, d, e, rfl, ha, hb, hc, hd, he⟩ := exists_groups h
  simp (disch := omega) [dehyphenate?, hyphenate_groups, List.drop_append, List.drop_of_length_le,
    ha, hb, hc, hd, he]

theorem ofDigits?_map_digit (u : Uuid) : ofDigits? (u.digits.map Hex.digit) = some u := by
  have hm (ds : List (Fin 16)) : (ds.map Hex.digit).mapM Hex.value? = some ds := by
    induction ds with
    | nil          => rfl
    | cons d ds hi => simp [hi, Hex.value?_digit]
  rw [ofDigits?, hm]
  exact dif_pos u.length_digits

theorem ofString?_toString (u : Uuid) : ofString? u.toString = some u := by
  have hl : (u.digits.map Hex.digit).length = 32 := by rw [List.length_map, u.length_digits]
  simp [ofString?, toString, toChars, ofChars?, length_hyphenate hl, dehyphenate?_hyphenate hl,
    ofDigits?_map_digit]

-- Any spelling of an identifier may be written.
def written? (w : Written) : Option Uuid :=
  w.text?.bind ofString?

theorem takes_read : Decoder.Takes read written? := by
  intro w ts cs hp h
  apply (Decoder.takes_text hp h).bind
  intro s rest hr
  dsimp only
  cases ofString? s
  case none   => exact .error
  case some u => exact .ok hr

theorem written?_toString (u : Uuid) : written? (.string (.of u.toString)) = some u := by
  simp [written?, text?, Quoted.string?_of, ofString?_toString]

end Uuid

namespace Connection

def kind : Connection → Kind
  | connecting     => .connecting
  | connected      => .connected
  | reconnecting _ => .reconnecting
  | exhausted      => .exhausted

def attempt? (w : Written) : Option UInt32 :=
  (count? 4294967295 w).map UInt32.ofNat

-- What is made of a value in which arrays and objects are nested at most so deep.
def written? (depth : Nat) (w : Written) : Option Connection :=
  (tagging.tagged? depth w).bind fun r => (ofFields r.1 r.2).toOption

-- The members that a connection has been written as.
@[mk_iff]
structure Carried (ms : List (Quoted × Written)) (c : Connection) : Prop where
  legible : Legible "state" ms
  kind    : Given "state" tagging.variant? ms c.kind
  attempt : ∀ n, c = .reconnecting n → Given "attempt" attempt? ms n

variable {c : Connection} {k : Kind} {w : Written} {n : UInt32} {d : Nat} {v : Json}
  {js : List (String × Json)} {ms ms' : List (Quoted × Written)}

theorem takes_read : Decoder.Takes (read d) (written? d) := by
  intro w ts cs _ h
  apply (Tagging.reads_tagged h).bind
  rintro ⟨k, fields⟩ rest hr
  dsimp only
  cases ofFields k fields
  case error => exact .error
  case ok    => exact .ok hr

theorem attempt?_eq_some_iff :
    attempt? w = some n ↔ ∃ l, w = .number l ∧ l.count? = some n.toNat := by
  simp only [attempt?, Option.map_eq_some_iff, count?_eq_some_iff]
  constructor
  case mp =>
    rintro ⟨m, ⟨l, rfl, hl, hm⟩, rfl⟩
    exact ⟨l, rfl, by rw [hl, UInt32.toNat_ofNat_of_lt' (Nat.lt_succ_of_le hm)]⟩
  case mpr =>
    rintro ⟨l, rfl, hl⟩
    exact ⟨n.toNat, ⟨l, rfl, hl, Nat.le_of_lt_succ n.toNat_lt⟩, UInt32.ofNat_toNat⟩

theorem asAttempt_eq_ok_iff : asAttempt v = .ok n ↔ v = .integer n.toNat := by
  rw [asAttempt, map_eq_ok_iff]
  constructor
  case mp =>
    rintro ⟨m, hm, rfl⟩
    obtain ⟨rfl, hl⟩ := asUnsigned_eq_ok_iff.mp hm
    rw [UInt32.toNat_ofNat_of_lt' (Nat.lt_succ_of_le hl)]
  case mpr =>
    intro hv
    exact ⟨n.toNat, asUnsigned_eq_ok_iff.mpr ⟨hv, Nat.le_of_lt_succ n.toNat_lt⟩, UInt32.ofNat_toNat⟩

theorem reconnectingOf_named :
    reconnectingOf (.named js) = .ok c ↔
      ∃ n : UInt32, Fields.values "attempt" js = [.integer n.toNat] ∧ c = .reconnecting n := by
  simp only [reconnectingOf, bind_eq_ok_iff, asAttempt_eq_ok_iff, pure, Except.pure,
    Except.ok.injEq]
  constructor
  case mp =>
    rintro ⟨_, hc, v, hv, n, rfl, rfl⟩
    exact ⟨n, Fields.values_of_check hc rfl hv, rfl⟩
  case mpr =>
    rintro ⟨n, hv, rfl⟩
    have hr := Fields.require_eq_ok_iff.mpr (congrArg List.head? hv)
    refine ⟨(), Fields.check_of_values ?_, _, hr, n, rfl, rfl⟩
    simp [hv, asAttempt_eq_ok_iff.mpr rfl, Except.map]

-- Only an attempt has a field, and it has the value that has been written for it.
theorem ofFields_named (h : Without "state" ms js) :
    ofFields k (.named js) = .ok c ↔
      c.kind = k ∧ ∀ n, c = .reconnecting n → Given "attempt" attempt? ms n := by
  have hn (n : UInt32) :
      Fields.values "attempt" js = [.integer n.toNat] ↔ Given "attempt" attempt? ms n := by
    rw [h.values_eq_integer_iff (by decide) (Nat.lt_trans n.toNat_lt (by decide))]
    simp only [Given, attempt?_eq_some_iff]
    constructor
    case mp =>
      rintro ⟨l, hm, hl⟩
      exact ⟨_, hm, l, rfl, hl⟩
    case mpr =>
      rintro ⟨_, hm, l, rfl, hl⟩
      exact ⟨l, hm, hl⟩
  cases k
  case reconnecting =>
    simp only [ofFields, reconnectingOf_named, hn]
    cases c <;> simp [kind]
  all_goals cases c <;> simp [ofFields, plain, kind]

theorem written?_object :
    written? (d + 1) (.object ms) = some c ↔ membersDepth ms ≤ d ∧ Carried ms c := by
  have hm (k : Kind) (js : List (String × Json)) :
      tagging.members? none ms = some (some k, js) ↔
        Without "state" ms js ∧ Given "state" tagging.variant? ms k := by
    rw [Tagging.members?_eq_some_iff]
    refine and_congr_right fun _ => ?_
    simp [Given, tagging, List.map_eq_singleton_iff]
  by_cases hd : membersDepth ms ≤ d
  case neg => simp [written?, Tagging.tagged?, depth, hd]
  case pos =>
    simp only [written?, Tagging.tagged?, depth, Nat.add_le_add_iff_right, hd, if_true, true_and]
    constructor
    case mp =>
      intro h
      obtain ⟨r, hr, hc⟩ := Option.bind_eq_some_iff.mp h
      obtain ⟨⟨found, js⟩, hj, hr⟩ := Option.bind_eq_some_iff.mp hr
      obtain ⟨k, rfl, rfl⟩ := Option.map_eq_some_iff.mp hr
      obtain ⟨hw, hk⟩ := (hm k js).mp hj
      obtain ⟨rfl, ha⟩ := (ofFields_named hw).mp (toOption_eq_some_iff.mp hc)
      exact ⟨exists_without_iff.mp ⟨js, hw⟩, hk, ha⟩
    case mpr =>
      rintro ⟨hl, hk, ha⟩
      obtain ⟨js, hw⟩ := exists_without_iff.mpr hl
      have hc := (ofFields_named hw).mpr ⟨rfl, ha⟩
      simp [(hm c.kind js).mpr ⟨hw, hk⟩, hc, Except.toOption]

-- Members other than the state and the attempt are of no use, but they are read.
def Free (w : Written) : Prop :=
  w.value?.isSome = true ∧ w.depth + 2 ≤ maxDepth

theorem carried_rearranged (h : Rearranged ["state", "attempt"] Free ms ms') :
    Carried ms c ↔ Carried ms' c := by
  have hl : Legible "state" ms ↔ Legible "state" ms' := by
    cases h
    case order h               => exact forall_congr' fun m => by rw [h.mem_iff]
    case unknown q w s hq _ hf => simp [Legible, hq, hf.1]
  have ha (n : UInt32) : Given "attempt" attempt? ms n ↔ _ := h.given_iff (by simp)
  rw [carried_iff, carried_iff, hl, h.given_iff (by simp)]
  simp only [ha]

theorem membersDepth_perm (h : ms.Perm ms') : membersDepth ms = membersDepth ms' := by
  induction h with
  | nil           => rfl
  | cons m _ hi   => rw [membersDepth, membersDepth, hi]
  | swap m n ms   => simp only [membersDepth, Nat.max_left_comm]
  | trans _ _ h h' => exact h.trans h'

theorem written?_rearranged (h : Rearranged ["state", "attempt"] Free ms ms') :
    written? (maxDepth - 1) (.object ms) = written? (maxDepth - 1) (.object ms') := by
  have hd : membersDepth ms ≤ maxDepth - 2 ↔ membersDepth ms' ≤ maxDepth - 2 := by
    cases h
    case order h              => rw [membersDepth_perm h]
    case unknown q w s _ _ hf =>
      have hw : w.depth ≤ maxDepth - 2 := Nat.le_sub_of_add_le hf.2
      rw [membersDepth, Nat.max_le, and_iff_right hw]
  ext c
  exact written?_object.trans ((and_congr hd (carried_rearranged h)).trans written?_object.symm)

-- The members that a connection is printed as.
def members : Connection → List (Quoted × Written)
  | connecting     => [(.of "state", .string (.of "connecting"))]
  | connected      => [(.of "state", .string (.of "connected"))]
  | reconnecting n =>
    [(.of "state", .string (.of "reconnecting")), (.of "attempt", .number (.of n.toNat))]
  | exhausted      => [(.of "state", .string (.of "exhausted"))]

theorem prints_members : Prints (.object c.members) c.toJson := by
  cases c <;> simp only [members, toJson] <;> apply Prints.object <;>
    simp [Prints.string, Prints.integer]

theorem value?_attempt : (Literal.of n.toNat).value? = some (.integer n.toNat) :=
  Literal.value?_of_count Literal.count?_of (Nat.lt_trans n.toNat_lt (by decide))

theorem carried_members : Carried c.members c := by
  constructor
  case legible => cases c <;> simp [members, Legible, Quoted.string?_of, value?, value?_attempt]
  case kind =>
    cases c <;>
      simp [Given, members, named, Quoted.string?_of, Tagging.variant?, tagging, kind,
        List.lookup_cons]
  case attempt =>
    rintro n rfl
    exact ⟨_, by simp [members, named, Quoted.string?_of],
      attempt?_eq_some_iff.mpr ⟨_, rfl, Literal.count?_of⟩⟩

theorem written?_members : written? (d + 1) (.object c.members) = some c := by
  refine written?_object.mpr ⟨?_, carried_members⟩
  cases c <;> simp [members, membersDepth, depth]

end Connection

namespace Modifiers

def flag (name : String) (get : Draft → Option Bool) (set : Draft → Bool → Draft) :
    Column Draft where
  name
  get
  set
  decoder := .boolean
  means   := bool?
  takes   := Decoder.takes_boolean

def columns : List (Column Draft) :=
  [flag "ctrl" Draft.ctrl fun d b => { d with ctrl := b },
   flag "alt" Draft.alt fun d b => { d with alt := b },
   flag "shift" Draft.shift fun d b => { d with shift := b }]

theorem lawful_columns : Column.Lawful columns where
  names         := by decide
  get_set       := by simp [columns, flag]
  get_set_of_ne := by simp [columns, flag]
  ext           := by rintro ⟨c, a, s⟩ ⟨c', a', s'⟩; simp [columns, flag]

def Draft.whole? (d : Draft) : Option Modifiers :=
  d.ctrl.bind fun ctrl => d.alt.bind fun alt => d.shift.map fun shift => ⟨ctrl, alt, shift⟩

def written? (w : Written) : Option Modifiers :=
  (Record.record? columns {} w).bind Draft.whole?

-- The members that a set of modifiers has been written as.
@[mk_iff]
structure Carried (ms : List (Quoted × Written)) (m : Modifiers) : Prop where
  names : NamesLegible ms
  ctrl  : Given "ctrl" bool? ms m.ctrl
  alt   : Given "alt" bool? ms m.alt
  shift : Given "shift" bool? ms m.shift

variable {m : Modifiers} {ms ms' : List (Quoted × Written)}

theorem takes_read : Decoder.Takes read written? := by
  intro w ts cs hp h
  have hd (expected : String) :
      Reads (Record.read (columns.map Column.field) expected {} cs) _ ts := Record.takes_read hp h
  apply (hd _).bind
  rintro ⟨c, a, s⟩ rest hr
  cases c <;> cases a <;> cases s <;> first | exact .ok hr | exact .error

theorem Draft.whole?_eq_some_iff {d : Draft} :
    d.whole? = some m ↔ d = ⟨some m.ctrl, some m.alt, some m.shift⟩ := by
  obtain ⟨c, a, s⟩ := d
  obtain ⟨ctrl, alt, shift⟩ := m
  cases c <;> cases a <;> cases s <;> simp [whole?]

theorem written?_object : written? (.object ms) = some m ↔ Carried ms m := by
  have hm (d : Draft) : Record.members? columns {} ms = some d ↔ _ :=
    Record.members?_empty_iff lawful_columns (by simp [columns, flag])
  simp only [written?, Record.record?, Option.bind_eq_some_iff, hm, Draft.whole?_eq_some_iff,
    exists_eq_right]
  simp [carried_iff, columns, flag, found_some_iff]

theorem written?_rearranged {free : Written → Prop}
    (h : Rearranged ["ctrl", "alt", "shift"] free ms ms') :
    written? (.object ms) = written? (.object ms') := by
  ext m
  rw [written?_object, written?_object, carried_iff, carried_iff, h.namesLegible_iff,
    h.given_iff (by simp), h.given_iff (by simp), h.given_iff (by simp)]

-- The members that a set of modifiers is printed as.
def members (m : Modifiers) : List (Quoted × Written) :=
  [(.of "ctrl", .bool m.ctrl), (.of "alt", .bool m.alt), (.of "shift", .bool m.shift)]

theorem prints_members : Prints (.object m.members) m.toJson := by
  rw [members, toJson]
  apply Prints.object
  simp [Prints.bool]

theorem written?_members : written? (.object m.members) = some m := by
  rw [written?_object]
  constructor <;> simp [NamesLegible, Given, members, named, Quoted.string?_of, bool?]

end Modifiers

end RemoteTerm
