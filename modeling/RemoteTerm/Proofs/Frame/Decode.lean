import RemoteTerm.Frame.Wire
import RemoteTerm.Proofs.Json.Fields
import RemoteTerm.Proofs.Json.Printer
/-!
What a text must say to be read as a control frame, and which frame it is then. Neither depends on
the order of the members, on the blanks between them, or on members that the frame has no use for.
-/

namespace RemoteTerm.Frame

open Json Json.Written
open Fields (check_of_values require_eq_ok_iff values values_of_check)

-- The names of the fields of a kind.
def Kind.fields : Kind → List String
  | .input  => ["data"]
  | .resize => ["cols", "rows"]

-- The values that are right for the fields of a kind.
def Kind.Fits : Kind → Written → Prop
  | .input, .string q  => q.string?.isSome = true
  | .resize, .number l => ∃ n, l.count? = some n ∧ n ≤ 65535
  | _, _               => False

-- The members that the fields of a frame have been written as.
inductive Carried (ms : List (Quoted × Written)) : Frame → Prop
  | input {q s} : named "data" ms = [.string q] → q.string? = some s → Carried ms (.input s)
  | resize {c r} {size : Grid} :
    named "cols" ms = [.number c] → c.count? = some size.cols.toNat →
    named "rows" ms = [.number r] → r.count? = some size.rows.toNat → Carried ms (.resize size)

-- Members that describe a frame of some kind, with no regard to the values of its fields.
structure Describes (ms : List (Quoted × Written)) (k : Kind) : Prop where
  tag   : ∃ q, named "type" ms = [.string q] ∧ q.string? = some k.name
  once  : ∀ name ∈ k.fields, ∃ w, named name ms = [w]
  -- A name is a text, which half of a pair of surrogates is not.
  names : ∀ m ∈ ms, m.1.string?.isSome = true
  -- The values of all other members can be read.
  other : ∀ m ∈ ms, ∀ s, m.1.string? = some s → s ≠ "type" → s ∉ k.fields → m.2.value?.isSome = true
  depth : (Written.object ms).depth ≤ 127

variable {v : Json} {js : List (String × Json)} {ms : List (Quoted × Written)} {k : Kind}
  {f : Frame} {text : String}

theorem asData_eq_ok_iff {s : String} : asData v = .ok s ↔ v = .string s :=
  asText_eq_ok_iff

theorem asCells_eq_ok_iff {n : UInt16} : asCells v = .ok n ↔ v = .integer n.toNat := by
  rw [asCells, map_eq_ok_iff]
  constructor
  case mp =>
    rintro ⟨m, hm, rfl⟩
    obtain ⟨rfl, hl⟩ := asUnsigned_eq_ok_iff.mp hm
    rw [UInt16.toNat_ofNat_of_lt' (Nat.lt_succ_of_le hl)]
  case mpr =>
    intro hv
    exact ⟨n.toNat, asUnsigned_eq_ok_iff.mpr ⟨hv, Nat.le_of_lt_succ n.toNat_lt⟩, UInt16.ofNat_toNat⟩

theorem ofMembers_input :
    ofMembers js .input = .ok f ↔ ∃ s, values "data" js = [.string s] ∧ f = .input s := by
  simp only [ofMembers, bind_eq_ok_iff, asData_eq_ok_iff, pure, Except.pure, Except.ok.injEq]
  constructor
  case mp =>
    rintro ⟨_, hc, v, hv, s, rfl, rfl⟩
    exact ⟨s, values_of_check hc rfl hv, rfl⟩
  case mpr =>
    rintro ⟨s, hv, rfl⟩
    refine ⟨(), check_of_values ?_, _, require_eq_ok_iff.mpr (by rw [hv]; rfl), s, rfl, rfl⟩
    simp [hv, asData, asText, Except.map]

theorem ofMembers_resize :
    ofMembers js .resize = .ok f ↔ ∃ size : Grid, values "cols" js = [.integer size.cols.toNat] ∧
      values "rows" js = [.integer size.rows.toNat] ∧ f = .resize size := by
  simp only [ofMembers, bind_eq_ok_iff, asCells_eq_ok_iff, pure, Except.pure,
    Except.ok.injEq]
  constructor
  case mp =>
    rintro ⟨_, hc, _, hcols, _, hrows, c, rfl, r, rfl, rfl⟩
    exact ⟨⟨c, r⟩, values_of_check hc rfl hcols, values_of_check hc rfl hrows, rfl⟩
  case mpr =>
    rintro ⟨size, hcols, hrows, rfl⟩
    refine ⟨(), check_of_values ?_, _, require_eq_ok_iff.mpr (by rw [hcols]; rfl), _,
      require_eq_ok_iff.mpr (by rw [hrows]; rfl), _, rfl, _, rfl, rfl⟩
    simp only [List.forall_mem_cons, hcols, hrows, List.cons.injEq, and_true, exists_eq_left',
      asCells_eq_ok_iff.mpr rfl, Except.map, List.not_mem_nil, true_and]
    nofun

theorem toNat_lt_two_pow (n : UInt16) : n.toNat < Nat.pow 2 64 :=
  Nat.lt_trans n.toNat_lt (by decide)

-- The fields have the values that have been written for them.
theorem ofMembers_eq_ok_iff (h : Without "type" ms js) :
    ofMembers js k = .ok f ↔ f.kind = k ∧ Carried ms f := by
  cases k
  case input =>
    have hd {s : String} : values "data" js = [.string s] ↔ _ := h.values_eq_string_iff (by decide)
    simp only [ofMembers_input, hd]
    constructor
    case mp =>
      rintro ⟨s, ⟨q, hq, hs⟩, rfl⟩
      exact ⟨rfl, .input hq hs⟩
    case mpr =>
      rintro ⟨hk, hc⟩
      cases hc
      case input q s hq hs => exact ⟨s, ⟨q, hq, hs⟩, rfl⟩
      case resize          => cases hk
  case resize =>
    have hcols {n : UInt16} : values "cols" js = [.integer n.toNat] ↔ _ :=
      h.values_eq_integer_iff (by decide) (toNat_lt_two_pow n)
    have hrows {n : UInt16} : values "rows" js = [.integer n.toNat] ↔ _ :=
      h.values_eq_integer_iff (by decide) (toNat_lt_two_pow n)
    simp only [ofMembers_resize, hcols, hrows]
    constructor
    case mp =>
      rintro ⟨size, ⟨c, hc, hn⟩, ⟨r, hr, hm⟩, rfl⟩
      exact ⟨rfl, .resize hc hn hr hm⟩
    case mpr =>
      rintro ⟨hk, hc⟩
      cases hc
      case input                     => cases hk
      case resize c r size hc hn hr hm => exact ⟨size, ⟨c, hc, hn⟩, ⟨r, hr, hm⟩, rfl⟩

theorem lookup_variants {s : String} : tagging.variants.lookup s = some k ↔ s = k.name := by
  simp only [tagging, Kind.name, List.lookup_cons, List.lookup_nil]
  cases k <;> grind

theorem variant?_eq_some_iff {w : Written} :
    tagging.variant? w = some k ↔ ∃ q, w = .string q ∧ q.string? = some k.name := by
  cases w
  case string q => simp [Tagging.variant?, Option.bind_eq_some_iff, lookup_variants]
  all_goals simp [Tagging.variant?]

theorem reads_read {ts : List Token} {cs : List Char} (hd : (Written.object ms).depth ≤ maxDepth)
    (hs : Spaced ((Written.object ms).tokens ++ ts) cs) :
    Reads (read cs)
      (((tagging.members? none ms).bind fun r => r.1.map fun k => (k, .named r.2)).bind
        fun r => (ofFields r.1 r.2).toOption) ts := by
  apply (Tagging.reads_read hd hs).bind
  rintro ⟨k, fields⟩ rest hr
  dsimp only
  cases ofFields k fields
  case error => exact .error
  case ok    => exact .ok hr

theorem members?_tagging :
    tagging.members? none ms = some (some k, js) ↔
      Without "type" ms js ∧ ∃ q, named "type" ms = [.string q] ∧ q.string? = some k.name := by
  rw [Tagging.members?_eq_some_iff]
  refine and_congr_right fun _ => ?_
  simp only [Option.toList_none, Option.toList_some, List.map_nil, List.nil_append,
    List.map_singleton, List.map_eq_singleton_iff, variant?_eq_some_iff]
  constructor
  case mp =>
    rintro ⟨_, hn, q, rfl, hq⟩
    exact ⟨q, hn, hq⟩
  case mpr =>
    rintro ⟨q, hn, hq⟩
    exact ⟨_, hn, q, rfl, hq⟩

-- Just the frames that have been written are read.
theorem decode_eq_ok_iff (hd : (Written.object ms).depth ≤ maxDepth)
    (hs : Spaced (Written.object ms).tokens text.toList) :
    decode text = .ok f ↔
      Legible "type" ms ∧
      (∃ q, named "type" ms = [.string q] ∧ q.string? = some f.kind.name) ∧ Carried ms f := by
  rw [← List.append_nil (Written.tokens _)] at hs
  rw [decode, Decoder.run_eq_ok_iff (reads_read hd hs)]
  constructor
  case mp =>
    intro h
    obtain ⟨r, hr, hf⟩ := Option.bind_eq_some_iff.mp h
    obtain ⟨⟨found, js⟩, hm, hr⟩ := Option.bind_eq_some_iff.mp hr
    obtain ⟨k, rfl, rfl⟩ := Option.map_eq_some_iff.mp hr
    obtain ⟨hw, ht⟩ := members?_tagging.mp hm
    obtain ⟨rfl, hc⟩ := (ofMembers_eq_ok_iff hw).mp (toOption_eq_some_iff.mp hf)
    exact ⟨exists_without_iff.mp ⟨js, hw⟩, ht, hc⟩
  case mpr =>
    rintro ⟨hl, ht, hc⟩
    obtain ⟨js, hw⟩ := exists_without_iff.mpr hl
    have hf := (ofMembers_eq_ok_iff hw).mpr ⟨rfl, hc⟩
    simp [members?_tagging.mpr ⟨hw, ht⟩, ofFields, hf, Except.toOption]

theorem Kind.name_injective {k l : Kind} (h : k.name = l.name) : k = l :=
  Option.some.inj ((ofName?_eq_some_iff.mpr rfl).symm.trans (ofName?_eq_some_iff.mpr h))

theorem Kind.Fits.isSome_value? {w : Written} (h : k.Fits w) : w.value?.isSome = true := by
  match k, w, h with
  | .input, .string q, h => simpa [Kind.Fits, Written.value?] using h
  | .resize, .number l, ⟨n, hn, hl⟩ =>
    simp [Written.value?, Literal.value?_of_count hn (Nat.lt_of_le_of_lt hl (by decide))]

theorem Carried.fits (h : Carried ms f) :
    ∀ name ∈ f.kind.fields, ∀ w ∈ named name ms, f.kind.Fits w := by
  cases h
  case input q s hq hs =>
    simp [kind, Kind.fields, hq, Kind.Fits, hs]
  case resize c r size hc hn hr hm =>
    have hcols := Nat.le_of_lt_succ size.cols.toNat_lt
    have hrows := Nat.le_of_lt_succ size.rows.toNat_lt
    simp [kind, Kind.fields, hc, hr, Kind.Fits, hn, hm, hcols, hrows]

namespace Describes

variable (h : Describes ms k)

include h

theorem legible (hf : ∀ name ∈ k.fields, ∀ w ∈ named name ms, k.Fits w) : Legible "type" ms := by
  intro m hm
  obtain ⟨s, hs⟩ := Option.isSome_iff_exists.mp (h.names m hm)
  refine ⟨s, hs, fun ht => ?_⟩
  by_cases hk : s ∈ k.fields
  case pos =>
    exact (hf s hk m.2 (by simpa [named] using ⟨m.1, hm, hs⟩)).isSome_value?
  case neg => exact h.other m hm s hs ht hk

theorem exists_carried (hf : ∀ name ∈ k.fields, ∀ w ∈ named name ms, k.Fits w) :
    ∃ f : Frame, f.kind = k ∧ Carried ms f := by
  cases k
  case input =>
    obtain ⟨w, hw⟩ := h.once "data" (by simp [Kind.fields])
    have hf := hf "data" (by simp [Kind.fields]) w (by simp [hw])
    match w, hf with
    | .string q, hq =>
      obtain ⟨s, hs⟩ := Option.isSome_iff_exists.mp hq
      exact ⟨.input s, rfl, .input hw hs⟩
  case resize =>
    obtain ⟨c, hc⟩ := h.once "cols" (by simp [Kind.fields])
    obtain ⟨r, hr⟩ := h.once "rows" (by simp [Kind.fields])
    have hcols := hf "cols" (by simp [Kind.fields]) c (by simp [hc])
    have hrows := hf "rows" (by simp [Kind.fields]) r (by simp [hr])
    match c, r, hcols, hrows with
    | .number c, .number r, ⟨n, hn, hnl⟩, ⟨m, hm, hml⟩ =>
      refine ⟨.resize ⟨UInt16.ofNat n, UInt16.ofNat m⟩, rfl, .resize hc ?_ hr ?_⟩
      · rw [hn, UInt16.toNat_ofNat_of_lt' (Nat.lt_succ_of_le hnl)]
      · rw [hm, UInt16.toNat_ofNat_of_lt' (Nat.lt_succ_of_le hml)]

theorem decode_eq_ok_iff (hs : Spaced (Written.object ms).tokens text.toList) :
    decode text = .ok f ↔ f.kind = k ∧ Carried ms f := by
  obtain ⟨q, hq, hk⟩ := h.tag
  rw [Frame.decode_eq_ok_iff h.depth hs]
  constructor
  case mp =>
    rintro ⟨-, ⟨q', hq', hk'⟩, hc⟩
    obtain rfl : q = q' := by simpa [hq] using hq'
    exact ⟨Kind.name_injective (Option.some.inj (hk'.symm.trans hk)), hc⟩
  case mpr =>
    rintro ⟨rfl, hc⟩
    exact ⟨h.legible hc.fits, h.tag, hc⟩

end Describes

-- A frame is read just if the values of its fields are right, and it has these values.
theorem decode_described (h : Describes ms k)
    (hs : Spaced (Written.object ms).tokens text.toList) :
    ((∃ f, decode text = .ok f) ↔ ∀ name ∈ k.fields, ∀ w ∈ named name ms, k.Fits w) ∧
      ∀ f, decode text = .ok f ↔ f.kind = k ∧ Carried ms f := by
  refine ⟨?_, fun f => h.decode_eq_ok_iff hs⟩
  simp only [h.decode_eq_ok_iff hs]
  constructor
  case mp =>
    rintro ⟨f, rfl, hc⟩
    exact hc.fits
  case mpr => exact h.exists_carried

-- The fields are out of order, and there are blanks and two members of another name.
theorem decode_described_shuffled :
    decode
      " \x7b \"rows\" : 24 , \"x\" : [ ] , \"type\" : \"resize\" , \"x\" : 1 , \"cols\" : 80 \x7d" =
      .ok (.resize ⟨80, 24⟩) := by
  let ms : List (Quoted × Written) :=
    [(.of "rows", .number (.of 24)), (.of "x", .array []), (.of "type", .string (.of "resize")),
      (.of "x", .number (.of 1)), (.of "cols", .number (.of 80))]
  have hx : (Literal.of 1).value?.isSome = true := rfl
  have hd : Describes ms .resize := by
    constructor
    case depth => simp [ms, depth, membersDepth, itemsDepth]
    all_goals
      simp [ms, Kind.fields, Kind.name, named, Quoted.string?_of, Written.value?, itemsValue?, hx]
  have hr : Carried ms (.resize ⟨80, 24⟩) :=
    .resize (c := .of 80) (r := .of 24) (by simp [ms, named, Quoted.string?_of]) (by decide)
      (by simp [ms, named, Quoted.string?_of]) (by decide)
  refine ((decode_described hd ?_).2 _).mpr ⟨rfl, hr⟩
  exact spaced_flatMap [' '] (Written.object ms).tokens (List.forall_mem_singleton.mpr rfl)

end RemoteTerm.Frame
