import Mathlib.Data.List.TakeWhile
import RemoteTerm.Proofs.Config.Accepted
import RemoteTerm.Proofs.View.Usable
import RemoteTerm.Surface.Console
/-!
The size that a console measures. Each side of it is what the environment says, if that is of use,
and else what the configuration says. So a view with a console never tells its server of a grid
without cells.
-/

namespace RemoteTerm

namespace Text

variable {before body after cs : List Char}

theorem dropWhile_of_all_not {p : Char → Bool} (h : ∀ c ∈ cs, p c = false) :
    cs.dropWhile p = cs := by
  cases cs
  case nil       => rfl
  case cons c cs => simp [h c]

-- What is trimmed away are blanks.
theorem exists_trim (cs : List Char) :
    ∃ before after, cs = before ++ trim cs ++ after ∧ (∀ c ∈ before, isBlank c = true) ∧
      ∀ c ∈ after, isBlank c = true := by
  let rest := cs.dropWhile isBlank
  refine ⟨cs.takeWhile isBlank, (rest.reverse.takeWhile isBlank).reverse, ?_, ?_, ?_⟩
  · have h : trim cs ++ (rest.reverse.takeWhile isBlank).reverse = rest := by
      rw [trim, ← List.reverse_append, List.takeWhile_append_dropWhile, List.reverse_reverse]
    rw [List.append_assoc, h, List.takeWhile_append_dropWhile]
  · exact fun c => List.mem_takeWhile_imp
  · exact fun c hc => List.mem_takeWhile_imp (List.mem_reverse.mp hc)

theorem trim_eq (hb : ∀ c ∈ before, isBlank c = true) (ha : ∀ c ∈ after, isBlank c = true)
    (h : ∀ c ∈ body, isBlank c = false) : trim (before ++ body ++ after) = body := by
  have hd : (before ++ body ++ after).dropWhile isBlank = (body ++ after).dropWhile isBlank := by
    rw [List.append_assoc, List.dropWhile_append_of_pos hb]
  cases body
  case nil =>
    rw [trim, hd, List.nil_append, List.dropWhile_eq_nil_iff.mpr ha]
    rfl
  case cons c cs =>
    have hc : (c :: cs ++ after).dropWhile isBlank = c :: cs ++ after := by simp [h c]
    have ha' : ∀ c ∈ after.reverse, isBlank c = true := fun c hc => ha c (List.mem_reverse.mp hc)
    rw [trim, hd, hc, List.reverse_append, List.dropWhile_append_of_pos ha',
      dropWhile_of_all_not fun c hc => h c (List.mem_reverse.mp hc), List.reverse_reverse]

theorem not_isBlank_of_isDigit {c : Char} (h : c.isDigit = true) : isBlank c = false := by
  obtain ⟨hl, hu⟩ : 48 ≤ c.toNat ∧ c.toNat ≤ 57 := Char.isDigit_iff_toNat.mp h
  have hc {d : Char} (hd : ¬ (48 ≤ d.toNat ∧ d.toNat ≤ 57)) : c ≠ d := by
    rintro rfl
    exact hd ⟨hl, hu⟩
  have hr : ¬ c ≤ '\r' := fun h => by
    have : c.toNat ≤ 13 := h
    omega
  have hq : ¬ '\u2000' ≤ c := fun h => by
    have : 8192 ≤ c.toNat := h
    omega
  simp [isBlank, hr, hq, hc]

end Text

namespace Surface.Console

-- A text gives a number: in decimal digits, with or without a plus, and with any blanks around.
inductive Numerates : String → Nat → Prop
  | digits {text before sign digits after} :
    text.toList = before ++ (sign ++ digits) ++ after →
    (∀ c ∈ before, Text.isBlank c = true) → (∀ c ∈ after, Text.isBlank c = true) →
    sign = [] ∨ sign = ['+'] → digits ≠ [] → (∀ c ∈ digits, c.isDigit = true) →
    Numerates text (Nat.ofDigitChars 10 digits 0)

-- One side of the grid, by the variable for it and the side to fall back on.
inductive Side (fallback : UInt16) : Option String → UInt16 → Prop
  | given {text n} : Numerates text n.toNat → n ≠ 0 → Side fallback (some text) n
  | unset : Side fallback none fallback
  | useless {text} :
    (∀ n : UInt16, Numerates text n.toNat → n = 0) → Side fallback (some text) fallback

variable {cs digits : List Char} {text : String} {k : Nat} {n fallback : UInt16}
  {var : Option String}

theorem natural?_eq_some_iff :
    natural? cs = some k ↔
      cs ≠ [] ∧ (∀ c ∈ cs, c.isDigit = true) ∧ Nat.ofDigitChars 10 cs 0 = k := by
  have hv : cs.foldl (fun n d => n * 10 + (d.toNat - '0'.toNat)) 0 = Nat.ofDigitChars 10 cs 0 := by
    simp only [Nat.ofDigitChars, Nat.mul_comm]
  simp only [natural?, hv]
  split
  case isTrue h => simp [h]
  case isFalse h =>
    split
    case isTrue hd  => simpa [h] using fun _ => List.all_eq_true.mp hd
    case isFalse hd => simpa [h] using fun hd' => absurd (List.all_eq_true.mpr hd') hd

-- The number of a numeral that may have a plus in front.
def numeral? : List Char → Option Nat
  | '+' :: ds => natural? ds
  | ds        => natural? ds

theorem numeral?_eq_some_iff :
    numeral? cs = some k ↔
      ∃ sign digits, cs = sign ++ digits ∧ (sign = [] ∨ sign = ['+']) ∧ digits ≠ [] ∧
        (∀ c ∈ digits, c.isDigit = true) ∧ Nat.ofDigitChars 10 digits 0 = k := by
  constructor
  case mp =>
    intro h
    simp only [numeral?] at h
    split at h
    case h_1 ds => exact ⟨['+'], ds, rfl, .inr rfl, natural?_eq_some_iff.mp h⟩
    case h_2    => exact ⟨[], cs, rfl, .inl rfl, natural?_eq_some_iff.mp h⟩
  case mpr =>
    rintro ⟨sign, digits, rfl, rfl | rfl, hd⟩
    case inr => exact natural?_eq_some_iff.mpr hd
    case inl =>
      simp only [List.nil_append, numeral?]
      split
      case h_1 ds => cases hd.2.1 '+' List.mem_cons_self
      case h_2    => exact natural?_eq_some_iff.mpr hd

-- Neither a digit nor a plus is trimmed away.
theorem numeral?_trim_eq_some_iff :
    numeral? (Text.trim text.toList) = some k ↔ Numerates text k := by
  rw [numeral?_eq_some_iff]
  constructor
  case mpr =>
    rintro ⟨ht, hb, ha, hs, hn, hd⟩
    rename_i before sign digits after
    refine ⟨sign, digits, ?_, hs, hn, hd, rfl⟩
    rw [ht]
    apply Text.trim_eq hb ha
    intro c hc
    obtain hc | hc := List.mem_append.mp hc
    case inl => obtain rfl | rfl := hs <;> simp_all; decide
    case inr => exact Text.not_isBlank_of_isDigit (hd c hc)
  case mp =>
    rintro ⟨sign, digits, ht, hs, hn, hd, rfl⟩
    obtain ⟨before, after, hc, hb, ha⟩ := Text.exists_trim text.toList
    exact .digits (ht ▸ hc) hb ha hs hn hd

theorem dimension?_eq_some_iff : dimension? text = some n ↔ Numerates text n.toNat ∧ n ≠ 0 := by
  have he : dimension? text = (numeral? (Text.trim text.toList)).bind fun k =>
      if 0 < k ∧ k < UInt16.size then some (UInt16.ofNat k) else none := by
    simp only [dimension?]
    split
    case h_1 h => rw [h]; rfl
    case h_2 h => rw [numeral?.eq_2 _ h]; rfl
  have hz : n ≠ 0 ↔ 0 < n.toNat := by
    rw [Nat.pos_iff_ne_zero, ne_eq, ← UInt16.toNat_inj, UInt16.toNat_zero]
  simp only [he, Option.bind_eq_some_iff, numeral?_trim_eq_some_iff, hz]
  constructor
  case mp =>
    rintro ⟨k, hk, h⟩
    split at h
    case isTrue hr =>
      obtain rfl : UInt16.ofNat k = n := Option.some.inj h
      rw [UInt16.toNat_ofNat_of_lt' hr.2]
      exact ⟨hk, hr.1⟩
    case isFalse => cases h
  case mpr =>
    rintro ⟨hn, hz⟩
    exact ⟨n.toNat, hn, by rw [if_pos ⟨hz, n.toNat_lt_size⟩, UInt16.ofNat_toNat]⟩

-- The side that is measured is the one that is called for, and no other is.
theorem side_iff : Side fallback var n ↔ (var.bind dimension?).getD fallback = n := by
  constructor
  case mp =>
    rintro (⟨hn, hz⟩ | _ | hu)
    case given => simp [dimension?_eq_some_iff.mpr ⟨hn, hz⟩]
    case unset => rfl
    case useless text =>
      have hd : dimension? text = none := by
        rw [Option.eq_none_iff_forall_ne_some]
        intro m hm
        obtain ⟨hn, hz⟩ := dimension?_eq_some_iff.mp hm
        exact hz (hu m hn)
      simp [hd]
  case mpr =>
    rintro rfl
    cases var
    case none => exact .unset
    case some text =>
      cases hd : dimension? text
      case some m =>
        obtain ⟨hn, hz⟩ := dimension?_eq_some_iff.mp hd
        simpa [hd] using Side.given hn hz
      case none =>
        have hu (n : UInt16) (hn : Numerates text n.toNat) : n = 0 :=
          Decidable.byContradiction fun hz => by
            simp [dimension?_eq_some_iff.mpr ⟨hn, hz⟩] at hd
        simpa [hd] using Side.useless hu

-- What can be relied on in a console, whatever is in its environment and however that changes.
structure Sound (c : Console) : Prop where
  cols env : Side c.fallback.cols (env.lookup "COLUMNS") (c.measure env).cols
  rows env : Side c.fallback.rows (env.lookup "LINES") (c.measure env).rows
  usable env : (c.measure env).Usable
  -- What a view tells its server of sizes if it measures nothing but this console.
  told {id o ts v} :
    View.Run (.create id o) ts v → (∀ t ∈ ts, ∃ env, t.around.measured = some (c.measure env)) →
    History.Usable ts

theorem Side.pos (h : Side fallback var n) (hf : fallback ≠ 0) : 1 ≤ n := by
  have hn : n ≠ 0 := by
    cases h
    case given hz => exact hz
    all_goals exact hf
  rw [UInt16.le_iff_toNat_le]
  exact Nat.pos_of_ne_zero fun hz => hn (UInt16.toNat_inj.mp hz)

-- The console that falls back on the grid of a configuration.
theorem sound_of_accepted {b c : Config} (h : b.accept = .ok c) : Sound ⟨c.grid⟩ := by
  have hv : c.Valid := by
    obtain ⟨rfl, hf⟩ := Config.accept_eq_ok_iff.mp h
    exact Config.flaw?_eq_none_iff.mp hf
  have hc env := side_iff.mpr (rfl : _ = (measure ⟨c.grid⟩ env).cols)
  have hr env := side_iff.mpr (rfl : _ = (measure ⟨c.grid⟩ env).rows)
  have hu env : (measure ⟨c.grid⟩ env).Usable := ⟨(hc env).pos hv.cols, (hr env).pos hv.rows⟩
  refine ⟨hc, hr, hu, fun r hm => (r.usable fun t ht g hg => ?_).1⟩
  obtain ⟨env, he⟩ := hm t ht
  exact Option.some.inj (he.symm.trans hg) ▸ hu env

-- A console of one column, whose height does not fit into 16 bits. The size is not told narrower.
theorem sound_of_accepted_one_column :
    ∃ ts v, View.Run (.create default {}) ts v ∧
      ts.flatMap Turn.sent = [(0, .resize ⟨1, 24⟩), (0, .resize ⟨1, 24⟩)] ∧
      History.Usable ts ∧ Sound ⟨Config.grid {}⟩ := by
  let env : Environment := [("LINES", "65536"), ("COLUMNS", " +0001\n")]
  let s : Surroundings := ⟨0, measure ⟨Config.grid {}⟩ env, "", none⟩
  have r : View.Run (.create default {}) _ _ := (View.Run.start s)
    |>.wake s (.connected (some 0)) rfl (.connected _ rfl)
  have h := sound_of_accepted (b := {}) rfl
  exact ⟨_, _, r, by decide +kernel, h.told r (by simp [s]), h⟩

end Surface.Console

end RemoteTerm
