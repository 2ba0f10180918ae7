import Mathlib.Data.List.DropRight
import RemoteTerm.Address
/-!
The parts of the address of a session. What stands before the slash is the base without the slashes
at its end, however many there are, and what stands behind it is the session as it is.
-/

namespace RemoteTerm

def StartsWithSlash (s : String) : Prop :=
  ∃ t, s = "/" ++ t

def EndsInSlash (s : String) : Prop :=
  ∃ t, s = t ++ "/"

def slashes : Nat → String
  | 0     => ""
  | n + 1 => slashes n ++ "/"

-- The longest beginning of a text that does not end in a slash.
structure Stem (stem text : String) : Prop where
  start : stem.toList <+: text.toList
  bare : ¬ EndsInSlash stem
  longest {other : String} : other.toList <+: text.toList → ¬ EndsInSlash other →
    other.length ≤ stem.length

-- A text is cut in two by a run of slashes that goes on to neither side.
structure Cut (text front : String) (n : Nat) (back : String) : Prop where
  eq : text = front ++ slashes n ++ back
  front : ¬ EndsInSlash front
  back : ¬ StartsWithSlash back

variable {s p q front back base base' session session' : String} {n i j k : Nat}

-- A text does not end in a slash, or it has one slash more than a shorter text.
@[elab_as_elim]
theorem slash_induction {P : String → Prop} (bare : ∀ s, ¬ EndsInSlash s → P s)
    (slash : ∀ s, P s → P (s ++ "/")) (s : String) : P s := by
  by_cases h : EndsInSlash s
  case neg => exact bare s h
  case pos =>
    obtain ⟨t, ht⟩ := h
    have : t.length < s.length := by
      rw [ht, String.length_append]
      exact Nat.lt_add_one _
    exact ht ▸ slash t (slash_induction bare slash t)
termination_by s.length

theorem toList_slash (s : String) : (s ++ "/").toList = s.toList ++ ['/'] :=
  String.toList_append

theorem trimSlashes_of_bare (h : ¬ EndsInSlash s) : trimSlashes s = s := by
  have hs : s.toList.rdropWhile (· = '/') = s.toList := by
    rw [List.rdropWhile_eq_self_iff]
    intro hn hl
    have hl : s.toList.getLast hn = '/' := of_decide_eq_true hl
    refine h ⟨String.ofList s.toList.dropLast, String.toList_inj.mp ?_⟩
    rw [toList_slash, String.toList_ofList, ← hl, List.dropLast_append_getLast]
  exact (congrArg String.ofList hs).trans String.ofList_toList

theorem trimSlashes_slash (s : String) : trimSlashes (s ++ "/") = trimSlashes s := by
  simp [trimSlashes]

theorem trimSlashes_slashes (s : String) (n : Nat) :
    trimSlashes (s ++ slashes n) = trimSlashes s := by
  induction n
  case zero      => rw [slashes, String.append_empty]
  case succ n ih => rw [slashes, ← String.append_assoc, trimSlashes_slash, ih]

theorem exists_slashes (s : String) : ∃ n, s = trimSlashes s ++ slashes n := by
  induction s using slash_induction
  case bare s h   => exact ⟨0, by rw [trimSlashes_of_bare h, slashes, String.append_empty]⟩
  case slash s ih =>
    obtain ⟨n, hn⟩ := ih
    exact ⟨n + 1, by rw [trimSlashes_slash, slashes, ← String.append_assoc, ← hn]⟩

theorem slash_slashes (n : Nat) : "/" ++ slashes n = slashes (n + 1) := by
  induction n
  case zero      => rfl
  case succ n ih => rw [slashes, ← String.append_assoc, ih, ← slashes]

theorem length_slashes (n : Nat) : (slashes n).length = n := by
  induction n
  case zero      => rfl
  case succ n ih => rw [slashes, String.length_append, ih]; rfl

namespace Stem

theorem of_bare (h : ¬ EndsInSlash s) : Stem s s where
  start        := List.prefix_rfl
  bare         := h
  longest hs _ := String.length_toList ▸ String.length_toList ▸ hs.length_le

theorem slash (h : Stem p s) : Stem p (s ++ "/") where
  start := toList_slash s ▸ h.start.trans (List.prefix_append ..)
  bare  := h.bare
  longest {other} hs hb := by
    rw [toList_slash] at hs
    obtain he | hs := List.prefix_concat_iff.mp hs
    case inl => exact absurd ⟨s, String.toList_inj.mp (he.trans (toList_slash s).symm)⟩ hb
    case inr => exact h.longest hs hb

theorem unique (hp : Stem p s) (hq : Stem q s) : p = q := by
  have hpq : p.toList.length ≤ q.toList.length := by
    rw [String.length_toList, String.length_toList]
    exact hq.longest hp.start hp.bare
  have hqp : q.toList.length ≤ p.toList.length := by
    rw [String.length_toList, String.length_toList]
    exact hp.longest hq.start hq.bare
  have h : p.toList <+: q.toList := List.prefix_of_prefix_length_le hp.start hq.start hpq
  exact String.toList_inj.mp (h.eq_of_length_le hqp)

end Stem

theorem stem_trimSlashes (s : String) : Stem (trimSlashes s) s := by
  induction s using slash_induction
  case bare s h   => rw [trimSlashes_of_bare h]; exact .of_bare h
  case slash s ih => rw [trimSlashes_slash]; exact ih.slash

theorem stem_iff : Stem p s ↔ trimSlashes s = p :=
  ⟨(stem_trimSlashes s).unique, fun h => h ▸ stem_trimSlashes s⟩

-- A text has one stem, with one number of slashes behind it.
theorem append_slashes_inj (hp : ¬ EndsInSlash p) (hq : ¬ EndsInSlash q) :
    p ++ slashes i = q ++ slashes j ↔ p = q ∧ i = j := by
  constructor
  case mpr => rintro ⟨rfl, rfl⟩; rfl
  case mp =>
    intro h
    have hpq : p = q := by
      rw [← trimSlashes_of_bare hp, ← trimSlashes_slashes p i, h, trimSlashes_slashes,
        trimSlashes_of_bare hq]
    rw [hpq, String.append_right_inj] at h
    exact ⟨hpq, by rw [← length_slashes i, h, length_slashes]⟩

theorem sessionAddress_of_stem (h : Stem p base) :
    sessionAddress base session = p ++ "/" ++ session := by
  rw [sessionAddress, stem_iff.mp h]

-- Where the session begins there is one slash more than the session itself begins with.
theorem cut_iff (hb : ¬ StartsWithSlash back) :
    Cut (sessionAddress base (slashes k ++ back)) front n back ↔ Stem front base ∧ n = k + 1 := by
  have hs := stem_trimSlashes base
  have ha : sessionAddress base (slashes k ++ back) =
      trimSlashes base ++ slashes (k + 1) ++ back := by
    rw [sessionAddress, ← slash_slashes]
    simp only [String.append_assoc]
  constructor
  case mp =>
    intro h
    have he := h.eq
    rw [ha, String.append_left_inj, append_slashes_inj hs.bare h.front] at he
    exact ⟨stem_iff.mpr he.1, he.2.symm⟩
  case mpr =>
    rintro ⟨hf, rfl⟩
    exact ⟨stem_iff.mp hf ▸ ha, hf.bare, hb⟩

theorem sessionAddress_inj_session :
    sessionAddress base session = sessionAddress base session' ↔ session = session' := by
  rw [sessionAddress, sessionAddress, String.append_right_inj]

theorem sessionAddress_inj_base :
    sessionAddress base session = sessionAddress base' session ↔
      trimSlashes base = trimSlashes base' := by
  rw [sessionAddress, sessionAddress, String.append_left_inj, String.append_left_inj]

theorem trimSlashes_eq_iff :
    trimSlashes base = trimSlashes base' ↔
      ∃ p i j, base = p ++ slashes i ∧ base' = p ++ slashes j := by
  constructor
  case mp =>
    intro h
    obtain ⟨i, hi⟩ := exists_slashes base
    obtain ⟨j, hj⟩ := exists_slashes base'
    exact ⟨trimSlashes base, i, j, hi, h ▸ hj⟩
  case mpr =>
    rintro ⟨p, i, j, rfl, rfl⟩
    rw [trimSlashes_slashes, trimSlashes_slashes]

-- How the address of a session is put together.
structure Joined (base session : String) : Prop where
  stem : ∃ p, Stem p base
  address {p : String} : Stem p base → sessionAddress base session = p ++ "/" ++ session
  -- Slashes at the end of the base make no difference.
  trailing (k : Nat) : sessionAddress (base ++ slashes k) session = sessionAddress base session
  -- There is one slash before a session that does not bring any of its own.
  separated {front : String} {n : Nat} : ¬ StartsWithSlash session →
    (Cut (sessionAddress base session) front n session ↔ Stem front base ∧ n = 1)
  -- The sessions of a server have addresses of their own, and servers share the address of a
  -- session just if their bases are the same up to slashes at the end.
  ne {other : String} : session ≠ other → sessionAddress base session ≠ sessionAddress base other
  shared_iff {other : String} : sessionAddress base session = sessionAddress other session ↔
    ∃ p i j, base = p ++ slashes i ∧ other = p ++ slashes j
  connector : (Connector.forSession base session).address = sessionAddress base session

theorem joined (base session : String) : Joined base session where
  stem         := ⟨_, stem_trimSlashes base⟩
  address      := sessionAddress_of_stem
  trailing k   := sessionAddress_inj_base.mpr (trimSlashes_slashes base k)
  separated hs := by simpa [slashes] using cut_iff (k := 0) hs
  ne hne he    := hne (sessionAddress_inj_session.mp he)
  shared_iff   := sessionAddress_inj_base.trans trimSlashes_eq_iff
  connector    := rfl

end RemoteTerm
