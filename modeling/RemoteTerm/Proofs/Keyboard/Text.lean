import RemoteTerm.Keyboard
import RemoteTerm.Proofs.Key.Encoding
/-!
Composed text under an armed latch. A chunk goes the way of its first character: what the latch
makes of that character as a key is what it makes of the chunk, and the rest of the chunk is left
alone.
-/

namespace RemoteTerm

-- A chunk is empty, or it has a first character.
@[elab_as_elim]
theorem chunk_cases {P : String → Prop} (empty : P "")
    (first : ∀ c rest, P (String.singleton c ++ rest)) (chunk : String) : P chunk := by
  rw [← String.ofList_toList (s := chunk)]
  cases chunk.toList
  case nil       => exact empty
  case cons c cs => exact String.ofList_cons ▸ first c (String.ofList cs)

theorem encodeTextLatched_first (c : Char) (rest : String) (m : Modifiers) :
    encodeTextLatched (String.singleton c ++ rest) m =
      ((Key.char c).encodeLatched m).map (· ++ rest) := by
  simp [encodeTextLatched]

theorem encodeTextLatched_eq_some {chunk text : String} {m : Modifiers}
    (h : encodeTextLatched chunk m = some text) :
    ∃ c rest first, chunk = String.singleton c ++ rest ∧
      (Key.char c).encodeLatched m = some first ∧ text = first ++ rest := by
  cases chunk using chunk_cases
  case empty => cases h
  case first c rest =>
    rw [encodeTextLatched_first] at h
    obtain ⟨first, hf, rfl⟩ := Option.map_eq_some_iff.mp h
    exact ⟨c, rest, first, rfl, hf, rfl⟩

namespace Latch

variable {l : Latch} {k : Key} {c : Char} {chunk rest text : String}

theorem encodeKey_of_some (h : k.encodeLatched l.armed = some text) :
    l.encodeKey k = ({}, some text) := by
  simp only [encodeKey, h]
  rfl

theorem encodeKey_of_none (h : k.encodeLatched l.armed = none) : l.encodeKey k = (l, none) := by
  simp only [encodeKey, h]

@[simp]
theorem encodeKey_snd (l : Latch) (k : Key) : (l.encodeKey k).2 = k.encodeLatched l.armed := by
  cases h : k.encodeLatched l.armed
  case none   => rw [encodeKey_of_none h]
  case some s => rw [encodeKey_of_some h]

theorem encodeText_of_some (h : encodeTextLatched chunk l.armed = some text) :
    l.encodeText chunk = ({}, ⟨text, true⟩) := by
  simp only [encodeText, h]
  rfl

theorem encodeText_of_none (h : encodeTextLatched chunk l.armed = none) :
    l.encodeText chunk = (l, ⟨chunk, false⟩) := by
  simp only [encodeText, h]

theorem encodeText_first_of_some (rest : String)
    (h : (Key.char c).encodeLatched l.armed = some text) :
    l.encodeText (String.singleton c ++ rest) = ({}, ⟨text ++ rest, true⟩) := by
  apply encodeText_of_some
  rw [encodeTextLatched_first, h]
  rfl

theorem encodeText_first_of_none (rest : String)
    (h : (Key.char c).encodeLatched l.armed = none) :
    l.encodeText (String.singleton c ++ rest) = (l, ⟨String.singleton c ++ rest, false⟩) := by
  apply encodeText_of_none
  rw [encodeTextLatched_first, h]
  rfl

-- A latch without modifiers leaves text alone.
theorem encodeText_disarmed (chunk : String) : encodeText {} chunk = ({}, ⟨chunk, false⟩) := by
  cases chunk using chunk_cases
  case empty        => rfl
  case first c rest => exact encodeText_first_of_none rest rfl

theorem routeText_eq (l : Latch) (chunk : String) :
    l.routeText chunk = ((l.encodeText chunk).1, (l.encodeText chunk).2.data) :=
  rfl

-- How a latch deals with a chunk of text, by what it makes of the first character as a key.
structure FollowsFirst (l : Latch) (chunk : String) : Prop where
  applied_iff : (l.encodeText chunk).2.applied = true ↔
    ∃ c rest text, chunk = String.singleton c ++ rest ∧ (l.encodeKey (.char c)).2 = some text
  -- Both use up the whole latch, and the chunk is sent as its first character with the rest as is.
  applied {c : Char} {rest text : String} : chunk = String.singleton c ++ rest →
    (l.encodeKey (.char c)).2 = some text →
    l.encodeText chunk = ({}, ⟨text ++ rest, true⟩) ∧ l.encodeKey (.char c) = ({}, some text)
  -- Otherwise both leave the latch, and the chunk, which may be empty, is sent as is.
  kept : (∀ c rest, chunk = String.singleton c ++ rest → (l.encodeKey (.char c)).2 = none) →
    l.encodeText chunk = (l, ⟨chunk, false⟩) ∧
      ∀ c rest, chunk = String.singleton c ++ rest → l.encodeKey (.char c) = (l, none)
  -- Where the first character is encoded, it may as well come as a chunk of its own.
  cut {c : Char} {rest text : String} : chunk = String.singleton c ++ rest →
    (l.encodeKey (.char c)).2 = some text →
    (l.routeText chunk).2 =
      (l.routeText (String.singleton c)).2 ++
        ((l.routeText (String.singleton c)).1.routeText rest).2
  -- Nothing but the first character is changed, and nothing is lost or added.
  routed {c : Char} {rest : String} : chunk = String.singleton c ++ rest →
    (l.routeText chunk).2 = (l.encodeKey (.char c)).2.getD (String.singleton c) ++ rest
  empty : chunk = "" → (l.routeText chunk).2 = ""

theorem followsFirst (l : Latch) (chunk : String) : l.FollowsFirst chunk where
  applied_iff := by
    constructor
    case mp =>
      cases chunk using chunk_cases
      case empty => exact nofun
      case first c rest =>
        cases h : (Key.char c).encodeLatched l.armed
        case none      => rw [encodeText_first_of_none rest h]; exact nofun
        case some text => exact fun _ => ⟨c, rest, text, rfl, by rw [encodeKey_snd, h]⟩
    case mpr =>
      rintro ⟨c, rest, text, rfl, h⟩
      rw [encodeText_first_of_some rest (l.encodeKey_snd _ ▸ h)]
  applied {c rest text} hc h := by
    rw [encodeKey_snd] at h
    rw [hc, encodeText_first_of_some rest h, encodeKey_of_some h]
    exact ⟨rfl, rfl⟩
  kept h := by
    simp only [encodeKey_snd] at h
    refine ⟨?_, fun c rest hc => encodeKey_of_none (h c rest hc)⟩
    cases chunk using chunk_cases
    case empty        => rfl
    case first c rest => exact encodeText_first_of_none rest (h c rest rfl)
  cut {c rest text} hc h := by
    rw [encodeKey_snd] at h
    have hs : l.encodeText (String.singleton c) = ({}, ⟨text, true⟩) := by
      simpa using encodeText_first_of_some "" h
    simp only [hc, routeText_eq, encodeText_first_of_some rest h, hs, encodeText_disarmed]
  routed {c rest} hc := by
    rw [hc, encodeKey_snd, routeText_eq]
    cases h : (Key.char c).encodeLatched l.armed
    case none      => rw [encodeText_first_of_none rest h]; rfl
    case some text => rw [encodeText_first_of_some rest h]; rfl
  empty hc := by rw [hc]; rfl

end Latch

end RemoteTerm
