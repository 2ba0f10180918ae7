import RemoteTerm.Proofs.Keyboard.Text
/-!
Where a key press goes. A press that asks for the clipboard gets it, an armed latch takes any other
key that it can encode, and what is left goes by the modifiers that are held, or to the host where
the command key is one of them.
-/

namespace RemoteTerm

namespace KeyPress

-- A letter in either case, with Ctrl and Shift or with the command key.
def Asks (p : KeyPress) (small capital : Char) : Prop :=
  (p.key = .char small ∨ p.key = .char capital) ∧
    ((p.held.ctrl = true ∧ p.held.shift = true) ∨ p.command = true)

instance (p : KeyPress) (small capital : Char) : Decidable (p.Asks small capital) :=
  inferInstanceAs (Decidable (_ ∧ _))

def AsksClipboard (p : KeyPress) : Prop :=
  p.Asks 'c' 'C' ∨ p.Asks 'v' 'V'

instance (p : KeyPress) : Decidable p.AsksClipboard :=
  inferInstanceAs (Decidable (_ ∨ _))

variable {p : KeyPress}

theorem Asks.other (h : p.Asks 'c' 'C') : ¬ p.Asks 'v' 'V' := by
  intro hv
  obtain ⟨hc | hc, -⟩ := h <;> simp [Asks, hc] at hv

theorem clipboardRoute?_eq (p : KeyPress) :
    p.clipboardRoute? =
      if p.Asks 'c' 'C' then some .copy else if p.Asks 'v' 'V' then some .paste else none := by
  obtain ⟨k, held, command⟩ := p
  cases k
  case char c =>
    have hc : c.toLower = 'c' ↔ c = 'c' ∨ c = 'C' := toLower_eq_iff (by decide) (by decide) rfl
    have hv : c.toLower = 'v' ↔ c = 'v' ∨ c = 'V' := toLower_eq_iff (by decide) (by decide) rfl
    simp only [clipboardRoute?, isChord, hc, hv, Asks, Key.char.injEq]
    cases command <;> cases held.ctrl <;> cases held.shift <;> simp
  all_goals simp [clipboardRoute?, Asks]

theorem clipboardRoute?_eq_copy_iff : p.clipboardRoute? = some .copy ↔ p.Asks 'c' 'C' := by
  rw [clipboardRoute?_eq]
  by_cases hc : p.Asks 'c' 'C' <;> by_cases hv : p.Asks 'v' 'V' <;> simp [hc, hv]

theorem clipboardRoute?_eq_paste_iff : p.clipboardRoute? = some .paste ↔ p.Asks 'v' 'V' := by
  rw [clipboardRoute?_eq]
  by_cases hc : p.Asks 'c' 'C'
  case pos => simp [hc, hc.other]
  case neg => simp [hc]

theorem clipboardRoute?_ne_send (text : String) : p.clipboardRoute? ≠ some (.send text) := by
  rw [clipboardRoute?_eq]
  split
  case isTrue  => simp
  case isFalse => split <;> simp

theorem clipboardRoute?_eq_none_iff : p.clipboardRoute? = none ↔ ¬ p.AsksClipboard := by
  rw [clipboardRoute?_eq, AsksClipboard]
  by_cases hc : p.Asks 'c' 'C' <;> by_cases hv : p.Asks 'v' 'V' <;> simp [hc, hv]

theorem heldRoute_of_command (h : p.command = true) : p.heldRoute = .ignore :=
  if_pos h

theorem heldRoute_of_no_command (h : p.command = false) :
    p.heldRoute = (p.key.encodeHeld p.held).elim .ignore .send := by
  simp only [heldRoute, h]
  cases p.key.encodeHeld p.held <;> rfl

theorem heldRoute_cases (p : KeyPress) :
    p.heldRoute = .ignore ∨
      ∃ text, p.command = false ∧ p.key.encodeHeld p.held = some text ∧
        p.heldRoute = .send text := by
  cases hp : p.command
  case true  => exact .inl (heldRoute_of_command hp)
  case false =>
    rw [heldRoute_of_no_command hp]
    cases p.key.encodeHeld p.held
    case none      => exact .inl rfl
    case some text => exact .inr ⟨text, rfl, rfl, rfl⟩

end KeyPress

namespace Latch

variable {l : Latch} {p : KeyPress} {r : Route} {text : String}

theorem routeKey_of_clipboard (h : p.clipboardRoute? = some r) : l.routeKey p = (l, r) := by
  simp only [routeKey, h]

theorem routeKey_of_encoded (hc : p.clipboardRoute? = none)
    (h : p.key.encodeLatched l.armed = some text) : l.routeKey p = ({}, .send text) := by
  have hm : ¬ p.key.isModifier = true := fun hm => by
    rw [Key.encodeLatched_modifier hm] at h
    cases h
  simp only [routeKey, hc, if_neg hm, encodeKey_of_some h]

theorem routeKey_of_unencoded (hc : p.clipboardRoute? = none)
    (h : p.key.encodeLatched l.armed = none) : l.routeKey p = (l, p.heldRoute) := by
  simp only [routeKey, hc, encodeKey_of_none h]
  split
  case isFalse   => rfl
  case isTrue hm =>
    -- A pure modifier is ignored before the held modifiers are looked at, to the same effect.
    obtain ⟨k, held, command⟩ := p
    cases k <;> cases hm
    cases command <;> rfl

-- The three ways of a key press, by precedence.
theorem routeKey_cases (l : Latch) (p : KeyPress) :
    (∃ r, p.clipboardRoute? = some r ∧ l.routeKey p = (l, r)) ∨
    (∃ text, p.clipboardRoute? = none ∧ p.key.encodeLatched l.armed = some text ∧
      l.routeKey p = ({}, .send text)) ∨
    (p.clipboardRoute? = none ∧ p.key.encodeLatched l.armed = none ∧
      l.routeKey p = (l, p.heldRoute)) := by
  cases hc : p.clipboardRoute?
  case some r => exact .inl ⟨r, rfl, routeKey_of_clipboard hc⟩
  case none =>
    cases he : p.key.encodeLatched l.armed
    case some text => exact .inr (.inl ⟨text, rfl, rfl, routeKey_of_encoded hc he⟩)
    case none      => exact .inr (.inr ⟨rfl, rfl, routeKey_of_unencoded hc he⟩)

-- What is sent comes from the latch, which is used up then, or from what is held.
theorem routeKey_of_send (h : (l.routeKey p).2 = .send text) :
    (p.key.encodeLatched l.armed = some text ∧ (l.routeKey p).1 = {}) ∨
    (p.key.encodeLatched l.armed = none ∧ p.command = false ∧
      p.key.encodeHeld p.held = some text ∧ (l.routeKey p).1 = l) := by
  obtain ⟨r, hc, hr⟩ | ⟨text', -, he, hr⟩ | ⟨-, he, hr⟩ := l.routeKey_cases p <;> rw [hr] at h ⊢
  case inl =>
    obtain rfl : r = .send text := h
    exact absurd hc (KeyPress.clipboardRoute?_ne_send text)
  case inr.inl =>
    cases h
    exact .inl ⟨he, rfl⟩
  case inr.inr =>
    obtain hi | ⟨text', hp, hh, hs⟩ := p.heldRoute_cases
    case inl => cases hi.symm.trans h
    case inr =>
      cases hs.symm.trans h
      exact .inr ⟨he, hp, hh, rfl⟩

theorem routeKey_asks_iff (hr : r = .copy ∨ r = .paste) :
    (l.routeKey p).2 = r ↔ p.clipboardRoute? = some r := by
  obtain ⟨r', hc, h⟩ | ⟨text, hc, -, h⟩ | ⟨hc, -, h⟩ := l.routeKey_cases p <;>
    simp only [h, hc]
  case inl => simp
  case inr.inl => obtain rfl | rfl := hr <;> simp
  case inr.inr =>
    obtain hh | ⟨text, -, -, hh⟩ := p.heldRoute_cases <;> obtain rfl | rfl := hr <;> simp [hh]

theorem routeKey_copy_iff : (l.routeKey p).2 = .copy ↔ p.Asks 'c' 'C' :=
  (routeKey_asks_iff (.inl rfl)).trans KeyPress.clipboardRoute?_eq_copy_iff

theorem routeKey_paste_iff : (l.routeKey p).2 = .paste ↔ p.Asks 'v' 'V' :=
  (routeKey_asks_iff (.inr rfl)).trans KeyPress.clipboardRoute?_eq_paste_iff

theorem routeKey_unsent (h : ∀ m, p.key.encodeHeld m = none) : (l.routeKey p).2 ≠ .send text := by
  intro hs
  obtain ⟨he, -⟩ | ⟨-, -, he, -⟩ := routeKey_of_send hs
  case inl => cases (h _).symm.trans (Key.encodeLatched_eq_some_iff.mp he).2
  case inr => cases (h _).symm.trans he

theorem routeKey_keeps_or_spends (l : Latch) (p : KeyPress) :
    (l.routeKey p).1 = l ∨
      ∃ text, p.key.encodeLatched l.armed = some text ∧ l.routeKey p = ({}, .send text) := by
  obtain ⟨r, -, h⟩ | ⟨text, -, he, h⟩ | ⟨-, -, h⟩ := l.routeKey_cases p
  · exact .inl (congrArg Prod.fst h)
  · exact .inr ⟨text, he, h⟩
  · exact .inl (congrArg Prod.fst h)

-- To be able to encode a key, a latch has to be armed.
theorem disarm_ne (h : p.key.encodeLatched l.armed = some text) : {} ≠ l := by
  rintro rfl
  cases (Key.encodeLatched_ne_empty h).2

-- Where a key press goes: the clipboard before the latch, and the latch before what is held.
structure Routed (l : Latch) (p : KeyPress) : Prop where
  copy_iff : (l.routeKey p).2 = .copy ↔ p.Asks 'c' 'C'
  paste_iff : (l.routeKey p).2 = .paste ↔ p.Asks 'v' 'V'
  modifier {k : ModifierKey} (text : String) : p.key = .modifier k → (l.routeKey p).2 ≠ .send text
  unidentified {name : String} (text : String) : p.key = .unidentified name →
    (l.routeKey p).2 ≠ .send text
  -- The latch changes just if what it makes of the key is sent, and then it is used up.
  spent_iff : (l.routeKey p).1 ≠ l ↔
    ∃ text, p.key.encodeLatched l.armed = some text ∧ (l.routeKey p).2 = .send text
  spent : (l.routeKey p).1 ≠ l → (l.routeKey p).1 = {}
  -- For a key that the latch can encode it makes no difference what is held with it, as long as
  -- that does not ask for the clipboard.
  latched {text : String} (held command) : p.key.encodeLatched l.armed = some text →
    ¬ KeyPress.AsksClipboard { p with held, command } →
    l.routeKey { p with held, command } = ({}, .send text)
  held : p.command = false → ¬ p.AsksClipboard → p.key.encodeLatched l.armed = none →
    l.routeKey p = (l, (p.key.encodeHeld p.held).elim .ignore .send)

theorem routed (l : Latch) (p : KeyPress) : l.Routed p where
  copy_iff          := routeKey_copy_iff
  paste_iff         := routeKey_paste_iff
  modifier _ hk     := routeKey_unsent fun _ => by rw [hk]; rfl
  unidentified _ hk := routeKey_unsent fun _ => by rw [hk]; rfl
  spent_iff := by
    constructor
    case mp =>
      intro hl
      obtain hk | ⟨text, he, h⟩ := l.routeKey_keeps_or_spends p
      case inl => exact absurd hk hl
      case inr => exact ⟨text, he, congrArg Prod.snd h⟩
    case mpr =>
      rintro ⟨text, he, h⟩
      obtain ⟨-, hl⟩ | ⟨hn, -⟩ := routeKey_of_send h
      case inl => exact hl ▸ disarm_ne he
      case inr => cases hn.symm.trans he
  spent hl := by
    obtain hk | ⟨text, -, h⟩ := l.routeKey_keeps_or_spends p
    case inl => exact absurd hk hl
    case inr => exact congrArg Prod.fst h
  latched _ _ he hc := routeKey_of_encoded (KeyPress.clipboardRoute?_eq_none_iff.mpr hc) he
  held hp hc he := by
    rw [routeKey_of_unencoded (KeyPress.clipboardRoute?_eq_none_iff.mpr hc) he,
      KeyPress.heldRoute_of_no_command hp]

-- What a host would want that keeps the command key to itself: a press with that key asks for the
-- clipboard, or else it comes to nothing.
structure LeftToHost (l : Latch) (p : KeyPress) : Prop where
  unsent (text : String) : (l.routeKey p).2 ≠ .send text
  kept : (l.routeKey p).1 = l
  copy : p.Asks 'c' 'C' → (l.routeKey p).2 = .copy
  paste : p.Asks 'v' 'V' → (l.routeKey p).2 = .paste
  ignored : ¬ p.AsksClipboard → (l.routeKey p).2 = .ignore

theorem leftToHost_of_clipboard (hc : p.clipboardRoute? = some r) : l.LeftToHost p where
  unsent text h := by
    rw [routeKey_of_clipboard hc] at h
    obtain rfl : r = .send text := h
    exact KeyPress.clipboardRoute?_ne_send text hc
  kept       := by rw [routeKey_of_clipboard hc]
  copy       := routeKey_copy_iff.mpr
  paste      := routeKey_paste_iff.mpr
  ignored hn := by cases (KeyPress.clipboardRoute?_eq_none_iff.mpr hn).symm.trans hc

theorem leftToHost_of_ignored (h : l.routeKey p = (l, .ignore)) : l.LeftToHost p where
  unsent text := by rw [h]; exact nofun
  kept        := by rw [h]
  copy        := routeKey_copy_iff.mpr
  paste       := routeKey_paste_iff.mpr
  ignored _   := by rw [h]

-- The latch goes before the host: it takes a key that it can encode, and any other press with the
-- command key is left to the host.
theorem leftToHost_iff (hp : p.command = true) :
    (l.LeftToHost p ↔ p.AsksClipboard ∨ p.key.encodeLatched l.armed = none) ∧
      ∀ text, ¬ p.AsksClipboard → p.key.encodeLatched l.armed = some text →
        l.routeKey p = ({}, .send text) := by
  obtain ⟨r, hc, -⟩ | ⟨text, hc, he, hr⟩ | ⟨hc, he, hr⟩ := l.routeKey_cases p
  case inl =>
    have ha : p.AsksClipboard := Decidable.not_not.mp fun hn => by
      cases (KeyPress.clipboardRoute?_eq_none_iff.mpr hn).symm.trans hc
    exact ⟨iff_of_true (leftToHost_of_clipboard hc) (.inl ha), fun _ hn => absurd ha hn⟩
  case inr.inl =>
    have hn := KeyPress.clipboardRoute?_eq_none_iff.mp hc
    have hs : ¬ l.LeftToHost p := fun h => h.unsent text (congrArg Prod.snd hr)
    refine ⟨iff_of_false hs (by simp [hn, he]), fun text' _ he' => ?_⟩
    cases he.symm.trans he'
    exact hr
  case inr.inr =>
    rw [KeyPress.heldRoute_of_command hp] at hr
    refine ⟨iff_of_true (leftToHost_of_ignored hr) (.inr he), fun text _ he' => ?_⟩
    cases he.symm.trans he'

-- Ctrl is armed. It has no code for a nine, so that one is left to the host, and it takes an R.
theorem leftToHost_ctrl_armed :
    LeftToHost ⟨{ ctrl := true }⟩ { key := .char '9', command := true } ∧
      routeKey ⟨{ ctrl := true }⟩ { key := .char 'r', command := true } = ({}, .send "\x12") :=
  ⟨(leftToHost_iff rfl).1.mpr (.inr (by decide)),
    (leftToHost_iff rfl).2 "\x12" (by decide) (by decide)⟩

-- So with Ctrl armed a host does not get what it would want.
theorem not_leftToHost_ctrl_armed :
    ¬ LeftToHost ⟨{ ctrl := true }⟩ { key := .char 'r', command := true } :=
  fun h => h.unsent "\x12" (by decide)

end Latch

end RemoteTerm
