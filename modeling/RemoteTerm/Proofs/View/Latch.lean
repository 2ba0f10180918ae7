import RemoteTerm.Proofs.Keyboard.Routing
import RemoteTerm.Proofs.View.Input
/-!
What becomes of the latch when a view gets a key, a chunk of text or a button. A connected view
spends the latch on each of these that it applies to, and sends what comes of it. Otherwise the
latch stays as it is.
-/

namespace RemoteTerm

-- The commands that an armed latch may apply to.
def Command.isStroke : Command → Bool
  | press _ | compose _ | button _ => true
  | _                              => false

namespace Latch

-- What the latch makes of a stroke, if it applies to it.
def encoded? (l : Latch) : Command → Option String
  | .press p       => if p.clipboardRoute?.isSome then none else p.key.encodeLatched l.armed
  | .compose chunk => encodeTextLatched chunk l.armed
  | .button k      => (Key.named k).encodeLatched l.armed
  | _              => none

variable {l : Latch} {c : Command} {p : KeyPress} {chunk text : String} {k : NamedKey}

theorem encoded?_ne_empty (h : l.encoded? c = some text) :
    text ≠ "" ∧ l.armed.isEmpty = false := by
  cases c <;> simp only [encoded?, reduceCtorEq, Option.ite_none_left_eq_some] at h
  case press p  => exact Key.encodeLatched_ne_empty h.2
  case button k => exact Key.encodeLatched_ne_empty h
  case compose chunk =>
    obtain ⟨c, rest, first, -, hf, rfl⟩ := encodeTextLatched_eq_some h
    obtain ⟨hn, hm⟩ := Key.encodeLatched_ne_empty hf
    exact ⟨fun he => hn (String.append_eq_empty_iff.mp he).1, hm⟩

theorem routeKey_of_some (h : l.encoded? (.press p) = some text) :
    l.routeKey p = ({}, .send text) := by
  simp only [encoded?, Option.ite_none_left_eq_some] at h
  exact routeKey_of_encoded (by simpa using h.1) h.2

theorem routeKey_of_none (h : l.encoded? (.press p) = none) : (l.routeKey p).1 = l := by
  cases hr : p.clipboardRoute?
  case some r => rw [routeKey_of_clipboard hr]
  case none =>
    have he : p.key.encodeLatched l.armed = none := by simpa [encoded?, hr] using h
    rw [routeKey_of_unencoded hr he]

theorem routeText_of_some (h : l.encoded? (.compose chunk) = some text) :
    l.routeText chunk = ({}, text) := by
  rw [routeText_eq, encodeText_of_some h]

theorem routeText_of_none (h : l.encoded? (.compose chunk) = none) : (l.routeText chunk).1 = l := by
  rw [routeText_eq, encodeText_of_none h]

theorem routeButton_of_some (h : l.encoded? (.button k) = some text) :
    l.routeButton k = ({}, some text) := by
  simp only [routeButton, encodeKey_of_some h]

theorem routeButton_of_none (h : l.encoded? (.button k) = none) : (l.routeButton k).1 = l := by
  simp only [routeButton, encodeKey_of_none h]

end Latch

namespace View

variable {v : View} {s : Surroundings} {c : Command} {text : String}

theorem attend_latch_of_some (hc : v.session.isConnected = true)
    (h : v.latch.encoded? c = some text) : (v.attend s (.command c)).latch = {} := by
  cases c <;> simp only [attend, keepLatch, if_pos hc]
  case press p       => rw [Latch.routeKey_of_some h]
  case compose chunk => rw [Latch.routeText_of_some h]
  case button k      => rw [Latch.routeButton_of_some h]
  all_goals cases h

theorem attend_latch_of_none (hs : c.isStroke = true) (h : v.latch.encoded? c = none) :
    (v.attend s (.command c)).latch = v.latch := by
  cases c <;> simp only [attend, keepLatch]
  case press p       => rw [Latch.routeKey_of_none h]; split <;> rfl
  case compose chunk => rw [Latch.routeText_of_none h]; split <;> rfl
  case button k      => rw [Latch.routeButton_of_none h]; split <;> rfl
  all_goals cases hs

theorem attend_latch_of_not_connected (hs : c.isStroke = true)
    (hc : v.session.isConnected = false) : (v.attend s (.command c)).latch = v.latch := by
  cases c <;> simp only [attend, keepLatch, hc] <;> first | rfl | cases hs

theorem text?_of_encoded (h : v.latch.encoded? c = some text) : v.text? s c = some text := by
  cases c <;> try cases h
  case press p       => simp only [text?, Latch.routeKey_of_some h]
  case compose chunk => simp only [text?, Latch.routeText_of_some h]
  case button k      => simp only [text?, Latch.routeButton_of_some h]

end View

namespace Turn

variable {t : Turn} {v : View} {s : Surroundings} {c : Command} {text : String}

theorem after_latch (t : Turn) : t.after.latch = t.attended.latch :=
  after_keeps (·.latch) View.performAll_latch (fun _ _ => rfl) fun _ => rfl

theorem atOnce_of_encoded (h : v.latch.encoded? c = some text) :
    atOnce ⟨v, s, .wake (.command c)⟩ = [] := by
  cases c <;> try cases h
  case press p => simp only [atOnce, View.react, View.obey, View.press, Latch.routeKey_of_some h]
  all_goals rfl

-- A connected view spends its latch on a stroke that it applies to.
theorem spends (hc : v.session.isConnected = true) (h : v.latch.encoded? c = some text) :
    (after ⟨v, s, .wake (.command c)⟩).latch = {} ∧
      effects ⟨v, s, .wake (.command c)⟩ =
        (v.channel.map (Effect.transmit · (.input text))).toList := by
  have he : event? ⟨v, s, .wake (.command c)⟩ = some (.input text) := by
    have ht := View.text?_of_encoded (s := s) h
    cases c <;> first | cases h | exact congrArg (Option.map _) ht
  refine ⟨?_, ?_⟩
  · rw [after_latch]
    exact View.attend_latch_of_some hc h
  · rw [effects_of_input he hc (Latch.encoded?_ne_empty h).1, atOnce_of_encoded h]
    rfl

-- Otherwise a stroke leaves the latch alone.
theorem keeps (hs : c.isStroke = true)
    (h : v.session.isConnected = false ∨ v.latch.encoded? c = none) :
    (after ⟨v, s, .wake (.command c)⟩).latch = v.latch := by
  rw [after_latch]
  obtain hc | he := h
  case inl => exact View.attend_latch_of_not_connected hs hc
  case inr => exact View.attend_latch_of_none hs he

end Turn

end RemoteTerm
