import Mathlib.Data.List.DropRight
import RemoteTerm.Proofs.View.History
import RemoteTerm.Proofs.View.Latch
/-!
The latch of a view in the course of a run. Taps arm and disarm the modifiers one by one, the first
stroke that the latch applies to on a connected view uses up all of them, and nothing else touches
the latch.
-/

namespace RemoteTerm

namespace Latch

variable {l : Latch} {c : Command}

-- A latch without modifiers applies to nothing.
theorem encoded?_disarmed (c : Command) : encoded? {} c = none := by
  cases h : encoded? {} c
  case none   => rfl
  case some s => cases (encoded?_ne_empty h).2

theorem routeKey_route {p : KeyPress} (h : l.encoded? (.press p) = none) :
    (l.routeKey p).2 = (routeKey {} p).2 := by
  cases hr : p.clipboardRoute?
  case some r => rw [routeKey_of_clipboard hr, routeKey_of_clipboard hr]
  case none =>
    have he : p.key.encodeLatched l.armed = none := by simpa [encoded?, hr] using h
    rw [routeKey_of_unencoded hr he, routeKey_of_unencoded hr rfl]

end Latch

namespace View

variable {v : View} {s : Surroundings} {c : Command}

-- A latch that does not apply to a command has no part in the text.
theorem text?_of_unencoded (h : v.latch.encoded? c = none) :
    v.text? s c = text? { v with latch := {} } s c := by
  cases c <;> try rfl
  case press p => simp only [text?, Latch.routeKey_route h]
  case compose chunk =>
    simp only [text?, Latch.routeText_eq, Latch.encodeText_of_none h, Latch.encodeText_disarmed]
  case button k =>
    have h' : (Key.named k).encodeLatched ({} : Latch).armed = none := rfl
    simp only [text?, Latch.routeButton, Latch.encodeKey_of_none h, Latch.encodeKey_of_none h']

end View

namespace Turn

-- What a latch makes of the stroke that a turn brings. Where there is no connection the stroke is
-- dropped, and nothing is made of it.
def encoded? (l : Latch) (t : Turn) : Option String :=
  match t.cause with
  | .wake (.command c) => if t.view.session.isConnected then l.encoded? c else none
  | _                  => none

-- The text that the latch of the view itself has gone into.
def spent? (t : Turn) : Option String :=
  t.encoded? t.view.latch

def toggled? (t : Turn) : Option Modifier :=
  match t.cause with
  | .wake (.command (.toggle m)) => some m
  | _                            => none

-- The same turn, by a view with nothing armed.
def disarmed (t : Turn) : Turn :=
  { t with view := { t.view with latch := {} } }

variable {t : Turn} {l : Latch} {m : Modifier} {text : String}

theorem encoded?_eq_some (h : t.encoded? l = some text) :
    ∃ c, t.cause = .wake (.command c) ∧ t.view.session.isConnected = true ∧
      l.encoded? c = some text := by
  simp only [encoded?] at h
  split at h <;> try cases h
  case h_1 c hc =>
    obtain ⟨hv, h⟩ := Option.ite_none_right_eq_some.mp h
    exact ⟨c, hc, hv, h⟩

theorem encoded?_disarmed (t : Turn) : t.encoded? {} = none := by
  cases h : t.encoded? {}
  case none => rfl
  case some =>
    obtain ⟨c, -, -, hc⟩ := encoded?_eq_some h
    cases (Latch.encoded?_disarmed c).symm.trans hc

theorem unspent_iff {v : View} {s : Surroundings} {c : Command} :
    spent? ⟨v, s, .wake (.command c)⟩ = none ↔
      v.session.isConnected = false ∨ v.latch.encoded? c = none := by
  simp only [spent?, encoded?]
  cases v.session.isConnected <;> simp

theorem after_latch_of_spent (h : t.spent? = some text) : t.after.latch = {} := by
  obtain ⟨v, s, c⟩ := t
  obtain ⟨c, rfl, hv, hc⟩ := encoded?_eq_some h
  exact (spends hv hc).1

-- Where the latch is used up, its text is all that goes out.
theorem effects_of_spent (h : t.spent? = some text) :
    t.effects = (t.view.channel.map (Effect.transmit · (.input text))).toList := by
  obtain ⟨v, s, c⟩ := t
  obtain ⟨c, rfl, hv, hc⟩ := encoded?_eq_some h
  exact (spends hv hc).2

theorem after_latch_of_toggled (h : t.toggled? = some m) :
    t.after.latch = t.view.latch.toggle m := by
  simp only [toggled?] at h
  split at h <;> cases h
  case h_1.refl hc =>
    obtain ⟨v, s, c⟩ := t
    obtain rfl := hc
    rw [after_latch]
    rfl

-- Neither a stroke that the latch does not apply to nor anything else touches the latch.
theorem after_latch_of_neither (hs : t.spent? = none) (ht : t.toggled? = none) :
    t.after.latch = t.view.latch := by
  obtain ⟨v, s, c⟩ := t
  cases c <;> try exact after_latch _
  case wake w =>
    cases w <;> try exact after_latch _
    case connected r => cases r <;> exact after_latch _
    case command c =>
      cases c <;> try exact after_latch _
      case toggle  => cases ht
      case touch e => rw [after_latch]; cases e <;> rfl
      all_goals exact keeps rfl (unspent_iff.mp hs)

-- Where the latch is not used up, it has no part in what is sent.
theorem inputs_of_unspent (h : t.spent? = none) : t.inputs = t.disarmed.inputs := by
  rw [inputs_eq_typed, inputs_eq_typed]
  obtain ⟨v, s, c⟩ := t
  cases c <;> try rfl
  case wake w =>
    cases w <;> try rfl
    case command c =>
      simp only [typed, disarmed]
      obtain hv | he := unspent_iff.mp h
      case inl => simp [hv]
      case inr => rw [View.text?_of_unencoded he]; rfl

end Turn

namespace History

-- The modifiers that were tapped, in order.
def toggled (ts : History) : List Modifier :=
  ts.filterMap Turn.toggled?

-- The turns since the latch was last used up, or all of them if it never was.
def sinceSpent (ts : History) : History :=
  ts.rtakeWhile (·.spent?.isNone)

-- What becomes of the latch in a run that ends with a view.
structure Latched (ts : History) (v : View) : Prop where
  -- A modifier is armed by an odd number of taps since the latch was last used up.
  armed (m) : v.latch.armed.contains m = true ↔ (sinceSpent ts).toggled.count m % 2 = 1
  -- To use the latch up is to disarm all modifiers at once, and to send the text that they have
  -- gone into.
  spent {t text} : t ∈ ts → t.spent? = some text →
    t.after.latch = {} ∧ ∃ i, t.view.channel = some i ∧ t.effects = [.transmit i (.input text)]
  -- What any other turn sends is what it would send with nothing armed.
  plain {t} : t ∈ ts → t.spent? = none → t.inputs = t.disarmed.inputs
  tapped {t m} : t ∈ ts → t.toggled? = some m → t.after.latch = t.view.latch.toggle m
  kept {t} : t ∈ ts → t.spent? = none → t.toggled? = none → t.after.latch = t.view.latch
  -- The latch as it is after some turn waits for the first stroke that it applies to on a connected
  -- view, and is used up by that one alone, if nobody taps it meanwhile.
  first {pre u mid t post text} :
    ts = pre ++ u :: (mid ++ t :: post) →
    (∀ x ∈ mid, x.toggled? = none ∧ x.encoded? u.after.latch = none) →
    t.encoded? u.after.latch = some text →
    (∀ x ∈ mid, x.spent? = none) ∧ t.spent? = some text ∧
      ∀ x ∈ post.takeWhile (·.toggled?.isNone), x.spent? = none

variable {ts : History} {t : Turn} {m : Modifier} {text : String}

theorem toggled_concat : toggled (ts ++ [t]) = toggled ts ++ t.toggled?.toList :=
  filterMap_concat ..

theorem sinceSpent_of_spent (h : t.spent? = some text) : sinceSpent (ts ++ [t]) = [] :=
  List.rtakeWhile_concat_neg _ _ _ (by simp [h])

theorem sinceSpent_of_kept (h : t.spent? = none) :
    sinceSpent (ts ++ [t]) = sinceSpent ts ++ [t] :=
  List.rtakeWhile_concat_pos _ _ _ (by simp [h])

-- Each turn keeps what the taps say of the latch.
theorem armed_concat
    (h : ∀ m, t.view.latch.armed.contains m = true ↔ (sinceSpent ts).toggled.count m % 2 = 1) (m) :
    t.after.latch.armed.contains m = true ↔ (sinceSpent (ts ++ [t])).toggled.count m % 2 = 1 := by
  cases hs : t.spent?
  case some text =>
    rw [Turn.after_latch_of_spent hs, sinceSpent_of_spent hs]
    simp [toggled, Modifiers.contains_empty]
  case none =>
    rw [sinceSpent_of_kept hs, toggled_concat, List.count_append]
    cases ht : t.toggled?
    case none => simpa [Turn.after_latch_of_neither hs ht] using h m
    case some n =>
      simp only [Turn.after_latch_of_toggled ht, Latch.toggle, Modifiers.contains_toggle,
        Option.toList_some, List.count_singleton, beq_iff_eq]
      split
      case isTrue  => rw [Bool.not_eq_true', ← Bool.not_eq_true, h m]; omega
      case isFalse => simpa using h m

end History

namespace View.Run

variable {v v₀ : View} {id : Uuid} {o : Options} {ts pre mid post : History} {t u : Turn}

theorem latch_armed (r : Run v₀ ts v) (h₀ : v₀.latch = {}) (m : Modifier) :
    v.latch.armed.contains m = true ↔ (History.sinceSpent ts).toggled.count m % 2 = 1 := by
  induction r generalizing m
  case start s =>
    have hn : ∀ m, v₀.latch.armed.contains m = true ↔
        (History.sinceSpent []).toggled.count m % 2 = 1 := by
      simp [h₀, History.sinceSpent, History.toggled, Modifiers.contains_empty]
    exact History.armed_concat (t := ⟨v₀, s, .start⟩) hn m
  case wake s w r ho hw hi => exact History.armed_concat hi m
  case closing s r hi      => exact History.armed_concat hi m

-- A latch that nobody taps waits for a stroke that it applies to.
theorem latch_waits (r : Run v₀ (pre ++ u :: (mid ++ t :: post)) v)
    (hm : ∀ x ∈ mid, x.toggled? = none ∧ x.encoded? u.after.latch = none) :
    t.view.latch = u.after.latch := by
  induction mid using List.reverseRecOn generalizing t post
  case nil => rw [r.next]
  case append_singleton mid x hi =>
    have ⟨ht, hs⟩ := hm x (by simp)
    have r : Run v₀ (pre ++ u :: (mid ++ x :: t :: post)) v := by simpa using r
    have hx : x.view.latch = u.after.latch := hi r fun y hy => hm y (by simp [hy])
    have r : Run v₀ ((pre ++ u :: mid) ++ x :: t :: post) v := by simpa using r
    rw [r.next, Turn.after_latch_of_neither (by rwa [Turn.spent?, hx]) ht, hx]

-- So none of the strokes before that one uses it up.
theorem spent?_of_waits {x : Turn} (r : Run v₀ (pre ++ u :: (mid ++ post)) v)
    (hm : ∀ x ∈ mid, x.toggled? = none ∧ x.encoded? u.after.latch = none) (hx : x ∈ mid) :
    x.spent? = none := by
  obtain ⟨mid, rest, rfl⟩ := List.append_of_mem hx
  have r : Run v₀ (pre ++ u :: (mid ++ x :: (rest ++ post))) v := by simpa using r
  rw [Turn.spent?, r.latch_waits fun y hy => hm y (by simp [hy])]
  exact (hm x hx).2

-- Taps arm the latch, one stroke uses it up, and nothing else has a part in it.
theorem armed_by_taps (r : Run (create id o) ts v) : History.Latched ts v where
  armed := r.latch_armed rfl
  spent {t text} ht hs := by
    obtain ⟨c, hc, hv, -⟩ := Turn.encoded?_eq_some hs
    obtain ⟨pre, post, rfl⟩ := List.append_of_mem ht
    obtain ⟨-, h⟩ | r := r.cut
    case inl => rw [h] at hc; cases hc
    case inr =>
      obtain ⟨i, hi⟩ := Option.isSome_iff_exists.mp (View.channel_of_connected r.fits.line hv)
      exact ⟨Turn.after_latch_of_spent hs, i, hi, by rw [Turn.effects_of_spent hs, hi]; rfl⟩
  plain _  := Turn.inputs_of_unspent
  tapped _ := Turn.after_latch_of_toggled
  kept _   := Turn.after_latch_of_neither
  first {pre u mid t post text} he hm ht := by
    subst he
    have hs : t.spent? = some text := by rw [Turn.spent?, r.latch_waits hm, ht]
    have r' : Run (create id o) (pre ++ u :: mid ++ t ::
        (post.takeWhile (·.toggled?.isNone) ++ post.dropWhile (·.toggled?.isNone))) v := by
      simpa using r
    refine ⟨fun x => r.spent?_of_waits hm, hs, fun x => r'.spent?_of_waits fun y hy => ⟨?_, ?_⟩⟩
    · simpa using List.mem_takeWhile_imp hy
    · rw [Turn.after_latch_of_spent hs, Turn.encoded?_disarmed]

-- Ctrl is tapped and a key is pressed before there is a connection. The key is dropped, and the
-- same key is a control code once there is one.
theorem armed_by_taps_before_connected :
    ∃ ts v, Run (create default {}) ts v ∧ History.Latched ts v ∧
      ts.map Turn.toggled? = [none, some .ctrl, none, none, none] ∧
      ts.map Turn.spent? = [none, none, none, none, some "\x03"] ∧
      v.latch = {} := by
  have r : Run (create default {}) _ _ := (Run.start ⟨0, none, "", none⟩)
    |>.wake ⟨0, none, "", none⟩ (.command (.toggle .ctrl)) rfl (.command _)
    |>.wake ⟨0, none, "", none⟩ (.command (.press { key := .char 'c' })) rfl (.command _)
    |>.wake ⟨0, none, "", none⟩ (.connected (some 0)) rfl (.connected _ rfl)
    |>.wake ⟨0, none, "", none⟩ (.command (.press { key := .char 'c' })) rfl (.command _)
  exact ⟨_, _, r, r.armed_by_taps, rfl, by decide +kernel, by decide +kernel⟩

end View.Run

end RemoteTerm
