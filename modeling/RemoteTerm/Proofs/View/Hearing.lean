import RemoteTerm.Proofs.Session.Step
import RemoteTerm.Proofs.View.Perform
import RemoteTerm.View.Stage
/-!
What a view hears: what it changes by itself on a wake, what it tells the session, and what it has
at hand when it does.
-/

namespace RemoteTerm

namespace Surroundings

-- The text that reading the clipboard gives, if there is a clipboard and it can be read.
def legible? (s : Surroundings) : Option String :=
  s.clipboard.bind (·.read.toOption)

theorem toOption_paste (s : Surroundings) :
    (Clipboard.paste s.clipboard).toOption = s.legible? := by
  simp only [legible?, Clipboard.paste]
  cases s.clipboard
  case none   => rfl
  case some c => cases h : c.read <;> simp [h, Except.toOption]

end Surroundings

namespace View

-- The text that a command comes to as input, whether or not there is a connection for it.
def text? (v : View) (s : Surroundings) : Command → Option String
  | .input text    => some text
  | .paste         => s.legible?
  | .press p       =>
    match (v.latch.routeKey p).2 with
    | .send text => some text
    | .paste     => s.legible?
    | _          => none
  | .compose chunk => some (v.latch.routeText chunk).2
  | .button k      => (v.latch.routeButton k).2
  | _              => none

-- What a wake tells the session.
def event? (v : View) (s : Surroundings) : Wake → Option Session.Event
  | .command .close              => some .teardown
  | .command c                   => (v.text? s c).map .input
  | .abandoned                   => some .teardown
  | .connected (some _)          => some (.opened s.measured)
  | .connected none     | .ended => some .lost
  | .output bytes                => some (.output bytes)
  | .reconnectDue                => some .reconnectDue
  | .redrawDue                   => some .redrawDue
  | .resizeSettled               => some (.viewport s.measured)
  | .flushDue                    => none

-- The notice that a wake raises by itself: the clipboard was asked and would not.
def complaint? (v : View) (s : Surroundings) : Wake → Option Notice
  | .command .paste     => pasting
  | .command (.press p) =>
    match (v.latch.routeKey p).2 with
    | .copy  => (Clipboard.copy s.clipboard s.selection).2
    | .paste => pasting
    | _      => none
  | _ => none
where
  pasting :=
    match Clipboard.paste s.clipboard with
    | .ok _         => none
    | .error notice => some notice

-- What a wake changes in the view itself, before the session hears of it.
def attend (v : View) (s : Surroundings) : Wake → View
  | .command (.press p)       => v.keepLatch (v.latch.routeKey p).1
  | .command (.compose chunk) => v.keepLatch (v.latch.routeText chunk).1
  | .command (.button k)      => v.keepLatch (v.latch.routeButton k).1
  | .command (.toggle m)      => { v with latch := v.latch.toggle m }
  | .command (.touch e)       => (v.feel s.now e).1
  | .command .resized         => { v with resizeAt := s.now.after v.debounce }
  | .connected (some channel) => { v with connecting := false, channel := some channel }
  | .connected none           => { v with connecting := false }
  | .ended                    => { v with channel := none }
  | .reconnectDue             => { v with reconnectAt := none }
  | .redrawDue                => { v with redrawAt := none }
  | .resizeSettled            => { v with resizeAt := none }
  | .flushDue                 => rearmFlush { v with touch := (v.touch.poll s.now).1 }
  | _                         => v

-- The wakes that a view is able to hear: a connect ends only if one is under way, output comes
-- only from a channel that is held, and a timer fires only if it is armed, and not before it is
-- due.
inductive Hears (v : View) (now : Instant) : Wake → Prop
  | command (c)   : Hears v now (.command c)
  | abandoned     : Hears v now .abandoned
  | connected (r) : v.connecting = true → Hears v now (.connected r)
  | output (b)    : v.channel.isSome → Hears v now (.output b)
  | ended         : v.channel.isSome → Hears v now .ended
  | timer (t due) : v.deadline? t = some due → due ≤ now → Hears v now (Stage.ofTimer t)

theorem Hears.connecting {v : View} {now : Instant} {r : Option ChannelId}
    (h : v.Hears now (.connected r)) : v.connecting = true := by
  generalize hw : Wake.connected r = w at h
  cases h <;> try cases hw
  case connected hd => exact hd
  case timer t _ _ _ => cases t <;> cases hw

-- A timer is heard only if it is armed, and not before it is due.
theorem Hears.deadline {v : View} {now : Instant} {w : Wake} (h : v.Hears now w) (τ : Timer)
    (hw : w = Stage.ofTimer τ) : ∃ due, v.deadline? τ = some due ∧ due ≤ now := by
  cases h
  case timer t due ht hn =>
    obtain rfl : t = τ := by cases t <;> cases τ <;> first | rfl | cases hw
    exact ⟨due, ht, hn⟩
  all_goals cases τ <;> cases hw

-- Keeping a latch changes nothing that does not depend on it.
theorem keepLatch_keeps {α : Type} (f : View → α) (h : ∀ v l, f { v with latch := l } = f v)
    (v : View) (l : Latch) : f (v.keepLatch l) = f v := by
  simp only [keepLatch]
  split
  case isTrue  => exact h v l
  case isFalse => rfl

theorem feel_session (v : View) (now : Instant) (e : Touch.Event) :
    (v.feel now e).1.session = v.session := by
  cases e <;> rfl

theorem attend_session (v : View) (s : Surroundings) (w : Wake) :
    (v.attend s w).session = v.session := by
  cases w <;> try rfl
  case command c =>
    cases c <;>
      first | rfl | exact keepLatch_keeps session (fun _ _ => rfl) v _ | apply feel_session
  case connected r => cases r <;> rfl

-- What comes of a wake that is attended to: the session is told of it, if it concerns the session.
def hear (v : View) (s : Surroundings) (w : Wake) : View × List Action :=
  match v.event? s w with
  | some e => (v.attend s w).tell e
  | none   => (v.attend s w, ((v.complaint? s w).map Action.notify).toList)

theorem event?_command (v : View) (s : Surroundings) (c : Command) :
    v.event? s (.command c) = some .teardown ∨ v.event? s (.command c) = none ∨
      ∃ text, v.event? s (.command c) = some (.input text) := by
  cases c
  case close => exact .inl rfl
  all_goals
    simp only [event?]
    cases v.text? s _ <;> simp

theorem command_event {v : View} {s : Surroundings} {c : Command} {e : Session.Event}
    (h : v.event? s (.command c) = some e) : e = .teardown ∨ ∃ text, e = .input text := by
  obtain hc | hc | ⟨text, hc⟩ := v.event?_command s c
  case inl     => exact .inl (Option.some.inj (h.symm.trans hc))
  case inr.inl => simp [hc] at h
  case inr.inr => exact .inr ⟨text, Option.some.inj (h.symm.trans hc)⟩

theorem complaint?_eq {v : View} {s : Surroundings} {w : Wake} {n : Notice}
    (h : v.complaint? s w = some n) : n = .clipboardUnavailable ∨ n = .clipboardDenied := by
  have paste {n} (h : complaint?.pasting s = some n) :
      n = .clipboardUnavailable ∨ n = .clipboardDenied := by
    simp only [complaint?.pasting, Clipboard.paste] at h
    grind
  have copy {n} (h : (Clipboard.copy s.clipboard s.selection).2 = some n) :
      n = .clipboardUnavailable ∨ n = .clipboardDenied := by
    simp only [Clipboard.copy] at h
    grind
  simp only [complaint?] at h
  split at h
  · exact paste h
  · split at h
    · exact copy h
    · exact paste h
    · simp at h
  · simp at h

-- What a view must have at hand for the session to hear of an event.
def Grounds (v : View) : Session.Event → Prop
  | .opened _     => v.connecting = true
  | .output _     => v.channel.isSome
  | .lost         => v.connecting = true ∨ v.channel.isSome
  | .reconnectDue => v.reconnectAt.isSome
  | .start        => False
  | _             => True

theorem Hears.grounds {v : View} {s : Surroundings} {w : Wake} {e : Session.Event}
    (h : v.Hears s.now w) (he : v.event? s w = some e) : v.Grounds e := by
  cases h
  case command c    => obtain rfl | ⟨text, rfl⟩ := command_event he <;> trivial
  case abandoned    => cases he; trivial
  case connected hd => rename_i r; cases r <;> cases he; exact .inl hd; exact hd
  case output hc    => cases he; exact hc
  case ended hc     => cases he; exact .inr hc
  case timer ht hn  =>
    rename_i τ due
    cases τ <;> cases he
    case reconnect.refl => exact Option.isSome_iff_exists.mpr ⟨_, ht⟩
    all_goals trivial

-- A wake is attended to, and reaches the session through its event alone.
theorem react_eq_hear (v : View) (s : Surroundings) (w : Wake) :
    ((v.react s w).1, (v.react s w).2.2) = v.hear s w := by
  cases w
  case connected r => cases r <;> rfl
  case command c =>
    cases c
    case paste =>
      simp only [react, obey, paste, hear, event?, text?, ← s.toOption_paste, complaint?,
        complaint?.pasting]
      cases Clipboard.paste s.clipboard <;> rfl
    case press p =>
      simp only [react, obey, press, hear, event?, text?, ← s.toOption_paste, complaint?,
        complaint?.pasting]
      cases (v.latch.routeKey p).2
      case paste => simp only [paste]; cases Clipboard.paste s.clipboard <;> rfl
      all_goals rfl
    case button k =>
      simp only [react, obey, button, hear, event?, text?, complaint?]
      cases (v.latch.routeButton k).2 <;> rfl
    all_goals rfl
  all_goals rfl

-- What a view does at once, before it carries out any action.
theorem react_atOnce {v : View} {s : Surroundings} {w : Wake} {e : Effect}
    (h : e ∈ (v.react s w).2.1) :
    (w = .ended ∧ ∃ i, e = .release i) ∨ (∃ text, e = .clip text) ∨ e = .surface .focus ∨
      ∃ d, e = .surface (.scroll d) := by
  cases w <;> simp only [react, List.not_mem_nil] at h
  case connected r => cases r <;> simp at h
  case ended =>
    obtain ⟨i, -, rfl⟩ := by simpa [release] using h
    exact .inl ⟨rfl, i, rfl⟩
  case flushDue =>
    obtain ⟨d, -, rfl⟩ := by simpa [surfaceScroll] using h
    exact .inr (.inr (.inr ⟨d, rfl⟩))
  case command c =>
    cases c <;> simp only [obey, List.not_mem_nil] at h
    case focus => exact .inr (.inr (.inl (by simpa using h)))
    case press p =>
      simp only [press] at h
      split at h <;> simp only [copy, List.not_mem_nil] at h
      obtain ⟨text, -, rfl⟩ := by simpa using h
      exact .inr (.inl ⟨text, rfl⟩)
    case touch t =>
      cases t <;> simp only [feel, List.not_mem_nil] at h
      case move =>
        obtain ⟨d, -, rfl⟩ := by simpa [surfaceScroll] using h
        exact .inr (.inr (.inr ⟨d, rfl⟩))
      case finish =>
        split at h
        case h_1 => exact .inr (.inr (.inl (by simpa using h)))
        case h_2 =>
          obtain ⟨d, -, rfl⟩ := by simpa [surfaceScroll] using h
          exact .inr (.inr (.inr ⟨d, rfl⟩))
        case h_3 => simp at h

theorem react_aside {v : View} {s : Surroundings} {w : Wake} {e : Effect}
    (h : e ∈ (v.react s w).2.1) : e.isAside = true := by
  obtain ⟨-, i, rfl⟩ | ⟨text, rfl⟩ | rfl | ⟨d, rfl⟩ := react_atOnce h <;> rfl

end View

end RemoteTerm
