import RemoteTerm.Proofs.Keyboard.Routing
import RemoteTerm.Proofs.View.Input
import RemoteTerm.Proofs.View.Publishing
import RemoteTerm.Proofs.View.Resources
/-!
Copying and pasting. Whatever the clipboard answers and wherever the connection stands, a copy does
no more than write the selection and tell the user, and a paste no more than send the text or tell
the user. All else about the view stays as it is.
-/

namespace RemoteTerm

namespace Command

-- The key presses that ask for a copy.
def Copies : Command → Prop
  | press p => p.Asks 'c' 'C'
  | _       => False

-- The view is asked to paste, by its holder or with a key press.
def Pastes : Command → Prop
  | paste   => True
  | press p => p.Asks 'v' 'V'
  | _       => False

end Command

-- What a copy does, by the selection and by what becomes of writing it.
inductive Copying (s : Surroundings) : List Effect → Prop
  | nothing : s.selection = "" → Copying s []
  | nowhere : s.selection ≠ "" → s.clipboard = none → Copying s [.notice .clipboardUnavailable]
  | written {c} :
    s.selection ≠ "" → s.clipboard = some c → c.write = .ok () → Copying s [.clip s.selection]
  | denied {c e} :
    s.selection ≠ "" → s.clipboard = some c → c.write = .error e →
    Copying s [.clip s.selection, .notice .clipboardDenied]

-- What a paste does, by what is read from the clipboard and by where the view can send it.
inductive Pasting (v : View) (s : Surroundings) : List Effect → Prop
  | nowhere : s.clipboard = none → Pasting v s [.notice .clipboardUnavailable]
  | denied {c e} :
    s.clipboard = some c → c.read = .error e → Pasting v s [.notice .clipboardDenied]
  | sent {c text i} :
    s.clipboard = some c → c.read = .ok text → text ≠ "" → v.session.isConnected = true →
    v.channel = some i → Pasting v s [.transmit i (.input text)]
  | dropped {c text} :
    s.clipboard = some c → c.read = .ok text → text = "" ∨ v.session.isConnected = false →
    Pasting v s []

-- The actions that a view carries out without any change but to what it has told its user.
def Action.passes : Action → Bool
  | send _ | notify _ => true
  | _                 => false

namespace View

-- The view after it has told its user something, which is nothing but that to it.
def told (v : View) (said : List String) : View :=
  { v with lastNotice := said.getLast?.or v.lastNotice }.publish

variable {v : View} {s : Surroundings} {c : Command} {p : KeyPress} {now : Instant}
  {as : List Action}

theorem perform_passes {a : Action} (v : View) (h : a.passes = true) :
    { (v.perform now a).1 with lastNotice := none } = { v with lastNotice := none } := by
  cases a <;> first | rfl | cases h

theorem performAll_passes (h : ∀ a ∈ as, a.passes = true) :
    (v.performAll now as).1 =
      { v with
        lastNotice :=
          ((as.filterMap Action.notice?).map Notice.message).getLast?.or v.lastNotice } := by
  have hk : { (v.performAll now as).1 with lastNotice := none } = { v with lastNotice := none } :=
    performAll_keeps ({ · with lastNotice := none }) (·.passes = true)
      (fun v a ha => v.perform_passes ha) h
  have hn : (v.performAll now as).1.lastNotice = _ := performAll_lastNotice
  rw [← hn]
  exact congrArg ({ · with lastNotice := (v.performAll now as).1.lastNotice }) hk

theorem keepLatch_self (v : View) : v.keepLatch v.latch = v := by
  simp only [keepLatch]
  split <;> rfl

-- Input leaves the session as it is, whether or not it is sent.
theorem tell_input (v : View) (text : String) :
    v.tell (.input text) =
      (v, if text ≠ "" ∧ v.session.isConnected = true then [.send (.input text)] else []) := by
  by_cases ht : text = ""
  case pos => simp [tell, Session.step, Session.input, ht]
  case neg => cases hc : v.session.isConnected <;> simp [tell, Session.step, Session.input, ht, hc]

-- The clipboard goes before the latch.
theorem react_of_copy (h : p.Asks 'c' 'C') : v.react s (.command (.press p)) = v.copy s := by
  have hr := Latch.routeKey_of_clipboard (l := v.latch) (KeyPress.clipboardRoute?_eq_copy_iff.mpr h)
  simp only [react, obey, press, hr, keepLatch_self]

theorem react_of_paste (h : c.Pastes) :
    v.react s (.command c) = ((v.paste s).1, [], (v.paste s).2) := by
  cases c <;> simp only [Command.Pastes] at h
  case paste => rfl
  case press p =>
    have hr :=
      Latch.routeKey_of_clipboard (l := v.latch) (KeyPress.clipboardRoute?_eq_paste_iff.mpr h)
    simp only [react, obey, press, hr, keepLatch_self]

end View

namespace Turn

-- What a turn that copies comes to.
structure Copied (t : Turn) : Prop where
  -- The session, the channel, the connect, the timers and the latch stay as they are.
  kept    : t.after = t.view.told t.said
  effects : Copying t.around t.effects

structure Pasted (t : Turn) : Prop where
  kept    : t.after = t.view.told t.said
  effects : Pasting t.view t.around t.effects

variable {v : View} {s : Surroundings} {w : Wake} {c : Command} {es : List Effect}
  {as : List Action}

theorem effects_of_react (h : v.react s w = (v, es, as)) :
    effects ⟨v, s, .wake w⟩ = es ++ (v.performAll s.now as).2 := by
  simp only [effects, outcome, View.handle, h]

theorem after_of_react (h : v.react s w = (v, es, as)) (ha : ∀ a ∈ as, a.passes = true) :
    after ⟨v, s, .wake w⟩ = v.told (said ⟨v, s, .wake w⟩) := by
  have hh : heard ⟨v, s, .wake w⟩ = (v, as) := by
    simp only [heard, ← v.react_eq_hear s w, h]
  rw [after, outcome_eq, hh, View.performAll_passes ha, View.told, said, effects_notices, hh]

theorem copied (h : c.Copies) : Copied ⟨v, s, .wake (.command c)⟩ := by
  cases c <;> simp only [Command.Copies] at h
  case press p =>
    have hr := View.react_of_copy (v := v) (s := s) h
    have ha : ∀ n : Option Notice, ∀ a ∈ (n.map Action.notify).toList, a.passes = true := by
      simp [Action.passes]
    simp only [View.copy, Clipboard.copy, String.isEmpty_iff] at hr
    refine ⟨after_of_react hr (ha _), effects_of_react hr ▸ ?_⟩
    by_cases hs : s.selection = ""
    case pos =>
      simp only [if_pos hs]
      exact .nothing hs
    case neg =>
      simp only [if_neg hs]
      cases hc : s.clipboard
      case none => exact .nowhere hs hc
      case some c =>
        cases hw : c.write <;> simp only [hw]
        case ok _    => exact .written hs hc hw
        case error e => exact .denied hs hc hw

theorem pasted (hi : v.session.isConnected = true → v.channel.isSome) (h : c.Pastes) :
    Pasted ⟨v, s, .wake (.command c)⟩ := by
  have hr := View.react_of_paste (v := v) (s := s) h
  simp only [View.paste, Clipboard.paste] at hr
  cases hc : s.clipboard
  case none =>
    simp only [hc] at hr
    exact ⟨after_of_react hr (by simp [Action.passes]), effects_of_react hr ▸ .nowhere hc⟩
  case some c =>
    cases hx : c.read <;> simp only [hc, hx, View.tell_input] at hr
    case error e =>
      exact ⟨after_of_react hr (by simp [Action.passes]), effects_of_react hr ▸ .denied hc hx⟩
    case ok text =>
      by_cases hd : text ≠ "" ∧ v.session.isConnected = true
      case pos =>
        obtain ⟨i, hi⟩ := Option.isSome_iff_exists.mp (hi hd.2)
        simp only [if_pos hd] at hr
        refine ⟨after_of_react hr (by simp [Action.passes]), effects_of_react hr ▸ ?_⟩
        simp only [View.performAll, View.perform, hi]
        exact .sent hc hx hd.1 hd.2 hi
      case neg =>
        simp only [if_neg hd] at hr
        refine ⟨after_of_react hr (by simp), effects_of_react hr ▸ .dropped hc hx ?_⟩
        simpa [Decidable.or_iff_not_imp_left] using hd

end Turn

-- In any state that a view can get into, a copy and a paste are no more than that.
structure View.Clips (v : View) : Prop where
  copied {s : Surroundings} {c : Command} :
    c.Copies → Turn.Copied ⟨v, s, .wake (.command c)⟩
  pasted {s : Surroundings} {c : Command} :
    c.Pastes → Turn.Pasted ⟨v, s, .wake (.command c)⟩

namespace View.Run

variable {v : View} {id : Uuid} {o : Options} {ts : List Turn}

theorem clips (r : Run (create id o) ts v) : v.Clips where
  copied := Turn.copied
  pasted := Turn.pasted (channel_of_connected r.fits.line)

-- Ctrl is armed while the view waits for its next attempt, and the clipboard takes nothing but
-- gives something. The copy is denied, the paste is dropped, and both leave Ctrl armed. The paste
-- is sent when the view is connected again, and Ctrl is still armed.
theorem clips_reconnecting :
    ∃ ts v, Run (create default {}) ts v ∧ v.Clips ∧
      ts.map (·.said) =
        [[], [], ["Reconnecting (1/10)..."], [], ["Clipboard access was denied"], [], [],
          ["Reconnected"], []] ∧
      ts.map (·.inputs) = [[], [], [], [], [], [], [], [], [(1, "b")]] ∧
      v.latch.armed = { ctrl := true } := by
  let clipboard : Clipboard := { read := .ok "b", write := .error (.denied "not focused") }
  have r : Run (create default {}) _ _ := (Run.start ⟨0, none, "", none⟩)
    |>.wake ⟨0, none, "", none⟩ (.connected (some 0)) rfl (.connected _ rfl)
    |>.wake ⟨0, none, "", none⟩ .ended rfl (.ended rfl)
    |>.wake ⟨0, none, "", none⟩ (.command (.toggle .ctrl)) rfl (.command _)
    |>.wake ⟨0, none, "a", clipboard⟩ (.command (.press { key := .char 'C', command := true })) rfl
      (.command _)
    |>.wake ⟨0, none, "a", clipboard⟩ (.command .paste) rfl (.command _)
    |>.wake ⟨1000000000, none, "", none⟩ .reconnectDue (by decide +kernel)
      (.timer .reconnect 1000000000 (by decide +kernel) (by decide))
    |>.wake ⟨1000000000, none, "", none⟩ (.connected (some 1)) (by decide +kernel)
      (.connected _ (by decide +kernel))
    |>.wake ⟨1000000000, none, "a", clipboard⟩ (.command .paste) (by decide +kernel) (.command _)
  exact ⟨_, _, r, r.clips, by decide +kernel, by decide +kernel, by decide +kernel⟩

end View.Run

end RemoteTerm
