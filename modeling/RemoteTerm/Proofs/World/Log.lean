import RemoteTerm.Proofs.View.Progress
import RemoteTerm.Proofs.World.Turns
/-!
The log of a world's connection. What the view holds, and the connect that is under way, always
agree with how far the connection has got by the log.
-/

namespace RemoteTerm

namespace World

-- Whether the connector has been called for a connect that a view has asked for.
def called : Option Dial → Bool
  | none | some .requested => false
  | _                      => true

def Label.entries : Label → Log
  | turn t   => t.marks.map (t.around.now, ·)
  | call now => [(now, .call)]
  | _        => []

def log (ls : List Label) : Log :=
  ls.flatMap Label.entries

variable {w w' w₀ : World} {ls : List Label} {l : Label} {o : View.Options}

-- How far the connection of a world has got.
def At (w : World) (a : Progress) : Prop :=
  a.Of w.view.session.policy w.now w.view.line (called w.dial)

theorem Linked.view_of_cold (h : Linked w₀ ls w) (f : w₀.Fresh o) (hc : w.phase = .cold) :
    w.view = .create f.view.choose o :=
  (h.cold hc).1.trans f.view.choose_spec

-- A world shows nothing of its view yet, or a run of it.
theorem Linked.run_or (h : Linked w₀ ls w) (f : w₀.Fresh o) :
    turns ls = [] ∨ ∃ id, View.Run (.create id o) (turns ls) w.view := by
  obtain ⟨id, hv⟩ := f.view
  by_cases hc : w.phase = .cold
  case pos => exact .inl (h.cold hc).2
  case neg => exact .inr ⟨id, hv ▸ h.run hc⟩

theorem Linked.policy_eq (h : Linked w₀ ls w) (f : w₀.Fresh o) :
    w.view.session.policy = o.policy := by
  obtain ⟨id, hv⟩ := f.view
  rw [h.policy, hv]
  rfl

theorem Linked.fits (h : Linked w₀ ls w) (f : w₀.Fresh o) (hc : w.phase ≠ .cold) : w.view.Fits := by
  obtain ⟨id, hv⟩ := f.view
  have r := h.run hc
  rw [hv] at r
  exact r.fits

theorem Linked.dial_eq_none (h : Linked w₀ ls w) (hd : w.view.line.connecting = false) :
    w.dial = none :=
  Option.isSome_eq_false_iff.mp (h.dial.trans hd) |> Option.isNone_iff_eq_none.mp

-- A view that is closed holds no channel, and waits for none.
theorem Linked.of_closed (h : Linked w₀ ls w) (f : w₀.Fresh o)
    (hc : w.view.session.closed = true) : w.view.channel = none ∧ w.dial = none := by
  have hp : w.phase ≠ .cold := fun hp => by
    rw [h.view_of_cold f hp] at hc
    cases hc
  have fit := (h.fits f hp).line
  rw [Line.Fits, if_pos (show w.view.line.closed = true from hc)] at fit
  exact ⟨fit.1, h.dial_eq_none fit.2.1⟩

theorem Linked.not_cold (h : Linked w₀ ls w) (f : w₀.Fresh o) (hd : w.dial.isSome = true) :
    w.phase ≠ .cold := by
  intro hc
  rw [h.dial, h.view_of_cold f hc] at hd
  cases hd

section

variable {t : Turn} {e : Session.Event} {a b : Progress}

-- A world has got somewhere by a turn if it has by what the turn tells the session.
theorem at_take_of_event (hd : w.dial.isSome = t.attended.connecting)
    (ho : t.view.session.closed = false) (he : t.event? = some e)
    (h : b.Of t.view.session.policy w.now
      (t.attended.line.told t.view.session.policy t.around.now e)
      (called (t.view.session.dial w.dial e))) :
    (w.take t).At b := by
  rw [At, take_view, take_now, take_dial, Turn.after_policy, Turn.after_line_of_event ho he,
    Turn.dial_of_event hd ho he]
  exact h

theorem at_take_of_no_event (hd : w.dial.isSome = t.attended.connecting) (he : t.event? = none)
    (h : b.Of t.view.session.policy w.now t.attended.line (called w.dial)) : (w.take t).At b := by
  rw [At, take_view, take_now, take_dial, Turn.after_policy, Turn.after_line_of_no_event he,
    Turn.dial_of_no_event hd he]
  exact h

-- What the log shows of a turn that tells its open session of an event.
theorem entries_of_event (ho : t.view.session.closed = false) (he : t.event? = some e) :
    (Label.turn t).entries =
      (t.view.session.marks e).map (t.around.now, ·) ++
        (t.view.session.announces e).map (t.around.now, .notice ·) := by
  rw [Label.entries, Turn.marks_of_event ho he, List.map_append, List.map_map]
  rfl

theorem entries_of_no_event (he : t.event? = none) : (Label.turn t).entries = [] := by
  rw [Label.entries, Turn.marks_of_no_event he]
  rfl

end

-- What a view hears carries its connection on as the log shows.
theorem At.wake {a : Progress} {c : Wake} {s : Surroundings} (h : w.At a) (lk : Linked w₀ ls w)
    (f : w.view.line.Fits) (hp : w.phase = .waiting) (of : w.Offers c w') (hn : s.now = w.now) :
    ∃ b, Progress.Along w.view.session.policy a (Label.turn ⟨w.view, s, .wake c⟩).entries b ∧
      (w'.take ⟨w.view, s, .wake c⟩).At b := by
  have ho := lk.waiting hp
  rw [At, ← hn] at h
  have told {b e} := at_take_of_event (t := ⟨w.view, s, .wake c⟩) (b := b) (e := e)
    (of.dial_eq lk.dial) ho
  have kept {b} := at_take_of_no_event (t := ⟨w.view, s, .wake c⟩) (b := b) (of.dial_eq lk.dial)
  have shown {e} := entries_of_event (t := ⟨w.view, s, .wake c⟩) (e := e) ho
  have hidden := entries_of_no_event (t := ⟨w.view, s, .wake c⟩)
  rw [of.now_eq, ← hn, Turn.attended_line] at told kept
  cases of
  case command c cs hq =>
    obtain he | he | ⟨text, he⟩ := w.view.event?_command s c
    case inl     => exact ⟨.torn, shown he ▸ .one .teardown, told he (.torn rfl)⟩
    case inr.inl => exact ⟨a, hidden he ▸ .nil, kept he h⟩
    case inr.inr => exact ⟨a, shown he ▸ .nil, told he h⟩
  case abandoned hq => exact ⟨.torn, shown rfl ▸ .one .teardown, told rfl (.torn rfl)⟩
  case connected r hq hd =>
    have hl : w.view.line.connecting = true := lk.dial.symm.trans (hd ▸ rfl)
    obtain ⟨-, -, -, hx⟩ := f.of_connecting hl
    have hx' : w.view.line.connection ≠ .exhausted := by
      obtain hx | ⟨n, hx⟩ := hx <;> simp [hx]
    rw [hd] at h
    cases r
    case none =>
      have hf := h.failure ho hx' fun _ => rfl
      obtain ⟨b, hb, hb'⟩ :=
        Progress.answered (l := w.view.line.attend (.connected none)) ho hx' rfl
      exact ⟨b, shown rfl ▸ .cons hf hb, told rfl hb'⟩
    case some i =>
      have hc : w.view.line.connection ≠ .connected := by
        obtain hx | ⟨n, hx⟩ := hx <;> simp [hx]
      exact ⟨.up, shown rfl ▸ h.opened ho hx' hc rfl, told rfl (.up ho rfl)⟩
  case output hc hr => exact ⟨a, shown rfl ▸ .nil, told rfl h⟩
  case ended i x hq hc hr =>
    have hc' : w.view.line.channel.isSome := Option.isSome_iff_exists.mpr ⟨i, hc⟩
    obtain ⟨-, hd, -, hx⟩ := f.of_channel hc'
    have hx' : w.view.line.connection ≠ .exhausted := by simp [hx]
    have hf := h.failure ho hx' fun hc => absurd hx hc
    obtain ⟨b, hb, hb'⟩ := Progress.answered (l := w.view.line.attend .ended) ho hx' rfl
    refine ⟨b, shown rfl ▸ .cons hf hb, told rfl ?_⟩
    rw [lk.dial_eq_none hd]
    exact hb'
  case timer t due hq ht hd =>
    cases t
    case reconnect =>
      obtain ⟨-, -, hc, n, hx⟩ := f.of_reconnectAt ht
      rw [lk.dial_eq_none hc] at h
      refine ⟨a, shown rfl ▸ .nil, told rfl ?_⟩
      rw [lk.dial_eq_none hc, show called (w.view.session.dial none .reconnectDue) = false from ?_]
      · exact h.due ho hx ht (hn ▸ hd)
      · rw [Session.dial, show w.view.session.connection = _ from hx]
        rfl
    case flush => exact ⟨a, hidden rfl ▸ .nil, kept rfl h⟩
    all_goals exact ⟨a, shown rfl ▸ .nil, told rfl h⟩

-- So does everything that happens.
theorem At.step {a : Progress} (h : w.At a) (lk : Linked w₀ ls w) (f : w₀.Fresh o)
    (st : Step w l w') :
    ∃ b, Progress.Along w.view.session.policy a l.entries b ∧ w'.At b := by
  cases st
  case wake c w' s hp of hn => exact h.wake lk (lk.fits f (by simp [hp])).line hp of hn
  case pass later hn => exact ⟨a, .nil, h.mono hn⟩
  case call hd =>
    have hl : w.view.line.connecting = true := lk.dial.symm.trans (hd ▸ rfl)
    have fit := (lk.fits f (lk.not_cold f (hd ▸ rfl))).line
    rw [At, hd] at h
    obtain ⟨b, hb, hb'⟩ := h.call fit hl
    exact ⟨b, .one hb, hb'⟩
  case answer hd _ =>
    rw [At, hd] at h
    exact ⟨a, .nil, h⟩
  case fail hd =>
    rw [At, hd] at h
    exact ⟨a, .nil, h⟩
  case start s hc hn =>
    have hv := lk.view_of_cold f hc
    have ho : w.view.session.closed = false := by rw [hv]; rfl
    have hd : w.dial = none := lk.dial_eq_none (by rw [hv]; rfl)
    refine ⟨a, ?_, at_take_of_event lk.dial ho rfl ?_⟩
    · rw [entries_of_event ho rfl]
      exact .nil
    · rw [At, hd] at h
      rw [hd]
      exact h.start (by rw [hv]; rfl) (by rw [hv]; rfl)
  case tearDown s hc hx hn =>
    refine ⟨.torn, ?_, .torn ?_⟩
    · rw [Label.entries, Turn.marks_closing]
      exact .one .teardown
    · exact take_closed (t := ⟨w.view, s, .closing⟩) w rfl
  all_goals exact ⟨a, .nil, h⟩

-- The log of a run leads to where its world has got.
theorem Run.along (r : Run w₀ ls w) (f : w₀.Fresh o) :
    ∃ a, Progress.Along o.policy (.first false) (log ls) a ∧ w.At a := by
  induction r
  case refl =>
    obtain ⟨id, hv⟩ := f.view
    refine ⟨.first false, .nil, ?_⟩
    rw [At, hv, f.dial]
    exact .first rfl rfl
  case step ls w l w' r st hi =>
    obtain ⟨a, ha, h⟩ := hi
    have lk := r.linked f
    obtain ⟨b, hb, h'⟩ := h.step lk f st
    rw [lk.policy_eq f] at hb
    refine ⟨b, ?_, h'⟩
    rw [log, List.flatMap_append, List.flatMap_singleton]
    exact ha.append hb

end World

end RemoteTerm
