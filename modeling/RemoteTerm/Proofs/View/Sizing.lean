import RemoteTerm.Proofs.View.Turn
/-!
The frames that a view hands to its channels, and what decides on the sizes among them. The rest of
the view has no influence on those.
-/

namespace RemoteTerm

def Frame.size? : Frame → Option Grid
  | resize size => some size
  | _           => none

def Action.frame? : Action → Option Frame
  | send frame => some frame
  | _          => none

def Effect.frame? : Effect → Option (ChannelId × Frame)
  | transmit channel frame => some (channel, frame)
  | _                      => none

-- What the sizes that a view tells its server depend on.
structure Sizing where
  connected : Bool
  grid      : Option Grid
  channel   : Option ChannelId
  redrawAt  : Option Instant

def View.sizing (v : View) : Sizing where
  connected := v.session.isConnected
  grid      := v.session.grid
  channel   := v.channel
  redrawAt  := v.redrawAt

namespace Sizing

def act (now : Instant) (z : Sizing) : Action → Sizing
  | .armRedraw d  => { z with redrawAt := now.after d }
  | .closeChannel => { z with channel := none }
  | .cancelTimers => { z with redrawAt := none }
  | _             => z

-- What an event comes to while the session is open.
def told (d : Duration) (now : Instant) (z : Sizing) : Session.Event → Sizing
  | .start      => { z with connected := false }
  | .opened m   =>
    match m.or z.grid with
    | some size => { z with connected := true, grid := size, redrawAt := now.after d }
    | none      => { z with connected := true }
  | .lost       => { z with connected := false }
  | .viewport m => { z with grid := m.or z.grid }
  | .teardown   => { z with connected := false, channel := none, redrawAt := none }
  | _           => z

def attend (z : Sizing) : Wake → Sizing
  | .connected (some channel) => { z with channel := some channel }
  | .ended                    => { z with channel := none }
  | .redrawDue                => { z with redrawAt := none }
  | _                         => z

@[simp]
theorem foldl_act_parting (s : Session) (now : Instant) (z : Sizing) :
    s.parting.foldl (act now) z = z :=
  s.parting_foldl (fun _ _ => rfl) z

@[simp]
theorem foldl_act_welcome (s : Session) (now : Instant) (z : Sizing) :
    s.welcome.foldl (act now) z = z :=
  s.welcome_foldl (fun _ => rfl) z

end Sizing

namespace Session

-- What an open session sends for an event.
def sends (s : Session) : Event → List Frame
  | .opened m          =>
    match m.or s.grid with
    | some size => [.resize size, .resize size.narrowed]
    | none      => []
  | .redrawDue         => if s.isConnected = true then (s.grid.map .resize).toList else []
  | .viewport (some m) => if s.isConnected = true ∧ s.grid ≠ some m then [.resize m] else []
  | .input text        => if s.isConnected = true ∧ text ≠ "" then [.input text] else []
  | _                  => []

variable {s s' : Session} {e : Event} {as : List Action}

theorem Step.frames (st : Step s e s' as) (ho : s.closed = false) :
    as.filterMap Action.frame? = s.sends e := by
  have hw : s.welcome.filterMap Action.frame? = [] := s.welcome_filterMap rfl
  cases st <;> try rfl
  case deaf hc _ | late hc    => simp [ho] at hc
  case opened hg              => simp only [sends, hg, hw]
  case negotiated size _ hg   =>
    simp only [sends, hg]
    exact congrArg (.resize size :: .resize size.narrowed :: ·) hw
  case redraw hc hg           => simp [sends, hc, hg, Action.frame?]
  case noRedraw _ h           => obtain h | h := h <;> simp [sends, h]
  case retried                => rw [List.filterMap_append, s.parting_filterMap fun _ => rfl]; rfl
  case gaveUp                 => rw [List.filterMap_append, s.parting_filterMap fun _ => rfl]; rfl
  case input hc ht            => exact (if_pos ⟨hc, ht⟩).symm
  case noInput _ h            => exact (if_neg fun ⟨hc, ht⟩ => by simp_all).symm
  case resized hc hg          => exact (if_pos ⟨hc, hg⟩).symm
  case resizedAway _ hc _     => exact (if_neg fun h => hc (isConnected_iff.mp h.1).1).symm
  case noResize m _ h         =>
    cases m
    case none      => rfl
    case some size => exact (if_neg fun ⟨_, hg⟩ => by simp_all).symm

end Session

namespace View

variable {v : View} {now : Instant} {as : List Action}

theorem perform_sizing (v : View) (now : Instant) (a : Action) :
    (v.perform now a).1.sizing = v.sizing.act now a := by
  cases a <;> try rfl
  case openChannel =>
    simp only [perform]
    split <;> rfl

theorem performAll_sizing (v : View) (now : Instant) (as : List Action) :
    (v.performAll now as).1.sizing = as.foldl (Sizing.act now) v.sizing :=
  performAll_foldl sizing _ fun v a => v.perform_sizing now a

theorem feel_sizing (v : View) (now : Instant) (e : Touch.Event) :
    (v.feel now e).1.sizing = v.sizing := by
  cases e <;> rfl

theorem attend_sizing (v : View) (s : Surroundings) (w : Wake) :
    (v.attend s w).sizing = v.sizing.attend w := by
  cases w <;> try rfl
  case connected r => cases r <;> rfl
  case command c =>
    cases c <;> try rfl
    case touch e => exact v.feel_sizing s.now e
    all_goals exact keepLatch_keeps sizing (fun _ _ => rfl) v _

theorem tell_sizing (v : View) (now : Instant) (e : Session.Event) (h : v.session.closed = false) :
    ((v.tell e).1.performAll now (v.tell e).2).1.sizing =
      v.sizing.told v.session.redrawDelay now e := by
  rw [performAll_sizing]
  have st := v.session.step_step e
  simp only [tell, sizing]
  generalize v.session.step e = r at st ⊢
  obtain ⟨s', as⟩ := r
  cases st <;> simp only [Sizing.told]
  case deaf hc _ | late hc    => simp [h] at hc
  case start                  => rfl
  case opened hg              =>
    simp only [hg, Session.isConnected, h]
    exact Sizing.foldl_act_welcome ..
  case negotiated hg          => simp [Sizing.act, hg, Session.isConnected, h]
  case retried                => simp [Sizing.act, Session.isConnected]
  case gaveUp                 => simp [Sizing.act, Session.isConnected]
  case exhausted hx           => simp [Session.isConnected, hx]
  case noResize m _ hm        => obtain rfl | hm := hm <;> simp_all
  case teardown               => simp [Sizing.act, Session.isConnected]
  all_goals rfl

theorem perform_frames (v : View) (a : Action) :
    (v.perform now a).2.filterMap Effect.frame? =
      v.channel.elim [] fun i => a.frame?.toList.map (i, ·) := by
  cases a <;> simp only [perform, release, Action.frame?]
  case openChannel  => split <;> cases v.channel <;> rfl
  case closeChannel =>
    cases v.channel <;> by_cases hd : v.connecting = true <;> simp [hd, Effect.frame?]
  all_goals cases v.channel <;> rfl

-- All frames go to the channel that is held at the beginning.
theorem performAll_frames (h : .closeChannel ∉ as) :
    (v.performAll now as).2.filterMap Effect.frame? =
      v.channel.elim [] fun i => (as.filterMap Action.frame?).map (i, ·) := by
  induction as generalizing v with
  | nil => cases v.channel <;> rfl
  | cons a as hi =>
    have ⟨ha, hs⟩ := not_or.mp (mt List.mem_cons.mpr h)
    rw [performAll_cons, List.filterMap_append, hi hs, perform_frames,
      v.perform_channel a (Ne.symm ha)]
    cases v.channel <;> cases hf : a.frame? <;> simp [hf]

end View

namespace Turn

-- The frames that a turn hands over, with the channels that it hands them to.
def sent (t : Turn) : List (ChannelId × Frame) :=
  t.effects.filterMap Effect.frame?

variable {t : Turn} {e : Session.Event}

theorem attended_sizing (t : Turn) :
    t.attended.sizing =
      match t.cause with | .wake w => t.view.sizing.attend w | _ => t.view.sizing := by
  obtain ⟨v, s, c⟩ := t
  cases c <;> first | rfl | apply v.attend_sizing

theorem after_sizing (t : Turn) :
    t.after.sizing = (t.heard.1.performAll t.around.now t.heard.2).1.sizing := by
  simp only [after, outcome_eq]
  rfl

theorem after_sizing_of_event (ho : t.view.session.closed = false) (h : t.event? = some e) :
    t.after.sizing = t.attended.sizing.told t.view.session.redrawDelay t.around.now e := by
  rw [after_sizing, heard_of_event h, View.tell_sizing _ _ _ (by rw [attended_session, ho]),
    attended_session]

theorem after_sizing_of_no_event (h : t.event? = none) : t.after.sizing = t.attended.sizing := by
  obtain ⟨n, hn, -⟩ := heard_of_no_event h
  rw [after_sizing, hn, View.performAll_sizing]
  cases n <;> rfl

theorem sent_eq (h : .closeChannel ∉ t.heard.2) :
    t.sent =
      t.attended.channel.elim [] fun i => (t.heard.2.filterMap Action.frame?).map (i, ·) := by
  have ha : t.atOnce.filterMap Effect.frame? = [] :=
    atOnce_filterMap fun e h => by cases e <;> first | rfl | cases h
  have hc : t.heard.1.channel = t.attended.channel := by
    obtain ⟨s, hs⟩ := t.heard_view
    rw [hs]
  simp only [sent, effects, outcome_eq, List.filterMap_append, ha, View.performAll_frames h, hc]
  rfl

theorem sent_of_event (ho : t.view.session.closed = false) (h : t.event? = some e)
    (he : e ≠ .teardown) :
    t.sent = t.attended.channel.elim [] fun i => (t.view.session.sends e).map (i, ·) := by
  have st := t.attended.session.step_step e
  have hf : t.heard.2.filterMap Action.frame? = t.attended.session.sends e := by
    rw [heard_of_event h]
    exact st.frames (t.attended_session ▸ ho)
  rw [sent_eq (no_closeChannel ho (by simpa [h] using he)), hf, attended_session]

-- Where there is a channel, it gets all that is sent.
theorem sent_on {i : ChannelId} (ho : t.view.session.closed = false) (h : t.event? = some e)
    (he : e ≠ .teardown) (hi : t.attended.channel = some i) :
    t.sent = (t.view.session.sends e).map (i, ·) := by
  rw [sent_of_event ho h he, hi]
  rfl

theorem sent_nothing (ho : t.view.session.closed = false) (h : t.event? = some e)
    (he : e ≠ .teardown) (hs : t.view.session.sends e = []) : t.sent = [] := by
  rw [sent_of_event ho h he, hs]
  cases t.attended.channel <;> rfl

theorem sent_of_no_event (h : t.event? = none) : t.sent = [] := by
  obtain ⟨n, hn, -⟩ := heard_of_no_event h
  rw [sent_eq (by rw [hn]; cases n <;> simp), hn]
  cases n <;> cases t.attended.channel <;> rfl

theorem sent_of_teardown (h : t.event? = some .teardown) : t.sent = [] := by
  rw [sent, List.filterMap_eq_nil_iff]
  intro x hx
  obtain ⟨i, rfl⟩ | rfl := effects_of_teardown h hx <;> rfl

theorem after_redrawDelay (t : Turn) :
    t.after.session.redrawDelay = t.view.session.redrawDelay := by
  rw [after_session]
  cases t.event?
  case none   => rfl
  case some e => exact (t.view.session.step_step e).redrawDelay_eq

-- The size that is known when a channel opens.
def size? (t : Turn) : Option Grid :=
  t.around.measured.or t.view.session.grid

end Turn

end RemoteTerm
