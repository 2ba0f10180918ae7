import RemoteTerm.Proofs.World
import RemoteTerm.Proofs.View.Line
/-!
The turns of a world are a run of its view, and the connect that is under way is the one that the
view is waiting for.
-/

namespace RemoteTerm

-- What an effect makes of the connect that is under way.
def Effect.dial (d : Option World.Dial) : Effect → Option World.Dial
  | .connect        => some .requested
  | .abandonConnect => none
  | _               => d

-- What an action makes of the connect that a view waits for.
def Action.dial (d : Option World.Dial) : Action → Option World.Dial
  | .openChannel  => d.or (some .requested)
  | .closeChannel => none
  | _             => d

-- What an event makes of the connect that an open session waits for.
def Session.dial (s : Session) (d : Option World.Dial) : Session.Event → Option World.Dial
  | .start        => d.or (some .requested)
  | .reconnectDue =>
    match s.connection with
    | .reconnecting _ => d.or (some .requested)
    | _               => d
  | .teardown     => none
  | _             => d

theorem Session.Step.dial {s s' : Session} {e : Session.Event} {as : List Action}
    {d : Option World.Dial} (st : Step s e s' as) (ho : s.closed = false) :
    as.foldl Action.dial d = s.dial d e := by
  have parting : s.parting.foldl Action.dial d = d := s.parting_foldl (fun _ _ => rfl) d
  have welcome : s.welcome.foldl Action.dial d = d := s.welcome_foldl (fun _ => rfl) d
  cases st <;> try rfl
  case deaf hc _ | late hc => simp [ho] at hc
  case opened              => exact welcome
  case negotiated          => simpa [Session.dial, Action.dial] using welcome
  case retried             => simpa [Session.dial, Action.dial] using parting
  case gaveUp              => simpa [Session.dial, Action.dial] using parting
  case reopen hc           => simp [Session.dial, Action.dial, hc]
  case noReopen hc         =>
    cases h : s.connection <;> simp [Session.dial, h]
    exact absurd h (hc _)

namespace View

variable {v : View} {now : Instant} {d : Option World.Dial}

theorem perform_dial (v : View) (now : Instant) (a : Action) (h : d.isSome = v.connecting) :
    (v.perform now a).2.foldl Effect.dial d = a.dial d ∧
      (a.dial d).isSome = (v.perform now a).1.connecting := by
  cases a <;> try exact ⟨rfl, h⟩
  case send f => cases hc : v.channel <;> simp [perform, hc, h, Effect.dial, Action.dial]
  case openChannel =>
    cases d <;> cases hd : v.connecting <;> simp_all [perform, Effect.dial, Action.dial]
  case closeChannel =>
    cases d <;> cases hc : v.channel <;> cases hd : v.connecting <;>
      simp_all [perform, release, Effect.dial, Action.dial]

theorem performAll_dial (v : View) (now : Instant) (as : List Action)
    (h : d.isSome = v.connecting) :
    (v.performAll now as).2.foldl Effect.dial d = as.foldl Action.dial d ∧
      (as.foldl Action.dial d).isSome = (v.performAll now as).1.connecting := by
  induction as generalizing v d with
  | nil => exact ⟨rfl, h⟩
  | cons a as hi =>
    have ⟨hd, hs⟩ := v.perform_dial now a h
    rw [performAll_cons, List.foldl_append, List.foldl_cons, hd]
    exact hi _ hs

end View

theorem Effect.foldl_dial_aside {d : Option World.Dial} {es : List Effect}
    (h : ∀ e ∈ es, e.isAside = true) : es.foldl Effect.dial d = d := by
  induction es with
  | nil => rfl
  | cons e es hi =>
    have he : e.dial d = d := by
      have := h e List.mem_cons_self
      cases e <;> first | rfl | simp [isAside] at this
    rw [List.foldl_cons, he]
    exact hi fun e' h' => h e' (List.mem_cons_of_mem e h')

namespace Turn

variable {t : Turn} {d : Option World.Dial}

-- Where a connect is under way for the attended view, it is one that the view waits for also after
-- the turn, and the other way around.
theorem effects_dial (h : d.isSome = t.attended.connecting) :
    t.effects.foldl Effect.dial d = t.heard.2.foldl Action.dial d ∧
      (t.heard.2.foldl Action.dial d).isSome = t.after.connecting := by
  have hh : t.heard.1.connecting = t.attended.connecting := by
    obtain ⟨s, hs⟩ := t.heard_view
    rw [hs]
  simp only [effects, after, outcome_eq, List.foldl_append]
  rw [Effect.foldl_dial_aside fun e => atOnce_aside]
  exact View.performAll_dial _ _ _ (h.trans hh.symm)

theorem dial_of_event {e : Session.Event} (h : d.isSome = t.attended.connecting)
    (ho : t.view.session.closed = false) (he : t.event? = some e) :
    t.effects.foldl Effect.dial d = t.view.session.dial d e := by
  rw [(effects_dial h).1, heard_of_event he, ← attended_session]
  exact (t.attended.session.step_step e).dial (t.attended_session ▸ ho)

theorem dial_of_no_event (h : d.isSome = t.attended.connecting) (he : t.event? = none) :
    t.effects.foldl Effect.dial d = d := by
  obtain ⟨n, hn, -⟩ := heard_of_no_event he
  rw [(effects_dial h).1, hn]
  cases n <;> rfl

end Turn

namespace World

variable {w w' w₀ : World} {ls ls' : List Label} {l : Label} {o : View.Options}

theorem Run.trans (r : Run w₀ ls w) (r' : Run w ls' w') : Run w₀ (ls ++ ls') w' := by
  induction r' with
  | refl         => rwa [List.append_nil]
  | step r st hi => rw [← List.append_assoc]; exact hi.step st

theorem effect_dial (w : World) (e : Effect) : (w.effect e).dial = e.dial w.dial := by
  cases e <;> try rfl
  case abandonConnect => simp only [effect]; split <;> rfl

theorem effect_rest (w : World) (e : Effect) :
    (w.effect e).view = w.view ∧ (w.effect e).phase = w.phase ∧ (w.effect e).now = w.now := by
  cases e <;> try exact ⟨rfl, rfl, rfl⟩
  case abandonConnect => simp only [effect]; split <;> exact ⟨rfl, rfl, rfl⟩

theorem foldl_effect (w : World) (es : List Effect) :
    (es.foldl effect w).view = w.view ∧ (es.foldl effect w).phase = w.phase ∧
      (es.foldl effect w).now = w.now ∧ (es.foldl effect w).dial = es.foldl Effect.dial w.dial := by
  induction es generalizing w with
  | nil => exact ⟨rfl, rfl, rfl, rfl⟩
  | cons e es hi =>
    have ⟨hv, hp, hn, hd⟩ := hi (w.effect e)
    have ⟨hv', hp', hn'⟩ := w.effect_rest e
    exact ⟨hv.trans hv', hp.trans hp', hn.trans hn', by rw [List.foldl_cons, hd, effect_dial]; rfl⟩

theorem take_view (w : World) (t : Turn) : (w.take t).view = t.after :=
  (foldl_effect ..).1

-- A turn that tears a view down leaves it closed.
theorem take_closed {t : Turn} (w : World) (h : t.event? = some .teardown) :
    (w.take t).view.session.closed = true := by
  simp [take_view, Turn.after_closed, h]

theorem take_phase (w : World) (t : Turn) : (w.take t).phase = .checking :=
  (foldl_effect ..).2.1

theorem take_now (w : World) (t : Turn) : (w.take t).now = w.now :=
  (foldl_effect ..).2.2.1

theorem take_dial (w : World) (t : Turn) : (w.take t).dial = t.effects.foldl Effect.dial w.dial :=
  (foldl_effect ..).2.2.2

namespace Offers

variable {c : Wake} {s : Surroundings}

theorem view_eq (h : w.Offers c w') : w'.view = w.view := by
  cases h <;> rfl

theorem now_eq (h : w.Offers c w') : w'.now = w.now := by
  cases h <;> rfl

-- What a world offers to its view, the view is able to hear.
theorem hears (h : w.Offers c w') (hd : w.dial.isSome = w.view.connecting) :
    w.view.Hears w.now c := by
  cases h
  case command c cs _    => exact .command c
  case abandoned _       => exact .abandoned
  case connected r _ h   => exact .connected r (by rw [← hd, h]; rfl)
  case output hc _       => exact .output _ (by rw [hc]; rfl)
  case ended hc _        => exact .ended (by rw [hc]; rfl)
  case timer h hn        => exact .timer _ _ h hn

-- A connect that has ended is taken from the world when the view hears of it.
theorem dial_eq (h : w.Offers c w') (hd : w.dial.isSome = w.view.connecting) :
    w'.dial.isSome = (w.view.attend s c).connecting := by
  have ha : (w.view.attend s c).connecting = (w.view.line.attend c).connecting :=
    congrArg Line.connecting (w.view.attend_line s c)
  rw [ha]
  cases h
  case connected r _ _ => cases r <;> rfl
  case timer _ _       => cases ‹View.Timer› <;> exact hd
  all_goals exact hd

end Offers

theorem turns_append (ls : List Label) (l : Label) :
    turns (ls ++ [l]) = turns ls ++ l.turn?.toList := by
  cases l <;> simp [turns, Label.turn?]

-- How a world that has got so far is linked to its view.
structure Linked (w₀ : World) (ls : List Label) (w : World) : Prop where
  cold    : w.phase = .cold → w.view = w₀.view ∧ turns ls = []
  run     : w.phase ≠ .cold → View.Run w₀.view (turns ls) w.view
  dial    : w.dial.isSome = w.view.connecting
  waiting : w.phase = .waiting → w.view.session.closed = false
  policy  : w.view.session.policy = w₀.view.session.policy

namespace Linked

-- Everything that happens beside the view leaves the link as it is.
theorem aside (h : Linked w₀ ls w) (hv : w'.view = w.view) (hp : w'.phase = w.phase)
    (hd : w'.dial.isSome = w.dial.isSome) (hl : l.turn? = none) :
    Linked w₀ (ls ++ [l]) w' where
  cold      := by simpa [turns_append, hl, hv, hp] using h.cold
  run       := by simpa [turns_append, hl, hv, hp] using h.run
  dial      := by rw [hd, hv, h.dial]
  waiting   := by simpa [hv, hp] using h.waiting
  policy    := by rw [hv, h.policy]

-- A turn carries the run of the view on.
theorem turn {t : Turn} (hd : w.dial.isSome = t.attended.connecting)
    (hp : t.view.session.policy = w₀.view.session.policy)
    (r : View.Run w₀.view (turns ls ++ [t]) t.after) :
    Linked w₀ (ls ++ [.turn t]) (w.take t) where
  cold h    := by rw [take_phase] at h; contradiction
  run _     := by rw [turns_append, take_view]; exact r
  dial      := by
    have ⟨he, hs⟩ := Turn.effects_dial hd
    rw [take_view, take_dial, he, hs]
  waiting h := by rw [take_phase] at h; contradiction
  policy    := by rw [take_view, Turn.after_policy, hp]

-- A phase that the view has reached by itself.
theorem enter {p : Phase} (h : Linked w₀ ls w) (hw : w.phase ≠ .cold) (hp : p ≠ .cold)
    (ho : p = .waiting → w.view.session.closed = false) :
    Linked w₀ ls { w with phase := p } where
  cold hc   := absurd hc hp
  run _     := h.run hw
  dial      := h.dial
  waiting   := ho
  policy    := h.policy

theorem step (h : Linked w₀ ls w) (st : Step w l w') : Linked w₀ (ls ++ [l]) w' := by
  cases st
  case start s hc hn =>
    obtain ⟨hv, ht⟩ := h.cold hc
    apply turn h.dial h.policy
    rw [ht, hv]
    exact .start s
  case tearDown s hc hx hn =>
    have hl := turn (t := ⟨w.view, s, .closing⟩) h.dial h.policy ((h.run (by simp [hc])).closing s)
    exact hl.enter (by simp [take_phase]) nofun nofun
  case wake c v s hp of hn =>
    have ho := h.waiting hp
    have hh : w.view.Hears s.now c := hn ▸ of.hears h.dial
    exact turn (of.dial_eq h.dial) h.policy ((h.run (by simp [hp])).wake s c ho hh)
  case leave hc _ _ =>
    have hl : Linked w₀ (ls ++ [.quiet]) w := h.aside rfl rfl rfl rfl
    exact hl.enter (by simp [hc]) nofun nofun
  case wait hc _ ho =>
    have hl : Linked w₀ (ls ++ [.quiet]) w := h.aside rfl rfl rfl rfl
    exact hl.enter (by simp [hc]) nofun fun _ => ho
  case call hd     => exact h.aside rfl rfl (by rw [hd]; rfl) rfl
  case answer hd _ => exact h.aside rfl rfl (by rw [hd]; rfl) rfl
  case fail hd     => exact h.aside rfl rfl (by rw [hd]; rfl) rfl
  all_goals exact h.aside rfl rfl rfl rfl

end Linked

theorem Run.linked (r : Run w₀ ls w) (f : w₀.Fresh o) : Linked w₀ ls w := by
  induction r
  case step r st hi => exact hi.step st
  case refl =>
    obtain ⟨id, hv⟩ := f.view
    refine ⟨fun _ => ⟨rfl, rfl⟩, fun h => absurd f.phase h, ?_, ?_, rfl⟩
    · rw [f.dial, hv]; rfl
    · simp [f.phase]

end World

end RemoteTerm
