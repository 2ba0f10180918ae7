import RemoteTerm.Proofs.World.Retry
/-!
The turns that a view takes on a stage are a run of a world. So what holds of all runs holds on every
stage, whatever its script is.
-/

namespace RemoteTerm

namespace Stage

-- The world of a stage knows of a connect only whether it has been called.
def Dial.seen : Dial → World.Dial
  | requested   => .requested
  | ringing ..  => .begun
  | done result => .done result

def Phase.seen : Phase → World.Phase
  | cold    => .cold
  | waiting => .waiting
  | ended   => .ended

def world (s : Stage) : World where
  view     := s.view
  phase    := s.phase.seen
  now      := s.now
  closing  := s.closing
  queue    := s.queue
  dial     := s.dial.map Dial.seen
  exchange := s.exchange

-- The world of a stage whose view has not looked yet whether it should close.
def checking (s : Stage) : World :=
  { s.world with phase := .checking }

end Stage

namespace World

variable {w w' w'' : World} {ls ls' : List Label} {l : Label} {m n : Nat}

def Label.frame? : Label → Option (ChannelId × Frame)
  | arrive i frame => some (i, frame)
  | _              => none

-- The frames that the server takes.
def received (ls : List Label) : List (ChannelId × Frame) :=
  ls.filterMap Label.frame?

-- How often the connector is called.
def attempts (ls : List Label) : Nat :=
  Log.calls (log ls)

theorem received_append (ls ls' : List Label) :
    received (ls ++ ls') = received ls ++ received ls' :=
  List.filterMap_append

theorem attempts_append (ls ls' : List Label) :
    attempts (ls ++ ls') = attempts ls + attempts ls' := by
  rw [attempts, log, List.flatMap_append, Log.calls, List.countP_append]
  rfl

theorem attempts_turn (t : Turn) : attempts [.turn t] = 0 := by
  have h : ∀ m ∈ t.marks, m ≠ .call := by
    intro m hm
    obtain hm | hm := List.mem_append.mp hm
    case inl =>
      cases he : t.event?
      case none   => simp [he] at hm
      case some e => cases e <;> simp_all [Session.marks]
    case inr =>
      obtain ⟨n, -, rfl⟩ := List.mem_map.mp hm
      nofun
  rw [attempts, log, List.flatMap_singleton, Label.entries, Log.calls, List.countP_eq_zero]
  simpa using h

-- One world becomes another while the clock stands still and the server takes nothing. The
-- connector is called so many times.
def Reaches (w : World) (n : Nat) (w' : World) : Prop :=
  (∃ ls, Run w ls w' ∧ received ls = [] ∧ attempts ls = n) ∧ w'.now = w.now

namespace Reaches

theorem refl (w : World) : w.Reaches 0 w :=
  ⟨⟨[], .refl, rfl, rfl⟩, rfl⟩

theorem trans (h : w.Reaches m w') (h' : w'.Reaches n w'') : w.Reaches (m + n) w'' := by
  obtain ⟨⟨ls, r, hr, ha⟩, hn⟩ := h
  obtain ⟨⟨ls', r', hr', ha'⟩, hn'⟩ := h'
  refine ⟨⟨ls ++ ls', r.trans r', ?_, ?_⟩, hn'.trans hn⟩
  · rw [received_append, hr, hr']; rfl
  · rw [attempts_append, ha, ha']

theorem one (st : Step w l w') (hn : w'.now = w.now) (hl : l.frame? = none) :
    w.Reaches (attempts [l]) w' := by
  refine ⟨⟨[l], Run.refl.step st, ?_, rfl⟩, hn⟩
  simp [received, hl]

theorem turn {t : Turn} (st : Step w (.turn t) w') (hn : w'.now = w.now) : w.Reaches 0 w' :=
  attempts_turn t ▸ one st hn rfl

theorem quiet (st : Step w .quiet w') (hn : w'.now = w.now) : w.Reaches 0 w' :=
  one st hn rfl

end Reaches

-- What an effect does does not depend on the phase.
theorem foldl_effect_phase (w : World) (p : Phase) (es : List Effect) :
    es.foldl effect { w with phase := p } = { es.foldl effect w with phase := p } := by
  induction es generalizing w with
  | nil => rfl
  | cons e es hi =>
    have he : { w with phase := p }.effect e = { w.effect e with phase := p } := by
      cases e <;> try rfl
      case abandonConnect =>
        simp only [effect]
        split <;> rfl
    rw [List.foldl_cons, he, hi]
    rfl

end World

namespace Stage

variable {s s' s'' : Stage} {e : Effect} {c : Wake}

theorem effect_world (s : Stage) (e : Effect) : (s.effect e).world = s.world.effect e := by
  cases e <;> try rfl
  case abandonConnect =>
    simp only [effect, abandonDial, World.effect, world]
    cases s.dial <;> try rfl
    case some d =>
      cases d <;> try rfl
      case done r => cases r <;> rfl

theorem foldl_effect_world (s : Stage) (es : List Effect) :
    (es.foldl effect s).world = es.foldl World.effect s.world := by
  induction es generalizing s with
  | nil          => rfl
  | cons e es hi => rw [List.foldl_cons, hi, effect_world]; rfl

-- A view on a stage takes its turn as in a world.
theorem take_world (s : Stage) (t : Turn) : s.world.take t = (s.become t.outcome).checking := by
  have h := foldl_effect_world { s with view := t.after } t.effects
  rw [World.take, World.foldl_effect_phase { s.world with view := t.after }]
  exact congrArg (fun w : World => { w with phase := .checking }) h.symm

theorem become_view (s : Stage) (t : Turn) : (s.become t.outcome).view = t.after := by
  have h := s.world.take_view t
  rw [take_world] at h
  exact h

theorem beforeWait_reaches (s : Stage) : s.checking.Reaches 0 s.beforeWait.world := by
  cases hc : s.closing
  case true =>
    have st := World.Step.tearDown (w := s.checking) s.surroundings rfl hc rfl
    have hv : (s.become (s.view.teardown s.now)).view.session.closed = true := by
      have hv := s.become_view ⟨s.view, s.surroundings, .closing⟩
      have hx := Turn.after_closed ⟨s.view, s.surroundings, .closing⟩
      exact (congrArg (·.session.closed) hv).trans (hx.trans (Bool.or_true _))
    have hw : s.beforeWait.world =
        { s.world.take ⟨s.view, s.surroundings, .closing⟩ with phase := .ended } := by
      rw [take_world]
      simp only [beforeWait, hc, if_true, hv]
      rfl
    rw [hw]
    exact .turn st (World.take_now ..)
  case false =>
    cases ho : s.view.session.closed
    case true =>
      have st := World.Step.leave (w := s.checking) rfl hc ho
      have hw : s.beforeWait.world = { s.checking with phase := .ended } := by
        simp [beforeWait, hc, ho, checking, world, Phase.seen]
      rw [hw]
      exact .quiet st rfl
    case false =>
      have st := World.Step.wait (w := s.checking) rfl hc ho
      have hw : s.beforeWait.world = { s.checking with phase := .waiting } := by
        simp [beforeWait, hc, ho, checking, world, Phase.seen]
      rw [hw]
      exact .quiet st rfl

-- After a turn the view goes on to its next wait, or ends.
theorem took_reaches {t : Turn} (st : World.Step s.world (.turn t) (s'.world.take t))
    (hn : s'.now = s.now) : s.world.Reaches 0 (s'.become t.outcome).beforeWait.world := by
  refine .trans (.turn st ?_) (s'.take_world t ▸ beforeWait_reaches _)
  exact (World.take_now ..).trans hn

-- The wake that goes first on a stage is one of those that its world offers.
theorem wake?_offers (h : s.wake? = some (c, s')) :
    s.world.Offers c s'.world ∧ s'.view = s.view ∧ s'.surroundings = s.surroundings := by
  simp only [wake?] at h
  split at h
  case h_1 cmd queue hq =>
    cases h
    exact ⟨.command hq, rfl, rfl⟩
  case h_2 hq =>
    split at h
    case h_1 channel hd =>
      cases h
      exact ⟨.connected hq (congrArg (Option.map Dial.seen) hd), rfl, rfl⟩
    case h_2 =>
      split at h
      case h_1 exchange bytes hr =>
        cases h
        obtain ⟨i, hi, hr⟩ := Option.map_eq_some_iff.mp hr
        exact ⟨.output hq hi hr, rfl, rfl⟩
      case h_2 hr =>
        cases h
        obtain ⟨i, hi, hr⟩ := Option.map_eq_some_iff.mp hr
        exact ⟨.ended hq hi hr, rfl, rfl⟩
      case h_3 =>
        obtain ⟨t, ht, hs⟩ := Option.map_eq_some_iff.mp h
        cases hs
        have hd := List.find?_some ht
        obtain ⟨due, hx, hn⟩ := (Option.any_eq_true ..).mp hd
        exact ⟨.timer hq hx (of_decide_eq_true hn), rfl, rfl⟩

theorem forget_seen (c : Wake) (d : Dial) : (forget c d).seen = d.seen := by
  cases d <;> rfl

theorem turn?_reaches (h : s.turn? = some s') : s.world.Reaches 0 s'.world := by
  simp only [turn?] at h
  split at h
  case h_1 hp =>
    cases h
    exact took_reaches (.start s.surroundings (congrArg Phase.seen hp) rfl) rfl
  case h_2 hp =>
    obtain ⟨⟨c, s₁⟩, hw, rfl⟩ := Option.map_eq_some_iff.mp h
    obtain ⟨of, hv, hs⟩ := wake?_offers hw
    have hd : { s₁ with dial := s₁.dial.map (forget c) }.world = s₁.world := by
      have hd : s₁.dial.map (Dial.seen ∘ forget c) = s₁.dial.map Dial.seen :=
        Option.map_congr fun d _ => forget_seen c d
      rw [← Option.map_map] at hd
      simp only [world, hd]
    have st := World.Step.wake s.surroundings (congrArg Phase.seen hp) of rfl
    rw [← hd] at st
    have ht := took_reaches st of.now_eq
    rw [handle, hv, hs]
    exact ht
  case h_3 => cases h

-- Neither the clock nor the count of connects is the view's to move.
theorem effect_attempts (s : Stage) (e : Effect) : (s.effect e).attempts = s.attempts := by
  cases e <;> try rfl
  case abandonConnect =>
    simp only [effect, abandonDial]
    split <;> rfl

theorem become_attempts (s : Stage) (r : View × List Effect) :
    (s.become r).attempts = s.attempts := by
  obtain ⟨v, es⟩ := r
  have h (es : List Effect) (s : Stage) : (es.foldl effect s).attempts = s.attempts := by
    induction es generalizing s with
    | nil          => rfl
    | cons e es hi => rw [List.foldl_cons, hi, effect_attempts]
  exact h ..

theorem beforeWait_attempts (s : Stage) : s.beforeWait.attempts = s.attempts := by
  simp only [beforeWait]
  split
  · exact become_attempts ..
  · rfl

theorem wake?_attempts (h : s.wake? = some (c, s')) : s'.attempts = s.attempts := by
  simp only [wake?] at h
  split at h
  case h_1 => cases h; rfl
  case h_2 =>
    split at h
    case h_1 => cases h; rfl
    case h_2 =>
      split at h
      case h_3 =>
        obtain ⟨t, -, hs⟩ := Option.map_eq_some_iff.mp h
        cases hs
        rfl
      all_goals cases h; rfl

theorem turn?_attempts (h : s.turn? = some s') : s'.attempts = s.attempts := by
  simp only [turn?] at h
  split at h
  case h_1 =>
    cases h
    rw [beforeWait_attempts, become_attempts]
  case h_2 =>
    obtain ⟨⟨c, s₁⟩, hw, rfl⟩ := Option.map_eq_some_iff.mp h
    have ha := wake?_attempts hw
    rw [beforeWait_attempts, handle, become_attempts]
    exact ha
  case h_3 => cases h

-- One stage becomes another while the clock stands still and the server takes nothing. It counts
-- just the calls of the connector.
def Goes (s s' : Stage) : Prop :=
  ∃ n, s.world.Reaches n s'.world ∧ s'.attempts = s.attempts + n

namespace Goes

theorem refl (s : Stage) : s.Goes s :=
  ⟨0, .refl _, rfl⟩

theorem trans (h : s.Goes s') (h' : s'.Goes s'') : s.Goes s'' := by
  obtain ⟨m, hw, ha⟩ := h
  obtain ⟨n, hw', ha'⟩ := h'
  exact ⟨m + n, hw.trans hw', by rw [ha', ha, Nat.add_assoc]⟩

-- What is no part of the world is free to change.
theorem of_world (hw : s'.world = s.world) (ha : s'.attempts = s.attempts) : s.Goes s' :=
  ⟨0, hw ▸ .refl _, ha⟩

theorem quiet (st : World.Step s.world .quiet s'.world) (hn : s'.now = s.now)
    (ha : s'.attempts = s.attempts) : s.Goes s' :=
  ⟨0, .quiet st hn, ha⟩

theorem now_eq (h : s.Goes s') : s'.now = s.now := by
  obtain ⟨n, hw, -⟩ := h
  exact hw.2

end Goes

theorem turn?_goes (h : s.turn? = some s') : s.Goes s' :=
  ⟨0, turn?_reaches h, turn?_attempts h⟩

theorem run_goes (fuel : Nat) (s : Stage) : s.Goes (run fuel s) := by
  induction fuel generalizing s with
  | zero => exact .refl s
  | succ fuel hi =>
    rw [run]
    split
    case h_1 s' h => exact (turn?_goes h).trans (hi s')
    case h_2      => exact .refl s

theorem runView_goes (s : Stage) : s.Goes s.runView :=
  run_goes ..

end Stage

end RemoteTerm
