import RemoteTerm.Proofs.World.Log
/-!
How a view ends that has been asked to close: it hears at most one command more, whatever else is
ready or due, and is torn down.
-/

namespace RemoteTerm

namespace World

-- The flag is set and the command is queued at one moment.
def requestClose (w : World) : World :=
  { w with closing := true, queue := w.queue ++ [.close] }

-- The turns that a view takes after that, by their causes: the first command in the queue is heard
-- only if the view is waiting for one.
def farewell (w : World) : List Cause :=
  match w.phase with
  | .cold     => [.start, .closing]
  | .checking => [.closing]
  | .waiting  => [.wake (.command (w.queue.headD .close)), .closing]
  | .ended    => []

-- Nothing is left of what a view held.
structure Finished (w : World) : Prop where
  closed     : w.view.session.closed = true
  channel    : w.view.channel = none
  connecting : w.view.connecting = false
  timers (t) : w.view.deadline? t = none
  status     : w.view.status.closed = true
  dial       : w.dial = none

-- What holds of a world whose view has been asked to close, after some more labels.
structure Closes (w : World) (ls : List Label) (w' : World) : Prop where
  farewell : (turns ls).map Turn.cause ++ w'.farewell = w.farewell
  -- As long as the end has not come, the view is able to take its next turn.
  onward : w'.phase ≠ .ended → ∃ t w'', Step w' (.turn t) w''
  -- A teardown only gives up what is held, and to repeat it has no effect.
  torn {t} :
    t ∈ turns ls → t.event? = some .teardown →
    t.after.session.closed = true ∧ ∀ e ∈ t.effects, e.givesUp = true
  again {t} :
    t ∈ turns ls → t.view.session.closed = true → t.after = t.view ∧ t.effects = []
  finished : w'.phase = .ended → w'.Finished

variable {w w' w₀ : World} {ls ls' : List Label} {l : Label} {o : View.Options}

theorem take_closing (w : World) (t : Turn) : (w.take t).closing = w.closing := by
  have h (es : List Effect) (w : World) : (es.foldl effect w).closing = w.closing := by
    induction es generalizing w with
    | nil          => rfl
    | cons e es hi =>
      have he : (w.effect e).closing = w.closing := by
        cases e <;> try rfl
        case abandonConnect => simp only [effect]; split <;> rfl
      exact (hi _).trans he
  exact h ..

-- A loop that has ended has left a closed view.
theorem Run.closed_of_ended (r : Run w₀ ls w) (f : w₀.Fresh o) (hp : w.phase = .ended) :
    w.view.session.closed = true := by
  induction r
  case refl => simp [f.phase] at hp
  case step r st hi =>
    cases st <;> try exact hi hp
    case leave ho        => exact ho
    case start           => simp [take_phase] at hp
    case wake            => simp [take_phase] at hp
    case wait            => cases hp
    case tearDown w s _ _ _ => exact take_closed (t := ⟨w.view, s, .closing⟩) w rfl

theorem Run.finished (r : Run w₀ ls w) (f : w₀.Fresh o) (hp : w.phase = .ended) : w.Finished := by
  have hc := r.closed_of_ended f hp
  have lk := r.linked f
  have hp' : w.phase ≠ .cold := by simp [hp]
  have ⟨hi, hd⟩ := lk.of_closed f hc
  refine ⟨hc, hi, lk.dial.symm.trans (hd ▸ rfl), (lk.fits f hp').timers hc, ?_, hd⟩
  rw [← (lk.run hp').publish_eq]
  exact hc

-- What a view that is to close has left to do becomes less with each of its turns.
structure Bound (w : World) (ls : List Label) (w' : World) : Prop where
  closing  : w'.closing = true
  queued   : w'.phase = .waiting → w'.queue ≠ []
  farewell : (turns ls).map Turn.cause ++ w'.farewell = w.farewell

namespace Bound

variable {w'' : World}

theorem requestClose (w : World) : Bound w [] w.requestClose where
  closing  := rfl
  queued _ := by simp [World.requestClose]
  farewell := by
    simp only [World.farewell, World.requestClose]
    cases w.queue <;> rfl

theorem aside (h : Bound w ls w') (ht : l.turn? = none) (hc : w''.closing = true)
    (hp : w''.phase = w'.phase) (hq : ∃ cs, w''.queue = w'.queue ++ cs) :
    Bound w (ls ++ [l]) w'' := by
  obtain ⟨cs, hq⟩ := hq
  refine ⟨hc, fun hw => ?_, ?_⟩
  · simp [hq, h.queued (hp ▸ hw)]
  · rw [turns_append, ht, ← h.farewell]
    simp only [World.farewell, hp, hq, Option.toList_none, List.append_nil]
    cases hw : w'.phase <;> try rfl
    case waiting =>
      obtain ⟨c, cs, hc⟩ := List.exists_cons_of_ne_nil (h.queued hw)
      rw [hc]
      rfl

theorem turn {t : Turn} (h : Bound w ls w') (hc : w''.closing = true) (hp : w''.phase ≠ .waiting)
    (hf : w'.farewell = t.cause :: w''.farewell) : Bound w (ls ++ [.turn t]) w'' := by
  refine ⟨hc, fun hw => absurd hw hp, ?_⟩
  rw [turns_append, ← h.farewell, hf]
  simp [Label.turn?]

theorem step (h : Bound w ls w') (st : Step w' l w'') : Bound w (ls ++ [l]) w'' := by
  have hc := h.closing
  cases st
  case leave hc' _ => simp [hc] at hc'
  case wait hc' _  => simp [hc] at hc'
  case post c      => exact h.aside rfl hc rfl ⟨[c], rfl⟩
  case close       => exact h.aside rfl rfl rfl ⟨[.close], rfl⟩
  case start s hp hn =>
    refine h.turn ((take_closing ..).trans hc) (by simp [take_phase]) ?_
    simp only [World.farewell, hp, take_phase]
  case tearDown s hp _ hn =>
    refine h.turn ((take_closing ..).trans hc) nofun ?_
    simp only [World.farewell, hp]
  case wake x w₁ s hp of hn =>
    have hq := h.queued hp
    cases of
    case command c cs hc' =>
      refine h.turn ((take_closing ..).trans hc) (by simp [take_phase]) ?_
      simp only [World.farewell, hp, take_phase, hc', List.headD_cons]
    all_goals exact absurd ‹_› hq
  all_goals exact h.aside rfl hc rfl ⟨[], (List.append_nil _).symm⟩

-- The next turn is always there to be taken.
theorem onward (h : Bound w ls w') (hp : w'.phase ≠ .ended) :
    ∃ t w'', Step w' (.turn t) w'' := by
  cases hp' : w'.phase
  case cold     => exact ⟨_, _, .start ⟨w'.now, none, "", none⟩ hp' rfl⟩
  case checking => exact ⟨_, _, .tearDown ⟨w'.now, none, "", none⟩ hp' h.closing rfl⟩
  case ended    => exact absurd hp' hp
  case waiting  =>
    obtain ⟨c, cs, hq⟩ := List.exists_cons_of_ne_nil (h.queued hp')
    exact ⟨_, _, .wake ⟨w'.now, none, "", none⟩ hp' (.command hq) rfl⟩

end Bound

-- Whenever a view is asked to close, this is how it ends.
theorem Run.closes (r : Run w₀ ls w) (f : w₀.Fresh o) (r' : Run w.requestClose ls' w') :
    Closes w ls' w' := by
  have h : Bound w ls' w' := by
    induction r'
    case refl         => exact Bound.requestClose w
    case step r st hi => exact hi.step st
  have whole := (r.step .close).trans r'
  have lk := whole.linked f
  constructor
  case farewell => exact h.farewell
  case onward   => exact h.onward
  case finished => exact whole.finished f
  case torn     =>
    intro t ht he
    refine ⟨by simp [Turn.after_closed, he], fun x hx => ?_⟩
    obtain ⟨i, rfl⟩ | rfl := Turn.effects_of_teardown he hx <;> rfl
  case again =>
    intro t ht hc
    have ht : t ∈ turns (ls ++ [.quiet] ++ ls') := by
      rw [turns, List.filterMap_append]
      exact List.mem_append_right _ ht
    obtain hn | ⟨id, rv⟩ := lk.run_or f
    case inl => rw [hn] at ht; cases ht
    case inr => exact rv.teardown_again rfl ht hc

-- Output is ready, the redraw is due, and an input is queued when the view is asked to close.
theorem closes_busy :
    ∃ w₀ ls w ls' w', Fresh {} w₀ ∧ Run w₀ ls w ∧ Run w.requestClose ls' w' ∧
      w.phase = .waiting ∧ w.queue = [.input "a", .input "b"] ∧
      (w.exchange.receive 0).2 = .item [97] ∧ w.view.redrawAt = some 75000000 ∧
      w.now = 75000000 ∧ w'.phase = .ended ∧
      (turns ls').map Turn.effects = [[.transmit 0 (.input "a")], [.release 0]] ∧
      Closes w ls' w' := by
  have f : Fresh {} { view := .create default _ } := ⟨⟨default, rfl⟩, rfl, rfl⟩
  have r := Run.refl
    |>.step (.start ⟨0, none, "", none⟩ f.phase rfl)
    |>.step (.call rfl)
    |>.step (.answer rfl rfl)
    |>.step (.wait rfl rfl rfl)
    |>.step (.wake ⟨0, some ⟨80, 24⟩, "", none⟩ rfl (.connected rfl rfl) rfl)
    |>.step (.wait rfl rfl rfl)
    |>.step (.pass 75000000 (by decide))
    |>.step (.move (.push 0 [97] rfl rfl))
    |>.step (.post (.input "a"))
    |>.step (.post (.input "b"))
  have asked {w₀ ls w} (_ : Run w₀ ls w) : Run w.requestClose [] w.requestClose := .refl
  have r' := asked r
    |>.step (.wake ⟨75000000, none, "", none⟩ rfl (.command rfl) rfl)
    |>.step (.tearDown ⟨75000000, none, "", none⟩ rfl rfl rfl)
  have h := r.closes f r'
  exact ⟨_, _, _, _, _, f, r, r', rfl, rfl, rfl, rfl, rfl, rfl, rfl, h⟩

end World

end RemoteTerm
