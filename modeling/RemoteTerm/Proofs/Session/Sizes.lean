import RemoteTerm.Proofs.Session.Step
/-!
The sizes that a session deals with: those that are measured, the one that its surface has, those
that its server is told, and its own one. They are in line with each other whatever happens, also
while there is no connection.
-/

namespace RemoteTerm

-- The size that a surface has from an action on.
def Action.shown? : Action → Option Grid
  | resize size => some size
  | _           => none

namespace Session

def Event.measured? : Event → Option Grid
  | opened m | viewport m => m
  | _                     => none

-- The size that a surface has after all the actions of a run.
def shown? (log : List (List Action)) : Option Grid :=
  (log.flatten.filterMap Action.shown?).getLast?

-- The size that has been measured last.
def measured? (es : List Event) : Option Grid :=
  (es.filterMap Event.measured?).getLast?

-- What a size comes to when a channel has opened, with a redraw after so long.
def negotiation (d : Duration) : Option Grid → List Action
  | some size =>
    [.resize size, .send (.resize size), .send (.resize size.narrowed), .armRedraw d]
  | none      => []

-- How the sizes are in line in a session that has been told some events and has asked for some
-- actions.
structure Aligned (d : Duration) (es : List Event) (s : Session) (log : List (List Action)) :
    Prop where
  surface : s.grid = shown? log
  -- The server is told the size of the session, and a narrower one only right after it.
  told {e g before after} :
    (s.step e).2 = before ++ .send (.resize g) :: after →
    ∃ size, (s.step e).1.grid = some size ∧
      (g = size ∨ g = size.narrowed ∧ (∃ m, e = .opened m) ∧
        ∃ first, before = first ++ [.send (.resize size)])
  connected {e f} :
    .send f ∈ (s.step e).2 → (s.step e).1.connection = .connected ∧ (s.step e).1.closed = false
  -- A channel that opens without a measurement gets the last one that there was, be it from a time
  -- without a connection.
  reopened :
    .teardown ∉ es → (s.step (.opened none)).2 = negotiation d (measured? es) ++ s.welcome

variable {s s' : Session} {e : Event} {as before after : List Action} {g : Grid} {m : Option Grid}

namespace Step

-- A session never has another size than it has given to its surface.
theorem grid_shown (st : Step s e s' as) :
    s'.grid = (as.filterMap Action.shown?).getLast?.or s.grid := by
  cases st
  case opened           => rw [s.welcome_filterMap rfl]; rfl
  case negotiated       => rw [List.filterMap_append, s.welcome_filterMap rfl]; rfl
  case retried | gaveUp => rw [List.filterMap_append, s.parting_filterMap fun _ => rfl]; rfl
  all_goals rfl

-- An open session takes each size that is measured.
theorem grid_measured (st : Step s e s' as) (h : s.closed = false) :
    s'.grid = e.measured?.or s.grid := by
  cases st <;> try rfl
  case deaf hc _ | late hc => simp [h] at hc
  case opened hg           => simp_all [Event.measured?]
  case negotiated hg       => exact hg.symm
  case noResize hm         => obtain rfl | rfl := hm <;> simp [Event.measured?]

theorem of_opened (st : Step s (.opened m) s' as) (h : s.closed = false) :
    as = negotiation s.redrawDelay (m.or s.grid) ++ s.welcome := by
  cases st
  case deaf hc _ | late hc       => simp [h] at hc
  case opened hg | negotiated hg => rw [hg]; rfl

theorem told_of_not_opened (st : Step s e s' as) (he : ∀ m, e ≠ .opened m)
    (h : .send (.resize g) ∈ as) : s'.grid = some g := by
  cases st <;> simp_all

-- The two sizes that are told when a channel has opened, by what comes before them.
theorem told_of_opened (st : Step s (.opened m) s' as)
    (h : as = before ++ .send (.resize g) :: after) :
    ∃ size, s'.grid = some size ∧
      (before = [.resize size] ∧ g = size ∨
        before = [.resize size, .send (.resize size)] ∧ g = size.narrowed) := by
  have hw : .send (.resize g) ∉ s.welcome := not_mem_welcome (by simp)
  cases st
  case deaf he => exact absurd rfl (he m)
  case late    => cases before <;> simp at h
  case opened  => simp [h] at hw
  case negotiated size _ _ =>
    refine ⟨size, rfl, ?_⟩
    match before with
    | []        => simp at h
    | [_]       =>
      obtain ⟨rfl, hg, -⟩ : _ ∧ size = g ∧ _ := by simpa using h
      exact .inl ⟨rfl, hg.symm⟩
    | [_, _]    =>
      obtain ⟨rfl, rfl, hg, -⟩ : _ ∧ _ ∧ size.narrowed = g ∧ _ := by simpa using h
      exact .inr ⟨rfl, hg.symm⟩
    | [_, _, _] => simp at h
    | _ :: _ :: _ :: _ :: _ =>
      obtain ⟨-, -, -, -, ha⟩ : _ ∧ _ ∧ _ ∧ _ ∧ s.welcome = _ := by simpa using h
      simp [ha] at hw

theorem told (st : Step s e s' as) (h : as = before ++ .send (.resize g) :: after) :
    ∃ size, s'.grid = some size ∧
      (g = size ∨ g = size.narrowed ∧ (∃ m, e = .opened m) ∧
        ∃ first, before = first ++ [.send (.resize size)]) := by
  by_cases he : ∃ m, e = .opened m
  case pos =>
    obtain ⟨m, rfl⟩ := he
    obtain ⟨size, hs, ⟨-, hg⟩ | ⟨hb, hg⟩⟩ := st.told_of_opened h
    · exact ⟨size, hs, .inl hg⟩
    · exact ⟨size, hs, .inr ⟨hg, ⟨m, rfl⟩, [.resize size], hb⟩⟩
  case neg =>
    have hg := st.told_of_not_opened (fun m hm => he ⟨m, hm⟩) (h ▸ List.mem_append_cons_self)
    exact ⟨g, hg, .inl rfl⟩

end Step

theorem run_shown (s : Session) (es : List Event) :
    (s.run es).1.grid = (shown? (s.run es).2).or s.grid := by
  induction es generalizing s with
  | nil          => rfl
  | cons e es hi =>
    rw [run_cons, hi, (s.step_step e).grid_shown, ← Option.or_assoc]
    simp [shown?, List.filterMap_append, List.getLast?_append]

theorem run_measured (ho : s.closed = false) {es : List Event} (h : .teardown ∉ es) :
    (s.run es).1.grid = (measured? es).or s.grid := by
  induction es generalizing s with
  | nil          => rfl
  | cons e es hi =>
    have ⟨he, hs⟩ := not_or.mp (mt List.mem_cons.mpr h)
    have st := s.step_step e
    rw [run_cons, hi (st.still_open ho (Ne.symm he)) hs, st.grid_measured ho, ← Option.or_assoc]
    cases hm : e.measured? <;> simp [measured?, hm, List.getLast?_cons]

-- The sizes of every session are in line, whatever it is told and in whatever order.
theorem run_aligned (p : Policy) (d : Duration) (es : List Event) :
    Aligned d es (run { policy := p, redrawDelay := d } es).1
      (run { policy := p, redrawDelay := d } es).2 := by
  constructor
  case surface   => rw [run_shown, Option.or_none]
  case told      => exact fun h => (step_step _ _).told h
  case connected => exact fun h => isConnected_iff.mp ((step_step _ _).isConnected_of_send h)
  case reopened  =>
    intro ht
    have ho : (run { policy := p, redrawDelay := d } es).1.closed = false := by
      simp [run_closed, ht]
    rw [(step_step _ _).of_opened ho, run_redrawDelay, run_measured rfl ht, Option.none_or,
      Option.or_none]

-- The size is measured while there is no connection.
example :
    (run {} [.start, .opened (some ⟨80, 24⟩), .lost, .viewport (some ⟨120, 40⟩),
      .opened none]).2.getLast? =
        some (negotiation (.ofMillis 75) (some ⟨120, 40⟩) ++ [.notify .reconnected]) := by
  decide

end Session

end RemoteTerm
