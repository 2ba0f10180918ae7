import RemoteTerm.Proofs.Session.Step
/-!
How a session ends. Its first teardown gives up what it has asked for. Whatever it is told after
that, in whatever order, it stays as it is, and only sees to it that no channel is left open.
-/

namespace RemoteTerm.Session

-- The answer of a session that has been torn down.
def Event.release : Event → List Action
  | opened _ => [.closeChannel]
  | _        => []

-- What comes of a session that is torn down and then told some events.
structure Retires (s : Session) (es : List Event) : Prop where
  -- It has not been torn down before.
  first      : s.closed = false
  answers    : (s.run (.teardown :: es)).2 = [.cancelTimers, .closeChannel] :: es.map Event.release
  closed     : (s.run (.teardown :: es)).1.closed = true
  connection : (s.run (.teardown :: es)).1.connection = s.connection
  grid       : (s.run (.teardown :: es)).1.grid = s.grid
  apart      : (s.run (.teardown :: es)).1.isConnected = false

variable {s s' : Session} {e : Event} {as : List Action}

theorem Step.of_closed (st : Step s e s' as) (h : s.closed = true) : s' = s ∧ as = e.release := by
  cases st
  case deaf he =>
    refine ⟨rfl, ?_⟩
    cases e
    case opened m => exact absurd rfl (he m)
    all_goals rfl
  case late => exact ⟨rfl, rfl⟩
  all_goals simp_all [isConnected]

theorem Step.of_first_teardown (st : Step s .teardown s' as) (h : s.closed = false) :
    s' = { s with closed := true } ∧ as = [.cancelTimers, .closeChannel] := by
  cases st
  case deaf hc _ => simp [h] at hc
  case teardown  => exact ⟨rfl, rfl⟩

theorem run_of_closed (h : s.closed = true) (es : List Event) :
    s.run es = (s, es.map Event.release) := by
  induction es with
  | nil => rfl
  | cons e es hi =>
    have ⟨hs, ha⟩ := (s.step_step e).of_closed h
    rw [run_cons, hs, ha, hi]
    rfl

-- From the teardown on nothing of a session moves.
theorem run_teardown (h : s.closed = false) (es : List Event) :
    s.run (.teardown :: es) =
      ({ s with closed := true }, [.cancelTimers, .closeChannel] :: es.map Event.release) := by
  have ⟨hs, ha⟩ := (s.step_step .teardown).of_first_teardown h
  rw [run_cons, hs, ha, run_of_closed rfl]

-- Every session retires in this way, whatever it has been told before.
theorem run_retires (p : Policy) (d : Duration) (before after : List Event)
    (h : .teardown ∉ before) :
    Retires (run { policy := p, redrawDelay := d } before).1 after := by
  have ho : (run { policy := p, redrawDelay := d } before).1.closed = false := by
    simp [run_closed, h]
  generalize (run { policy := p, redrawDelay := d } before).1 = s at ho
  have hr := run_teardown ho after
  constructor
  case first      => exact ho
  case answers    => rw [hr]
  case closed     => rw [hr]
  case connection => rw [hr]
  case grid       => rw [hr]
  case apart      => simp [hr, isConnected]

-- A session that waits for an attempt. What it waits for comes after the teardown, and twice.
theorem run_retires_reconnecting :
    ∃ s, s = (run {} [.start, .opened (some ⟨80, 24⟩), .lost]).1 ∧
      s.connection = .reconnecting 1 ∧
      Retires s [.reconnectDue, .opened none, .input "ls", .opened (some ⟨90, 30⟩), .teardown] := by
  refine ⟨_, rfl, by decide, ?_⟩
  exact run_retires {} (.ofMillis 75) [.start, .opened (some ⟨80, 24⟩), .lost] _ (by decide)

end RemoteTerm.Session
