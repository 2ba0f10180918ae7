import RemoteTerm.Proofs.View.Line
/-!
The marks that the turns of a view leave in the log of its connection: what it was told of the
connection, and what it told the user.
-/

namespace RemoteTerm

-- What a log of a connection is made of.
inductive Mark where
  -- A connect begins.
  | call
  -- The channel has closed, or could not be opened.
  | failure (state : Connection)
  | opened
  | notice (n : Notice)
  | teardown
deriving DecidableEq

-- Whether a notice is about the connection.
def Notice.isConnection : Notice → Bool
  | reconnecting .. | reconnected | gaveUp       => true
  | clipboardUnavailable     | clipboardDenied => false

namespace Session

-- What is marked of an event on a session.
def marks (s : Session) : Event → List Mark
  | .opened _ => [.opened]
  | .lost     => [.failure s.connection]
  | .teardown => [.teardown]
  | _         => []

-- What the user of an open session is told of the connection on an event.
def announces (s : Session) : Event → List Notice
  | .opened _ =>
    match s.connection with
    | .reconnecting _ => [.reconnected]
    | _               => []
  | .lost =>
    if s.connection = .exhausted then []
    else if s.policy.maxAttempts ≤ s.connection.tried then [.gaveUp]
    else [.reconnecting (s.connection.tried + 1) s.policy.maxAttempts]
  | _ => []

theorem Step.notices {s s' : Session} {e : Event} {as : List Action} (st : Step s e s' as)
    (ho : s.closed = false) :
    (as.filterMap Action.notice?).filter Notice.isConnection = s.announces e := by
  have hp : s.parting.filterMap Action.notice? = [] := s.parting_filterMap fun _ => rfl
  cases st <;> simp only [announces, List.filterMap_append, hp]
  case deaf hc _ | late hc => simp [ho] at hc
  case opened        => simp only [welcome]; cases s.connection <;> rfl
  case negotiated    => simp only [welcome]; cases s.connection <;> rfl
  case retried hc hn => rw [if_neg hc, if_neg (UInt32.not_le.mpr hn)]; rfl
  case gaveUp hc hn  => rw [if_neg hc, if_pos hn]; rfl
  case exhausted hc  => rw [if_pos hc]; rfl
  all_goals rfl

end Session

namespace Turn

-- The notices about the connection that a turn sends.
def notices (t : Turn) : List Notice :=
  (t.effects.filterMap Effect.notice?).filter Notice.isConnection

def marks (t : Turn) : List Mark :=
  t.event?.elim [] t.view.session.marks ++ t.notices.map .notice

variable {t : Turn} {e : Session.Event}

theorem effects_notices (t : Turn) :
    t.effects.filterMap Effect.notice? = t.heard.2.filterMap Action.notice? := by
  have ha : t.atOnce.filterMap Effect.notice? = [] :=
    atOnce_filterMap fun e h => by cases e <;> first | rfl | cases h
  exact effects_filterMap ha fun v a => v.perform_notices a

theorem marks_of_no_event (h : t.event? = none) : t.marks = [] := by
  obtain ⟨n, hn, hc⟩ := heard_of_no_event h
  rw [marks, h, notices, effects_notices, hn]
  cases n
  case none   => rfl
  case some n => obtain rfl | rfl := hc n rfl <;> rfl

theorem marks_of_event (ho : t.view.session.closed = false) (h : t.event? = some e) :
    t.marks = t.view.session.marks e ++ (t.view.session.announces e).map .notice := by
  have hn : t.notices = t.view.session.announces e := by
    rw [notices, effects_notices, heard_of_event h, ← attended_session]
    exact (t.attended.session.step_step e).notices (t.attended_session ▸ ho)
  rw [marks, hn, h]
  rfl

theorem marks_closing (v : View) (s : Surroundings) : marks ⟨v, s, .closing⟩ = [.teardown] := by
  cases ho : v.session.closed
  case false => exact marks_of_event (t := ⟨v, s, .closing⟩) (e := .teardown) ho rfl
  case true =>
    rw [marks, notices, effects_closing_of_closed ho]
    rfl

end Turn

end RemoteTerm
