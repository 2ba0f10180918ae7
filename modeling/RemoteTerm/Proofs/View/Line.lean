import RemoteTerm.Proofs.View.Turn
/-!
The line of a view: where its connection stands and what it holds for it. The rest of the view has
no influence on the line.
-/

namespace RemoteTerm

structure Line where
  connection  : Connection
  closed      : Bool
  channel     : Option ChannelId
  connecting  : Bool
  reconnectAt : Option Instant

def View.line (v : View) : Line where
  connection  := v.session.connection
  closed      := v.session.closed
  channel     := v.channel
  connecting  := v.connecting
  reconnectAt := v.reconnectAt

namespace Line

def act (now : Instant) (l : Line) : Action → Line
  | .armReconnect d => { l with reconnectAt := now.after d }
  | .openChannel    => { l with connecting := true }
  | .closeChannel   => { l with channel := none, connecting := false }
  | .cancelTimers   => { l with reconnectAt := none }
  | _               => l

-- The next attempt after a loss, or the end of all attempts.
def lost (p : Policy) (now : Instant) (l : Line) : Line :=
  if l.connection = .exhausted then l
  else if p.maxAttempts ≤ l.connection.tried then { l with connection := .exhausted }
  else
    { l with
      connection  := .reconnecting (l.connection.tried + 1)
      reconnectAt := now.after (p.delay l.connection.tried) }

def tornDown (l : Line) : Line :=
  { l with closed := true, channel := none, connecting := false, reconnectAt := none }

@[simp]
theorem foldl_act_parting (s : Session) (now : Instant) (l : Line) :
    s.parting.foldl (act now) l = l :=
  s.parting_foldl (fun _ _ => rfl) l

@[simp]
theorem foldl_act_welcome (s : Session) (now : Instant) (l : Line) :
    s.welcome.foldl (act now) l = l :=
  s.welcome_foldl (fun _ => rfl) l

theorem lost_channel (l : Line) (p : Policy) (now : Instant) :
    (l.lost p now).channel = l.channel := by
  simp only [lost]
  split <;> try split
  all_goals rfl

theorem lost_connection (l : Line) (p : Policy) (now : Instant) :
    (l.lost p now).connection ≠ .connecting := by
  simp only [lost]
  split <;> try split
  all_goals simp_all

-- What an event comes to on an open line.
def told (p : Policy) (now : Instant) (l : Line) : Session.Event → Line
  | .start        => { l with connection := .connecting, connecting := true }
  | .opened _     => { l with connection := .connected }
  | .lost         => l.lost p now
  | .reconnectDue =>
    match l.connection with
    | .reconnecting _ => { l with connecting := true }
    | _               => l
  | .teardown     => l.tornDown
  | _             => l

def attend (l : Line) : Wake → Line
  | .connected (some channel) => { l with connecting := false, channel := some channel }
  | .connected none           => { l with connecting := false }
  | .ended                    => { l with channel := none }
  | .reconnectDue             => { l with reconnectAt := none }
  | _                         => l

theorem attend_connecting {l : Line} {w : Wake} (h : l.connecting = false) :
    (l.attend w).connecting = false := by
  cases w <;> try exact h
  case connected r => cases r <;> rfl

-- The time for the connect of an attempt has come.
theorem told_reconnectDue {l : Line} {n : UInt32} (p : Policy) (now : Instant)
    (h : l.connection = .reconnecting n) :
    (l.attend .reconnectDue).told p now .reconnectDue =
      { l with reconnectAt := none, connecting := true } := by
  simp only [attend, told, h]

end Line

namespace View

variable {v : View} {now : Instant}

theorem perform_line (v : View) (now : Instant) (a : Action) :
    (v.perform now a).1.line = v.line.act now a := by
  cases a <;> try rfl
  case openChannel =>
    simp only [perform]
    split
    case isTrue h => simp [line, Line.act, h]
    case isFalse  => rfl

theorem performAll_line (v : View) (now : Instant) (as : List Action) :
    (v.performAll now as).1.line = as.foldl (Line.act now) v.line :=
  performAll_foldl line _ fun v a => v.perform_line now a

theorem feel_line (v : View) (now : Instant) (e : Touch.Event) :
    (v.feel now e).1.line = v.line := by
  cases e <;> rfl

theorem attend_line (v : View) (s : Surroundings) (w : Wake) :
    (v.attend s w).line = v.line.attend w := by
  cases w <;> try rfl
  case connected r => cases r <;> rfl
  case command c =>
    cases c <;> try rfl
    case touch e => exact v.feel_line s.now e
    all_goals exact keepLatch_keeps line (fun _ _ => rfl) v _

-- The line of a view that has told its open session of an event, and has done what it was asked.
theorem tell_line (v : View) (now : Instant) (e : Session.Event) (h : v.session.closed = false) :
    ((v.tell e).1.performAll now (v.tell e).2).1.line = v.line.told v.session.policy now e := by
  rw [performAll_line]
  have st := v.session.step_step e
  simp only [tell, line]
  generalize v.session.step e = r at st ⊢
  obtain ⟨s', as⟩ := r
  cases st <;> simp only [Line.told, Line.lost]
  case deaf hc _ | late hc => simp [h] at hc
  case opened        => exact Line.foldl_act_welcome ..
  case negotiated    => simp [Line.act]
  case retried hc hn => simp [Line.act, hc, UInt32.not_le.mpr hn]
  case gaveUp hc hn  => simp [Line.act, hc, hn]
  case exhausted hc  => simp [hc]
  case reopen hc     => simp [Line.act, hc]
  all_goals rfl

end View

namespace Turn

variable {t : Turn} {e : Session.Event}

theorem attended_line (t : Turn) :
    t.attended.line = match t.cause with | .wake w => t.view.line.attend w | _ => t.view.line := by
  obtain ⟨v, s, c⟩ := t
  cases c <;> first | rfl | apply v.attend_line

theorem after_line (t : Turn) :
    t.after.line = (t.heard.1.performAll t.around.now t.heard.2).1.line := by
  simp only [after, outcome_eq]
  rfl

theorem after_line_of_event (ho : t.view.session.closed = false) (h : t.event? = some e) :
    t.after.line = t.attended.line.told t.view.session.policy t.around.now e := by
  rw [after_line, heard_of_event h, View.tell_line _ _ _ (by rw [attended_session, ho]),
    attended_session]

theorem after_line_of_no_event (h : t.event? = none) : t.after.line = t.attended.line := by
  obtain ⟨n, hn, -⟩ := heard_of_no_event h
  rw [after_line, hn, View.performAll_line]
  cases n <;> rfl

end Turn

end RemoteTerm
