import RemoteTerm.Proofs.View.Line
/-!
What a view holds fits where its connection stands, whatever it hears and in whatever order. So
nothing that it does comes too late or twice: no frame is without a channel, and no connect is
asked for beside another.
-/

namespace RemoteTerm

variable {l : Line} {p : Policy} {now : Instant} {v v₀ : View} {as : List Action} {t : Turn}

-- A closed line holds nothing. An open one holds a channel if it is connected, a connect if it is
-- connecting, and one of a connect and a timer for it if it is reconnecting.
def Line.Fits (l : Line) : Prop :=
  if l.closed then l.channel = none ∧ l.connecting = false ∧ l.reconnectAt = none
  else
    match l.connection with
    | .connecting     => l.channel = none ∧ l.connecting = true ∧ l.reconnectAt = none
    | .connected      => l.channel.isSome ∧ l.connecting = false ∧ l.reconnectAt = none
    | .reconnecting _ => l.channel = none ∧ (l.connecting = true ↔ l.reconnectAt = none)
    | .exhausted      => l.channel = none ∧ l.connecting = false ∧ l.reconnectAt = none

namespace View

-- A closed view has no timer armed either.
structure Fits (v : View) : Prop where
  line   : v.line.Fits
  timers : v.session.closed = true → ∀ t, v.deadline? t = none

-- Whether an action comes to something: a frame needs a channel, a connect must be the only one.
def Can (v : View) : Action → Prop
  | .send _      => v.channel.isSome
  | .openChannel => v.connecting = false
  | _            => True

def CanAll (now : Instant) (v : View) : List Action → Prop
  | []      => True
  | a :: as => v.Can a ∧ (v.perform now a).1.CanAll now as

end View

-- A turn tells the session only what can be at that time, and is able to do what it is asked.
structure Turn.Timely (t : Turn) : Prop where
  opened : ∀ m, t.event? = some (.opened m) → t.view.session.closed = false ∧
    (t.view.session.connection = .connecting ∨ ∃ n, t.view.session.connection = .reconnecting n)
  output : ∀ b, t.event? = some (.output b) → t.view.session.isConnected = true
  lost   : t.event? = some .lost → t.view.reconnectAt = none
  able   : t.heard.1.CanAll t.around.now t.heard.2

namespace Line.Fits

theorem of_connecting (f : l.Fits) (h : l.connecting = true) :
    l.closed = false ∧ l.channel = none ∧ l.reconnectAt = none ∧
      (l.connection = .connecting ∨ ∃ n, l.connection = .reconnecting n) := by
  simp only [Line.Fits] at f
  split at f
  · simp_all
  · split at f <;> simp_all

theorem of_channel (f : l.Fits) (h : l.channel.isSome) :
    l.closed = false ∧ l.connecting = false ∧ l.reconnectAt = none ∧ l.connection = .connected := by
  simp only [Line.Fits] at f
  split at f
  · simp_all
  · split at f <;> simp_all

theorem of_reconnectAt {due : Instant} (f : l.Fits) (h : l.reconnectAt = some due) :
    l.closed = false ∧ l.channel = none ∧ l.connecting = false ∧
      ∃ n, l.connection = .reconnecting n := by
  simp only [Line.Fits] at f
  split at f
  · simp_all
  · split at f <;> simp_all

theorem tornDown : l.tornDown.Fits := by
  simp [Line.tornDown, Line.Fits]

theorem tornDown_eq (f : l.Fits) (h : l.closed = true) : l.tornDown = l := by
  cases l
  simp_all [Line.Fits, Line.tornDown]

-- A line that holds nothing at all is ready for the next attempt.
theorem lost (ho : l.closed = false) (hc : l.channel = none) (hd : l.connecting = false)
    (hr : l.reconnectAt = none) (hx : l.connection ≠ .exhausted) : (l.lost p now).Fits := by
  simp only [Line.lost, if_neg hx]
  split <;> simp [Line.Fits, ho, hc, hd, hr]

end Line.Fits

namespace Turn

-- What a view hears keeps its line fitting.
theorem fits_wake {s : Surroundings} {w : Wake} (f : v.line.Fits)
    (ho : v.session.closed = false) (h : v.Hears s.now w) :
    (after ⟨v, s, .wake w⟩).line.Fits := by
  have told {e} := after_line_of_event (t := ⟨v, s, .wake w⟩) (e := e) ho
  have kept := after_line_of_no_event (t := ⟨v, s, .wake w⟩)
  rw [attended_line] at told kept
  cases h
  case command c =>
    obtain he | he | ⟨text, he⟩ := v.event?_command s c
    case inl     => exact told he ▸ Line.Fits.tornDown
    case inr.inl => exact kept he ▸ f
    case inr.inr => exact told he ▸ f
  case abandoned => exact told rfl ▸ Line.Fits.tornDown
  case connected r hd =>
    obtain ⟨-, hc, hr, hx⟩ := f.of_connecting hd
    cases r
    case none =>
      rw [told rfl]
      exact Line.Fits.lost ho hc rfl hr (by obtain hx | ⟨n, hx⟩ := hx <;> simp [Line.attend, hx])
    case some channel =>
      rw [told rfl]
      simp_all [Line.Fits, Line.told, Line.attend, View.line]
  case output b hc => exact told rfl ▸ f
  case ended hc =>
    obtain ⟨-, hd, hr, hx⟩ := f.of_channel hc
    rw [told rfl]
    exact Line.Fits.lost ho rfl hd hr (by simp [Line.attend, hx])
  case timer t due ht hn =>
    cases t
    case reconnect =>
      obtain ⟨-, hc, hd, n, hx⟩ := f.of_reconnectAt ht
      rw [told rfl]
      simp_all [Line.Fits, Line.told, Line.attend, View.line, Stage.ofTimer]
    case flush => exact kept rfl ▸ f
    all_goals exact told rfl ▸ f

-- A teardown leaves no timer armed.
theorem timers_of_teardown (ho : t.view.session.closed = false) (h : t.event? = some .teardown)
    (τ : View.Timer) : t.after.deadline? τ = none := by
  have hs : t.attended.session.closed = false := by rw [attended_session, ho]
  simp only [after, outcome_eq, heard_of_event h, View.tell, Session.step, Session.teardown, hs]
  cases τ <;> rfl

theorem fits_timers (ho : t.view.session.closed = false) (hc : t.after.session.closed = true)
    (τ : View.Timer) : t.after.deadline? τ = none := by
  rw [after_closed, ho, Bool.false_or, decide_eq_true_eq] at hc
  exact timers_of_teardown ho hc τ

end Turn

namespace View

-- Actions that need no channel and open none.
theorem canAll_of_quiet (h : ∀ a ∈ as, (∀ f, a ≠ .send f) ∧ a ≠ .openChannel) :
    v.CanAll now as := by
  induction as generalizing v with
  | nil => trivial
  | cons a as hi =>
    have ⟨hs, ho⟩ := h a List.mem_cons_self
    refine ⟨?_, hi fun b hb => h b (List.mem_cons_of_mem a hb)⟩
    cases a <;> first | trivial | exact absurd rfl (hs _)

theorem canAll_of_channel (hc : v.channel.isSome)
    (h : ∀ a ∈ as, a ≠ .openChannel ∧ a ≠ .closeChannel) : v.CanAll now as := by
  induction as generalizing v with
  | nil => trivial
  | cons a as hi =>
    have ⟨ho, hx⟩ := h a List.mem_cons_self
    have hc' : (v.perform now a).1.channel.isSome := by rwa [v.perform_channel a hx]
    refine ⟨?_, hi hc' fun b hb => h b (List.mem_cons_of_mem a hb)⟩
    cases a <;> first | exact hc | trivial

theorem channel_of_connected (f : v.line.Fits) (h : v.session.isConnected = true) :
    v.channel.isSome := by
  obtain ⟨hc, ho⟩ := Session.isConnected_iff.mp h
  simp only [Line.Fits, line, hc, ho] at f
  exact f.1

end View

namespace Turn

-- Where the view fits after a turn, the turn was able to do what it was asked.
theorem able (f : t.after.line.Fits)
    (hd : t.event? = some .start ∨ t.event? = some .reconnectDue → t.attended.connecting = false) :
    t.heard.1.CanAll t.around.now t.heard.2 := by
  cases h : t.event?
  case none =>
    obtain ⟨n, hn, -⟩ := heard_of_no_event h
    rw [hn]
    apply View.canAll_of_quiet
    cases n <;> simp
  case some e =>
    have st := t.attended.session.step_step e
    have hh : t.heard.2 = (t.attended.session.step e).2 := by rw [heard_of_event h]; rfl
    by_cases hq : .openChannel ∈ t.heard.2
    case pos =>
      rw [hh] at hq
      have ⟨ha, he⟩ := st.of_openChannel hq
      have hd' : t.attended.connecting = false := hd (by rw [h]; simpa using he.imp id And.left)
      rw [hh, ha, heard_of_event h]
      exact ⟨hd', trivial⟩
    case neg =>
      by_cases hs : ∃ f, .send f ∈ t.heard.2
      case pos =>
        obtain ⟨frame, hs⟩ := hs
        have hx : .closeChannel ∉ t.heard.2 := hh ▸ st.no_closeChannel (hh ▸ hs)
        have hc : t.after.channel.isSome := by
          apply View.channel_of_connected f
          rw [after_session, h, ← attended_session]
          exact st.isConnected_of_send (hh ▸ hs)
        simp only [after, outcome_eq] at hc
        apply View.canAll_of_channel (by rwa [← View.performAll_channel hx])
        exact fun a ha => ⟨fun he => hq (he ▸ ha), fun he => hx (he ▸ ha)⟩
      case neg =>
        apply View.canAll_of_quiet
        exact fun a ha => ⟨fun f he => hs ⟨f, he ▸ ha⟩, fun he => hq (he ▸ ha)⟩

theorem timely_wake {s : Surroundings} {w : Wake} (f : v.line.Fits)
    (ho : v.session.closed = false) (h : v.Hears s.now w) : Timely ⟨v, s, .wake w⟩ where
  opened _ he := ⟨ho, (f.of_connecting (h.grounds he)).2.2.2⟩
  output _ he := Session.isConnected_iff.mpr ⟨(f.of_channel (h.grounds he)).2.2.2, ho⟩
  lost he := by
    obtain hd | hc := h.grounds he
    case inl => exact (f.of_connecting hd).2.2.1
    case inr => exact (f.of_channel hc).2.2.1
  able := by
    apply able (fits_wake f ho h)
    intro he
    obtain he | he := he
    case inl => exact (h.grounds he).elim
    case inr =>
      obtain ⟨due, hr⟩ := Option.isSome_iff_exists.mp (h.grounds he)
      have hd : v.line.connecting = false := (f.of_reconnectAt hr).2.2.1
      change (v.attend s w).line.connecting = false
      rw [v.attend_line, Line.attend_connecting hd]

-- A view that is to close ends up with nothing, also if it has been torn down before.
theorem after_line_closing {s : Surroundings} (f : v.Fits) :
    (after ⟨v, s, .closing⟩).line = v.line.tornDown := by
  cases ho : v.session.closed
  case false => exact after_line_of_event (t := ⟨v, s, .closing⟩) (e := .teardown) ho rfl
  case true  => exact after_closing_of_closed ho ▸ (f.line.tornDown_eq ho).symm

theorem fits_closing {s : Surroundings} (f : v.Fits) : (after ⟨v, s, .closing⟩).Fits := by
  cases ho : v.session.closed
  case true  => exact after_closing_of_closed ho ▸ ⟨f.line, f.timers⟩
  case false =>
    have ht : event? ⟨v, s, .closing⟩ = some .teardown := rfl
    refine ⟨?_, fun _ => timers_of_teardown ho ht⟩
    exact after_line_of_event ho ht ▸ Line.Fits.tornDown

theorem timely_closing {s : Surroundings} (f : v.Fits) : Timely ⟨v, s, .closing⟩ where
  opened _ he := by cases he
  output _ he := by cases he
  lost he     := by cases he
  able        := able (fits_closing f).line (by simp [event?])

variable {id : Uuid} {o : View.Options} {s : Surroundings}

theorem fits_start : (after ⟨.create id o, s, .start⟩).Fits where
  line     := after_line_of_event (t := ⟨.create id o, s, .start⟩) rfl rfl ▸ ⟨rfl, rfl, rfl⟩
  timers h := by cases h

theorem timely_start : Timely ⟨.create id o, s, .start⟩ where
  opened _ he := by cases he
  output _ he := by cases he
  lost he     := by cases he
  able        := able fits_start.line fun _ => rfl

end Turn

namespace View.Run

variable {id : Uuid} {o : Options} {ts : List Turn}

theorem fits (r : Run (create id o) ts v) : v.Fits := by
  induction r
  case start s             => exact Turn.fits_start
  case wake s w r ho h hi  => exact ⟨Turn.fits_wake hi.line ho h, Turn.fits_timers ho⟩
  case closing s r hi      => exact Turn.fits_closing hi

-- A view fits after each turn that it takes, and each turn has been in time.
theorem fits_and_timely (r : Run (create id o) ts v) : v.Fits ∧ ∀ t ∈ ts, t.Timely := by
  refine ⟨r.fits, ?_⟩
  induction r
  case start s => simpa using Turn.timely_start
  case wake s w r ho h hi =>
    have ht := Turn.timely_wake r.fits.line ho h
    simpa [or_imp, forall_and] using ⟨hi, ht⟩
  case closing s r hi =>
    have ht := Turn.timely_closing (s := s) r.fits
    simpa [or_imp, forall_and] using ⟨hi, ht⟩

-- A view whose first connect fails, and whose second one is lost again as soon as it has opened.
theorem fits_and_timely_lost_twice :
    ∃ ts v, Run (create default {}) ts v ∧ ts.length = 5 ∧
      v.line = ⟨.reconnecting 1, false, none, false, some 3000000000⟩ ∧
      v.Fits ∧ ∀ t ∈ ts, t.Timely := by
  have r₁ : Run (create default {}) _ _ := .start ⟨0, none, "", none⟩
  have r₂ := r₁.wake ⟨0, none, "", none⟩ (.connected none) rfl (.connected none rfl)
  have r₃ := r₂.wake ⟨1000000000, none, "", none⟩ .reconnectDue rfl
    (.timer .reconnect _ rfl (by decide))
  have r₄ := r₃.wake ⟨1000000000, none, "", none⟩ (.connected (some 0)) rfl (.connected _ rfl)
  have r₅ := r₄.wake ⟨2000000000, none, "", none⟩ .ended rfl (.ended rfl)
  exact ⟨_, _, r₅, rfl, rfl, r₅.fits_and_timely⟩

end View.Run

end RemoteTerm
