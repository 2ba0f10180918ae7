import RemoteTerm.Session
/-!
Everything that a session can do on an event: when it does it, what becomes of the session, and
which actions it asks for.
-/

namespace RemoteTerm

-- Below a bound the count does not wrap around.
theorem toNat_succ {n m : UInt32} (h : n < m) : (n + 1).toNat = n.toNat + 1 := by
  have hn := UInt32.lt_iff_toNat_lt.mp h
  have hm := m.toNat_lt
  rw [UInt32.toNat_add, UInt32.toNat_one, Nat.mod_eq_of_lt (by omega)]

-- How many attempts to reconnect have been begun.
def Connection.tried : Connection → UInt32
  | .reconnecting attempt => attempt
  | _                     => 0

namespace Session

-- What the surface is told of a loss: each loss is marked once.
def parting (s : Session) : List Action :=
  match s.connection with
  | .connecting | .connected => [.write (Bytes.ofString lostMarker)]
  | _                        => []

-- What the user is told when a channel has opened.
def welcome (s : Session) : List Action :=
  match s.connection with
  | .reconnecting _ => [.notify .reconnected]
  | _               => []

inductive Step (s : Session) : Event → Session → List Action → Prop
  -- A closed session only sees to it that no channel stays open.
  | deaf {e} : s.closed = true → (∀ m, e ≠ .opened m) → Step s e s []
  | late {m} : s.closed = true → Step s (.opened m) s [.closeChannel]
  | start :
    s.closed = false → Step s .start { s with connection := .connecting } [.openChannel]
  | opened {m : Option Grid} :
    s.closed = false → m.or s.grid = none →
    Step s (.opened m) { s with connection := .connected } s.welcome
  | negotiated {m : Option Grid} {size : Grid} :
    s.closed = false → m.or s.grid = some size →
    Step s (.opened m) { s with connection := .connected, grid := size }
      ([.resize size, .send (.resize size), .send (.resize size.narrowed),
        .armRedraw s.redrawDelay] ++ s.welcome)
  | redraw {size : Grid} :
    s.isConnected = true → s.grid = some size → Step s .redrawDue s [.send (.resize size)]
  | noRedraw : s.closed = false → s.isConnected = false ∨ s.grid = none → Step s .redrawDue s []
  | output {b} : s.closed = false → b ≠ [] → Step s (.output b) s [.write b]
  | noOutput : s.closed = false → Step s (.output []) s []
  | retried :
    s.closed = false → s.connection ≠ .exhausted → s.connection.tried < s.policy.maxAttempts →
    Step s .lost { s with connection := .reconnecting (s.connection.tried + 1) }
      (s.parting ++
        [.notify (.reconnecting (s.connection.tried + 1) s.policy.maxAttempts),
          .armReconnect (s.policy.delay s.connection.tried)])
  | gaveUp :
    s.closed = false → s.connection ≠ .exhausted → s.policy.maxAttempts ≤ s.connection.tried →
    Step s .lost { s with connection := .exhausted } (s.parting ++ [.notify .gaveUp])
  | exhausted : s.closed = false → s.connection = .exhausted → Step s .lost s []
  | reopen {n} :
    s.closed = false → s.connection = .reconnecting n → Step s .reconnectDue s [.openChannel]
  | noReopen :
    s.closed = false → (∀ n, s.connection ≠ .reconnecting n) → Step s .reconnectDue s []
  | input {t} :
    s.isConnected = true → t ≠ "" → Step s (.input t) s [.send (.input t)]
  | noInput {t} :
    s.closed = false → s.isConnected = false ∨ t = "" → Step s (.input t) s []
  | resized {size : Grid} :
    s.isConnected = true → s.grid ≠ some size →
    Step s (.viewport (some size)) { s with grid := size } [.resize size, .send (.resize size)]
  | resizedAway {size : Grid} :
    s.closed = false → s.connection ≠ .connected → s.grid ≠ some size →
    Step s (.viewport (some size)) { s with grid := size } [.resize size]
  | noResize {m} :
    s.closed = false → m = none ∨ s.grid = m → Step s (.viewport m) s []
  | teardown :
    s.closed = false → Step s .teardown { s with closed := true } [.cancelTimers, .closeChannel]

variable {s s' : Session} {e : Event} {as : List Action}

theorem isConnected_iff : s.isConnected = true ↔ s.connection = .connected ∧ s.closed = false := by
  simp [isConnected]

theorem parting_eq (s : Session) : s.parting = [] ∨ ∃ bytes, s.parting = [.write bytes] := by
  cases h : s.connection <;> simp [parting, h]

theorem welcome_eq (s : Session) : s.welcome = [] ∨ s.welcome = [.notify .reconnected] := by
  cases h : s.connection <;> simp [welcome, h]

@[simp]
theorem not_mem_parting {a : Action} (h : ∀ b, a ≠ .write b) : a ∉ s.parting := by
  obtain hp | ⟨b, hp⟩ := s.parting_eq <;> simp [hp, h]

@[simp]
theorem not_mem_welcome {a : Action} (h : a ≠ .notify .reconnected) : a ∉ s.welcome := by
  obtain hw | hw := s.welcome_eq <;> simp [hw, h]

-- A reading of actions that passes over writes finds nothing in a parting.
theorem parting_filterMap {β : Type} {f : Action → Option β} (hf : ∀ b, f (.write b) = none)
    (s : Session) : s.parting.filterMap f = [] := by
  obtain h | ⟨b, h⟩ := s.parting_eq <;> simp [h, hf]

theorem welcome_filterMap {β : Type} {f : Action → Option β}
    (hf : f (.notify .reconnected) = none) (s : Session) : s.welcome.filterMap f = [] := by
  obtain h | h := s.welcome_eq <;> simp [h, hf]

theorem parting_foldl {β : Type} {f : β → Action → β} (hf : ∀ x b, f x (.write b) = x)
    (s : Session) (x : β) : s.parting.foldl f x = x := by
  obtain h | ⟨b, h⟩ := s.parting_eq <;> simp [h, hf]

theorem welcome_foldl {β : Type} {f : β → Action → β}
    (hf : ∀ x, f x (.notify .reconnected) = x) (s : Session) (x : β) :
    s.welcome.foldl f x = x := by
  obtain h | h := s.welcome_eq <;> simp [h, hf]

theorem step_of_closed (h : s.closed = true) : Step s e (s.step e).1 (s.step e).2 := by
  have hc : s.isConnected = false := by simp [isConnected, h]
  cases e <;> simp only [step]
  case opened m => simpa [opened, h] using Step.late h
  case viewport m =>
    have hd : Step s (.viewport m) s [] := .deaf h (by simp)
    cases m <;> simpa [viewport, h] using hd
  case redrawDue => simpa [redrawDue, hc] using Step.deaf (e := .redrawDue) h (by simp)
  case input t => simpa [input, hc] using Step.deaf (e := .input t) h (by simp)
  case start => simpa [start, h] using Step.deaf (e := .start) h (by simp)
  case output b => simpa [output, h] using Step.deaf (e := .output b) h (by simp)
  case lost => simpa [lost, h] using Step.deaf (e := .lost) h (by simp)
  case reconnectDue => simpa [reconnectDue, h] using Step.deaf (e := .reconnectDue) h (by simp)
  case teardown => simpa [teardown, h] using Step.deaf (e := .teardown) h (by simp)

theorem lost_eq (h : s.closed = false) (hc : s.connection ≠ .exhausted) :
    s.lost = ((s.retry s.connection.tried).1, s.parting ++ (s.retry s.connection.tried).2) := by
  cases hc' : s.connection <;> simp_all [lost, parting, Connection.tried]

theorem step_lost (h : s.closed = false) : Step s .lost s.lost.1 s.lost.2 := by
  by_cases hc : s.connection = .exhausted
  case pos => simpa [lost, h, hc] using Step.exhausted h hc
  case neg =>
    by_cases hn : s.policy.maxAttempts ≤ s.connection.tried
    case pos => simpa [lost_eq h hc, retry, hn] using Step.gaveUp h hc hn
    case neg =>
      have hn' := UInt32.not_le.mp hn
      simpa [lost_eq h hc, retry, hn] using Step.retried h hc hn'

theorem opened_eq {m : Option Grid} (h : s.closed = false) :
    s.opened m =
      match m.or s.grid with
      | some size =>
        (({ s with connection := .connected } : Session).negotiate size).map id (· ++ s.welcome)
      | none => ({ s with connection := .connected }, s.welcome) := by
  cases m <;> cases hg : s.grid <;> cases hc : s.connection <;>
    simp [opened, welcome, negotiate, h, hg, hc]

theorem step_opened {m : Option Grid} (h : s.closed = false) :
    Step s (.opened m) (s.opened m).1 (s.opened m).2 := by
  cases hg : m.or s.grid
  case none      => simpa [opened_eq h, hg] using Step.opened h hg
  case some size => simpa [opened_eq h, hg, negotiate] using Step.negotiated h hg

theorem step_viewport {m : Option Grid} (h : s.closed = false) :
    Step s (.viewport m) (s.viewport m).1 (s.viewport m).2 := by
  cases m
  case none => simpa [viewport] using Step.noResize (m := none) h (.inl rfl)
  case some size =>
    by_cases hg : s.grid = some size
    case pos => simpa [viewport, hg] using Step.noResize h (.inr hg)
    case neg =>
      by_cases hc : s.connection = .connected
      case pos =>
        simpa [viewport, h, hg, hc] using Step.resized (isConnected_iff.mpr ⟨hc, h⟩) hg
      case neg => simpa [viewport, h, hg, hc] using Step.resizedAway h hc hg

theorem step_redrawDue (h : s.closed = false) : Step s .redrawDue s.redrawDue.1 s.redrawDue.2 := by
  cases hc : s.isConnected <;> cases hg : s.grid
  case true.some size => simpa [redrawDue, hc, hg] using Step.redraw hc hg
  case true.none      => simpa [redrawDue, hc, hg] using Step.noRedraw h (.inr hg)
  all_goals simpa [redrawDue, hc, hg] using Step.noRedraw h (.inl hc)

theorem step_input {text : String} (h : s.closed = false) :
    Step s (.input text) (s.input text).1 (s.input text).2 := by
  by_cases ht : text = ""
  case pos => simpa [input, ht] using Step.noInput h (.inr ht)
  case neg =>
    cases hc : s.isConnected
    case true  => simpa [input, ht, hc] using Step.input hc ht
    case false => simpa [input, hc] using Step.noInput (t := text) h (.inl hc)

theorem step_reconnectDue (h : s.closed = false) :
    Step s .reconnectDue s.reconnectDue.1 s.reconnectDue.2 := by
  cases hc : s.connection
  case reconnecting n => simpa [reconnectDue, h, hc] using Step.reopen h hc
  all_goals simpa [reconnectDue, h, hc] using Step.noReopen h (by simp [hc])

-- Every step is one of these.
theorem step_step (s : Session) (e : Event) : Step s e (s.step e).1 (s.step e).2 := by
  cases h : s.closed
  case true => exact step_of_closed h
  case false =>
    cases e <;> simp only [step]
    case start        => simpa [start, h] using Step.start h
    case opened m     => exact step_opened h
    case redrawDue    => exact step_redrawDue h
    case lost         => exact step_lost h
    case reconnectDue => exact step_reconnectDue h
    case input t      => exact step_input h
    case viewport m   => exact step_viewport h
    case teardown     => simpa [teardown, h] using Step.teardown h
    case output b     =>
      cases b
      case nil      => simpa [output] using Step.noOutput h
      case cons b c => simpa [output, h] using Step.output (b := b :: c) h (by simp)

namespace Step

theorem policy_eq (st : Step s e s' as) : s'.policy = s.policy := by
  cases st <;> rfl

theorem redrawDelay_eq (st : Step s e s' as) : s'.redrawDelay = s.redrawDelay := by
  cases st <;> rfl

-- Only a teardown closes a session, and nothing opens it again.
theorem closed_eq (st : Step s e s' as) : s'.closed = (s.closed || decide (e = .teardown)) := by
  cases st <;> simp_all [isConnected]

theorem still_open (st : Step s e s' as) (ho : s.closed = false) (ht : e ≠ .teardown) :
    s'.closed = false := by
  simp [st.closed_eq, ho, ht]

-- Frames are sent only for a connected session.
theorem isConnected_of_send {f : Frame} (st : Step s e s' as) (h : .send f ∈ as) :
    s'.isConnected = true := by
  cases st <;> simp_all [isConnected]

-- A channel is asked for at the start and when a reconnect is due, and nothing else is then.
theorem of_openChannel (st : Step s e s' as) (h : .openChannel ∈ as) :
    as = [.openChannel] ∧
      (e = .start ∨ e = .reconnectDue ∧ ∃ n, s.connection = .reconnecting n) := by
  cases st <;> simp_all

-- A teardown gives up what the session has asked for, if that has not been done already.
theorem of_teardown (st : Step s .teardown s' as) :
    as = [] ∨ as = [.cancelTimers, .closeChannel] := by
  cases st
  case deaf     => exact .inl rfl
  case teardown => exact .inr rfl

-- Nothing else does on an open session.
theorem no_release (st : Step s e s' as) (ho : s.closed = false) (he : e ≠ .teardown) :
    .closeChannel ∉ as ∧ .cancelTimers ∉ as := by
  cases st <;> simp_all

-- No frame goes out beside the end of a channel.
theorem no_closeChannel {f : Frame} (st : Step s e s' as) (h : .send f ∈ as) :
    .closeChannel ∉ as := by
  cases st <;> simp_all

end Step

theorem run_cons (s : Session) (e : Event) (es : List Event) :
    s.run (e :: es) = (((s.step e).1.run es).1, (s.step e).2 :: ((s.step e).1.run es).2) :=
  rfl

theorem run_redrawDelay (s : Session) (es : List Event) :
    (s.run es).1.redrawDelay = s.redrawDelay := by
  induction es generalizing s with
  | nil          => rfl
  | cons e es hi => rw [run_cons, hi, (s.step_step e).redrawDelay_eq]

theorem run_closed (s : Session) (es : List Event) :
    (s.run es).1.closed = (s.closed || decide (.teardown ∈ es)) := by
  induction es generalizing s with
  | nil          => simp [run]
  | cons e es hi =>
    rw [run_cons, hi, (s.step_step e).closed_eq]
    simp [Bool.or_assoc, eq_comm]

end Session

end RemoteTerm
