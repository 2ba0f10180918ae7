import RemoteTerm.Proofs.Session.Step
/-!
How a session counts its attempts, whatever it is told and in whatever order. The losses of one
outage are answered in turn: with a mark and the first attempt, with the attempts after it, with the
end of all attempts, and then not at all.
-/

namespace RemoteTerm

-- The answer to a loss that comes after so many others.
def Policy.answer (p : Policy) (k : Nat) : List Action :=
  (if k = 0 then [.write (Bytes.ofString Session.lostMarker)] else []) ++
    if k < p.maxAttempts.toNat then
      [.notify (.reconnecting (.ofNat (k + 1)) p.maxAttempts), .armReconnect (p.delay (.ofNat k))]
    else if k = p.maxAttempts.toNat then [.notify .gaveUp]
    else []

namespace Connection

-- Where a connection stands after so many losses.
def fallen (c : Connection) (m : UInt32) (k : Nat) : Connection :=
  if k = 0 then c
  else if k ≤ m.toNat then .reconnecting (.ofNat k)
  else .exhausted

-- Whether an outage can begin there.
def isUp : Connection → Bool
  | connecting | connected => true
  | _                      => false

variable {c : Connection} {m : UInt32} {k : Nat}

theorem toNat_ofNat_of_le (h : k ≤ m.toNat) : (UInt32.ofNat k).toNat = k := by
  have hm : m.toNat < UInt32.size := m.toNat_lt
  exact UInt32.toNat_ofNat_of_lt' (by omega)

theorem tried_fallen (hc : c.isUp = true) (h : k ≤ m.toNat) :
    (c.fallen m k).tried = .ofNat k := by
  by_cases hk : k = 0
  case pos => cases c <;> simp_all [fallen, tried, isUp]
  case neg => simp [fallen, tried, hk, h]

theorem fallen_eq_exhausted_iff (hc : c.isUp = true) :
    c.fallen m k = .exhausted ↔ m.toNat < k := by
  by_cases hk : k = 0
  case pos => cases c <;> simp_all [fallen, isUp]
  case neg => simp [fallen, hk]

end Connection

namespace Session

-- The events that begin the count of attempts anew.
def Event.renews : Event → Bool
  | start | opened _ => true
  | _                => false

-- The answers to the losses among some events, one for each.
def answers (s : Session) (es : List Event) : List (List Action) :=
  (es.zip (s.run es).2).filterMap fun (e, as) => if e = .lost then some as else none

-- What an open session with this policy promises about its attempts.
structure Counts (p : Policy) (s : Session) : Prop where
  bounded {a} : s.connection = .reconnecting a → 1 ≤ a ∧ a ≤ p.maxAttempts
  -- The next number is one more, as if there were no end to numbers.
  numbered {e a m} :
    .notify (.reconnecting a m) ∈ (s.step e).2 →
    a.toNat = s.connection.tried.toNat + 1 ∧ m = p.maxAttempts
  outage {es} :
    s.connection.isUp = true → (∀ e ∈ es, e.renews = false ∧ e ≠ .teardown) →
    s.answers es = (List.range (es.count .lost)).map p.answer ∧
      (s.run es).1.connection = s.connection.fallen p.maxAttempts (es.count .lost)
  -- Only losses are answered in this way.
  other {e a} :
    e ≠ .lost → a ∈ (s.step e).2 →
    (∀ d, a ≠ .armReconnect d) ∧ ∀ n, a = .notify n → n = .reconnected
  welcome {m} :
    .notify .reconnected ∈ (s.step (.opened m)).2 ↔ ∃ a, s.connection = .reconnecting a

variable {s s' : Session} {e : Event} {es : List Event} {as : List Action} {c : Connection}
  {k : Nat}

theorem answers_cons (s : Session) (e : Event) (es : List Event) :
    s.answers (e :: es) =
      (if e = .lost then [(s.step e).2] else []) ++ (s.step e).1.answers es := by
  by_cases he : e = .lost <;> simp [answers, run_cons, he]

theorem parting_of_fallen {m : UInt32} (hc : c.isUp = true) (h : s.connection = c.fallen m k) :
    s.parting = if k = 0 then [.write (Bytes.ofString lostMarker)] else [] := by
  by_cases hk : k = 0
  case pos => cases c <;> simp_all [parting, Connection.fallen, Connection.isUp]
  case neg =>
    by_cases hm : k ≤ m.toNat <;> simp [parting, h, Connection.fallen, hk, hm]

-- A loss that comes after so many others is answered by its number.
theorem Step.of_lost (st : Step s .lost s' as) (ho : s.closed = false) (hc : c.isUp = true)
    (h : s.connection = c.fallen s.policy.maxAttempts k) :
    as = s.policy.answer k ∧ s'.connection = c.fallen s.policy.maxAttempts (k + 1) := by
  have hp := parting_of_fallen hc h
  have hx := Connection.fallen_eq_exhausted_iff (m := s.policy.maxAttempts) (k := k) hc
  rw [← h] at hx
  cases st
  case deaf hd _ => simp [ho] at hd
  case exhausted he =>
    have hk := hx.mp he
    have h₁ : ¬ k < s.policy.maxAttempts.toNat := by omega
    have h₂ : ¬ k = s.policy.maxAttempts.toNat := by omega
    have h₃ : ¬ k + 1 ≤ s.policy.maxAttempts.toNat := by omega
    have h₀ : k ≠ 0 := by omega
    simp [Policy.answer, Connection.fallen, he, h₀, h₁, h₂, h₃]
  case gaveUp he hn =>
    have hk : k ≤ s.policy.maxAttempts.toNat := Nat.not_lt.mp (mt hx.mpr he)
    rw [h, Connection.tried_fallen hc hk, UInt32.le_iff_toNat_le,
      Connection.toNat_ofNat_of_le hk] at hn
    have hk' : k = s.policy.maxAttempts.toNat := Nat.le_antisymm hk hn
    simp [Policy.answer, Connection.fallen, hp, hk']
  case retried he hn =>
    have hk : k ≤ s.policy.maxAttempts.toNat := Nat.not_lt.mp (mt hx.mpr he)
    have ht : s.connection.tried = .ofNat k := h ▸ Connection.tried_fallen hc hk
    rw [ht, UInt32.lt_iff_toNat_lt, Connection.toNat_ofNat_of_le hk] at hn
    have hs : k + 1 ≤ s.policy.maxAttempts.toNat := hn
    simp [Policy.answer, Connection.fallen, hp, ht, hn, hs]

-- Nothing else moves a connection that is counting its losses.
theorem Step.connection_eq (st : Step s e s' as) (hr : e.renews = false) (hl : e ≠ .lost) :
    s'.connection = s.connection := by
  cases st <;> simp_all [Event.renews]

-- The losses of an outage go on being counted from where it has got.
theorem answers_of_fallen (ho : s.closed = false) (hc : c.isUp = true)
    (h : s.connection = c.fallen s.policy.maxAttempts k)
    (hs : ∀ e ∈ es, e.renews = false ∧ e ≠ .teardown) :
    s.answers es = (List.range' k (es.count .lost)).map s.policy.answer ∧
      (s.run es).1.connection = c.fallen s.policy.maxAttempts (k + es.count .lost) := by
  induction es generalizing s k with
  | nil => exact ⟨rfl, h⟩
  | cons e es hi =>
    have ⟨⟨hr, ht⟩, hs'⟩ := List.forall_mem_cons.mp hs
    have st := s.step_step e
    have ho' := st.still_open ho ht
    have hp := st.policy_eq
    rw [answers_cons, run_cons]
    by_cases he : e = .lost
    case pos =>
      subst he
      have ⟨ha, h'⟩ := st.of_lost ho hc h
      rw [← hp] at h'
      have ⟨hl, hx⟩ := hi ho' h' hs'
      rw [hp] at hl hx
      refine ⟨?_, ?_⟩
      · simp [hl, ha, List.range'_succ]
      · rw [hx, List.count_cons_self, Nat.add_right_comm, Nat.add_assoc]
    case neg =>
      have h' := st.connection_eq hr he
      rw [h, ← hp] at h'
      have ⟨hl, hx⟩ := hi ho' h' hs'
      rw [hp] at hl hx
      simp [he, hl, hx]

namespace Step

-- What a session waits for after a step is an attempt within bounds.
theorem bounded {a : UInt32} (st : Step s e s' as)
    (h : ∀ b, s.connection = .reconnecting b → 1 ≤ b ∧ b ≤ s.policy.maxAttempts)
    (ha : s'.connection = .reconnecting a) : 1 ≤ a ∧ a ≤ s'.policy.maxAttempts := by
  rw [st.policy_eq]
  cases st
  case retried hx hn =>
    have hs := toNat_succ hn
    rw [← Connection.reconnecting.inj ha, UInt32.le_iff_toNat_le, UInt32.le_iff_toNat_le, hs]
    exact ⟨Nat.le_add_left .., UInt32.lt_iff_toNat_lt.mp hn⟩
  all_goals first | exact h a ha | cases ha

theorem numbered {a m : UInt32} (st : Step s e s' as) (h : .notify (.reconnecting a m) ∈ as) :
    a.toNat = s.connection.tried.toNat + 1 ∧ m = s.policy.maxAttempts := by
  have hp := s.parting_eq
  have hw := s.welcome_eq
  cases st
  case retried hx hn =>
    have ⟨ha, hm⟩ : a = s.connection.tried + 1 ∧ m = s.policy.maxAttempts := by grind
    exact ⟨ha ▸ toNat_succ hn, hm⟩
  all_goals grind

theorem other {a : Action} (st : Step s e s' as) (he : e ≠ .lost) (h : a ∈ as) :
    (∀ d, a ≠ .armReconnect d) ∧ ∀ n, a = .notify n → n = .reconnected := by
  have hw := s.welcome_eq
  cases st <;> simp_all
  all_goals grind

theorem reconnected_iff {m : Option Grid} (st : Step s (.opened m) s' as) (ho : s.closed = false) :
    .notify .reconnected ∈ as ↔ ∃ a, s.connection = .reconnecting a := by
  cases st
  case deaf he    => exact absurd rfl (he m)
  case late hc    => simp [ho] at hc
  case opened     => cases hc : s.connection <;> simp [Session.welcome, hc]
  case negotiated => cases hc : s.connection <;> simp [Session.welcome, hc]

end Step

-- A session that has not been torn down is open, and what it waits for is within bounds.
theorem run_bounded (es : List Event) (ho : s.closed = false)
    (h : ∀ a, s.connection = .reconnecting a → 1 ≤ a ∧ a ≤ s.policy.maxAttempts)
    (ht : .teardown ∉ es) :
    (s.run es).1.closed = false ∧ (s.run es).1.policy = s.policy ∧
      ∀ a, (s.run es).1.connection = .reconnecting a → 1 ≤ a ∧ a ≤ s.policy.maxAttempts := by
  induction es generalizing s with
  | nil => exact ⟨ho, rfl, h⟩
  | cons e es hi =>
    have ⟨he, hs⟩ := not_or.mp (mt List.mem_cons.mpr ht)
    have st := s.step_step e
    exact st.policy_eq ▸ hi (st.still_open ho (Ne.symm he)) (fun _ => st.bounded h) hs

-- Every session keeps these promises, after any events in any order.
theorem run_counts (p : Policy) (d : Duration) (es : List Event) (ht : .teardown ∉ es) :
    Counts p (run { policy := p, redrawDelay := d } es).1 := by
  have ⟨ho, hp, hb⟩ := run_bounded (s := { policy := p, redrawDelay := d }) es rfl nofun ht
  generalize (run { policy := p, redrawDelay := d } es).1 = s at ho hp hb
  change s.policy = p at hp
  subst hp
  constructor
  case bounded  => exact fun ha => hb _ ha
  case numbered => exact fun h => (s.step_step _).numbered h
  case other    => exact fun he h => (s.step_step _).other he h
  case welcome  => exact (s.step_step _).reconnected_iff ho
  case outage   =>
    intro es hc hs
    have ⟨ha, hx⟩ := answers_of_fallen (k := 0) ho hc rfl hs
    rw [Nat.zero_add] at hx
    exact ⟨List.range_eq_range' ▸ ha, hx⟩

-- One attempt is allowed. An outage of three losses, with other events in between.
theorem run_counts_three_losses :
    ∃ s, s = (run { policy := { maxAttempts := 1 } } [.start, .reconnectDue, .opened none]).1 ∧
      Counts { maxAttempts := 1 } s ∧
      s.answers [.redrawDue, .lost, .input "a", .reconnectDue, .lost, .viewport none, .lost] =
        [[.write (Bytes.ofString lostMarker), .notify (.reconnecting 1 1),
          .armReconnect (.ofMillis 1000)], [.notify .gaveUp], []] := by
  have h := run_counts { maxAttempts := 1 } (.ofMillis 75)
    [.start, .reconnectDue, .opened none] (by decide)
  refine ⟨_, rfl, h, ?_⟩
  exact (h.outage rfl (by decide)).1

end Session

end RemoteTerm
