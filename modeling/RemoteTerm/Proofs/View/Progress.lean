import RemoteTerm.Proofs.View.Marks
import RemoteTerm.Proofs.View.Resources
/-!
How far a connection has got: what can come next in its log, and what the line of the view is like
at each point.
-/

namespace RemoteTerm

abbrev Log := List (Instant × Mark)

-- How far a connection has got.
inductive Progress where
  -- The first connect, and whether it has been called.
  | first (called : Bool)
  | up
  -- A failure after so many attempts, which is still to be answered.
  | failed (tried : UInt32) (time : Instant)
  -- An attempt that answers a failure, and whether its connect has been called.
  | retrying (attempt : UInt32) (since : Instant) (called : Bool)
  -- An attempt has succeeded, which is still to be announced.
  | back
  | exhausted
  | torn

namespace Progress

-- What can come next in a log.
inductive Next (p : Policy) : Progress → Instant × Mark → Progress → Prop
  | dial {t} : Next p (.first false) (t, .call) (.first true)
  | redial {n t u} :
    t.after (p.delay (n - 1)) ≤ u → Next p (.retrying n t false) (u, .call) (.retrying n t true)
  | refused {t} : Next p (.first true) (t, .failure .connecting) (.failed 0 t)
  | dropped {t} : Next p .up (t, .failure .connected) (.failed 0 t)
  | refusedAgain {n t u} :
    Next p (.retrying n t true) (u, .failure (.reconnecting n)) (.failed n u)
  | retry {n t} :
    n < p.maxAttempts →
    Next p (.failed n t) (t, .notice (.reconnecting (n + 1) p.maxAttempts))
      (.retrying (n + 1) t false)
  | giveUp {n t} : p.maxAttempts ≤ n → Next p (.failed n t) (t, .notice .gaveUp) .exhausted
  | opened {t} : Next p (.first true) (t, .opened) .up
  | reopened {n t u} : Next p (.retrying n t true) (u, .opened) .back
  | welcome {t} : Next p .back (t, .notice .reconnected) .up
  | teardown {a t} : Next p a (t, .teardown) .torn

-- A log that leads from one point to another.
inductive Along (p : Policy) : Progress → Log → Progress → Prop
  | nil {a} : Along p a [] a
  | cons {a b c e es} : Next p a e b → Along p b es c → Along p a (e :: es) c

-- How far a connection has got, by its line and by whether the connect that the view waits for has
-- been called.
inductive Of (p : Policy) (now : Instant) (l : Line) (called : Bool) : Progress → Prop
  | first : l.closed = false → l.connection = .connecting → Of p now l called (.first called)
  | up : l.closed = false → l.connection = .connected → Of p now l called .up
  | retrying {n t} :
    l.closed = false → l.connection = .reconnecting n → 0 < n → n ≤ p.maxAttempts →
    (l.reconnectAt = some (t.after (p.delay (n - 1))) ∨
      l.reconnectAt = none ∧ t.after (p.delay (n - 1)) ≤ now) →
    Of p now l called (.retrying n t called)
  | exhausted : l.closed = false → l.connection = .exhausted → Of p now l called .exhausted
  | torn : l.closed = true → Of p now l called .torn

variable {p : Policy} {a b c : Progress} {xs ys : Log} {e : Instant × Mark} {now later : Instant}
  {l l' : Line} {called : Bool}

namespace Along

theorem one (h : Next p a e b) : Along p a [e] b :=
  .cons h .nil

theorem append (h : Along p a xs b) (h' : Along p b ys c) : Along p a (xs ++ ys) c := by
  induction h with
  | nil          => exact h'
  | cons hn _ hi => exact .cons hn (hi h')

theorem split (h : Along p a (xs ++ ys) c) : ∃ b, Along p a xs b ∧ Along p b ys c := by
  induction xs generalizing a with
  | nil          => exact ⟨a, .nil, h⟩
  | cons x xs hi =>
    cases h with
    | cons hn h =>
      obtain ⟨b, hx, hy⟩ := hi h
      exact ⟨b, .cons hn hx, hy⟩

end Along

namespace Of

theorem mono (h : a.Of p now l called) (hn : now ≤ later) : a.Of p later l called := by
  cases h
  case first ho hc => exact .first ho hc
  case up ho hc    => exact .up ho hc
  case exhausted ho hc => exact .exhausted ho hc
  case torn ho     => exact .torn ho
  case retrying ho hc h₀ hm hr =>
    exact .retrying ho hc h₀ hm (hr.imp id fun ⟨hr, hd⟩ => ⟨hr, Nat.le_trans hd hn⟩)

-- At the start a view asks for its first connect.
theorem start (h : a.Of p now l called) (ho : l.closed = false) (hx : l.connection = .connecting) :
    a.Of p later (l.told p now .start) called := by
  cases h
  case first => exact .first ho rfl
  all_goals simp_all

-- The connect that a view waits for is called, and not before its time.
theorem call (h : a.Of p now l false) (f : l.Fits) (hd : l.connecting = true) :
    ∃ b, Next p a (now, .call) b ∧ b.Of p now l true := by
  obtain ⟨ho, -, hr, hc⟩ := f.of_connecting hd
  cases h
  case first _ hx => exact ⟨_, .dial, .first ho hx⟩
  case retrying hx h₀ hm hr' =>
    obtain hr' | ⟨-, hd⟩ := hr'
    case inl => simp [hr] at hr'
    case inr => exact ⟨_, .redial hd, .retrying ho hx h₀ hm (.inr ⟨hr, hd⟩)⟩
  all_goals simp_all

-- A connection fails once its connect has been called, or when it is up.
theorem failure (h : a.Of p now l called) (ho : l.closed = false) (hx : l.connection ≠ .exhausted)
    (hc : l.connection ≠ .connected → called = true) :
    Next p a (now, .failure l.connection) (.failed l.connection.tried now) := by
  cases h
  case first _ h =>
    rw [hc (by simp [h]), h]
    exact .refused
  case up _ h =>
    rw [h]
    exact .dropped
  case retrying _ h _ _ _ =>
    rw [hc (by simp [h]), h]
    exact .refusedAgain
  case exhausted _ h => exact absurd h hx
  case torn h   => simp [ho] at h

theorem opened (h : a.Of p now l true) (ho : l.closed = false) (hx : l.connection ≠ .exhausted)
    (hc : l.connection ≠ .connected) {s : Session} (hs : s.connection = l.connection)
    {m : Option Grid} :
    Along p a ((now, .opened) :: (s.announces (.opened m)).map (now, .notice ·)) .up := by
  cases h
  case first _ h =>
    simp only [Session.announces, hs, h]
    exact .one .opened
  case retrying _ h _ _ _ =>
    simp only [Session.announces, hs, h]
    exact .cons .reopened (.one .welcome)
  case up _ h   => exact absurd h hc
  case exhausted _ h => exact absurd h hx
  case torn h   => simp [ho] at h

-- The time for the connect of an attempt has come.
theorem due {n : UInt32} {due : Instant} (h : a.Of p now l called) (ho : l.closed = false)
    (hx : l.connection = .reconnecting n) (hr : l.reconnectAt = some due) (hd : due ≤ now) :
    a.Of p now ((l.attend .reconnectDue).told p now .reconnectDue) called := by
  rw [Line.told_reconnectDue p now hx]
  cases h
  case retrying m t _ hm h₀ hle hr' =>
    obtain hr' | ⟨hr', -⟩ := hr'
    case inl =>
      obtain rfl := Option.some.inj (hr.symm.trans hr')
      exact .retrying ho hm h₀ hle (.inr ⟨rfl, hd⟩)
    case inr => simp [hr] at hr'
  all_goals simp_all

end Of

-- A failure is answered at once.
theorem answered {s : Session} (ho : l.closed = false) (hx : l.connection ≠ .exhausted)
    (hs : s.connection = l.connection) :
    ∃ b,
      Along s.policy (.failed l.connection.tried now) ((s.announces .lost).map (now, .notice ·)) b ∧
        b.Of s.policy now (l.lost s.policy now) false := by
  simp only [Session.announces, hs, if_neg hx, Line.lost]
  by_cases hm : s.policy.maxAttempts ≤ l.connection.tried
  case pos =>
    simp only [if_pos hm]
    exact ⟨_, .one (.giveUp hm), .exhausted ho rfl⟩
  case neg =>
    have hm' := UInt32.not_le.mp hm
    have ht := toNat_succ hm'
    simp only [if_neg hm]
    refine ⟨_, .one (.retry hm'), .retrying ho rfl ?_ ?_ (.inl ?_)⟩
    · rw [UInt32.lt_iff_toNat_lt, ht]; exact Nat.succ_pos _
    · rw [UInt32.le_iff_toNat_le, ht]; exact UInt32.lt_iff_toNat_lt.mp hm'
    · rw [UInt32.add_sub_cancel]

end Progress

end RemoteTerm
