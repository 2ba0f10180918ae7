import Mathlib.Data.List.Induction
import RemoteTerm.Proofs.Touch.Spacing
/-!
When a pending delta may go out. The deadline that a tracker names and what it lets out when it is
asked agree, whatever it is called with and at whatever times, also where movement has summed up to
zero or to something that is not a number.
-/

namespace RemoteTerm.Touch

namespace Contact

variable {c : Contact} {now : Instant}

theorem flush_of_due (hp : c.hasPending = true) (hd : c.isDue now = true) :
    c.flush now = ({ c with lastFlush := now, pending := 0 }, some c.pending) := by
  simp [flush, hp, hd]

theorem flush_of_not_due (h : c.hasPending = true → c.isDue now = false) :
    c.flush now = (c, none) := by
  simp only [flush, Bool.and_eq_true]
  refine if_neg fun hf => ?_
  simp [h hf.1] at hf

theorem not_hasPending_of_zero (h : c.pending = 0) : c.hasPending = false := by
  rw [hasPending, h]
  decide

end Contact

namespace Tracker

-- The tracker after some calls.
def calls (t : Tracker) (cs : List (Instant × Call)) : Tracker :=
  cs.foldl (fun t e => (t.call e.1 e.2).1) t

-- When the contact that is under way after some calls has let out a delta for the last time.
inductive LastDelta : List (Instant × Call) → Instant → Prop
  | now {cs now k} :
    k.continues = true → ((idle.calls cs).call now k).2.isSome = true →
    LastDelta (cs ++ [(now, k)]) now
  | earlier {cs now k last} :
    LastDelta cs last → k.continues = true → ((idle.calls cs).call now k).2 = none →
    LastDelta (cs ++ [(now, k)]) last

-- What a tracker says of its pending delta after some calls, and what it does.
structure Punctual (cs : List (Instant × Call)) : Prop where
  -- A delta goes out at just the times from the deadline on.
  due (now) :
    ((idle.calls cs).poll now).2.isSome = true ↔
      ∃ due, (idle.calls cs).nextFlush = some due ∧ due ≤ now
  -- A deadline is named only after a delta of the same contact, as far from it as the wheel asks.
  behind {due} :
    (idle.calls cs).nextFlush = some due →
      ∃ last, (idle.calls cs).lastFlush = some last ∧ LastDelta cs last ∧
        due = last.after (.ofMillis 16)
  -- Once a delta has gone out there is nothing to wait for.
  spent (now) :
    ((idle.calls cs).poll now).2.isSome = true → ((idle.calls cs).poll now).1.nextFlush = none

variable {t : Tracker} {c : Contact} {now due last : Instant} {k : Call}
  {cs : List (Instant × Call)}

-- What is pending comes after a delta, from which the deadline is counted.
def Primed (t : Tracker) : Prop :=
  ∀ due, t.nextFlush = some due → ∃ last, t.lastFlush = some last ∧ due = last.after flushInterval

theorem calls_concat : t.calls (cs ++ [(now, k)]) = ((t.calls cs).call now k).1 := by
  rw [calls, List.foldl_append]
  rfl

theorem nextFlush_eq_none (h : c.hasPending = false) : (scrolling c).nextFlush = none := by
  simp [nextFlush, h]

theorem nextFlush_of_last (hp : c.hasPending = true) (hl : c.lastFlush = some last) :
    (scrolling c).nextFlush = some (last.after flushInterval) := by
  simp [nextFlush, hp, hl]

theorem hasPending_of_nextFlush (h : (scrolling c).nextFlush = some due) : c.hasPending = true := by
  cases hp : c.hasPending
  case true  => rfl
  case false => cases (nextFlush_eq_none hp).symm.trans h

theorem poll_isSome_iff :
    ((scrolling c).poll now).2.isSome = true ↔ c.hasPending = true ∧ c.isDue now = true := by
  by_cases h : c.hasPending = true ∧ c.isDue now = true
  case pos => simp [poll, Contact.flush_of_due h.1 h.2, h]
  case neg =>
    rw [not_and, Bool.not_eq_true] at h
    simpa [poll, Contact.flush_of_not_due h] using h

theorem nextFlush_of_poll (h : (t.poll now).2.isSome = true) : (t.poll now).1.nextFlush = none := by
  cases t
  case scrolling c =>
    obtain ⟨hp, hd⟩ := poll_isSome_iff.mp h
    simp only [poll, Contact.flush_of_due hp hd]
    exact nextFlush_eq_none (Contact.not_hasPending_of_zero rfl)
  all_goals cases h

-- Where a deadline has come, a delta goes out.
theorem poll_of_due (h : t.nextFlush = some due) (hn : due ≤ now) :
    (t.poll now).2.isSome = true := by
  cases t
  case scrolling c =>
    have hp := hasPending_of_nextFlush h
    refine poll_isSome_iff.mpr ⟨hp, Contact.isDue_iff.mpr fun last hl => ?_⟩
    rw [nextFlush_of_last hp hl, Option.some.injEq] at h
    exact h ▸ hn
  all_goals cases h

-- Before a deadline, nothing does.
theorem due_of_poll (hp : t.Primed) (h : (t.poll now).2.isSome = true) :
    ∃ due, t.nextFlush = some due ∧ due ≤ now := by
  cases t
  case scrolling c =>
    obtain ⟨hc, hd⟩ := poll_isSome_iff.mp h
    obtain ⟨due, hf⟩ : ∃ due, (scrolling c).nextFlush = some due := by
      simp only [nextFlush, hc, if_true]
      cases c.lastFlush <;> exact ⟨_, rfl⟩
    obtain ⟨last, hl, rfl⟩ := hp due hf
    exact ⟨_, hf, Contact.isDue_iff.mp hd last hl⟩
  all_goals cases h

-- Where nothing is pending there is nothing to wait for.
theorem primed_of_none (h : t.nextFlush = none) : t.Primed := by
  intro due hd
  cases h.symm.trans hd

-- Before the first delta of a contact nothing has to wait, so after a look at what is due either
-- nothing is pending, or there has been a delta.
theorem primed_flush (c : Contact) (now : Instant) : (scrolling (c.flush now).1).Primed := by
  by_cases hw : c.hasPending = true → c.isDue now = false
  case pos =>
    rw [Contact.flush_of_not_due hw]
    intro due h
    have hp := hasPending_of_nextFlush h
    cases hl : c.lastFlush
    case none =>
      have hd : c.isDue now = true := Contact.isDue_iff.mpr (by simp [hl])
      exact absurd ((hw hp).symm.trans hd) Bool.false_ne_true
    case some last =>
      rw [nextFlush_of_last hp hl, Option.some.injEq] at h
      exact ⟨last, hl, h.symm⟩
  case neg =>
    simp only [Classical.not_imp, Bool.not_eq_false] at hw
    have hz : (c.flush now).1.pending = 0 := by rw [Contact.flush_of_due hw.1 hw.2]
    exact primed_of_none (nextFlush_eq_none (Contact.not_hasPending_of_zero hz))

theorem primed_move (h : t.Primed) (points : List Point) (now : Instant) :
    (t.move points now).1.Primed := by
  cases points
  case nil => exact h
  case cons p ps =>
    cases ps
    case cons => exact h
    case nil  =>
      cases hc : t.classify p <;> simp only [move, hc]
      case scrolling c => exact primed_flush _ now
      all_goals exact primed_of_none rfl

-- A call that ends a contact leaves none, or the new one that it begins.
theorem call_of_ends (t : Tracker) (now : Instant) (h : k.continues = false) :
    (t.call now k).1 = idle ∨
      ∃ p, k = .report (.start [p]) ∧ (t.call now k).1 = start [p] now := by
  match k with
  | .report (.start [p])                    => exact .inr ⟨p, rfl, rfl⟩
  | .report (.start []) | .report .cancel   => exact .inl rfl
  | .report (.start (_ :: _ :: _))          => exact .inl rfl
  | .report (.finish point) =>
    refine .inl ?_
    cases t <;> simp only [call, finish]
    case tracking => split <;> rfl

theorem nextFlush_of_ends (t : Tracker) (now : Instant) (h : k.continues = false) :
    (t.call now k).1.nextFlush = none := by
  obtain hc | ⟨p, -, hc⟩ := call_of_ends t now h <;> rw [hc] <;> rfl

theorem lastFlush_of_ends (t : Tracker) (now : Instant) (h : k.continues = false) :
    (t.call now k).1.lastFlush = none := by
  obtain hc | ⟨p, -, hc⟩ := call_of_ends t now h <;> rw [hc] <;> rfl

theorem primed_call (h : t.Primed) (now : Instant) (k : Call) : (t.call now k).1.Primed := by
  cases hk : k.continues
  case false => exact primed_of_none (nextFlush_of_ends t now hk)
  case true =>
    match k with
    | .report (.move points) => exact primed_move h points now
    | .poll =>
      cases t
      case scrolling c => exact primed_flush c now
      all_goals exact primed_of_none rfl

theorem primed_calls (cs : List (Instant × Call)) : (idle.calls cs).Primed := by
  induction cs using List.reverseRecOn with
  | nil                     => exact primed_of_none rfl
  | append_singleton cs e hi => exact calls_concat ▸ primed_call hi e.1 e.2

theorem lastDelta_calls (h : (idle.calls cs).lastFlush = some last) : LastDelta cs last := by
  induction cs using List.reverseRecOn generalizing last with
  | nil => cases h
  | append_singleton cs e hi =>
    obtain ⟨now, k⟩ := e
    rw [calls_concat] at h
    cases hk : k.continues
    case false => cases (lastFlush_of_ends _ now hk).symm.trans h
    case true  =>
      have ht : Throttled now (idle.calls cs).lastFlush _ _ := call_throttled hk
      generalize hd : ((idle.calls cs).call now k).2 = delta at ht
      generalize hl : (idle.calls cs).lastFlush = before at ht
      rw [h] at ht
      cases ht
      case held   => exact .earlier (hi hl) hk hd
      case letOut => exact .now hk (by rw [hd]; rfl)

-- In whatever state calls have left a tracker, its deadline is kept to.
theorem punctual (cs : List (Instant × Call)) : Punctual cs where
  spent _    := nextFlush_of_poll
  behind h   := by
    obtain ⟨last, hl, rfl⟩ := primed_calls cs _ h
    exact ⟨last, hl, lastDelta_calls hl, rfl⟩
  due _      := ⟨due_of_poll (primed_calls cs), fun ⟨_, hd, hn⟩ => poll_of_due hd hn⟩

-- A finger that moves on and back within the interval of the wheel leaves nothing to wait for.
example :
    let away : List (Instant × Call) :=
      [(5, .report (.start [⟨0, 0⟩])), (6, .report (.move [⟨0, 20⟩])),
        (7, .report (.move [⟨0, 30⟩]))]
    (idle.calls away).nextFlush = some 16000006 ∧
      (idle.calls (away ++ [(8, .report (.move [⟨0, 20⟩]))])).nextFlush = none := by
  decide +kernel

end Tracker

end RemoteTerm.Touch
