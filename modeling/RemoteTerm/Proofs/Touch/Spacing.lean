import RemoteTerm.Touch
/-!
How far apart wheel deltas are. A tracker is called in any order and at any times, also at times
that go back. Of one contact, two deltas that its moves and polls let out are at least the interval
of the wheel apart.
-/

namespace RemoteTerm.Touch

-- What a tracker is called with: a report of the surface, or a look at what is due.
inductive Call where
  | report (e : Event)
  | poll

-- Whether a contact, if there is one, is still the same after a call.
def Call.continues : Call → Bool
  | report (.move _) | poll => true
  | _                       => false

-- What a call does to the time of the last delta: it lets a delta out, for which the time has come,
-- or it lets out nothing.
inductive Throttled (now : Instant) : Option Instant → Option Float → Option Instant → Prop
  | held {last} : Throttled now last none last
  | letOut {last delta} :
    (∀ t, last = some t → t.after flushInterval ≤ now) → Throttled now last (some delta) (some now)

-- A call as it is seen from outside.
structure Moment where
  -- How many contacts have begun or ended so far.
  contact   : Nat
  time      : Instant
  -- What a move or a poll has let out.
  delta     : Option Float
  lastFlush : Option Instant

-- A later moment of the same contact keeps its distance, and it does not forget the last delta.
structure Moment.Spaced (a b : Moment) : Prop where
  deltas : a.delta.isSome = true → b.delta.isSome = true → a.time.after (.ofMillis 16) ≤ b.time
  last {t} : a.lastFlush = some t → ∃ t', b.lastFlush = some t' ∧ t ≤ t'

namespace Contact

variable {c : Contact} {now : Instant}

theorem isDue_iff :
    c.isDue now = true ↔ ∀ t, c.lastFlush = some t → t.after flushInterval ≤ now := by
  have hi : flushInterval.nanos = 16000000 := by decide
  have reached (a b : Nat) : 16000000 ≤ a - b ↔ b + 16000000 ≤ a := by omega
  cases h : c.lastFlush
  case none => simp [isDue, h]
  case some t => simp [isDue, h, Instant.since, Instant.after, hi, reached]

theorem flush_throttled :
    Throttled now c.lastFlush (c.flush now).2 (c.flush now).1.lastFlush := by
  by_cases h : (c.hasPending && c.isDue now) = true
  case pos =>
    simp only [flush, h, if_true]
    exact .letOut (isDue_iff.mp (Bool.and_eq_true_iff.mp h).2)
  case neg =>
    simp only [flush, h, if_false, Bool.false_eq_true]
    exact .held

end Contact

namespace Tracker

variable {t : Tracker} {now : Instant} {c : Call}

-- The tracker after a call, and the delta that a move or a poll lets out.
def call (t : Tracker) (now : Instant) : Call → Tracker × Option Float
  | .report (.start points) => (.start points now, none)
  | .report (.move points)  => ((t.move points now).1, (t.move points now).2.delta)
  | .report (.finish point) => ((t.finish point now).1, none)
  | .report .cancel         => (t.cancel, none)
  | .poll                   => t.poll now

-- When the contact has last let out a delta.
def lastFlush : Tracker → Option Instant
  | idle                    => none
  | tracking c | scrolling c => c.lastFlush

-- The moments of a tracker that has seen so many contacts.
def moments (t : Tracker) (n : Nat) : List (Instant × Call) → List Moment
  | [] => []
  | (now, c) :: cs =>
    let n := if c.continues then n else n + 1
    ⟨n, now, (t.call now c).2, (t.call now c).1.lastFlush⟩ :: (t.call now c).1.moments n cs

theorem lastFlush_classify {p : Point} : (t.classify p).lastFlush = t.lastFlush := by
  cases t
  case tracking c => simp only [classify]; split <;> rfl
  all_goals rfl

theorem move_throttled {points : List Point} :
    Throttled now t.lastFlush (t.move points now).2.delta (t.move points now).1.lastFlush := by
  match points with
  | []           => exact .held
  | _ :: _ :: _  => exact .held
  | [p] =>
    rw [← lastFlush_classify (p := p)]
    cases h : t.classify p <;> simp only [move, h]
    case scrolling c => exact (c.scrollTo p).flush_throttled
    all_goals exact .held

theorem poll_throttled : Throttled now t.lastFlush (t.poll now).2 (t.poll now).1.lastFlush := by
  cases t
  case scrolling c => exact c.flush_throttled
  all_goals exact .held

-- Moves and polls share one throttle.
theorem call_throttled (h : c.continues = true) :
    Throttled now t.lastFlush (t.call now c).2 (t.call now c).1.lastFlush := by
  match c with
  | .report (.move _) => exact move_throttled
  | .poll             => exact poll_throttled

theorem lastFlush_of_delta (h : (t.call now c).2.isSome = true) :
    (t.call now c).1.lastFlush = some now := by
  cases hc : c.continues
  case false =>
    match c with
    | .report (.start _) | .report (.finish _) | .report .cancel => cases h
  case true =>
    have ht : Throttled now t.lastFlush _ _ := call_throttled hc
    generalize (t.call now c).2 = delta at h ht
    generalize (t.call now c).1.lastFlush = last at ht
    cases ht
    case held   => cases h
    case letOut => rfl

theorem contact_le {n : Nat} {cs : List (Instant × Call)} {m : Moment} (h : m ∈ t.moments n cs) :
    n ≤ m.contact := by
  induction cs generalizing t n with
  | nil => cases h
  | cons p cs hi =>
    have hn : n ≤ if p.2.continues then n else n + 1 := by split <;> omega
    obtain rfl | h := List.mem_cons.mp h
    · exact hn
    · exact Nat.le_trans hn (hi h)

-- What the rest of a contact keeps to, by the time of the last delta before it.
theorem moments_behind {n : Nat} {cs : List (Instant × Call)} {last : Instant} {m : Moment}
    (hm : m ∈ t.moments n cs) (hn : m.contact = n) (h : t.lastFlush = some last) :
    (m.delta.isSome = true → last.after flushInterval ≤ m.time) ∧
      ∃ t', m.lastFlush = some t' ∧ last ≤ t' := by
  induction cs generalizing t last with
  | nil => cases hm
  | cons p cs hi =>
    obtain ⟨now, c⟩ := p
    cases hc : c.continues
    -- A call that ends the contact leaves no moment of it behind.
    case false =>
      have hm : n + 1 ≤ m.contact := by
        simp only [moments, hc, Bool.false_eq_true, if_false, List.mem_cons] at hm
        obtain rfl | hm := hm
        · exact Nat.le_refl _
        · exact contact_le hm
      omega
    case true =>
      simp only [moments, hc, if_true, List.mem_cons] at hm
      have ht : Throttled now t.lastFlush _ _ := call_throttled hc
      generalize (t.call now c).2 = delta at hm ht
      generalize hl : (t.call now c).1.lastFlush = last' at hm ht
      rw [h] at ht
      cases ht
      case held =>
        obtain rfl | hm := hm
        · exact ⟨nofun, last, rfl, Nat.le_refl _⟩
        · exact hi hm hl
      case letOut d hd =>
        have hd := hd last rfl
        have hl' : last ≤ now := Nat.le_trans (Nat.le_add_right ..) hd
        obtain rfl | hm := hm
        · exact ⟨fun _ => hd, now, rfl, hl'⟩
        · obtain ⟨hb, t', ht', hle⟩ := hi hm hl
          refine ⟨fun hs => ?_, t', ht', Nat.le_trans hl' hle⟩
          exact Nat.le_trans (Nat.add_le_add_right hl' _) (hb hs)

-- Whatever a tracker is called with, the deltas of each contact are 16 milliseconds apart.
theorem moments_spaced (t : Tracker) (n : Nat) (cs : List (Instant × Call)) :
    (t.moments n cs).Pairwise fun a b => a.contact = b.contact → a.Spaced b := by
  induction cs generalizing t n with
  | nil => exact .nil
  | cons p cs hi =>
    refine .cons (fun m hm hn => ?_) (hi _ _)
    constructor
    case last   => exact fun h => (moments_behind hm hn.symm h).2
    case deltas => exact fun ha => (moments_behind hm hn.symm (lastFlush_of_delta ha)).1

-- A finger that moves twice. The clock goes back before the second move, and the rest waits.
example :
    (idle.moments 0 [(5, .report (.start [⟨0, 0⟩])), (6, .report (.move [⟨0, 20⟩])),
      (2, .report (.move [⟨0, 30⟩])), (16000006, .poll)]).map Moment.delta =
        [none, some (-60), none, some (-30)] := by
  decide +kernel

end Tracker

end RemoteTerm.Touch
