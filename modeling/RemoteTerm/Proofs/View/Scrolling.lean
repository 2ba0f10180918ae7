import RemoteTerm.Proofs.Touch.Deadline
import RemoteTerm.Proofs.View.History
/-!
What a view scrolls. The timer of the wheel follows the touch surface: it is armed just as long as a
delta is pending, for the time at which that one may go out. Each delta that goes out belongs to the
contact that is under way.
-/

namespace RemoteTerm

namespace Touch.Tracker

variable {cs : List (Instant × Call)} {now : Instant} {k : Call} {d : Float}

-- The delta that a call comes to, be it the last one of its contact.
def wheel? (t : Tracker) (now : Instant) : Call → Option Float
  | .report (.finish point) =>
    match (t.finish point now).2 with
    | .scroll rest => rest
    | _            => none
  | k => (t.call now k).2

theorem wheel?_idle (now : Instant) (k : Call) : idle.wheel? now k = none := by
  match k with
  | .report (.start _) | .report (.finish _) | .report .cancel | .poll => rfl
  | .report (.move []) | .report (.move [_]) | .report (.move (_ :: _ :: _)) => rfl

-- Where there is a contact, it has begun with a start, and everything since then belongs to it.
theorem exists_start (h : idle.calls cs ≠ idle) :
    ∃ before p began during, cs = before ++ (began, .report (.start [p])) :: during ∧
      (∀ e ∈ during, e.2.continues = true) ∧
      idle.calls cs = (start [p] began).calls during := by
  induction cs using List.reverseRecOn with
  | nil => exact absurd rfl h
  | append_singleton cs e hi =>
    obtain ⟨now, k⟩ := e
    rw [calls_concat] at h ⊢
    cases hk : k.continues
    case false =>
      obtain hc | ⟨p, rfl, hc⟩ := call_of_ends (idle.calls cs) now hk
      case inl => exact absurd hc h
      case inr => exact ⟨cs, p, now, [], rfl, nofun, hc⟩
    case true =>
      have hn : idle.calls cs ≠ idle := by
        intro hn
        rw [hn] at h
        match k with
        | .poll | .report (.move []) | .report (.move [_]) | .report (.move (_ :: _ :: _)) =>
          exact h rfl
      obtain ⟨before, p, began, during, rfl, hd, hc⟩ := hi hn
      refine ⟨before, p, began, during ++ [(now, k)], by simp, ?_, by rw [hc, calls_concat]⟩
      exact List.forall_mem_append.mpr ⟨hd, List.forall_mem_singleton.mpr hk⟩

end Touch.Tracker

open Touch (Tracker)

def Effect.scroll? : Effect → Option Float
  | surface (.scroll d) => some d
  | _                   => none

namespace View

theorem surfaceScroll_scrolls (delta : Option Float) :
    (surfaceScroll delta).filterMap Effect.scroll? = delta.toList := by
  cases delta <;> rfl

theorem perform_scrolls (v : View) (now : Instant) (a : Action) :
    (v.perform now a).2.filterMap Effect.scroll? = [] := by
  cases a <;> simp only [perform, release]
  case send f       => cases v.channel <;> rfl
  case openChannel  => split <;> rfl
  case closeChannel =>
    cases v.channel <;> by_cases hd : v.connecting = true <;> simp [hd, Effect.scroll?]
  all_goals rfl

end View

namespace Turn

variable {t : Turn} {k : Touch.Call} {d : Float}

-- What a turn calls the touch tracker with.
def touched? (t : Turn) : Option Touch.Call :=
  match t.cause with
  | .wake (.command (.touch e)) => some (.report e)
  | .wake .flushDue             => some .poll
  | _                           => none

-- The deltas that a turn scrolls by.
def scrolls (t : Turn) : List Float :=
  t.effects.filterMap Effect.scroll?

theorem attended_of_touched (h : t.touched? = some k) :
    t.attended.touch = (t.view.touch.call t.around.now k).1 ∧
      t.attended.flushAt = t.attended.touch.nextFlush := by
  simp only [touched?] at h
  split at h <;> cases h
  case h_2.refl hc => simp only [attended, hc]; exact ⟨rfl, rfl⟩
  case h_1.refl e hc =>
    have ends := Tracker.nextFlush_of_ends (k := .report e) t.view.touch t.around.now
    simp only [attended, hc, View.attend]
    cases e
    case move => exact ⟨rfl, rfl⟩
    all_goals exact ⟨rfl, (ends rfl).symm⟩

theorem attended_of_untouched (h : t.touched? = none) :
    t.attended.touch = t.view.touch ∧ t.attended.flushAt = t.view.flushAt := by
  obtain ⟨v, s, c⟩ := t
  cases c <;> try exact ⟨rfl, rfl⟩
  case wake w =>
    cases w <;> try first | cases h; done | exact ⟨rfl, rfl⟩
    case connected r => cases r <;> exact ⟨rfl, rfl⟩
    case command c =>
      cases c <;> try first | cases h; done | exact ⟨rfl, rfl⟩
      all_goals
        exact ⟨View.keepLatch_keeps (·.touch) (fun _ _ => rfl) v _,
          View.keepLatch_keeps (·.flushAt) (fun _ _ => rfl) v _⟩

theorem scrolls_eq (t : Turn) :
    t.scrolls = (t.touched?.bind (t.view.touch.wheel? t.around.now)).toList := by
  have hp : (t.heard.1.performAll t.around.now t.heard.2).2.filterMap Effect.scroll? = [] := by
    rw [View.performAll_filterMap _ (fun _ => none) fun v a _ => v.perform_scrolls _ a]
    exact List.filterMap_eq_nil_iff.mpr fun _ _ => rfl
  simp only [scrolls, effects, outcome_eq, List.filterMap_append, hp, List.append_nil]
  obtain ⟨v, s, c⟩ := t
  cases c <;> try rfl
  case wake w =>
    cases w <;> try rfl
    case connected r => cases r <;> rfl
    case ended       => simp only [atOnce, View.react, View.release]; cases v.channel <;> rfl
    case flushDue    => exact View.surfaceScroll_scrolls _
    case command c   =>
      cases c <;> try rfl
      case press p =>
        simp only [atOnce, View.react, View.obey, View.press]
        split <;> try rfl
        simp only [View.copy]
        cases (Clipboard.copy s.clipboard s.selection).1 <;> rfl
      case touch e =>
        cases e <;> try rfl
        case move   => exact View.surfaceScroll_scrolls _
        case finish point =>
          simp only [atOnce, View.react, View.obey, View.feel, touched?, Option.bind_some,
            Tracker.wheel?]
          cases (v.touch.finish point s.now).2
          case scroll rest => exact View.surfaceScroll_scrolls rest
          all_goals rfl

theorem after_touch_of_touched (h : t.touched? = some k) :
    t.after.touch = (t.view.touch.call t.around.now k).1 :=
  t.after_touch.trans (attended_of_touched h).1

theorem after_touch_of_untouched (h : t.touched? = none) : t.after.touch = t.view.touch :=
  t.after_touch.trans (attended_of_untouched h).1

-- On a view that stays open, the timer follows the touch surface through each turn.
theorem after_flushAt (ho : t.view.session.closed = false) (ht : t.event? ≠ some .teardown)
    (h : t.view.flushAt = t.view.touch.nextFlush) : t.after.flushAt = t.after.touch.nextFlush := by
  have hf : t.after.flushAt = t.attended.flushAt := congrArg Prod.snd (after_timers ho ht)
  rw [hf, after_touch]
  cases hk : t.touched?
  case some k => exact (attended_of_touched hk).2
  case none   =>
    obtain ⟨hx, hy⟩ := attended_of_untouched hk
    rw [hx, hy, h]

-- When the timer fires, one delta goes out, and the timer is not armed again.
theorem flushes {v : View} {s : Surroundings} {due : Instant}
    (h : v.flushAt = v.touch.nextFlush) (hf : v.flushAt = some due) (hn : due ≤ s.now) :
    (∃ d, effects ⟨v, s, .wake .flushDue⟩ = [.surface (.scroll d)]) ∧
      (after ⟨v, s, .wake .flushDue⟩).flushAt = none := by
  have hp : (v.touch.poll s.now).2.isSome = true := Tracker.poll_of_due (h ▸ hf) hn
  obtain ⟨d, hd⟩ := Option.isSome_iff_exists.mp hp
  refine ⟨⟨d, ?_⟩, Tracker.nextFlush_of_poll hp⟩
  simp only [effects, outcome, View.handle, View.react, hd]
  rfl

end Turn

namespace History

-- The calls of the touch tracker, with their times.
def touches (ts : History) : List (Instant × Touch.Call) :=
  ts.filterMap fun t => t.touched?.map (t.around.now, ·)

-- What holds of the wheel in a run that ends with a view.
structure Scrolled (ts : History) (v : View) : Prop where
  -- As long as the view is open, the timer is armed for the deadline that the tracker names, if it
  -- names one.
  armed : v.session.closed = false → v.flushAt = v.touch.nextFlush
  -- The tracker is what its calls have made of it.
  touch : v.touch = Tracker.idle.calls ts.touches
  -- The timer never fires for nothing, and never twice for one delta.
  fired {t} : t ∈ ts → t.cause = .wake .flushDue →
    (∃ d, t.effects = [.surface (.scroll d)]) ∧ t.after.flushAt = none
  -- A delta that goes out is made by the last contact that has begun and by nothing before it, and
  -- that contact has not been finished, cancelled or replaced in between.
  own {pre t post d} :
    ts = pre ++ t :: post → .surface (.scroll d) ∈ t.effects →
    ∃ before p began during k,
      touches pre = before ++ (began, .report (.start [p])) :: during ∧
      (∀ e ∈ during, e.2.continues = true) ∧ t.touched? = some k ∧
      ((Tracker.start [p] began).calls during).wheel? t.around.now k = some d

variable {ts : History} {t : Turn}

theorem touches_concat :
    touches (ts ++ [t]) = touches ts ++ (t.touched?.map (t.around.now, ·)).toList :=
  filterMap_concat ..

-- A turn carries the tracker on as its call does.
theorem touch_concat (ts : History) (h : t.view.touch = Tracker.idle.calls ts.touches) :
    t.after.touch = Tracker.idle.calls (touches (ts ++ [t])) := by
  rw [touches_concat]
  cases hk : t.touched?
  case none   => simpa [Turn.after_touch_of_untouched hk] using h
  case some k => rw [Turn.after_touch_of_touched hk, h]; exact Tracker.calls_concat.symm

end History

namespace View.Run

variable {v v₀ : View} {id : Uuid} {o : Options} {ts pre post : History} {t : Turn}

theorem touch_eq (r : Run v₀ ts v) (h₀ : v₀.touch = .idle) :
    v.touch = Tracker.idle.calls ts.touches := by
  induction r
  case start s           => exact History.touch_concat (t := ⟨v₀, s, .start⟩) [] h₀
  case wake s w r _ _ hi => exact History.touch_concat _ hi
  case closing s r hi    => exact History.touch_concat _ hi

theorem flushAt_eq (r : Run (create id o) ts v) (ho : v.session.closed = false) :
    v.flushAt = v.touch.nextFlush := by
  induction r
  case start s => exact Turn.after_flushAt rfl nofun rfl
  case wake s w r hc _ hi =>
    rw [Turn.after_closed, Bool.or_eq_false_iff, decide_eq_false_iff_not] at ho
    exact Turn.after_flushAt hc ho.2 (hi hc)
  case closing s r hi =>
    rw [Turn.after_closed] at ho
    simp [Turn.event?] at ho

theorem fired (r : Run (create id o) (pre ++ t :: post) v) (hc : t.cause = .wake .flushDue) :
    (∃ d, t.effects = [.surface (.scroll d)]) ∧ t.after.flushAt = none := by
  obtain ⟨r, ho, hw⟩ := r.woken hc
  obtain ⟨due, hd, hn⟩ := hw.deadline .flush rfl
  obtain ⟨v, s, c⟩ := t
  cases hc
  exact Turn.flushes (r.flushAt_eq ho) hd hn

-- In every run, whatever the touch surface and the timers report in whatever order.
theorem scrolled (r : Run (create id o) ts v) : History.Scrolled ts v where
  armed := r.flushAt_eq
  touch := r.touch_eq rfl
  fired {t} ht hc := by
    obtain ⟨pre, post, rfl⟩ := List.append_of_mem ht
    exact r.fired hc
  own {pre t post d} he hd := by
    subst he
    have hs : d ∈ t.scrolls := List.mem_filterMap.mpr ⟨_, hd, rfl⟩
    rw [Turn.scrolls_eq, Option.mem_toList, Option.bind_eq_some_iff] at hs
    obtain ⟨k, hk, hs⟩ := hs
    obtain ⟨-, h⟩ | r := r.cut
    case inl => rw [h] at hk; cases hk
    case inr =>
      rw [r.touch_eq rfl] at hs
      have hn : Tracker.idle.calls pre.touches ≠ .idle := by
        intro hn
        cases (Tracker.wheel?_idle _ _).symm.trans (hn ▸ hs)
      obtain ⟨before, p, began, during, ht, hc, hi⟩ := Tracker.exists_start hn
      exact ⟨before, p, began, during, k, ht, hc, hk, hi ▸ hs⟩

-- A finger that scrolls, rests and scrolls on, until another one takes its place. What the first
-- one has left pending is not let out any more.
theorem scrolled_replaced :
    ∃ ts v, Run (create default {}) ts v ∧ History.Scrolled ts v ∧
      ts.map (·.after.flushAt) =
        [none, none, none, some 16000000, none, some 32000000, none, none] ∧
      ts.map Turn.scrolls = [[], [], [-60], [], [-15], [], [], [60]] := by
  have r : Run (create default {}) _ _ := (Run.start ⟨0, none, "", none⟩)
    |>.wake ⟨0, none, "", none⟩ (.command (.touch (.start [⟨0, 100⟩]))) rfl (.command _)
    |>.wake ⟨0, none, "", none⟩ (.command (.touch (.move [⟨0, 120⟩]))) rfl (.command _)
    |>.wake ⟨0, none, "", none⟩ (.command (.touch (.move [⟨0, 125⟩]))) rfl (.command _)
    |>.wake ⟨16000000, none, "", none⟩ .flushDue (by decide +kernel)
      (.timer .flush 16000000 (by decide +kernel) (by decide))
    |>.wake ⟨16000000, none, "", none⟩ (.command (.touch (.move [⟨0, 130⟩])))
      (by decide +kernel) (.command _)
    |>.wake ⟨17000000, none, "", none⟩ (.command (.touch (.start [⟨0, 100⟩])))
      (by decide +kernel) (.command _)
    |>.wake ⟨17000000, none, "", none⟩ (.command (.touch (.move [⟨0, 80⟩])))
      (by decide +kernel) (.command _)
  exact ⟨_, _, r, r.scrolled, by decide +kernel, by decide +kernel⟩

end View.Run

end RemoteTerm
