import Mathlib.Data.List.Induction
import RemoteTerm.Proofs.View.History
import RemoteTerm.Proofs.View.Sizing
/-!
When a view measures its surface anew. Each report of a resize begins the quiet period again, and
nothing but its end brings the measurement. What else the view hears meanwhile has no part in it.
-/

namespace RemoteTerm

namespace Turn

-- Whether a turn hears that the surface has been resized.
def resized (t : Turn) : Bool :=
  t.cause matches .wake (.command .resized)

-- What a turn has measured anew for the session.
def viewport? (t : Turn) : Option (Option Grid) :=
  match t.event? with
  | some (.viewport m) => some m
  | _                  => none

variable {t : Turn} {m : Option Grid}

theorem event?_of_viewport (h : t.viewport? = some m) : t.event? = some (.viewport m) := by
  simp only [viewport?] at h
  split at h <;> cases h
  assumption

-- Only the end of a quiet period brings a measurement.
theorem cause_of_viewport (h : t.viewport? = some m) :
    t.cause = .wake .resizeSettled ∧ t.around.measured = m := by
  have he := event?_of_viewport h
  obtain ⟨v, s, c⟩ := t
  cases c <;> try cases he
  case wake w =>
    cases w <;> try cases he
    case resizeSettled.refl => exact ⟨rfl, rfl⟩
    case connected r        => cases r <;> cases he
    case command c          =>
      obtain he' | ⟨text, he'⟩ := View.command_event he <;> cases he'

theorem attended_resizeAt_of_resized (h : t.resized = true) :
    t.attended.resizeAt = some (t.around.now.after t.view.debounce) := by
  simp only [resized] at h
  split at h
  case h_1 hc => simp only [attended, hc]; rfl
  case h_2    => cases h

theorem attended_resizeAt_of_viewport (h : t.viewport? = some m) : t.attended.resizeAt = none := by
  simp only [attended, (cause_of_viewport h).1]
  rfl

theorem attended_resizeAt_of_neither (hr : t.resized = false) (hm : t.viewport? = none) :
    t.attended.resizeAt = t.view.resizeAt := by
  obtain ⟨v, s, c⟩ := t
  cases c <;> try rfl
  case wake w =>
    cases w <;> try first | cases hm; done | rfl
    case connected r => cases r <;> rfl
    case command c =>
      cases c <;> try first | cases hr; done | rfl
      case touch e => cases e <;> rfl
      all_goals exact View.keepLatch_keeps (·.resizeAt) (fun _ _ => rfl) v _

theorem attended_debounce (t : Turn) : t.attended.debounce = t.view.debounce := by
  obtain ⟨v, s, c⟩ := t
  cases c <;> try rfl
  case wake w =>
    cases w <;> try rfl
    case connected r => cases r <;> rfl
    case command c =>
      cases c <;> try rfl
      case touch e => cases e <;> rfl
      all_goals exact View.keepLatch_keeps (·.debounce) (fun _ _ => rfl) v _

-- How long the quiet period is never changes.
theorem after_debounce (t : Turn) : t.after.debounce = t.view.debounce :=
  (after_keeps (·.debounce) View.performAll_debounce (fun _ _ => rfl) fun _ => rfl).trans
    t.attended_debounce

-- The session is not told that the surface has been resized.
theorem not_resized_of_event {e : Session.Event} (h : t.event? = some e) : t.resized = false := by
  obtain ⟨v, s, c⟩ := t
  cases c <;> try rfl
  case wake w =>
    cases w <;> try rfl
    case command c => cases c <;> first | rfl | cases h

theorem viewport?_of_resized (h : t.resized = true) : t.viewport? = none := by
  cases hm : t.viewport?
  case none   => rfl
  case some m => cases (not_resized_of_event (event?_of_viewport hm)).symm.trans h

end Turn

namespace History

-- The last resize of a history, if it is still to be answered by a measurement.
def Awaits (ts : History) (u : Turn) : Prop :=
  ∃ pre mid, ts = pre ++ u :: mid ∧ u.resized = true ∧
    ∀ x ∈ mid, x.resized = false ∧ x.viewport? = none ∧ x.event? ≠ some .teardown

-- Turns from a resize on in which each further resize comes before the quiet period of the one
-- before it is over. The last resize is named.
inductive Burst (d : Duration) : History → Turn → Prop
  | first {u} : u.resized = true → Burst d [u] u
  | further {ts u t} :
    Burst d ts u → t.resized = true → t.around.now < u.around.now.after d → Burst d (ts ++ [t]) t
  | other {ts u t} : Burst d ts u → t.resized = false → Burst d (ts ++ [t]) u

-- A measurement that a turn makes after a history.
structure Answers (d : Duration) (ts : History) (t : Turn) : Prop where
  -- It comes after a resize that it is the first to answer, and not before the quiet period is over.
  settled : ∃ u, Awaits ts u ∧ u.around.now.after d ≤ t.around.now
  -- The size that counts is the one that the surface has by then.
  size    : t.viewport? = some t.around.measured
  grid    : t.after.session.grid = t.around.measured.or t.view.session.grid

variable {ts pre seg post : History} {t u : Turn} {d : Duration}

theorem awaits_nil : ¬ Awaits [] u := by
  rintro ⟨pre, mid, h, -⟩
  simp at h

-- A resize is awaited until there is another one, a measurement or a teardown.
theorem awaits_concat :
    Awaits (ts ++ [t]) u ↔
      t.resized = true ∧ u = t ∨
        t.resized = false ∧ t.viewport? = none ∧ t.event? ≠ some .teardown ∧ Awaits ts u := by
  constructor
  case mp =>
    rintro ⟨pre, mid, h, hr, hm⟩
    induction mid using List.reverseRecOn
    case nil =>
      obtain ⟨-, h⟩ := List.append_inj' h rfl
      cases h
      exact .inl ⟨hr, rfl⟩
    case append_singleton mid x _ =>
      have h : ts ++ [t] = (pre ++ u :: mid) ++ [x] := by simpa using h
      obtain ⟨rfl, hx⟩ := List.append_inj' h rfl
      cases hx
      obtain ⟨hm, hx⟩ := List.forall_mem_append.mp hm
      obtain ⟨hr', hv, ht⟩ := hx t List.mem_cons_self
      exact .inr ⟨hr', hv, ht, pre, mid, rfl, hr, hm⟩
  case mpr =>
    rintro (⟨hr, rfl⟩ | ⟨hr, hv, ht, pre, mid, rfl, hu, hm⟩)
    case inl => exact ⟨ts, [], rfl, hr, List.forall_mem_nil _⟩
    case inr =>
      refine ⟨pre, mid ++ [t], by simp, hu, List.forall_mem_append.mpr ⟨hm, ?_⟩⟩
      exact List.forall_mem_singleton.mpr ⟨hr, hv, ht⟩

theorem Burst.eq_of_awaits (b : Burst d seg u) (h : Awaits (pre ++ seg) t) : t = u := by
  induction b with
  | first hr =>
    obtain ⟨-, rfl⟩ | ⟨hr', -⟩ := awaits_concat.mp h
    case inl => rfl
    case inr => simp [hr] at hr'
  | further b hr hn =>
    rw [← List.append_assoc] at h
    obtain ⟨-, rfl⟩ | ⟨hr', -⟩ := awaits_concat.mp h
    case inl => rfl
    case inr => simp [hr] at hr'
  | other b hr hi =>
    rw [← List.append_assoc] at h
    obtain ⟨hr', -⟩ | ⟨-, -, -, h⟩ := awaits_concat.mp h
    case inl => simp [hr] at hr'
    case inr => exact hi h

theorem awaits_concat_of_resized (h : t.resized = true) : Awaits (ts ++ [t]) u ↔ u = t := by
  simp [awaits_concat, h]

theorem not_awaits_of_viewport {m : Option Grid} (h : t.viewport? = some m) :
    ¬ Awaits (ts ++ [t]) u := by
  simp [awaits_concat, h, Turn.not_resized_of_event (Turn.event?_of_viewport h)]

theorem not_awaits_of_teardown (h : t.event? = some .teardown) : ¬ Awaits (ts ++ [t]) u := by
  simp [awaits_concat, h, Turn.not_resized_of_event h]

-- Whether the timer of resizes is armed, and for when, by a resize that is awaited.
def Armed (d : Duration) (ts : History) (at? : Option Instant) : Prop :=
  ∀ due, at? = some due ↔ ∃ u, Awaits ts u ∧ due = u.around.now.after d

theorem armed_of_none (h : ∀ u, ¬ Awaits ts u) : Armed d ts none := by
  intro due
  simp [h]

-- A turn of an open view keeps the timer as it should be.
theorem Armed.turn (h : Armed d ts t.view.resizeAt) (ho : t.view.session.closed = false)
    (hd : t.view.debounce = d) : Armed d (ts ++ [t]) t.after.resizeAt := by
  by_cases ht : t.event? = some .teardown
  case pos =>
    have hn : t.after.resizeAt = none := Turn.timers_of_teardown ho ht .resize
    exact hn ▸ armed_of_none fun _ => not_awaits_of_teardown ht
  case neg =>
    have ha : t.after.resizeAt = t.attended.resizeAt := congrArg Prod.fst (Turn.after_timers ho ht)
    rw [ha]
    cases hr : t.resized
    case true =>
      intro due
      simp [Turn.attended_resizeAt_of_resized hr, hd, awaits_concat_of_resized hr, eq_comm]
    case false =>
      cases hm : t.viewport?
      case some m =>
        rw [Turn.attended_resizeAt_of_viewport hm]
        exact armed_of_none fun _ => not_awaits_of_viewport hm
      case none =>
        intro due
        rw [Turn.attended_resizeAt_of_neither hr hm, h due]
        simp [awaits_concat, hr, hm, ht]

-- A burst has not been answered yet, or it has once, after the quiet period, and nothing is awaited.
theorem Burst.answered (b : Burst d seg u)
    (ha : ∀ {pre' t post'}, pre ++ seg = pre' ++ t :: post' → t.viewport?.isSome = true →
      Answers d pre' t)
    (hn : (pre ++ seg).Pairwise fun t u => t.around.now ≤ u.around.now) :
    seg.countP (·.viewport?.isSome) = 0 ∨
      seg.countP (·.viewport?.isSome) = 1 ∧ (∃ x ∈ seg, u.around.now.after d ≤ x.around.now) ∧
        ∀ y, ¬ Awaits (pre ++ seg) y := by
  induction b with
  | first hr => exact .inl (by simp [Turn.viewport?_of_resized hr])
  | @further ts u t b hr hlt hi =>
    rw [← List.append_assoc] at ha hn
    obtain ⟨hn', -, hnow⟩ := List.pairwise_append.mp hn
    obtain h | ⟨-, ⟨x, hx, hle⟩, -⟩ :=
      hi (fun he => ha (by rw [he, List.append_assoc, List.cons_append])) hn'
    case inl => exact .inl (by simp [h, Turn.viewport?_of_resized hr])
    case inr =>
      have hxt := hnow x (List.mem_append_right _ hx) t List.mem_cons_self
      exact absurd (Nat.lt_of_lt_of_le hlt hle) (Nat.not_lt.mpr hxt)
  | @other ts u t b hr hi =>
    rw [← List.append_assoc] at ha hn ⊢
    obtain ⟨hn', -, -⟩ := List.pairwise_append.mp hn
    have h := hi (fun he => ha (by rw [he, List.append_assoc, List.cons_append])) hn'
    cases hm : t.viewport?
    case none =>
      obtain h | ⟨h, ⟨x, hx, hle⟩, hy⟩ := h
      case inl => exact .inl (by simp [h, hm])
      case inr =>
        refine .inr ⟨by simp [h, hm], ⟨x, List.mem_append_left _ hx, hle⟩, fun y => ?_⟩
        rw [awaits_concat]
        simp [hr, hy]
    case some m =>
      obtain ⟨y, hy, hle⟩ := (ha rfl (by rw [hm]; rfl)).settled
      obtain h | ⟨-, -, hn⟩ := h
      case inr => exact absurd hy (hn y)
      case inl =>
        obtain rfl := b.eq_of_awaits hy
        exact .inr ⟨by simp [h, hm], ⟨t, by simp, hle⟩, fun _ => not_awaits_of_viewport hm⟩

end History

namespace View.Run

open History

variable {v v₀ : View} {id : Uuid} {o : Options} {ts pre post : History} {t : Turn} {due : Instant}

theorem debounce_eq (r : Run v₀ ts v) : v.debounce = v₀.debounce := by
  induction r
  case start s           => exact Turn.after_debounce _
  case wake s w r _ _ hi => exact (Turn.after_debounce _).trans hi
  case closing s r hi    => exact (Turn.after_debounce _).trans hi

theorem armed (r : Run (create id o) ts v) : Armed o.debounce ts v.resizeAt := by
  induction r
  case start s =>
    exact (armed_of_none fun _ => awaits_nil).turn (t := ⟨create id o, s, .start⟩) rfl rfl
  case wake s w r ho hw hi => exact hi.turn (t := ⟨_, s, .wake w⟩) ho r.debounce_eq
  case closing v s r hi =>
    cases ho : v.session.closed
    case false => exact hi.turn (t := ⟨v, s, .closing⟩) ho r.debounce_eq
    case true  =>
      rw [Turn.after_closing_of_closed ho]
      have hn : v.publish.resizeAt = none := r.fits.timers ho .resize
      exact hn ▸ armed_of_none fun _ => not_awaits_of_teardown rfl

-- Where a turn measures, the quiet period after a resize has been the reason.
theorem answers (r : Run (create id o) (pre ++ t :: post) v) (h : t.viewport?.isSome = true) :
    Answers o.debounce pre t := by
  obtain ⟨m, hm⟩ := Option.isSome_iff_exists.mp h
  obtain ⟨hc, rfl⟩ := Turn.cause_of_viewport hm
  obtain ⟨r, ho, hw⟩ := r.woken hc
  obtain ⟨due, hd, hn⟩ := hw.deadline .resize rfl
  obtain ⟨u, hu, rfl⟩ := (r.armed due).mp hd
  refine ⟨⟨u, hu, hn⟩, hm, ?_⟩
  have hs := congrArg Sizing.grid (Turn.after_sizing_of_event ho (Turn.event?_of_viewport hm))
  simp only [Turn.attended_sizing, hc] at hs
  exact hs

end View.Run

end RemoteTerm
