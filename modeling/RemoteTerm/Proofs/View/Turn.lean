import RemoteTerm.Proofs.View.Hearing
/-!
Turns of a view, and the runs that turns make.

A run is open to the outside: any wake may come that the view is able to hear, with any
surroundings.
-/

namespace RemoteTerm

-- Why a view takes a turn.
inductive Cause where
  | start
  | wake (w : Wake)
  -- Before a wait the view has found that it is to close.
  | closing

-- A turn, by the view that takes it and its surroundings.
structure Turn where
  view   : View
  around : Surroundings
  cause  : Cause

namespace Turn

def outcome (t : Turn) : View × List Effect :=
  match t.cause with
  | .start   => t.view.start t.around.now
  | .wake w  => t.view.handle t.around w
  | .closing => t.view.teardown t.around.now

def after (t : Turn) : View :=
  t.outcome.1

def effects (t : Turn) : List Effect :=
  t.outcome.2

-- What a turn tells the session.
def event? (t : Turn) : Option Session.Event :=
  match t.cause with
  | .start   => some .start
  | .wake w  => t.view.event? t.around w
  | .closing => some .teardown

-- The view before the session hears of anything.
def attended (t : Turn) : View :=
  match t.cause with
  | .wake w => t.view.attend t.around w
  | _       => t.view

-- The view when it is about to carry out actions, and these actions.
def heard (t : Turn) : View × List Action :=
  match t.cause with
  | .start   => t.view.tell .start
  | .wake w  => t.view.hear t.around w
  | .closing => t.view.tell .teardown

-- What is done before any action is carried out.
def atOnce (t : Turn) : List Effect :=
  match t.cause with
  | .wake w => (t.view.react t.around w).2.1
  | _       => []

theorem atOnce_aside {t : Turn} {e : Effect} (h : e ∈ t.atOnce) : e.isAside = true := by
  obtain ⟨v, s, c⟩ := t
  cases c
  case wake w => exact View.react_aside h
  all_goals simp [atOnce] at h

-- Nothing of what is done at once is of a kind that only actions bring.
theorem atOnce_filterMap {α : Type} {t : Turn} {f : Effect → Option α}
    (h : ∀ e, e.isAside = true → f e = none) : t.atOnce.filterMap f = [] :=
  List.filterMap_eq_nil_iff.mpr fun e he => h e (atOnce_aside he)

theorem outcome_eq (t : Turn) :
    t.outcome =
      ((t.heard.1.performAll t.around.now t.heard.2).1.publish,
        t.atOnce ++ (t.heard.1.performAll t.around.now t.heard.2).2) := by
  obtain ⟨v, s, c⟩ := t
  cases c
  case wake w => simp only [outcome, heard, atOnce, ← v.react_eq_hear s w]; rfl
  all_goals rfl

variable {t : Turn} {e : Session.Event}

-- What is only brought by actions, the effects show as the actions do.
theorem effects_filterMap {α : Type} {f : Effect → Option α} {g : Action → Option α}
    (ha : t.atOnce.filterMap f = [])
    (hp : ∀ (v : View) (a : Action), (v.perform t.around.now a).2.filterMap f = (g a).toList) :
    t.effects.filterMap f = t.heard.2.filterMap g := by
  simp only [effects, outcome_eq, List.filterMap_append, ha]
  exact View.performAll_filterMap f g fun v a _ => hp v a

theorem attended_session (t : Turn) : t.attended.session = t.view.session := by
  obtain ⟨v, s, c⟩ := t
  cases c <;> first | rfl | apply v.attend_session

theorem heard_of_event (h : t.event? = some e) : t.heard = t.attended.tell e := by
  obtain ⟨v, s, c⟩ := t
  cases c <;> simp only [event?, Option.some.injEq] at h
  case wake w => simp only [heard, View.hear, h, attended]
  all_goals rw [← h]; rfl

-- Where the session hears nothing, all that may be asked for is a complaint of the clipboard.
theorem heard_of_no_event (h : t.event? = none) :
    ∃ n : Option Notice, t.heard = (t.attended, (n.map Action.notify).toList) ∧
      ∀ m ∈ n, m = .clipboardUnavailable ∨ m = .clipboardDenied := by
  obtain ⟨v, s, c⟩ := t
  cases c <;> simp only [event?, reduceCtorEq] at h
  case wake w =>
    refine ⟨v.complaint? s w, ?_, fun m hm => View.complaint?_eq hm⟩
    simp only [heard, View.hear, h, attended]

-- What the session hears changes nothing else in the view.
theorem heard_view (t : Turn) : ∃ s, t.heard.1 = { t.attended with session := s } := by
  cases h : t.event?
  case none =>
    obtain ⟨n, hn, -⟩ := heard_of_no_event h
    exact ⟨t.attended.session, by rw [hn]⟩
  case some e => exact ⟨_, congrArg Prod.fst (heard_of_event h)⟩

-- What is neither the session's nor published, and no action of a turn changes, is left as it has
-- been before the session has heard of anything.
theorem after_keeps {α : Type} (f : View → α)
    (hp : f (t.heard.1.performAll t.around.now t.heard.2).1 = f t.heard.1)
    (hs : ∀ v s, f { v with session := s } = f v) (hu : ∀ v : View, f v.publish = f v) :
    f t.after = f t.attended := by
  obtain ⟨s, h⟩ := t.heard_view
  simp only [after, outcome_eq]
  rw [hu, hp, h, hs]

theorem after_touch (t : Turn) : t.after.touch = t.attended.touch :=
  after_keeps (·.touch) View.performAll_touch (fun _ _ => rfl) fun _ => rfl

-- The session of a view changes by its event alone.
theorem after_session (t : Turn) :
    t.after.session = t.event?.elim t.view.session (t.view.session.step · |>.1) := by
  simp only [after, outcome_eq]
  change (t.heard.1.performAll t.around.now t.heard.2).1.session = _
  rw [View.performAll_session]
  cases h : t.event?
  case none =>
    obtain ⟨n, hn, -⟩ := heard_of_no_event h
    rw [hn, attended_session]
    rfl
  case some e =>
    rw [heard_of_event h, ← attended_session]
    rfl

theorem after_policy (t : Turn) : t.after.session.policy = t.view.session.policy := by
  rw [after_session]
  cases t.event?
  case none   => rfl
  case some e => exact (t.view.session.step_step e).policy_eq

theorem after_closed (t : Turn) :
    t.after.session.closed = (t.view.session.closed || decide (t.event? = some .teardown)) := by
  rw [after_session]
  cases t.event?
  case none   => simp
  case some e => simpa using (t.view.session.step_step e).closed_eq

-- All that a turn that tears the view down does is to give up what is held.
theorem effects_of_teardown {x : Effect} (h : t.event? = some .teardown) (hx : x ∈ t.effects) :
    (∃ i, x = .release i) ∨ x = .abandonConnect := by
  have ha : t.atOnce = [] := by
    obtain ⟨v, s, c⟩ := t
    cases c <;> try rfl
    case wake w =>
      cases w <;> try cases h
      case abandoned => rfl
      case connected r => cases r <;> cases h
      case command c =>
        cases c <;> simp only [event?, View.event?, Option.map_eq_some_iff, reduceCtorEq, and_false,
          exists_false] at h
        rfl
  have st := (t.attended.session.step_step .teardown).of_teardown
  simp only [effects, outcome_eq, ha, List.nil_append, heard_of_event h, View.tell] at hx
  obtain hs | hs := st <;> rw [hs] at hx
  case inl => cases hx
  case inr =>
    change x ∈ (t.attended.channel.map Effect.release).toList ++
      (if t.attended.connecting then [.abandonConnect] else []) ++ [] at hx
    simp only [List.append_nil, List.mem_append, Option.mem_toList, Option.map_eq_some_iff,
      List.mem_ite_nil_right, List.mem_singleton] at hx
    exact hx.imp (Exists.imp fun i hi => hi.2.symm) And.right

-- Nothing else makes an open session close its channel, or cancel timers.
theorem no_release (ho : t.view.session.closed = false) (ht : t.event? ≠ some .teardown) :
    .closeChannel ∉ t.heard.2 ∧ .cancelTimers ∉ t.heard.2 := by
  cases h : t.event?
  case none =>
    obtain ⟨n, hn, -⟩ := heard_of_no_event h
    rw [hn]
    cases n <;> simp
  case some e =>
    have st := t.attended.session.step_step e
    have he : e ≠ .teardown := fun he => ht (he ▸ h)
    rw [heard_of_event h]
    exact st.no_release (t.attended_session ▸ ho) he

theorem no_closeChannel (ho : t.view.session.closed = false) (ht : t.event? ≠ some .teardown) :
    .closeChannel ∉ t.heard.2 :=
  (no_release ho ht).1

-- Beside a teardown, the timers of resizes and of the wheel are the view's own.
theorem after_timers (ho : t.view.session.closed = false) (ht : t.event? ≠ some .teardown) :
    (t.after.resizeAt, t.after.flushAt) = (t.attended.resizeAt, t.attended.flushAt) :=
  after_keeps (fun v => (v.resizeAt, v.flushAt)) (View.performAll_timers (no_release ho ht).2)
    (fun _ _ => rfl) fun _ => rfl

-- Beside a teardown, only the end of a channel is a reason to give something up.
theorem effects_givesUp {x : Effect} (ho : t.view.session.closed = false)
    (ht : t.event? ≠ some .teardown) (hc : t.cause ≠ .wake .ended) (hx : x ∈ t.effects) :
    x.givesUp = false := by
  have hq := no_closeChannel ho ht
  simp only [effects, outcome_eq] at hx
  obtain hx | hx := List.mem_append.mp hx
  case inr => exact View.performAll_givesUp hq hx
  case inl =>
    obtain ⟨v, s, c⟩ := t
    cases c <;> try cases hx
    case wake w =>
      obtain ⟨rfl, -⟩ | ⟨text, rfl⟩ | rfl | ⟨d, rfl⟩ := View.react_atOnce hx <;> try rfl
      exact absurd rfl hc

theorem publish_after (t : Turn) : t.after.publish = t.after := by
  simp only [after, outcome_eq, View.publish_publish]

-- A view that has been torn down before has nothing left to do.
theorem outcome_closing_of_closed {v : View} {s : Surroundings} (hc : v.session.closed = true) :
    outcome ⟨v, s, .closing⟩ = (v.publish, []) := by
  simp only [outcome, View.teardown, View.tell, Session.step, Session.teardown, hc]
  rfl

theorem after_closing_of_closed {v : View} {s : Surroundings} (hc : v.session.closed = true) :
    after ⟨v, s, .closing⟩ = v.publish :=
  congrArg Prod.fst (outcome_closing_of_closed hc)

theorem effects_closing_of_closed {v : View} {s : Surroundings} (hc : v.session.closed = true) :
    effects ⟨v, s, .closing⟩ = [] :=
  congrArg Prod.snd (outcome_closing_of_closed hc)

end Turn

-- The runs of a view: it starts, then hears wakes until it is closed. That it is to close can be
-- found before any wait.
inductive View.Run (v₀ : View) : List Turn → View → Prop
  | start (s) : Run v₀ [⟨v₀, s, .start⟩] (Turn.after ⟨v₀, s, .start⟩)
  | wake {ts v} (s w) :
    Run v₀ ts v → v.session.closed = false → v.Hears s.now w →
    Run v₀ (ts ++ [⟨v, s, .wake w⟩]) (Turn.after ⟨v, s, .wake w⟩)
  | closing {ts v} (s) :
    Run v₀ ts v → Run v₀ (ts ++ [⟨v, s, .closing⟩]) (Turn.after ⟨v, s, .closing⟩)

namespace View.Run

variable {v v₀ : View} {ts pre post : List Turn} {t u : Turn}

-- The first turns of a run make a run.
theorem upto (r : Run v₀ ts v) (h : pre ++ [t] <+: ts) : ∃ v', Run v₀ (pre ++ [t]) v' := by
  induction r
  case start s =>
    have h : pre ++ [t] <+: [] ++ [⟨v₀, s, .start⟩] := h
    obtain h | h := List.prefix_concat_iff.mp h
    case inl => exact ⟨_, by rw [h]; exact .start s⟩
    case inr => simp at h
  case wake s w r ho hw hi =>
    obtain h | h := List.prefix_concat_iff.mp h
    case inl => exact ⟨_, h ▸ r.wake s w ho hw⟩
    case inr => exact hi h
  case closing s r hi =>
    obtain h | h := List.prefix_concat_iff.mp h
    case inl => exact ⟨_, h ▸ r.closing s⟩
    case inr => exact hi h

-- The last turn of a run leaves the view that the run ends with, and a run has led up to it, unless
-- it is the start.
theorem last (r : Run v₀ (pre ++ [t]) v) :
    v = t.after ∧ (pre = [] ∧ t = ⟨v₀, t.around, .start⟩ ∨ Run v₀ pre t.view) := by
  generalize h : pre ++ [t] = ts at r
  cases r
  case start s =>
    have h : pre ++ [t] = [] ++ [⟨v₀, s, .start⟩] := h
    obtain ⟨rfl, ht⟩ := List.append_inj' h rfl
    cases ht
    exact ⟨rfl, .inl ⟨rfl, rfl⟩⟩
  case wake s w r ho hw =>
    obtain ⟨rfl, ht⟩ := List.append_inj' h rfl
    cases ht
    exact ⟨rfl, .inr r⟩
  case closing s r =>
    obtain ⟨rfl, ht⟩ := List.append_inj' h rfl
    cases ht
    exact ⟨rfl, .inr r⟩

theorem cut (r : Run v₀ (pre ++ t :: post) v) :
    pre = [] ∧ t = ⟨v₀, t.around, .start⟩ ∨ Run v₀ pre t.view := by
  obtain ⟨v', r⟩ : ∃ v', Run v₀ (pre ++ [t]) v' := r.upto ⟨post, by simp⟩
  exact r.last.2

-- Of what wakes a view, it has been able to hear, and it has been open.
theorem woken {w : Wake} (r : Run v₀ (pre ++ t :: post) v) (hc : t.cause = .wake w) :
    Run v₀ pre t.view ∧ t.view.session.closed = false ∧ t.view.Hears t.around.now w := by
  obtain ⟨v', r'⟩ : ∃ v', Run v₀ (pre ++ [t]) v' := r.upto ⟨post, by simp⟩
  generalize h : pre ++ [t] = ts at r'
  cases r'
  case start s =>
    have h : pre ++ [t] = [] ++ [⟨v₀, s, .start⟩] := h
    cases (List.append_inj' h rfl).2
    cases hc
  case wake s w r' ho hw =>
    obtain ⟨rfl, ht⟩ := List.append_inj' h rfl
    cases ht
    cases hc
    exact ⟨r', ho, hw⟩
  case closing s r' =>
    cases (List.append_inj' h rfl).2
    cases hc

-- Each turn is taken by the view that the turn before has left.
theorem next (r : Run v₀ (pre ++ u :: t :: post) v) : t.view = u.after := by
  have r : Run v₀ (pre ++ [u] ++ t :: post) v := by simpa using r
  obtain ⟨h, -⟩ | r := r.cut
  case inl => simp at h
  case inr => exact r.last.1

theorem closed_of_teardown (r : Run v₀ ts v) (ht : t ∈ ts) (he : t.event? = some .teardown) :
    v.session.closed = true := by
  induction r
  case start s =>
    obtain rfl := List.mem_singleton.mp ht
    cases he
  case wake s w r ho hw hi =>
    rw [Turn.after_closed]
    obtain ht | ht := List.mem_append.mp ht
    case inl => simp [hi ht]
    case inr => simp [← List.mem_singleton.mp ht, he]
  case closing s r hi =>
    rw [Turn.after_closed]
    simp [Turn.event?]

-- What was published last is the state of the view.
theorem publish_eq (r : Run v₀ ts v) : v.publish = v := by
  cases r <;> apply Turn.publish_after

-- To be torn down again has no effect.
theorem teardown_again (r : Run v₀ ts v) (h₀ : v₀.session.closed = false) (ht : t ∈ ts)
    (hc : t.view.session.closed = true) : t.after = t.view ∧ t.effects = [] := by
  induction r
  case start s =>
    obtain rfl := List.mem_singleton.mp ht
    simp [h₀] at hc
  case wake s w r ho hw hi =>
    obtain ht | ht := List.mem_append.mp ht
    case inl => exact hi ht
    case inr =>
      obtain rfl := List.mem_singleton.mp ht
      simp [ho] at hc
  case closing s r hi =>
    obtain ht | ht := List.mem_append.mp ht
    case inl => exact hi ht
    case inr =>
      obtain rfl := List.mem_singleton.mp ht
      have ha := Turn.after_closing_of_closed (s := s) hc
      exact ⟨ha.trans r.publish_eq, Turn.effects_closing_of_closed hc⟩

-- After a teardown there is nothing but teardowns.
theorem teardowns (r : Run v₀ ts v) :
    ts.Pairwise fun t u => t.event? = some .teardown → u.event? = some .teardown := by
  induction r
  case start s => exact List.pairwise_singleton ..
  case wake s w r ho hw hi =>
    refine List.pairwise_append.mpr ⟨hi, List.pairwise_singleton .., fun t ht u hu he => ?_⟩
    simp [r.closed_of_teardown ht he] at ho
  case closing s r hi =>
    refine List.pairwise_append.mpr ⟨hi, List.pairwise_singleton .., fun t ht u hu he => ?_⟩
    obtain rfl := List.mem_singleton.mp hu
    rfl

end View.Run

end RemoteTerm
