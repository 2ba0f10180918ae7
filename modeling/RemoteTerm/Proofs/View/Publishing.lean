import RemoteTerm.Proofs.View.History
import RemoteTerm.Proofs.View.Marks
/-!
What is published of a view. After each turn the published status is that of the live state, and who
follows it is told of it just if it differs from the one before.
-/

namespace RemoteTerm

namespace View

-- What is posted of a view until it publishes again.
def posted (v : View) : Uuid × Status × Nat :=
  (v.id, v.status, v.changes)

variable {v : View} {s : Surroundings} {now : Instant} {as : List Action}

theorem perform_posted (v : View) (a : Action) : (v.perform now a).1.posted = v.posted := by
  cases a <;> simp only [perform, release]
  case openChannel => split <;> rfl
  all_goals rfl

theorem performAll_posted : (v.performAll now as).1.posted = v.posted :=
  performAll_keeps posted (fun _ => True) (fun v a _ => v.perform_posted a) (by simp)

theorem perform_lastNotice (v : View) (a : Action) :
    (v.perform now a).1.lastNotice = (a.notice?.map Notice.message).or v.lastNotice := by
  cases a <;> simp only [perform, release]
  case openChannel => split <;> rfl
  all_goals rfl

-- Of the notices that are sent one after another, the last one stays.
theorem performAll_lastNotice :
    (v.performAll now as).1.lastNotice =
      ((as.filterMap Action.notice?).map Notice.message).getLast?.or v.lastNotice := by
  induction as generalizing v with
  | nil => rfl
  | cons a as hi =>
    rw [performAll_cons, hi, perform_lastNotice, List.filterMap_cons]
    cases a.notice?
    case none   => rfl
    case some n =>
      cases h : (as.filterMap Action.notice?).getLast? <;> simp [List.getLast?_cons, h]

theorem attend_posted (v : View) (s : Surroundings) (w : Wake) :
    (v.attend s w).posted = v.posted ∧ (v.attend s w).lastNotice = v.lastNotice := by
  cases w <;> try exact ⟨rfl, rfl⟩
  case connected r => cases r <;> exact ⟨rfl, rfl⟩
  case command c =>
    cases c <;> try exact ⟨rfl, rfl⟩
    case touch e => cases e <;> exact ⟨rfl, rfl⟩
    all_goals
      exact ⟨keepLatch_keeps (·.posted) (fun _ _ => rfl) v _,
        keepLatch_keeps (·.lastNotice) (fun _ _ => rfl) v _⟩

end View

namespace Turn

-- What a turn says to the user.
def said (t : Turn) : List String :=
  (t.effects.filterMap Effect.notice?).map Notice.message

variable {t : Turn}

-- A turn ends by publishing the view as it is then.
theorem publishes (t : Turn) :
    ∃ v : View, t.after = v.publish ∧ v.posted = t.view.posted ∧
      v.lastNotice = t.said.getLast?.or t.view.lastNotice := by
  obtain ⟨s, hs⟩ := t.heard_view
  obtain ⟨hp, hn⟩ : t.attended.posted = t.view.posted ∧
      t.attended.lastNotice = t.view.lastNotice := by
    obtain ⟨v, s, c⟩ := t
    cases c <;> first | exact ⟨rfl, rfl⟩ | apply v.attend_posted
  refine ⟨(t.heard.1.performAll t.around.now t.heard.2).1, ?_, ?_, ?_⟩
  · rw [after, outcome_eq]
  · rw [View.performAll_posted, hs]
    exact hp
  · rw [View.performAll_lastNotice, said, effects_notices, hs]
    exact congrArg _ hn

theorem after_id (t : Turn) : t.after.id = t.view.id := by
  obtain ⟨v, hv, hp, -⟩ := t.publishes
  rw [hv]
  exact congrArg Prod.fst hp

theorem after_lastNotice (t : Turn) :
    t.after.lastNotice = t.said.getLast?.or t.view.lastNotice := by
  obtain ⟨v, hv, -, hn⟩ := t.publishes
  rw [hv]
  exact hn

-- Who follows the status is told of a change by a turn if the turn has changed what was published.
theorem after_changes (t : Turn) :
    t.after.changes =
      if t.after.snapshot = t.view.status then t.view.changes else t.view.changes + 1 := by
  obtain ⟨v, hv, hp, -⟩ := t.publishes
  simp only [View.posted, Prod.mk.injEq] at hp
  rw [hv, ← hp.2.1, ← hp.2.2]
  exact ite_congr (propext eq_comm) (fun _ => rfl) fun _ => rfl

end Turn

namespace History

-- All that a view has said to the user.
def said (ts : History) : List String :=
  ts.flatMap Turn.said

-- What is published of a view after some turns.
structure Published (id : Uuid) (ts : History) (v : View) : Prop where
  viewId     : v.status.viewId = id
  connection : v.status.connection = v.session.connection
  latched    : v.status.latched = v.latch.armed
  grid       : v.status.grid = v.session.grid
  -- There is no width without a height.
  sides      : v.status.cols.isSome = v.status.rows.isSome
  lastNotice : v.status.lastNotice = (said ts).getLast?
  closed     : v.status.closed = v.session.closed
  -- Who follows the status is told of it in a turn just if the live state looks different then.
  told {t} :
    t ∈ ts → t.after.changes =
      if t.after.snapshot = t.view.snapshot then t.view.changes else t.view.changes + 1

end History

namespace View

theorem snapshot_grid (v : View) : v.snapshot.grid = v.session.grid := by
  simp only [snapshot, Status.grid]
  cases v.session.grid <;> rfl

namespace Run

variable {v v₀ : View} {id : Uuid} {o : Options} {ts : History} {t : Turn}

theorem status_eq (r : Run v₀ ts v) : v.status = v.snapshot :=
  congrArg View.status r.publish_eq.symm

theorem id_eq (r : Run v₀ ts v) : v.id = v₀.id := by
  induction r
  case start s            => apply Turn.after_id
  case wake s w r ho h hi => rw [Turn.after_id, hi]
  case closing s r hi     => rw [Turn.after_id, hi]

theorem lastNotice_eq (r : Run v₀ ts v) (h₀ : v₀.lastNotice = none) :
    v.lastNotice = (History.said ts).getLast? := by
  induction r
  case start s => simp [Turn.after_lastNotice, History.said, h₀]
  case wake s w r ho h hi => simp [Turn.after_lastNotice, History.said, hi]
  case closing s r hi => simp [Turn.after_lastNotice, History.said, hi]

-- What is published after each turn is the view as it is then, from before the first one on.
theorem published (r : Run (create id o) ts v) :
    (create id o).status = (create id o).snapshot ∧ (create id o).status = .initial id ∧
      History.Published id ts v := by
  refine ⟨rfl, rfl, ?_⟩
  constructor
  case told =>
    intro t ht
    obtain ⟨pre, post, rfl⟩ := List.append_of_mem ht
    rw [Turn.after_changes]
    obtain ⟨-, h⟩ | r := r.cut
    case inl => rw [h]; rfl
    case inr => rw [r.status_eq]
  all_goals rw [r.status_eq]
  case viewId     => exact r.id_eq
  case grid       => exact v.snapshot_grid
  case sides      => simp [snapshot]
  case lastNotice => exact r.lastNotice_eq rfl
  all_goals rfl

-- A connect fails, a modifier is tapped, the terminal is focused, which is nothing that the status
-- shows, and the view is torn down.
theorem published_focused :
    ∃ ts v, Run (create default {}) ts v ∧ ts.map (·.after.changes) = [0, 1, 2, 2, 3] ∧
      v.status = ⟨default, .reconnecting 1, { alt := true }, none, none,
        some "Reconnecting (1/10)...", true⟩ ∧
      (create default {}).status = (create default {}).snapshot ∧
      (create default {}).status = .initial default ∧ History.Published default ts v := by
  have r : Run (create default {}) _ _ := (Run.start ⟨0, none, "", none⟩)
    |>.wake ⟨0, none, "", none⟩ (.connected none) rfl (.connected _ rfl)
    |>.wake ⟨0, none, "", none⟩ (.command (.toggle .alt)) rfl (.command _)
    |>.wake ⟨0, none, "", none⟩ (.command .focus) rfl (.command _)
    |>.closing ⟨0, none, "", none⟩
  exact ⟨_, _, r, by decide +kernel, by decide +kernel, r.published⟩

end Run

end View

end RemoteTerm
