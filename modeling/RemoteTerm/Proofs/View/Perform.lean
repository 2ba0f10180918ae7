import RemoteTerm.View
/-!
What carrying out actions leaves alone, and what it says to the outside.
-/

namespace RemoteTerm

def Action.notice? : Action → Option Notice
  | notify n => some n
  | _        => none

namespace Effect

-- Calls of the surface, writes to the clipboard, and the end of a channel.
def isAside : Effect → Bool
  | surface _ | clip _ | release _ => true
  | _ => false

-- The end of a channel or of a connect.
def givesUp : Effect → Bool
  | release _ | abandonConnect => true
  | _ => false

def notice? : Effect → Option Notice
  | notice n => some n
  | _        => none

end Effect

namespace View

variable {v : View} {now : Instant} {a : Action} {as : List Action}

-- Nothing is new in what has just been published.
theorem publish_publish (v : View) : v.publish.publish = v.publish := by
  have h : v.publish.status = v.publish.snapshot := rfl
  rw [publish, if_pos h, ← h]

theorem performAll_nil : v.performAll now [] = (v, []) :=
  rfl

theorem performAll_cons :
    v.performAll now (a :: as) =
      (((v.perform now a).1.performAll now as).1,
        (v.perform now a).2 ++ ((v.perform now a).1.performAll now as).2) :=
  rfl

-- What is made of a part of a view by each action, is made of it by one after another.
theorem performAll_foldl {α : Type} (f : View → α) (g : α → Action → α)
    (h : ∀ v a, f (v.perform now a).1 = g (f v) a) :
    f (v.performAll now as).1 = as.foldl g (f v) := by
  induction as generalizing v with
  | nil          => rfl
  | cons a as hi => rw [performAll_cons, hi, h, List.foldl_cons]

-- Whatever each action keeps, a list of actions keeps.
theorem performAll_keeps {α : Type} (f : View → α) (p : Action → Prop)
    (h : ∀ v a, p a → f (v.perform now a).1 = f v) (hp : ∀ a ∈ as, p a) :
    f (v.performAll now as).1 = f v := by
  induction as generalizing v with
  | nil => rfl
  | cons a as hi =>
    rw [performAll_cons, hi fun b hb => hp b (List.mem_cons_of_mem a hb)]
    exact h v a (hp a List.mem_cons_self)

theorem perform_session (v : View) (a : Action) : (v.perform now a).1.session = v.session := by
  cases a <;> simp only [perform, release]
  split <;> rfl

theorem perform_latch (v : View) (a : Action) : (v.perform now a).1.latch = v.latch := by
  cases a <;> simp only [perform, release]
  split <;> rfl

theorem perform_touch (v : View) (a : Action) : (v.perform now a).1.touch = v.touch := by
  cases a <;> simp only [perform, release]
  split <;> rfl

theorem perform_debounce (v : View) (a : Action) : (v.perform now a).1.debounce = v.debounce := by
  cases a <;> simp only [perform, release]
  split <;> rfl

-- No action arms the timers of resizes and of the wheel.
theorem perform_timers (v : View) (a : Action) (h : a ≠ .cancelTimers) :
    ((v.perform now a).1.resizeAt, (v.perform now a).1.flushAt) = (v.resizeAt, v.flushAt) := by
  cases a <;> simp only [perform, release]
  case openChannel  => split <;> rfl
  case cancelTimers => contradiction

theorem perform_channel (v : View) (a : Action) (h : a ≠ .closeChannel) :
    (v.perform now a).1.channel = v.channel := by
  cases a <;> simp only [perform]
  case openChannel  => split <;> rfl
  case closeChannel => contradiction

theorem performAll_session : (v.performAll now as).1.session = v.session :=
  performAll_keeps (·.session) (fun _ => True) (fun v a _ => v.perform_session a) (by simp)

theorem performAll_latch : (v.performAll now as).1.latch = v.latch :=
  performAll_keeps (·.latch) (fun _ => True) (fun v a _ => v.perform_latch a) (by simp)

theorem performAll_touch : (v.performAll now as).1.touch = v.touch :=
  performAll_keeps (·.touch) (fun _ => True) (fun v a _ => v.perform_touch a) (by simp)

theorem performAll_debounce : (v.performAll now as).1.debounce = v.debounce :=
  performAll_keeps (·.debounce) (fun _ => True) (fun v a _ => v.perform_debounce a) (by simp)

theorem performAll_timers (h : .cancelTimers ∉ as) :
    ((v.performAll now as).1.resizeAt, (v.performAll now as).1.flushAt) = (v.resizeAt, v.flushAt) :=
  performAll_keeps (fun v => (v.resizeAt, v.flushAt)) (· ≠ .cancelTimers)
    (fun v a h => v.perform_timers a h) fun _ ha he => h (he ▸ ha)

theorem performAll_channel (h : .closeChannel ∉ as) :
    (v.performAll now as).1.channel = v.channel :=
  performAll_keeps (·.channel) (· ≠ .closeChannel) (fun v a h => v.perform_channel a h)
    fun _ ha he => h (he ▸ ha)

-- What a list of actions does, one of them does.
theorem mem_performAll {e : Effect} (h : e ∈ (v.performAll now as).2) :
    ∃ v' : View, ∃ a ∈ as, e ∈ (v'.perform now a).2 := by
  induction as generalizing v with
  | nil => cases h
  | cons a as hi =>
    obtain h | h := List.mem_append.mp h
    case inl => exact ⟨v, a, List.mem_cons_self, h⟩
    case inr =>
      obtain ⟨v', b, hb, he⟩ := hi h
      exact ⟨v', b, List.mem_cons_of_mem a hb, he⟩

theorem performAll_givesUp {e : Effect} (h : .closeChannel ∉ as)
    (he : e ∈ (v.performAll now as).2) : e.givesUp = false := by
  obtain ⟨v', a, ha, he⟩ := mem_performAll he
  cases a <;> simp only [perform, release] at he
  case closeChannel => contradiction
  case send f =>
    obtain ⟨i, -, rfl⟩ := by simpa using he
    rfl
  case openChannel =>
    split at he
    case isTrue  => cases he
    case isFalse => exact List.mem_singleton.mp he ▸ rfl
  all_goals first | cases he; done | exact List.mem_singleton.mp he ▸ rfl

-- What each action says to the outside, a list of actions says in the same order.
theorem performAll_filterMap {α : Type} (f : Effect → Option α) (g : Action → Option α)
    (h : ∀ v : View, ∀ a ∈ as, (v.perform now a).2.filterMap f = (g a).toList) :
    (v.performAll now as).2.filterMap f = as.filterMap g := by
  induction as generalizing v with
  | nil => rfl
  | cons a as hi =>
    rw [performAll_cons, List.filterMap_append, h v a List.mem_cons_self, List.filterMap_cons,
      hi fun v b hb => h v b (List.mem_cons_of_mem a hb)]
    cases g a <;> rfl

theorem perform_notices (v : View) (a : Action) :
    (v.perform now a).2.filterMap Effect.notice? = a.notice?.toList := by
  cases a <;> simp only [perform, release, Action.notice?]
  case send f       => cases v.channel <;> rfl
  case openChannel  => split <;> rfl
  case closeChannel =>
    cases v.channel <;> by_cases hd : v.connecting = true <;> simp [hd, Effect.notice?]
  all_goals rfl

end View

end RemoteTerm
