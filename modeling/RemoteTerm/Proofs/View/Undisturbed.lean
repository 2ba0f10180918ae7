import RemoteTerm.Proofs.View.Scrolling
import RemoteTerm.Proofs.View.Sizing
/-!
Touch does not disturb a session. Whatever is touched between the other wakes of a view, and
whenever pending deltas are let out, each other wake does what it would have done without, and
leaves the view as it would have left it. All that comes of the touches themselves is the tracker,
its timer, and the surface's focus and scrolling.
-/

namespace RemoteTerm

-- A way to read a clock, exactly or roughly. What reads the same reads the same some time later.
def Instant.Legible (f : Instant → Instant) : Prop :=
  ∀ {a b : Instant} (d : Duration), f a = f b → f (a.after d) = f (b.after d)

-- To the nanosecond.
example : Instant.Legible id :=
  fun d h => congrArg (Instant.after · d) h

-- The touches of the surface, and the timer that comes of them.
def Wake.isTouch : Wake → Bool
  | .command (.touch _) | .flushDue => true
  | _                               => false

def Effect.isTouch : Effect → Bool
  | surface .focus | surface (.scroll _) => true
  | _                                    => false

def Surroundings.read (f : Instant → Instant) (s : Surroundings) : Surroundings :=
  { s with now := f s.now }

theorem Surroundings.exists_of_read {f : Instant → Instant} {s s' : Surroundings}
    (h : s.read f = s'.read f) : ∃ now, s' = { s with now } ∧ f s.now = f now :=
  ⟨s'.now, congrArg ({ · with now := s'.now }) h.symm, congrArg Surroundings.now h⟩

-- Wakes, each with what the view finds around it.
abbrev Feed := List (Surroundings × Wake)

-- The wakes that are not touches, by the clock as it reads.
def Feed.others (f : Instant → Instant) (fs : Feed) : Feed :=
  (fs.filter (! ·.2.isTouch)).map fun x => (x.1.read f, x.2)

namespace View

-- A view without what touches change, its timers as they read.
def read (f : Instant → Instant) (v : View) : View :=
  { v with
    touch       := .idle
    flushAt     := none
    reconnectAt := v.reconnectAt.map f
    redrawAt    := v.redrawAt.map f
    resizeAt    := v.resizeAt.map f }

variable {f : Instant → Instant} {v v' : View} {s s' : Surroundings} {now now' : Instant}
  {w : Wake}

-- Views that read the same differ in their tracker and in times alone.
theorem exists_of_read (h : v.read f = v'.read f) :
    ∃ touch reconnectAt redrawAt resizeAt flushAt,
      v' = { v with touch, reconnectAt, redrawAt, resizeAt, flushAt } ∧
      v.reconnectAt.map f = reconnectAt.map f ∧ v.redrawAt.map f = redrawAt.map f ∧
      v.resizeAt.map f = resizeAt.map f := by
  cases v
  cases v'
  simp only [read, mk.injEq, true_and] at h
  obtain ⟨rfl, rfl, rfl, rfl, rfl, hr, hd, hz, rfl, rfl, rfl, rfl⟩ := h
  exact ⟨_, _, _, _, _, rfl, hr, hd, hz⟩

theorem perform_read (hf : Instant.Legible f) (hv : v.read f = v'.read f) (hn : f now = f now')
    (a : Action) :
    (v.perform now a).1.read f = (v'.perform now' a).1.read f ∧
      (v.perform now a).2 = (v'.perform now' a).2 := by
  obtain ⟨_, _, _, _, _, rfl, hr, hd, hz⟩ := exists_of_read hv
  cases a <;> simp only [perform, release, read, hr, hd, hz, and_self]
  case armReconnect d => simp [hf d hn]
  case armRedraw d    => simp [hf d hn]
  case openChannel    => split <;> simp [hr, hd, hz]
  case closeChannel   => exact ⟨trivial, rfl⟩

theorem performAll_read (hf : Instant.Legible f) (hv : v.read f = v'.read f) (hn : f now = f now')
    (as : List Action) :
    (v.performAll now as).1.read f = (v'.performAll now' as).1.read f ∧
      (v.performAll now as).2 = (v'.performAll now' as).2 := by
  induction as generalizing v v' with
  | nil          => exact ⟨hv, rfl⟩
  | cons a as hi =>
    have ⟨hp, he⟩ := perform_read hf hv hn a
    have ⟨hp, he'⟩ := hi hp
    simp only [performAll_cons]
    exact ⟨hp, by rw [he, he']⟩

theorem tell_read (hv : v.read f = v'.read f) (e : Session.Event) (es : List Effect) :
    (v.tell e).1.read f = (v'.tell e).1.read f ∧ (es, (v.tell e).2) = (es, (v'.tell e).2) := by
  obtain ⟨_, _, _, _, _, rfl, hr, hd, hz⟩ := exists_of_read hv
  simp [tell, read, hr, hd, hz]

theorem publish_read (hv : v.read f = v'.read f) : v.publish.read f = v'.publish.read f := by
  obtain ⟨_, _, _, _, _, rfl, hr, hd, hz⟩ := exists_of_read hv
  simp only [publish, snapshot, read, hr, hd, hz]
  rfl

theorem keepLatch_read (hv : v.read f = v'.read f) (l : Latch) :
    (v.keepLatch l).read f = (v'.keepLatch l).read f := by
  obtain ⟨_, _, _, _, _, rfl, hr, hd, hz⟩ := exists_of_read hv
  simp only [keepLatch]
  split <;> simp [read, hr, hd, hz]

theorem attend_read (hf : Instant.Legible f) (hv : v.read f = v'.read f) (hn : f s.now = f now)
    (hw : w.isTouch = false) :
    (v.attend s w).read f = (v'.attend { s with now } w).read f := by
  have hl : v.latch = v'.latch := by obtain ⟨_, _, _, _, _, rfl, -⟩ := exists_of_read hv; rfl
  cases w <;> try exact hv
  case command c =>
    cases c <;> simp only [attend, hl, hv, keepLatch_read hv]
    case touch e => cases hw
    case resized =>
      obtain ⟨_, _, _, _, _, rfl, hr, hd, hz⟩ := exists_of_read hv
      simp [read, hr, hd, hf v.debounce hn]
    case toggle m =>
      obtain ⟨_, _, _, _, _, rfl, hr, hd, hz⟩ := exists_of_read hv
      simp [read, hr, hd, hz]
  case connected r =>
    obtain ⟨_, _, _, _, _, rfl, hr, hd, hz⟩ := exists_of_read hv
    cases r <;> simp [attend, read, hr, hd, hz]
  all_goals
    obtain ⟨_, _, _, _, _, rfl, hr, hd, hz⟩ := exists_of_read hv
    simp [attend, read, hr, hd, hz]

theorem paste_read (hv : v.read f = v'.read f) :
    (v.paste s).1.read f = (v'.paste { s with now }).1.read f ∧
      (([] : List Effect), (v.paste s).2) = ([], (v'.paste { s with now }).2) := by
  simp only [paste]
  cases Clipboard.paste s.clipboard
  case ok text => exact tell_read hv (.input text) []
  case error n => exact ⟨hv, rfl⟩

-- What each other wake does at once, and what it asks for.
theorem react_read (hf : Instant.Legible f) (hv : v.read f = v'.read f) (hn : f s.now = f now)
    (hw : w.isTouch = false) :
    (v.react s w).1.read f = (v'.react { s with now } w).1.read f ∧
      (v.react s w).2 = (v'.react { s with now } w).2 := by
  have ha := attend_read hf hv hn hw
  have told e es := tell_read ha e es
  obtain ⟨hl, hi⟩ : v.latch = v'.latch ∧ v.channel = v'.channel := by
    obtain ⟨_, _, _, _, _, rfl, -⟩ := exists_of_read hv
    exact ⟨rfl, rfl⟩
  cases w
  case abandoned     => exact told .teardown []
  case output b      => exact told (.output b) []
  case reconnectDue  => exact told .reconnectDue []
  case redrawDue     => exact told .redrawDue []
  case resizeSettled => exact told (.viewport s.measured) []
  case flushDue      => cases hw
  case connected r   =>
    cases r
    case none   => exact told .lost []
    case some i => exact told (.opened s.measured) []
  case ended =>
    simp only [react, release, hi]
    exact told .lost _
  case command c =>
    cases c
    case focus         => exact ⟨hv, rfl⟩
    case input text    => exact told (.input text) []
    case paste         => exact paste_read hv
    case close         => exact told .teardown []
    case toggle m      => exact ⟨ha, rfl⟩
    case resized       => exact ⟨ha, rfl⟩
    case touch e       => cases hw
    case compose chunk =>
      simp only [react, obey, compose, hl]
      simp only [attend, hl] at ha
      exact tell_read ha _ []
    case button k =>
      simp only [react, obey, button, hl]
      simp only [attend, hl] at ha
      cases (v'.latch.routeButton k).2
      case none      => exact ⟨ha, rfl⟩
      case some text => exact tell_read ha (.input text) []
    case press p =>
      simp only [react, obey, press, hl]
      simp only [attend, hl] at ha
      cases (v'.latch.routeKey p).2
      case send text => exact tell_read ha (.input text) []
      case copy      => exact ⟨ha, rfl⟩
      case paste     => exact paste_read ha
      case ignore    => exact ⟨ha, rfl⟩

theorem handle_read (hf : Instant.Legible f) (hv : v.read f = v'.read f) (hn : f s.now = f now)
    (hw : w.isTouch = false) :
    (v.handle s w).1.read f = (v'.handle { s with now } w).1.read f ∧
      (v.handle s w).2 = (v'.handle { s with now } w).2 := by
  have ⟨hr, ha⟩ := react_read hf hv hn hw
  have ⟨hp, he⟩ := performAll_read hf hr hn (v.react s w).2.2
  simp only [handle, ← ha]
  exact ⟨publish_read hp, by rw [he]⟩

theorem isTouch_of_surfaceScroll {delta : Option Float} :
    ∀ e ∈ surfaceScroll delta, e.isTouch = true := by
  simp [surfaceScroll, Effect.isTouch]

theorem feel_isTouch (v : View) (now : Instant) (e : Touch.Event) :
    ∀ x ∈ (v.feel now e).2, x.isTouch = true := by
  cases e
  case start | cancel => simp [feel]
  case move points    => exact isTouch_of_surfaceScroll
  case finish point   =>
    simp only [feel]
    cases (v.touch.finish point now).2
    case tap         => simp [Effect.isTouch]
    case scroll rest => exact isTouch_of_surfaceScroll
    case ignored     => simp

-- A touch reaches the tracker, its timer, and the surface, and nothing else of the view.
theorem handle_of_touch (hp : v.publish = v) (hw : w.isTouch = true) :
    (∃ touch flushAt, (v.handle s w).1 = { v with touch, flushAt }) ∧
      ∀ e ∈ (v.handle s w).2, e.isTouch = true := by
  have kept (touch flushAt) :
      View.publish { v with touch, flushAt } = { v with touch, flushAt } :=
    congrArg (fun u : View => { u with touch, flushAt }) hp
  cases w <;> try cases hw
  case flushDue =>
    refine ⟨⟨_, _, kept _ _⟩, ?_⟩
    simpa [handle, react, performAll] using isTouch_of_surfaceScroll
  case command c =>
    cases c <;> try cases hw
    case touch e =>
      refine ⟨?_, by simpa [handle, react, obey, performAll] using v.feel_isTouch s.now e⟩
      cases e <;> exact ⟨_, _, kept _ _⟩

-- The turns of a view that is fed wakes, one after another, whether or not it could hear them.
def feed (v : View) : Feed → History
  | []              => []
  | (s, w) :: wakes => ⟨v, s, .wake w⟩ :: (v.handle s w).1.feed wakes

end View

namespace Turn

def isTouch (t : Turn) : Bool :=
  match t.cause with
  | .wake w => w.isTouch
  | _       => false

-- What a turn does, and what it leaves.
def shown (f : Instant → Instant) (t : Turn) : List Effect × View :=
  (t.effects, t.after.read f)

end Turn

namespace History

-- What the turns have done and left that were not touches.
def shown (f : Instant → Instant) (ts : History) : List (List Effect × View) :=
  (ts.filter (! ·.isTouch)).map (Turn.shown f)

-- Two histories of a view that was touched in between, each time in its own way.
structure Undisturbed (f : Instant → Instant) (ts us : History) : Prop where
  shown   : shown f ts = shown f us
  -- On the whole, they have done the same beside focusing and scrolling.
  effects :
    (ts.flatMap Turn.effects).filter (! ·.isTouch) = (us.flatMap Turn.effects).filter (! ·.isTouch)
  touches {t} :
    t ∈ ts ++ us → t.isTouch = true →
    (∃ touch flushAt, t.after = { t.view with touch, flushAt }) ∧ ∀ e ∈ t.effects, e.isTouch = true

variable {f : Instant → Instant} {v v' : View} {fs gs : Feed} {ts us : History} {t : Turn}

theorem shown_cons :
    shown f (t :: ts) = if t.isTouch = true then shown f ts else t.shown f :: shown f ts := by
  cases h : t.isTouch <;> simp [shown, h]

-- A touch in front has nothing to show, and what comes after it shows the same.
theorem shown_feed_filter (hf : Instant.Legible f) (hp : v.publish = v)
    (hv : v.read f = v'.read f) :
    shown f (v.feed fs) = shown f (v'.feed (fs.filter (! ·.2.isTouch))) := by
  induction fs generalizing v v' with
  | nil => rfl
  | cons x fs hi =>
    obtain ⟨s, w⟩ := x
    have hp' : (v.handle s w).1.publish = (v.handle s w).1 := View.publish_publish _
    cases hw : w.isTouch
    case true =>
      obtain ⟨⟨touch, flushAt, ht⟩, -⟩ := View.handle_of_touch (s := s) hp hw
      have hr : (v.handle s w).1.read f = v'.read f := by rw [ht]; exact hv
      simpa [View.feed, shown_cons, Turn.isTouch, hw] using hi hp' hr
    case false =>
      have ⟨hr, he⟩ := View.handle_read hf hv (s := s) rfl hw
      have ht : Turn.shown f ⟨v, s, .wake w⟩ = Turn.shown f ⟨v', s, .wake w⟩ :=
        Prod.ext he hr
      simpa [View.feed, shown_cons, Turn.isTouch, hw, ht] using hi hp' hr

-- Without touches, wakes that read the same show the same.
theorem shown_feed_of_read (hf : Instant.Legible f) (hv : v.read f = v'.read f)
    (hw : ∀ x ∈ fs, x.2.isTouch = false)
    (h : fs.map (fun x => (x.1.read f, x.2)) = gs.map fun x => (x.1.read f, x.2)) :
    shown f (v.feed fs) = shown f (v'.feed gs) := by
  induction fs generalizing v v' gs with
  | nil =>
    rw [List.map_nil, eq_comm, List.map_eq_nil_iff] at h
    rw [h]
    rfl
  | cons x fs hi =>
    obtain ⟨s, w⟩ := x
    obtain ⟨⟨s', w'⟩, gs, rfl, hx, hs⟩ := List.map_eq_cons_iff.mp h.symm
    obtain ⟨now, rfl, hn⟩ := Surroundings.exists_of_read (congrArg Prod.fst hx).symm
    obtain rfl : w' = w := congrArg Prod.snd hx
    have hw' : w'.isTouch = false := hw _ List.mem_cons_self
    have ⟨hr, he⟩ := View.handle_read hf hv hn hw'
    have ht : Turn.shown f ⟨v, s, .wake w'⟩ = Turn.shown f ⟨v', { s with now }, .wake w'⟩ :=
      Prod.ext he hr
    simpa [View.feed, shown_cons, Turn.isTouch, hw', ht] using
      hi hr (fun x hx => hw x (List.mem_cons_of_mem _ hx)) hs.symm

theorem touches_feed (hp : v.publish = v) (h : t ∈ v.feed fs) (ht : t.isTouch = true) :
    (∃ touch flushAt, t.after = { t.view with touch, flushAt }) ∧
      ∀ e ∈ t.effects, e.isTouch = true := by
  induction fs generalizing v with
  | nil => cases h
  | cons x fs hi =>
    obtain ⟨s, w⟩ := x
    obtain rfl | h := List.mem_cons.mp h
    case inl => exact View.handle_of_touch hp ht
    case inr => exact hi (View.publish_publish _) h

-- Touches aside, what a history has done is what it shows.
theorem effects_eq_of_shown (h : ∀ t ∈ ts, t.isTouch = true → ∀ e ∈ t.effects, e.isTouch = true) :
    (ts.flatMap Turn.effects).filter (! ·.isTouch) =
      ((shown f ts).flatMap Prod.fst).filter (! ·.isTouch) := by
  induction ts with
  | nil => rfl
  | cons t ts hi =>
    have hi := hi fun u hu => h u (List.mem_cons_of_mem t hu)
    rw [List.flatMap_cons, List.filter_append, hi, shown_cons]
    cases ht : t.isTouch
    case false => simp [Turn.shown]
    case true  =>
      have he := h t List.mem_cons_self ht
      have hn : t.effects.filter (! ·.isTouch) = [] := by
        rw [List.filter_eq_nil_iff]
        exact fun e hm => by simp [he e hm]
      simp [hn]

end History

namespace View

variable {f : Instant → Instant} {v : View} {fs gs : Feed}

-- In any state that a view has published, and by any clock that both histories can be read by.
theorem feed_undisturbed (hf : Instant.Legible f) (hp : v.publish = v)
    (h : fs.others f = gs.others f) : History.Undisturbed f (v.feed fs) (v.feed gs) := by
  have hs : History.shown f (v.feed fs) = History.shown f (v.feed gs) := by
    have purged (ws : Feed) : History.shown f (v.feed ws) =
        History.shown f (v.feed (ws.filter (! ·.2.isTouch))) :=
      History.shown_feed_filter hf hp rfl
    rw [purged fs, purged gs]
    exact History.shown_feed_of_read hf rfl (by simp) h
  constructor
  case shown   => exact hs
  case touches =>
    intro t ht
    obtain ht | ht := List.mem_append.mp ht
    all_goals exact History.touches_feed hp ht
  case effects =>
    rw [History.effects_eq_of_shown (f := f) fun t ht h => (History.touches_feed hp ht h).2, hs,
      History.effects_eq_of_shown (f := f) fun t ht h => (History.touches_feed hp ht h).2]

-- A view whose user scrolls while Ctrl is armed, and one that is only typed into, at other times.
theorem feed_undisturbed_scrolling :
    let v := ((create default {}).start 0).1
    let fs : Feed :=
      [(⟨0, none, "", none⟩, .connected (some 0)),
        (⟨1, none, "", none⟩, .command (.touch (.start [⟨0, 100⟩]))),
        (⟨2, none, "", none⟩, .command (.toggle .ctrl)),
        (⟨3, none, "", none⟩, .command (.touch (.move [⟨0, 120⟩]))),
        (⟨4, none, "", none⟩, .command (.press { key := .char 'c' })),
        (⟨5, none, "", none⟩, .flushDue)]
    let gs : Feed :=
      [(⟨7, none, "", none⟩, .connected (some 0)), (⟨8, none, "", none⟩, .command (.toggle .ctrl)),
        (⟨9, none, "", none⟩, .command (.press { key := .char 'c' }))]
    History.Undisturbed (fun _ => 0) (v.feed fs) (v.feed gs) ∧
      (v.feed fs).flatMap (·.sent) = [(0, .input "\x03")] ∧
      (v.feed fs).flatMap (·.scrolls) = [-60] ∧ (v.feed gs).flatMap (·.scrolls) = [] := by
  refine ⟨feed_undisturbed (fun _ _ => rfl) (publish_publish _) rfl, ?_, ?_, ?_⟩
  all_goals decide +kernel

end View

end RemoteTerm
