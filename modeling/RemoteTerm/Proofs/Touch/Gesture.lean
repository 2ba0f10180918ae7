import RemoteTerm.Touch
/-!
What becomes of a contact. That is decided by the whole way of its finger: whether it has ever been
far enough up or down to scroll, and if not, how far it has been at most and how long it has taken.
-/

namespace RemoteTerm.Touch

-- What happens in the course of a contact: the fingers move, or it is time to look what is due.
inductive Beat where
  | move (points : List Point)
  | poll

-- The times may come in any order.
abbrev Course := List (Instant × Beat)

-- A whole contact of a finger, from the point that it is put on to its end.
structure Gesture where
  origin : Point
  began  : Instant
  course : Course
  lifted : Option Point
  ended  : Instant

namespace Beat

-- Where the finger of a move is, if it is the only one.
def finger? : Beat → Option Point
  | move [p] => some p
  | _        => none

-- Whether the finger moves far enough above or below a point to scroll.
def leaves (origin : Point) (b : Beat) : Bool :=
  b.finger?.any fun p => 12 < (p.y - origin.y).abs

end Beat

namespace Course

-- Where the finger comes to, as long as it is the only one.
def trail (bs : Course) : List Point :=
  bs.filterMap (·.2.finger?)

def Leaves (origin : Point) (bs : Course) : Prop :=
  ∃ b ∈ bs, b.2.leaves origin = true

-- The course up to the move that makes the contact scroll, and from there on.
def near (origin : Point) (bs : Course) : Course :=
  bs.takeWhile fun b => !b.2.leaves origin

def far (origin : Point) (bs : Course) : Course :=
  bs.dropWhile fun b => !b.2.leaves origin

end Course

-- How far a finger has been from a point at most, on one axis.
def reach (axis : Point → Float) (origin : Point) (ps : List Point) : Float :=
  (ps.map fun p => (axis p - axis origin).abs).foldl larger 0

namespace Tracker

def beat (t : Tracker) (now : Instant) : Beat → Tracker × Move
  | .move points => t.move points now
  | .poll        =>
    let (t, delta) := t.poll now
    (t, { delta })

def follow (t : Tracker) : Course → Tracker × List Move
  | [] => (t, [])
  | (now, b) :: bs =>
    let (t, m) := t.beat now b
    let (t, ms) := t.follow bs
    (t, m :: ms)

end Tracker

namespace Gesture

-- The tracker when the contact is about to end.
def tracker (g : Gesture) : Tracker :=
  ((Tracker.start [g.origin] g.began).follow g.course).1

-- What there was to do, beat by beat.
def moves (g : Gesture) : List Move :=
  ((Tracker.start [g.origin] g.began).follow g.course).2

def finish (g : Gesture) : Tracker × End :=
  g.tracker.finish g.lifted g.ended

def Scrolls (g : Gesture) : Prop :=
  g.course.Leaves g.origin

-- The point at which the finger is lifted counts if it is known.
def places (g : Gesture) : List Point :=
  g.course.trail ++ g.lifted.toList

-- Whether a contact has been quick and still enough to be a tap.
structure Taps (g : Gesture) : Prop where
  quick : g.ended.since g.began < (Duration.ofMillis 300).nanos
  x     : reach Point.x g.origin g.places < 10
  y     : reach Point.y g.origin g.places < 10

-- What becomes of a contact, and what the host and the wheel notice of it.
structure Judged (g : Gesture) : Prop where
  scroll  : (∃ rest, g.finish.2 = .scroll rest) ↔ g.Scrolls
  tap     : g.finish.2 = .tap ↔ ¬ g.Scrolls ∧ g.Taps
  ignored : g.finish.2 = .ignored ↔ ¬ g.Scrolls ∧ ¬ g.Taps
  -- Nothing is to be noticed of a contact that does not scroll.
  silent {m} : ¬ g.Scrolls → m ∈ g.moves → m = {}
  -- From the move that makes a contact scroll, each move of the finger is kept from the host.
  sticky {pre now b post} :
    g.course = pre ++ (now, b) :: post → b.finger?.isSome = true →
    (pre ++ [(now, b)] : Course).Leaves g.origin →
    ∃ delta, g.moves[pre.length]? = some ⟨true, delta⟩
  idle    : g.finish.1 = .idle
  again (p now) : (g.finish.1.finish p now).2 = .ignored

end Gesture

namespace Course

variable {origin : Point} {bs : Course}

theorem near_append_far (origin : Point) (bs : Course) : bs.near origin ++ bs.far origin = bs :=
  List.takeWhile_append_dropWhile

theorem near_stays (origin : Point) (bs : Course) : ¬ (bs.near origin).Leaves origin := by
  rintro ⟨b, hb, hl⟩
  have hn := List.all_eq_true.mp List.all_takeWhile b hb
  simp [hl] at hn

-- What is left of a course that leaves begins with the move that does.
theorem far_of_leaves (h : bs.Leaves origin) :
    ∃ now b rest, bs.far origin = (now, b) :: rest ∧ b.leaves origin = true := by
  cases hf : bs.far origin with
  | nil =>
    have hb := bs.near_append_far origin
    rw [hf, List.append_nil] at hb
    rw [← hb] at h
    exact absurd h (near_stays origin bs)
  | cons e rest =>
    have hl := List.head?_dropWhile_not (fun b => !b.2.leaves origin) bs
    rw [show bs.dropWhile _ = e :: rest from hf] at hl
    exact ⟨e.1, e.2, rest, rfl, by simpa using hl⟩

end Course

namespace Contact

variable {c : Contact} {p : Point}

-- All that a finger that does not scroll leaves behind is how far it has been.
theorem foldl_recordTravel (c : Contact) (ps : List Point) :
    ps.foldl recordTravel c = { c with travel :=
      ⟨(ps.map fun p => (p.x - c.origin.x).abs).foldl larger c.travel.x,
       (ps.map fun p => (p.y - c.origin.y).abs).foldl larger c.travel.y⟩ } := by
  induction ps generalizing c with
  | nil          => rfl
  | cons p ps hi => rw [List.foldl_cons, hi]; rfl

@[simp]
theorem foldl_recordTravel_origin (c : Contact) (ps : List Point) :
    (ps.foldl recordTravel c).origin = c.origin := by
  rw [foldl_recordTravel]

@[simp]
theorem foldl_recordTravel_startedAt (c : Contact) (ps : List Point) :
    (ps.foldl recordTravel c).startedAt = c.startedAt := by
  rw [foldl_recordTravel]

@[simp]
theorem foldl_recordTravel_lastY (c : Contact) (ps : List Point) :
    (ps.foldl recordTravel c).lastY = c.lastY := by
  rw [foldl_recordTravel]

@[simp]
theorem foldl_recordTravel_pending (c : Contact) (ps : List Point) :
    (ps.foldl recordTravel c).pending = c.pending := by
  rw [foldl_recordTravel]

end Contact

namespace Tracker

variable {c : Contact} {now : Instant} {b : Beat} {bs : Course} {p : Point}

theorem follow_append (t : Tracker) (bs bs' : Course) :
    t.follow (bs ++ bs') =
      (((t.follow bs).1.follow bs').1, (t.follow bs).2 ++ ((t.follow bs).1.follow bs').2) := by
  induction bs generalizing t with
  | nil          => rfl
  | cons b bs hi => simp only [List.cons_append, follow, hi]

theorem length_follow (t : Tracker) (bs : Course) : (t.follow bs).2.length = bs.length := by
  induction bs generalizing t with
  | nil          => rfl
  | cons b bs hi => simp only [follow, List.length_cons, hi]

-- As long as a contact is not decided, it only keeps how far the finger has been.
theorem beat_near (now : Instant) (h : b.leaves c.origin = false) :
    (tracking c).beat now b = (tracking (b.finger?.toList.foldl Contact.recordTravel c), {}) := by
  match b with
  | .poll | .move [] | .move (_ :: _ :: _) => rfl
  | .move [p] =>
    have hc : (c.recordTravel p).crossesThreshold p = false := h
    simp only [beat, move, classify, hc]
    rfl

-- The move that makes a contact scroll is the first move of the scrolling contact.
theorem beat_far (now : Instant) (h : b.leaves c.origin = true) :
    ∃ p, b.finger? = some p ∧
      (tracking c).beat now b = (scrolling (c.recordTravel p)).beat now b := by
  match b with
  | .poll | .move [] | .move (_ :: _ :: _) => cases h
  | .move [p] =>
    have hc : (c.recordTravel p).crossesThreshold p = true := h
    refine ⟨p, rfl, ?_⟩
    simp only [beat, move, classify, hc]
    rfl

theorem beat_scrolling_of_finger (h : b.finger? = some p) :
    (scrolling c).beat now b =
      (scrolling ((c.scrollTo p).flush now).1, ⟨true, ((c.scrollTo p).flush now).2⟩) := by
  match b with
  | .poll | .move [] | .move (_ :: _ :: _) => cases h
  | .move [p]                              => cases h; rfl

-- A contact that scrolls does so to its end.
theorem beat_scrolling (c : Contact) (now : Instant) (b : Beat) :
    ∃ c', ((scrolling c).beat now b).1 = scrolling c' := by
  match b with
  | .move [] | .move (_ :: _ :: _) => exact ⟨c, rfl⟩
  | .poll | .move [_]              => exact ⟨_, rfl⟩

theorem follow_scrolling (c : Contact) (bs : Course) :
    ∃ c', ((scrolling c).follow bs).1 = scrolling c' := by
  induction bs generalizing c with
  | nil => exact ⟨c, rfl⟩
  | cons b bs hi =>
    obtain ⟨c', hc⟩ := beat_scrolling c b.1 b.2
    simp only [follow, hc]
    exact hi c'

theorem follow_near (h : ¬ bs.Leaves c.origin) :
    (tracking c).follow bs =
      (tracking (bs.trail.foldl Contact.recordTravel c), bs.map fun _ => {}) := by
  induction bs generalizing c with
  | nil => rfl
  | cons e bs hi =>
    obtain ⟨now, b⟩ := e
    obtain ⟨hb, hs⟩ : b.leaves c.origin = false ∧ ¬ Course.Leaves c.origin bs := by
      simpa [Course.Leaves] using h
    have ht : Course.trail ((now, b) :: bs) = b.finger?.toList ++ Course.trail bs := by
      rw [Course.trail, List.filterMap_cons]
      cases b.finger? <;> rfl
    rw [← c.foldl_recordTravel_origin b.finger?.toList] at hs
    rw [ht, List.foldl_append]
    simp only [follow, beat_near now hb, hi hs, List.map_cons]

-- A contact whose finger leaves goes on as one that has scrolled from the move that does.
theorem follow_far (h : bs.Leaves c.origin) :
    ∃ c', c'.lastY = c.lastY ∧ c'.pending = c.pending ∧
      (tracking c).follow bs =
        (((scrolling c').follow (bs.far c.origin)).1,
         (bs.near c.origin).map (fun _ => ({} : Move)) ++
           ((scrolling c').follow (bs.far c.origin)).2) := by
  obtain ⟨now, b, rest, hf, hb⟩ := Course.far_of_leaves h
  have hs := follow_append (tracking c) (bs.near c.origin) (bs.far c.origin)
  rw [bs.near_append_far, follow_near (Course.near_stays c.origin bs), hf] at hs
  rw [← c.foldl_recordTravel_origin (bs.near c.origin).trail] at hb
  obtain ⟨p, -, hp⟩ := beat_far now hb
  have hy := c.foldl_recordTravel_lastY (bs.near c.origin).trail
  have hx := c.foldl_recordTravel_pending (bs.near c.origin).trail
  refine ⟨Contact.recordTravel _ p, hy, hx, ?_⟩
  simp only [hs, hf, follow, hp]

theorem follow_of_leaves (h : bs.Leaves c.origin) :
    ∃ c', ((tracking c).follow bs).1 = scrolling c' := by
  obtain ⟨c₁, -, -, hc⟩ := follow_far h
  rw [hc]
  exact follow_scrolling c₁ _

-- Where the course has left, or does so now, the finger does not move unnoticed.
theorem beat_of_leaves (hb : b.finger?.isSome = true)
    (h : Course.Leaves c.origin (bs ++ [(now, b)])) :
    ∃ delta, (((tracking c).follow bs).1.beat now b).2 = ⟨true, delta⟩ := by
  obtain ⟨p, hp⟩ := Option.isSome_iff_exists.mp hb
  have noticed (c' : Contact) : ∃ delta, ((scrolling c').beat now b).2 = ⟨true, delta⟩ :=
    ⟨_, congrArg Prod.snd (beat_scrolling_of_finger hp)⟩
  by_cases hn : bs.Leaves c.origin
  case pos =>
    obtain ⟨c', hc⟩ := follow_of_leaves hn
    rw [hc]
    exact noticed c'
  case neg =>
    have hl : b.leaves c.origin = true := by
      obtain ⟨e, he, hl⟩ := h
      obtain he | he := List.mem_append.mp he
      case inl => exact absurd ⟨e, he, hl⟩ hn
      case inr =>
        obtain rfl := List.mem_singleton.mp he
        exact hl
    rw [← c.foldl_recordTravel_origin bs.trail] at hl
    obtain ⟨q, -, hq⟩ := beat_far now hl
    rw [follow_near hn, hq]
    exact noticed _

theorem finish_tracking (c : Contact) (point : Option Point) (now : Instant) :
    (tracking c).finish point now =
      if now.since c.startedAt < tapDuration.nanos &&
          (point.toList.foldl Contact.recordTravel c).isStill then (idle, .tap)
      else (idle, .ignored) := by
  cases point <;> rfl

end Tracker

namespace Gesture

variable {g : Gesture}

-- What remains of a contact that has not scrolled is how far its finger has been.
theorem tracker_of_still (h : ¬ g.Scrolls) :
    g.tracker = .tracking (g.course.trail.foldl Contact.recordTravel (.start g.origin g.began)) :=
  congrArg Prod.fst (Tracker.follow_near (c := .start g.origin g.began) h)

theorem moves_of_still (h : ¬ g.Scrolls) : g.moves = g.course.map fun _ => {} :=
  congrArg Prod.snd (Tracker.follow_near (c := .start g.origin g.began) h)

theorem finish_of_scrolls (h : g.Scrolls) : ∃ rest, g.finish = (.idle, .scroll rest) := by
  obtain ⟨c, hc⟩ := Tracker.follow_of_leaves (c := .start g.origin g.began) h
  have ht : g.tracker = .scrolling c := hc
  simp only [finish, ht, Tracker.finish]
  exact ⟨_, rfl⟩

-- A contact that does not scroll is judged by how long it has taken and how far it has been.
theorem finish_of_still (h : ¬ g.Scrolls) :
    (g.Taps → g.finish = (.idle, .tap)) ∧ (¬ g.Taps → g.finish = (.idle, .ignored)) := by
  have ht : g.Taps ↔ (g.ended.since g.began < tapDuration.nanos &&
      (g.places.foldl Contact.recordTravel (.start g.origin g.began)).isStill) = true := by
    rw [Contact.foldl_recordTravel, Contact.isStill]
    simp only [Bool.and_eq_true, decide_eq_true_iff]
    exact ⟨fun ⟨hq, hx, hy⟩ => ⟨hq, hx, hy⟩, fun ⟨hq, hx, hy⟩ => ⟨hq, hx, hy⟩⟩
  rw [finish, tracker_of_still h, Tracker.finish_tracking, ← List.foldl_append,
    Contact.foldl_recordTravel_startedAt]
  exact ⟨fun hq => if_pos (ht.mp hq), fun hq => if_neg (mt ht.mpr hq)⟩

theorem moves_sticky {pre post : Course} {now : Instant} {b : Beat}
    (hg : g.course = pre ++ (now, b) :: post) (hb : b.finger?.isSome = true)
    (hl : Course.Leaves g.origin (pre ++ [(now, b)])) :
    ∃ delta, g.moves[pre.length]? = some ⟨true, delta⟩ := by
  obtain ⟨delta, hd⟩ := Tracker.beat_of_leaves (c := .start g.origin g.began) hb hl
  refine ⟨delta, ?_⟩
  have hn := Tracker.length_follow (.tracking (.start g.origin g.began)) pre
  rw [moves, hg, Tracker.follow_append, Tracker.start, List.getElem?_append_right (by omega), hn,
    Nat.sub_self, ← hd]
  rfl

-- Whatever a contact consists of, it is judged by its whole course.
theorem judged (g : Gesture) : g.Judged := by
  by_cases h : g.Scrolls
  case pos =>
    obtain ⟨rest, hr⟩ := finish_of_scrolls h
    constructor
    case sticky => exact moves_sticky
    all_goals simp [hr, h, Tracker.finish]
  case neg =>
    obtain ⟨ht, hn⟩ := finish_of_still h
    have hm {m} (hm : m ∈ g.moves) : m = {} := by
      rw [moves_of_still h] at hm
      obtain ⟨-, -, rfl⟩ := List.mem_map.mp hm
      rfl
    by_cases hq : g.Taps
    case pos =>
      constructor
      case sticky => exact moves_sticky
      case silent => exact fun _ => hm
      all_goals simp [ht hq, h, hq, Tracker.finish]
    case neg =>
      constructor
      case sticky => exact moves_sticky
      case silent => exact fun _ => hm
      all_goals simp [hn hq, h, hq, Tracker.finish]

-- A finger that has been too far for a tap and too near to scroll, and has come back.
example :
    (finish ⟨⟨0, 0⟩, 0, [(1, .move [⟨0, 11⟩]), (2, .move [⟨0, 1⟩])], some ⟨0, 1⟩, 3⟩).2
      matches .ignored := by
  decide +kernel

end Gesture

end RemoteTerm.Touch
