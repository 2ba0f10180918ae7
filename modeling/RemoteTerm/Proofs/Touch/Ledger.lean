import RemoteTerm.Proofs.Touch.Gesture
/-!
The ledger of a contact that scrolls. Each stride of its finger is let out once, with the first
delta that comes after it or with the end of the contact.
-/

namespace RemoteTerm.Touch

-- What a beat of a scrolling contact adds to the wheel, and what it lets out.
structure Entry where
  stride : Option Float
  delta  : Option Float

abbrev Ledger := List Entry

namespace Ledger

-- All strides, added up from zero one after another.
def total (es : Ledger) : Float :=
  (es.filterMap Entry.stride).foldl (· + ·) 0

-- Whether there is nothing to be let out: the ledger has just begun, or ends with a delta.
def Settled (es : Ledger) : Prop :=
  ∀ e ∈ es.getLast?, e.delta.isSome = true

def Held (es : Ledger) : Prop :=
  ∀ e ∈ es, e.delta = none

-- What is let out, by a beat or by the end, are the strides that have been held since the ledger
-- was settled.
structure Balanced (es : Ledger) (finish : End) : Prop where
  delta {pre held e post d} :
    es = pre ++ held ++ e :: post → Settled pre → Held held → e.delta = some d →
    d = total (held ++ [e])
  rest {pre held} :
    es = pre ++ held → Settled pre → Held held →
    finish = .scroll (if total held == 0 then none else some (total held))

end Ledger

-- How each beat moves the wheel: the other way than the finger, from where it was before.
def Course.strides (y : Float) : Course → List (Option Float)
  | [] => []
  | (_, b) :: bs =>
    match b.finger? with
    | some p => some (-(p.y - y) * 3) :: strides p.y bs
    | none   => none :: strides y bs

namespace Gesture

-- The ledger begins with the move that makes the contact scroll, whose stride starts at the origin.
def ledger (g : Gesture) : Ledger :=
  List.zipWith Entry.mk ((g.course.far g.origin).strides g.origin.y)
    ((g.moves.drop (g.course.near g.origin).length).map Move.delta)

-- The ledger has an entry for each beat since the contact scrolls, nothing is let out before, and
-- the strides are those that are let out.
structure Accounted (g : Gesture) : Prop where
  strides  : g.ledger.map Entry.stride = (g.course.far g.origin).strides g.origin.y
  deltas   : g.moves.map Move.delta =
    (g.course.near g.origin).map (fun _ => none) ++ g.ledger.map Entry.delta
  balanced : g.ledger.Balanced g.finish.2

end Gesture

namespace Ledger

-- What is owed after a stride.
def owe (owed : Float) (stride : Option Float) : Float :=
  stride.elim owed (owed + ·)

-- A ledger that begins with something owed: it is let out together with the strides.
inductive Pays : Float → Ledger → End → Prop
  | done {owed} : Pays owed [] (.scroll (if owed == 0 then none else some owed))
  | hold {owed stride es finish} :
    Pays (owe owed stride) es finish → Pays owed (⟨stride, none⟩ :: es) finish
  | letOut {owed stride es finish} :
    Pays 0 es finish → Pays owed (⟨stride, some (owe owed stride)⟩ :: es) finish

namespace Pays

variable {es pre held : Ledger} {finish : End} {owed : Float}

theorem after_held (h : Pays owed (held ++ es) finish) (hh : Held held) :
    Pays ((held.filterMap Entry.stride).foldl (· + ·) owed) es finish := by
  induction held generalizing owed with
  | nil => exact h
  | cons e held hi =>
    obtain ⟨he, hs⟩ := List.forall_mem_cons.mp hh
    cases h with
    | letOut h => cases he
    | @hold _ stride _ _ h =>
      have h := hi h hs
      cases stride <;> exact h

-- Once a ledger is settled, nothing of what was before matters.
theorem after_settled (h : Pays owed (pre ++ es) finish) (hp : Settled pre)
    (ho : pre = [] → owed = 0) : Pays 0 es finish := by
  induction pre generalizing owed with
  | nil => exact ho rfl ▸ h
  | cons e pre hi =>
    have hp' : Settled pre := by
      intro x hx
      apply hp x
      rw [List.getLast?_cons, hx]
      rfl
    cases h with
    | letOut h => exact hi h hp' fun _ => rfl
    | hold h =>
      refine hi h hp' fun hn => ?_
      subst hn
      cases hp _ rfl

theorem balanced (h : Pays 0 es finish) : es.Balanced finish where
  delta := by
    rintro pre held ⟨stride, delta⟩ post d rfl hp hh rfl
    rw [List.append_assoc] at h
    have h := (h.after_settled hp fun _ => rfl).after_held hh
    cases h
    rw [total, List.filterMap_append, List.foldl_append]
    cases stride <;> rfl
  rest := by
    rintro pre held rfl hp hh
    rw [← List.append_nil held] at h
    have h := (h.after_settled hp fun _ => rfl).after_held hh
    cases h
    rfl

end Pays

end Ledger

-- What a beat adds to the wheel is let out at once, or it is still pending.
inductive Contact.Goes (c : Contact) (stride : Option Float) : Contact → Option Float → Prop
  | hold {c'} : c'.pending = Ledger.owe c.pending stride → Goes c stride c' none
  | letOut {c'} : c'.pending = 0 → Goes c stride c' (some (Ledger.owe c.pending stride))

namespace Contact

variable {c : Contact}

theorem flush_goes (c : Contact) (now : Instant) : c.Goes none (c.flush now).1 (c.flush now).2 := by
  by_cases h : (c.hasPending && c.isDue now) = true
  case pos =>
    simp only [flush, h, if_true]
    exact .letOut rfl
  case neg =>
    simp only [flush, h, if_false, Bool.false_eq_true]
    exact .hold rfl

theorem flush_lastY (c : Contact) (now : Instant) : (c.flush now).1.lastY = c.lastY := by
  simp only [flush]
  split <;> rfl

end Contact

namespace Tracker

variable {c : Contact}

theorem beat_goes (c : Contact) (now : Instant) (b : Beat) :
    ∃ c', ((scrolling c).beat now b).1 = scrolling c' ∧
      c'.lastY = b.finger?.elim c.lastY Point.y ∧
      c.Goes (b.finger?.map fun p => -(p.y - c.lastY) * 3) c'
        ((scrolling c).beat now b).2.delta := by
  match b with
  | .move [] | .move (_ :: _ :: _) => exact ⟨c, rfl, rfl, .hold rfl⟩
  | .poll     => exact ⟨_, rfl, c.flush_lastY now, c.flush_goes now⟩
  | .move [p] =>
    refine ⟨_, rfl, (c.scrollTo p).flush_lastY now, ?_⟩
    have hs : Ledger.owe (c.scrollTo p).pending none =
        Ledger.owe c.pending (some (-(p.y - c.lastY) * 3)) := by
      simp only [Ledger.owe, Option.elim, Contact.scrollTo, scrollGain]
    have hg := (c.scrollTo p).flush_goes now
    change c.Goes (some _) ((c.scrollTo p).flush now).1 ((c.scrollTo p).flush now).2
    generalize ((c.scrollTo p).flush now).2 = d at hg ⊢
    cases hg
    case hold hp   => exact .hold (hp.trans hs)
    case letOut hp => exact hs ▸ .letOut hp

theorem follow_pays (c : Contact) (bs : Course) (point : Option Point) (now : Instant) :
    Ledger.Pays c.pending
      (List.zipWith Entry.mk (bs.strides c.lastY) (((scrolling c).follow bs).2.map Move.delta))
      (((scrolling c).follow bs).1.finish point now).2 := by
  induction bs generalizing c with
  | nil =>
    have hf : ((scrolling c).finish point now).2 =
        .scroll (if c.pending == 0 then none else some c.pending) := by
      by_cases hp : (c.pending == 0) = true <;> simp [finish, Contact.hasPending, bne, hp]
    exact hf ▸ .done
  | cons e bs hi =>
    obtain ⟨t, b⟩ := e
    obtain ⟨c', hc, hy, hg⟩ := beat_goes c t b
    have hs : Course.strides c.lastY ((t, b) :: bs) =
        (b.finger?.map fun p => -(p.y - c.lastY) * 3) :: Course.strides c'.lastY bs := by
      rw [hy, Course.strides]
      cases b.finger? <;> rfl
    have h := hi c'
    simp only [hs, follow, hc, List.map_cons, List.zipWith_cons_cons]
    generalize ((scrolling c).beat t b).2.delta = d at hg
    cases hg
    case hold hp   => exact .hold (hp ▸ h)
    case letOut hp => exact .letOut (hp ▸ h)

end Tracker

theorem Course.length_strides (y : Float) (bs : Course) : (bs.strides y).length = bs.length := by
  induction bs generalizing y with
  | nil => rfl
  | cons e bs hi =>
    rw [strides]
    split <;> simp [hi]

theorem Ledger.map_zipWith {xs ys : List (Option Float)} (h : xs.length = ys.length) :
    (List.zipWith Entry.mk xs ys).map Entry.stride = xs ∧
      (List.zipWith Entry.mk xs ys).map Entry.delta = ys := by
  rw [List.map_zipWith, List.map_zipWith]
  constructor
  · simpa only [List.zip, List.map_zipWith] using List.map_fst_zip (Nat.le_of_eq h)
  · simpa only [List.zip, List.map_zipWith] using List.map_snd_zip (Nat.le_of_eq h.symm)

namespace Gesture

variable {g : Gesture}

-- Of every contact that scrolls, each stride is let out once.
theorem accounted (h : g.Scrolls) : g.Accounted := by
  obtain ⟨c, hy, hp, hc⟩ := Tracker.follow_far (c := .start g.origin g.began) h
  have hm : g.moves = (g.course.near g.origin).map (fun _ => ({} : Move)) ++
      ((Tracker.scrolling c).follow (g.course.far g.origin)).2 := congrArg Prod.snd hc
  have hl : g.ledger = List.zipWith Entry.mk ((g.course.far g.origin).strides g.origin.y)
      (((Tracker.scrolling c).follow (g.course.far g.origin)).2.map Move.delta) := by
    rw [ledger, hm, List.drop_left' (List.length_map ..)]
  have hn : ((g.course.far g.origin).strides g.origin.y).length =
      (((Tracker.scrolling c).follow (g.course.far g.origin)).2.map Move.delta).length := by
    rw [List.length_map, Tracker.length_follow, Course.length_strides]
  have ⟨hs, hd⟩ := Ledger.map_zipWith hn
  constructor
  case strides  => exact hl ▸ hs
  case deltas   =>
    rw [hl, hd, hm, List.map_append, List.map_map]
    rfl
  case balanced =>
    have hx := Tracker.follow_pays c (g.course.far g.origin) g.lifted g.ended
    rw [hp, hy] at hx
    rw [hl, finish, tracker, Tracker.start, hc]
    exact hx.balanced

-- Two strides are let out as one by a poll, a third one by the end.
theorem accounted_held :
    ∃ g : Gesture, g.Scrolls ∧
      g.moves.map Move.delta = [none, some (-60), none, none, none, some (-30), none] ∧
      g.finish.2 matches .scroll (some _) ∧ g.Accounted := by
  have h : Scrolls ⟨⟨0, 100⟩, 0,
      [(0, .move [⟨0, 110⟩]), (0, .move [⟨0, 120⟩]), (0, .move [⟨0, 125⟩]), (0, .poll),
        (0, .move [⟨0, 130⟩]), (16000000, .poll), (16000000, .move [⟨0, 128⟩])], none, 0⟩ :=
    ⟨(0, .move [⟨0, 120⟩]), .tail _ (.head _), by decide +kernel⟩
  exact ⟨_, h, by decide +kernel, by decide +kernel, accounted h⟩

end Gesture

end RemoteTerm.Touch
