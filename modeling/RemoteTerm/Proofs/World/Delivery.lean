import RemoteTerm.Proofs.Exchange.Waiting
import RemoteTerm.Proofs.World.Turns
/-!
What is typed on a channel arrives there: in order, once, and nothing else does, as long as the
server keeps its end.
-/

namespace RemoteTerm

-- A turn leaves a view with the channel that it has attended to, or with none.
theorem View.performAll_channel_or (v : View) (now : Instant) (as : List Action) :
    (v.performAll now as).1.channel = none ∨ (v.performAll now as).1.channel = v.channel := by
  induction as generalizing v with
  | nil => exact .inr rfl
  | cons a as hi =>
    rw [performAll_cons]
    obtain h | h := hi (v.perform now a).1
    case inl => exact .inl h
    case inr =>
      by_cases ha : a = .closeChannel
      case pos => subst ha; exact .inl h
      case neg => exact .inr (h.trans (v.perform_channel a ha))

theorem Turn.after_channel (t : Turn) :
    t.after.channel = none ∨ t.after.channel = t.attended.channel := by
  have hh : t.heard.1.channel = t.attended.channel := by
    obtain ⟨s, hs⟩ := t.heard_view
    rw [hs]
  rw [← hh]
  simp only [after, outcome_eq]
  exact t.heard.1.performAll_channel_or t.around.now t.heard.2

-- A view gets a channel only by a connect that has succeeded.
theorem View.attend_channel {s : Surroundings} {w : Wake} {i : ChannelId} (v : View)
    (h : (v.attend s w).channel = some i) : v.channel = some i ∨ w = .connected (some i) := by
  have hl : (v.attend s w).channel = (v.line.attend w).channel :=
    congrArg Line.channel (v.attend_line s w)
  rw [hl] at h
  cases w <;> try exact .inl h
  case connected r =>
    cases r
    case none => exact .inl h
    case some => cases h; exact .inr rfl
  case ended => cases h

-- What is typed goes to the channel that the view holds.
theorem Turn.onChannel_typed {t : Turn} {i : ChannelId} (h : t.view.channel ≠ some i) :
    onChannel i t.typed = [] := by
  rw [onChannel, List.filterMap_eq_nil_iff]
  intro x hx
  rw [typed_eq] at hx
  cases he : t.event? <;> cases hc : t.view.channel <;> simp_all
  grind

theorem Effect.of_foldl_dial {d : Option World.Dial} {es : List Effect} {r : Option ChannelId}
    (h : es.foldl Effect.dial d = some (.done r)) : d = some (.done r) := by
  induction es generalizing d with
  | nil => exact h
  | cons e es hi =>
    have hd := hi h
    cases e <;> first | exact hd | cases hd

namespace World

variable {w w' w₀ : World} {ls : List Label} {l : Label} {o : View.Options} {i : ChannelId}

theorem effect_waiting? (w : World) (e : Effect) (i : ChannelId) :
    (w.effect e).exchange.waiting? i =
      (w.exchange.waiting? i).map (· ++ onChannel i e.input?.toList) := by
  cases e
  case transmit j frame => exact w.exchange.waiting?_send i j frame
  case release j =>
    rw [effect, Exchange.waiting?_closeClient]
    simp [Effect.input?, onChannel]
  case abandonConnect =>
    simp only [effect]
    split <;> simp [Exchange.waiting?_closeClient, Effect.input?, onChannel]
  all_goals simp [effect, Effect.input?, onChannel]

theorem effect_length (w : World) (e : Effect) :
    (w.effect e).exchange.channels.length = w.exchange.channels.length := by
  cases e <;> try rfl
  case transmit j frame =>
    simp only [effect, Exchange.send]
    split <;> simp [Exchange.modify]
  case release j => simp [effect, Exchange.closeClient, Exchange.modify]
  case abandonConnect =>
    simp only [effect]
    split <;> simp [Exchange.closeClient, Exchange.modify]

theorem take_waiting? (w : World) (t : Turn) (i : ChannelId) :
    (w.take t).exchange.waiting? i =
      (w.exchange.waiting? i).map (· ++ onChannel i t.inputs) := by
  have h (es : List Effect) (w : World) : (es.foldl effect w).exchange.waiting? i =
      (w.exchange.waiting? i).map (· ++ onChannel i (es.filterMap Effect.input?)) := by
    induction es generalizing w with
    | nil => simp [onChannel]
    | cons e es hi =>
      have hx : (e :: es).filterMap Effect.input? =
          e.input?.toList ++ es.filterMap Effect.input? := by
        rw [List.filterMap_cons]
        cases e.input? <;> rfl
      rw [List.foldl_cons, hi, effect_waiting?, hx, onChannel_append, Option.map_map]
      congr
      funext texts
      simp
  exact h ..

theorem take_length (w : World) (t : Turn) :
    (w.take t).exchange.channels.length = w.exchange.channels.length := by
  have h (es : List Effect) (w : World) :
      (es.foldl effect w).exchange.channels.length = w.exchange.channels.length := by
    induction es generalizing w with
    | nil          => rfl
    | cons e es hi => rw [List.foldl_cons, hi, effect_length]
  exact h ..

-- The input that the server takes from a channel.
def Label.arrival? (i : ChannelId) : Label → Option String
  | arrive j frame => if j = i then frame.input? else none
  | _              => none

def arrived (ls : List Label) (i : ChannelId) : List String :=
  ls.filterMap (Label.arrival? i)

-- What is typed while the view is connected on a channel.
def typed (ls : List Label) (i : ChannelId) : List String :=
  onChannel i ((turns ls).flatMap Turn.typed)

theorem arrived_append (ls : List Label) (l : Label) (i : ChannelId) :
    arrived (ls ++ [l]) i = arrived ls i ++ (l.arrival? i).toList := by
  rw [arrived, List.filterMap_append, ← arrived]
  cases h : l.arrival? i <;> simp [h]

theorem typed_append (ls : List Label) (l : Label) (i : ChannelId) :
    typed (ls ++ [l]) i = typed ls i ++ onChannel i (l.turn?.toList.flatMap Turn.typed) := by
  rw [typed, turns_append, List.flatMap_append, onChannel_append, ← typed]

-- Whether a channel has been opened since there were so many.
def Opened (n : Nat) (w : World) (i : ChannelId) : Prop :=
  n ≤ i ∧ i < w.exchange.channels.length

-- What has been typed on a channel that has been opened either has arrived or still waits, and
-- nothing has been typed on any other.
structure Delivered (n : Nat) (ls : List Label) (w : World) : Prop where
  older    : n ≤ w.exchange.channels.length
  held     : ∀ i, w.view.channel = some i → w.Opened n i
  done     : ∀ i, w.dial = some (.done (some i)) → w.Opened n i
  foreign  : ∀ i, i < n → typed ls i = []
  unopened : ∀ i, w.exchange.channels.length ≤ i → typed ls i = [] ∧ arrived ls i = []
  opened   : ∀ i texts, n ≤ i → w.exchange.waiting? i = some texts →
    arrived ls i ++ texts = typed ls i

namespace Delivered

variable {n : Nat}

-- Beside the turns of the view, channels are only added or closed.
theorem aside (h : Delivered n ls w) (hv : w'.view.channel = w.view.channel)
    (hd : ∀ i, w'.dial = some (.done (some i)) → w'.Opened n i)
    (hx : w.exchange.Grows w'.exchange) (ht : l.turn? = none) (ha : ∀ i, l.arrival? i = none) :
    Delivered n (ls ++ [l]) w' := by
  have same i : typed (ls ++ [l]) i = typed ls i ∧ arrived (ls ++ [l]) i = arrived ls i := by
    simp [typed_append, arrived_append, ht, ha, onChannel]
  constructor
  case older => exact Nat.le_trans h.older hx.1
  case held  =>
    intro i hi
    obtain ⟨hn, hl⟩ := h.held i (hv ▸ hi)
    exact ⟨hn, Nat.lt_of_lt_of_le hl hx.1⟩
  case done    => exact hd
  case foreign => exact fun i hi => (same i).1.trans (h.foreign i hi)
  case unopened =>
    intro i hi
    rw [(same i).1, (same i).2]
    exact h.unopened i (Nat.le_trans hx.1 hi)
  case opened =>
    intro i texts hi hw
    rw [(same i).1, (same i).2]
    obtain hw | ⟨hn, rfl⟩ := hx.2 i texts hw
    case inl => exact h.opened i texts hi hw
    case inr =>
      obtain ⟨ht, ha⟩ := h.unopened i (List.getElem?_eq_none_iff.mp hn)
      rw [ht, ha]
      rfl

-- What is typed in a turn is put to what waits on the channel that the view holds.
theorem turn {t : Turn} (h : Delivered n ls w) (hv : w.view = t.view)
    (hc : ∀ i, t.attended.channel = some i → w.Opened n i) :
    Delivered n (ls ++ [.turn t]) (w.take t) := by
  have ha i : arrived (ls ++ [.turn t]) i = arrived ls i := by
    rw [arrived_append]
    exact List.append_nil _
  have ht i : typed (ls ++ [.turn t]) i = typed ls i ++ onChannel i t.typed := by
    rw [typed_append]
    simp [Label.turn?]
  have other i (hi : ¬ w.Opened n i) : onChannel i t.typed = [] :=
    Turn.onChannel_typed fun hi' => hi (h.held i (hv ▸ hi'))
  constructor
  case older => rw [take_length]; exact h.older
  case held  =>
    intro i hi
    rw [take_view] at hi
    rw [Opened, take_length]
    exact hc i (t.after_channel.elim (fun hn => by simp [hn] at hi) (· ▸ hi))
  case done =>
    intro i hi
    rw [take_dial] at hi
    rw [Opened, take_length]
    exact h.done i (Effect.of_foldl_dial hi)
  case foreign =>
    intro i hi
    rw [ht, h.foreign i hi, other i fun ho => Nat.not_lt.mpr ho.1 hi]
    rfl
  case unopened =>
    intro i hi
    rw [take_length] at hi
    obtain ⟨hy, hr⟩ := h.unopened i hi
    rw [ha, ht, hy, hr, other i fun ho => Nat.not_lt.mpr hi ho.2]
    exact ⟨rfl, rfl⟩
  case opened =>
    intro i texts hi hw
    rw [take_waiting?] at hw
    obtain ⟨before, hb, rfl⟩ := Option.map_eq_some_iff.mp hw
    rw [ha, ht, ← h.opened i before hi hb, Turn.inputs_eq_typed, List.append_assoc]

-- What the server takes of a channel has arrived, and waits no longer.
theorem arrive {x : Exchange} {frame : Frame} (h : Delivered n ls w)
    (hx : w.exchange.nextFrame i = (x, .item frame)) :
    Delivered n (ls ++ [.arrive i frame]) { w with exchange := x } := by
  have hl : x.channels.length = w.exchange.channels.length := Exchange.length_nextFrame hx
  have same j : Opened n { w with exchange := x } j ↔ w.Opened n j := by simp only [Opened, hl]
  have ht j : typed (ls ++ [.arrive i frame]) j = typed ls j := by
    simp [typed_append, Label.turn?, onChannel]
  have ha j : arrived (ls ++ [.arrive i frame]) j =
      arrived ls j ++ onChannel j (frame.input?.map (i, ·)).toList := by
    rw [arrived_append, Exchange.onChannel_input?, Label.arrival?]
    split <;> rfl
  constructor
  case older   => exact hl ▸ h.older
  case held    => exact fun j hj => (same j).mpr (h.held j hj)
  case done    => exact fun j hj => (same j).mpr (h.done j hj)
  case foreign => exact fun j hj => (ht j).trans (h.foreign j hj)
  case unopened =>
    intro j hj
    have hj : w.exchange.channels.length ≤ j := hl ▸ hj
    have hi : i ≠ j := Nat.ne_of_lt (Nat.lt_of_lt_of_le (Exchange.lt_of_nextFrame hx) hj)
    obtain ⟨hy, hr⟩ := h.unopened j hj
    rw [ht, ha, hy, hr, Exchange.onChannel_input?, if_neg hi]
    exact ⟨rfl, rfl⟩
  case opened =>
    intro j texts hj hw
    have hw' := Exchange.waiting?_nextFrame (i := j) hx
    rw [show x.waiting? j = some texts from hw] at hw'
    rw [ht, ha, ← h.opened j _ hj hw', List.append_assoc]

-- A wake that is ready may bring a channel, which has been opened.
theorem offer {c : Wake} (h : Delivered n ls w) (of : w.Offers c w') :
    Delivered n ls w' ∧ ∀ i, c = .connected (some i) → w'.Opened n i := by
  cases of
  case connected r hq hd =>
    refine ⟨⟨h.older, h.held, nofun, h.foreign, h.unopened, h.opened⟩, ?_⟩
    rintro i ⟨⟩
    exact h.done i hd
  case output i x chunk hq hc hr =>
    have hl := Exchange.length_receive hr
    have same j : Opened n { w with exchange := x } j ↔ w.Opened n j := by simp only [Opened, hl]
    refine ⟨?_, nofun⟩
    constructor
    case older    => exact hl ▸ h.older
    case held     => exact fun i hi => (same i).mpr (h.held i hi)
    case done     => exact fun i hi => (same i).mpr (h.done i hi)
    case foreign  => exact h.foreign
    case unopened => exact fun i hi => h.unopened i (hl ▸ hi)
    case opened   =>
      intro i texts hi hw
      exact h.opened i texts hi (Exchange.waiting?_receive hr ▸ hw)
  case timer t _ _ _ _ => exact ⟨h, by cases t <;> nofun⟩
  all_goals exact ⟨⟨h.older, h.held, h.done, h.foreign, h.unopened, h.opened⟩, nofun⟩

theorem step (h : Delivered n ls w) (st : Step w l w') : Delivered n (ls ++ [l]) w' := by
  have same : w.exchange.Grows w.exchange := ⟨Nat.le_refl _, fun _ _ => .inl⟩
  cases st
  case arrive hx => exact h.arrive hx
  case move hx =>
    refine h.aside rfl (fun i hi => ?_) hx.grows rfl fun _ => rfl
    obtain ⟨hn, hl⟩ := h.done i hi
    exact ⟨hn, Nat.lt_of_lt_of_le hl hx.grows.1⟩
  case call hd => exact h.aside rfl nofun same rfl fun _ => rfl
  case fail hd => exact h.aside rfl nofun same rfl fun _ => rfl
  case answer x i hd hx =>
    have hg := hx ▸ w.exchange.grows_connect
    refine h.aside rfl ?_ hg rfl fun _ => rfl
    rintro j ⟨⟩
    obtain ⟨rfl, hl⟩ := Exchange.length_connect hx
    exact ⟨h.older, hl ▸ Nat.lt_succ_self _⟩
  case start s hc hn => exact h.turn rfl h.held
  case tearDown s hc hx hn =>
    have hd := h.turn (t := ⟨w.view, s, .closing⟩) rfl h.held
    exact ⟨hd.older, hd.held, hd.done, hd.foreign, hd.unopened, hd.opened⟩
  case wake c w' s hp of hn =>
    obtain ⟨hd, hc⟩ := h.offer of
    refine hd.turn of.view_eq fun i hi => ?_
    obtain hi | hi := w.view.attend_channel hi
    case inl => exact hd.held i (of.view_eq ▸ hi)
    case inr => exact hc i hi
  all_goals exact h.aside rfl h.done same rfl fun _ => rfl

end Delivered

theorem Run.delivered (r : Run w₀ ls w) (f : w₀.Fresh o) :
    Delivered w₀.exchange.channels.length ls w := by
  induction r
  case step r st hi => exact hi.step st
  case refl =>
    obtain ⟨id, hv⟩ := f.view
    constructor
    case older    => exact Nat.le_refl _
    case held     => rw [hv]; nofun
    case done     => rw [f.dial]; nofun
    case foreign  => exact fun _ _ => rfl
    case unopened => exact fun _ _ => ⟨rfl, rfl⟩
    case opened   =>
      intro i texts hi hw
      have hn : w₀.exchange.channel? i = none := List.getElem?_eq_none hi
      simp [Exchange.waiting?, hn] at hw

-- On a channel that has been opened since the view began, and whose server end is still there, what
-- has arrived and what waits is what was typed. On any other nothing was typed, and no turn sends
-- anything else.
theorem Run.arrived_append_inputs (r : Run w₀ ls w) (f : w₀.Fresh o) :
    (∀ i c, w₀.exchange.channels.length ≤ i → w.exchange.channel? i = some c →
      c.serverOpen = true → arrived ls i ++ c.inputs = typed ls i) ∧
    (∀ i, i < w₀.exchange.channels.length → typed ls i = []) ∧
    ∀ t ∈ turns ls, t.inputs = t.typed := by
  have hd := r.delivered f
  refine ⟨fun i c hi hc ho => ?_, hd.foreign, fun t _ => t.inputs_eq_typed⟩
  apply hd.opened i _ hi
  rw [Exchange.waiting?_of_channel? hc, Channel.waiting?, if_pos ho]

-- One text has arrived, and another one still waits.
theorem arrived_append_inputs_two :
    ∃ w₀ ls w, Fresh {} w₀ ∧ Run w₀ ls w ∧ arrived ls 0 = ["a"] ∧ typed ls 0 = ["a", "b"] ∧
      ∃ c, w.exchange.channel? 0 = some c ∧ c.serverOpen = true ∧ c.inputs = ["b"] ∧
        arrived ls 0 ++ c.inputs = typed ls 0 := by
  have f : Fresh {} { view := .create default _ } := ⟨⟨default, rfl⟩, rfl, rfl⟩
  have up := Run.refl
    |>.step (.start ⟨0, none, "", none⟩ f.phase rfl)
    |>.step (.call rfl)
    |>.step (.answer rfl rfl)
    |>.step (.wait rfl rfl rfl)
    |>.step (.wake ⟨0, none, "", none⟩ rfl (.connected rfl rfl) rfl)
  have r := up
    |>.step (.post (.input "a"))
    |>.step (.wait rfl rfl rfl)
    |>.step (.wake ⟨0, none, "", none⟩ rfl (.command rfl) rfl)
    |>.step (.arrive (i := 0) rfl)
    |>.step (.post (.input "b"))
    |>.step (.wait rfl rfl rfl)
    |>.step (.wake ⟨0, none, "", none⟩ rfl (.command rfl) rfl)
  have h := r.arrived_append_inputs f
  refine ⟨_, _, _, f, r, ?_, ?_, _, rfl, rfl, ?_, h.1 0 _ (Nat.le_refl _) rfl rfl⟩
  all_goals rfl

end World

end RemoteTerm
