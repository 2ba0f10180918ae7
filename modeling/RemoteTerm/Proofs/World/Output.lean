import RemoteTerm.Proofs.Exchange.Output
import RemoteTerm.Proofs.View.Transcript
import RemoteTerm.Proofs.World.Channels
import RemoteTerm.Proofs.World.Log
/-!
What the server pushes to a channel comes to the surface: verbatim and in order, and all of it
before the mark that shows that the channel was lost.
-/

namespace RemoteTerm

namespace World

open History

-- The runs of a world with all that the server has pushed in them, and to which channel. A step
-- that pushes nothing only takes from the output that waits.
inductive Served (w₀ : World) : List Label → List (ChannelId × Bytes) → World → Prop
  | refl : Served w₀ [] [] w₀
  | push {ls ps w c} (i chunk) :
    Served w₀ ls ps w → w.exchange.channel? i = some c → c.isOpen = true →
    Served w₀ (ls ++ [.quiet]) (ps ++ [(i, chunk)])
      { w with exchange := w.exchange.push i chunk }
  | step {ls ps w l w'} :
    Served w₀ ls ps w → Step w l w' → (∀ i, w'.exchange.output i <:+ w.exchange.output i) →
    Served w₀ (ls ++ [l]) ps w'

-- What comes of all that is pushed.
structure Carried (ls : List Label) (ps : List (ChannelId × Bytes)) (w : World) : Prop where
  unopened {i} :
    w.exchange.channels.length ≤ i →
    ofChannel i ps = [] ∧ History.received (turns ls) i = []
  verbatim (i) : History.received (turns ls) i <+: ofChannel i ps
  held {i} :
    w.view.channel = some i ∨ w.dial = some (.done (some i)) →
    ofChannel i ps = History.received (turns ls) i ++ w.exchange.output i
  lost {i} :
    i ∈ lost (turns ls) →
    i < w.exchange.channels.length ∧ w.exchange.waiting? i = none ∧
      ofChannel i ps = History.received (turns ls) i

variable {w w' w₀ w₁ : World} {ls : List Label} {l : Label} {t : Turn} {o : View.Options}
  {ps : List (ChannelId × Bytes)} {i : ChannelId} {chunk : Bytes} {e : Effect}

theorem effect_output (w : World) (e : Effect) (i : ChannelId) :
    (w.effect e).exchange.output i <:+ w.exchange.output i ∧
      (e.givesUp = false → (w.effect e).exchange.output i = w.exchange.output i) := by
  cases e <;> try exact ⟨List.suffix_rfl, fun _ => rfl⟩
  case transmit j frame =>
    have h := w.exchange.output_send i j frame
    exact ⟨h ▸ List.suffix_rfl, fun _ => h⟩
  all_goals refine ⟨?_, nofun⟩
  case release j =>
    rw [effect, Exchange.output_closeClient]
    split <;> simp
  case abandonConnect =>
    simp only [effect]
    split <;> simp only [Exchange.output_closeClient]
    case h_1 => split <;> simp
    case h_2 => exact List.suffix_rfl

theorem take_output_suffix (w : World) (t : Turn) (i : ChannelId) :
    (w.take t).exchange.output i <:+ w.exchange.output i := by
  have h (es : List Effect) (w : World) :
      (es.foldl effect w).exchange.output i <:+ w.exchange.output i := by
    induction es generalizing w with
    | nil          => exact List.suffix_rfl
    | cons e es hi => exact (hi (w.effect e)).trans (w.effect_output e i).1
  exact h ..

-- A turn that gives nothing up leaves the output to the view.
theorem take_output (h : ∀ e ∈ t.effects, e.givesUp = false) :
    (w.take t).exchange.output i = w.exchange.output i := by
  have h (es : List Effect) (w : World) (h : ∀ e ∈ es, e.givesUp = false) :
      (es.foldl effect w).exchange.output i = w.exchange.output i := by
    induction es generalizing w with
    | nil          => rfl
    | cons e es hi =>
      have ⟨he, hs⟩ := List.forall_mem_cons.mp h
      rw [List.foldl_cons, hi _ hs, (w.effect_output e i).2 he]
  exact h _ _ ‹_›

theorem Offers.output_suffix {c : Wake} (of : w.Offers c w') (i : ChannelId) :
    w'.exchange.output i <:+ w.exchange.output i := by
  cases of
  case output j x chunk _ _ hr => exact Exchange.output_receive hr ▸ List.suffix_append ..
  all_goals exact List.suffix_rfl

-- A step pushes a chunk of output, or only takes from what waits.
theorem Step.output (st : Step w l w') :
    (∃ i c chunk, w.exchange.channel? i = some c ∧ c.isOpen = true ∧ l = .quiet ∧
      w' = { w with exchange := w.exchange.push i chunk }) ∨
      ∀ i, w'.exchange.output i <:+ w.exchange.output i := by
  cases st
  case move x hx =>
    obtain ⟨i, c, chunk, hc, ho, rfl⟩ | hs := hx.output
    case inl => exact .inl ⟨i, c, chunk, hc, ho, rfl, rfl⟩
    case inr => exact .inr fun i => hs i ▸ List.suffix_rfl
  case arrive hx     => exact .inr fun i => Exchange.output_nextFrame hx ▸ List.suffix_rfl
  case answer hd hx  => exact .inr fun i => Exchange.output_connect hx ▸ List.suffix_rfl
  case start         => exact .inr (w.take_output_suffix _)
  case tearDown      => exact .inr (w.take_output_suffix _)
  case wake c w₁ s _ of _ =>
    exact .inr fun i => (w₁.take_output_suffix _ i).trans (of.output_suffix i)
  all_goals exact .inr fun _ => List.suffix_rfl

-- Whatever is pushed in a run, it is pushed step by step.
theorem Run.served (r : Run w₀ ls w) : ∃ ps, Served w₀ ls ps w := by
  induction r
  case refl => exact ⟨[], .refl⟩
  case step r st hi =>
    obtain ⟨ps, h⟩ := hi
    obtain ⟨i, c, chunk, hc, ho, rfl, rfl⟩ | hs := st.output
    case inl => exact ⟨_, h.push i chunk hc ho⟩
    case inr => exact ⟨ps, h.step st hs⟩

theorem Served.run (h : Served w₀ ls ps w) : Run w₀ ls w := by
  induction h
  case refl              => exact .refl
  case push hc ho hi     => exact hi.step (.move (.push _ _ hc ho))
  case step st _ hi      => exact hi.step st

namespace Carried

-- Beside the turns of the view and what is pushed, no output comes or goes.
theorem aside (w' : World) (h : Carried ls ps w) (ht : l.turn? = none)
    (hv : w'.view.channel = w.view.channel)
    (hl : w.exchange.channels.length ≤ w'.exchange.channels.length)
    (hw : ∀ i, i < w.exchange.channels.length → w.exchange.waiting? i = none →
      w'.exchange.waiting? i = none)
    (ho : ∀ i, w'.exchange.output i = w.exchange.output i)
    (hd : ∀ i, w'.dial = some (.done (some i)) →
      w.dial = some (.done (some i)) ∨ w.exchange.channels.length ≤ i) :
    Carried (ls ++ [l]) ps w' := by
  constructor <;> simp only [turns_append, ht, Option.toList_none, List.append_nil, hv, ho]
  case unopened => exact fun hi => h.unopened (Nat.le_trans hl hi)
  case verbatim => exact h.verbatim
  case lost     =>
    intro i hi
    have ⟨hx, hn, hp⟩ := h.lost hi
    exact ⟨Nat.lt_of_lt_of_le hx hl, hw i hx hn, hp⟩
  case held =>
    intro i hi
    obtain hi | hi | hi := hi.imp id (hd i)
    case inl     => exact h.held (.inl hi)
    case inr.inl => exact h.held (.inr hi)
    case inr.inr =>
      have ⟨hp, hr⟩ := h.unopened hi
      rw [hp, hr, Exchange.output_of_length_le hi]
      rfl

-- What is pushed waits behind all that waits already.
theorem push {c : Channel} (h : Carried ls ps w) (hc : w.exchange.channel? i = some c)
    (ho : c.isOpen = true) :
    Carried (ls ++ [.quiet]) (ps ++ [(i, chunk)])
      { w with exchange := w.exchange.push i chunk } := by
  have hi : i < w.exchange.channels.length := (List.getElem?_eq_some_iff.mp hc).1
  have hl : (w.exchange.push i chunk).channels.length = w.exchange.channels.length := by
    simp [Exchange.push, Exchange.modify]
  have hs : w.exchange.waiting? i ≠ none := by
    rw [Exchange.waiting?_of_channel? hc, Channel.waiting?, if_pos (Bool.and_eq_true_iff.mp ho).2]
    exact Option.some_ne_none _
  have hp (j) :
      ofChannel j (ps ++ [(i, chunk)]) = ofChannel j ps ++ if i = j then [chunk] else [] := by
    by_cases hij : i = j <;> simp [ofChannel, hij]
  constructor <;> simp only [turns_append, Label.turn?, Option.toList_none, List.append_nil, hl, hp]
  case verbatim => exact fun j => (h.verbatim j).trans (List.prefix_append ..)
  case unopened =>
    intro j hj
    have hij : i ≠ j := Nat.ne_of_lt (Nat.lt_of_lt_of_le hi hj)
    simpa [hij] using h.unopened hj
  case held =>
    intro j hj
    rw [h.held hj, Exchange.output_push hc, List.append_assoc]
  case lost =>
    intro j hj
    obtain ⟨hx, hn, hr⟩ := h.lost hj
    have hij : i ≠ j := by
      rintro rfl
      exact hs hn
    refine ⟨hx, ?_, by simpa [hij] using hr⟩
    exact (Exchange.Moves.push (x := w.exchange) i chunk hc ho).grows.gone hx hn

-- A turn that receives nothing, as long as what it holds and what it gives up are in order.
theorem turn (h : Carried ls ps w) (hc : t.chunk? = none)
    (hl : w₁.exchange.channels.length = w.exchange.channels.length)
    (hw : ∀ i, w₁.exchange.waiting? i = w.exchange.waiting? i)
    (hd : ∀ i, t.lost? = some i → i < w.exchange.channels.length ∧
      w.exchange.waiting? i = none ∧ ofChannel i ps = History.received (turns ls) i)
    (hh : ∀ i, (w₁.take t).view.channel = some i ∨ (w₁.take t).dial = some (.done (some i)) →
      (w.view.channel = some i ∨ w.dial = some (.done (some i))) ∧
        (w₁.take t).exchange.output i = w.exchange.output i) :
    Carried (ls ++ [.turn t]) ps (w₁.take t) := by
  have hr (i) : History.received (turns ls ++ [t]) i = History.received (turns ls) i := by
    rw [received_concat, hc]
    exact List.append_nil _
  constructor <;> simp only [turns_append, Label.turn?, Option.toList_some, hr, take_length, hl]
  case unopened => exact h.unopened
  case verbatim => exact h.verbatim
  case held     =>
    intro i hi
    obtain ⟨hi', ho⟩ := hh i hi
    rw [ho]
    exact h.held hi'
  case lost =>
    intro i hi
    rw [lost_concat] at hi
    obtain ⟨hx, hn, hp⟩ : i < w.exchange.channels.length ∧ w.exchange.waiting? i = none ∧
        ofChannel i ps = History.received (turns ls) i :=
      (List.mem_append.mp hi).elim h.lost fun hi => hd i (Option.mem_toList.mp hi)
    refine ⟨hx, ?_, hp⟩
    rw [take_waiting?, hw, hn]
    rfl

-- The first of what waits is received.
theorem receive {x : Exchange} (h : Carried ls ps w) (hc : t.chunk? = some (i, chunk))
    (hn : t.lost? = none) (hi : w.view.channel = some i)
    (hx : w.exchange.receive i = (x, .item chunk))
    (hv : (World.take { w with exchange := x } t).view.channel = some i)
    (hd : (World.take { w with exchange := x } t).dial = none)
    (hg : ∀ e ∈ t.effects, e.givesUp = false) (hi' : i < w.exchange.channels.length) :
    Carried (ls ++ [.turn t]) ps (World.take { w with exchange := x } t) := by
  have ho := Exchange.output_receive (i := i) hx
  rw [if_pos rfl] at ho
  have hr (j) : History.received (turns ls ++ [t]) j =
      History.received (turns ls) j ++ if i = j then [chunk] else [] := by
    rw [received_concat, hc]
    by_cases hij : i = j <;> simp [ofChannel, hij]
  have hp := h.held (.inl hi)
  rw [ho, ← List.append_assoc] at hp
  constructor <;>
    simp only [turns_append, Label.turn?, Option.toList_some, hr, take_length,
      Exchange.length_receive hx, lost_concat, hn, Option.toList_none, List.append_nil, hd, hv,
      take_waiting?, take_output hg, Exchange.waiting?_receive hx]
  case unopened =>
    intro j hj
    have hij : i ≠ j := Nat.ne_of_lt (Nat.lt_of_lt_of_le hi' hj)
    simpa [hij] using h.unopened hj
  case verbatim =>
    intro j
    by_cases hij : i = j
    case pos =>
      subst hij
      rw [if_pos rfl, hp]
      exact List.prefix_append ..
    case neg => simpa [hij] using h.verbatim j
  case held =>
    rintro j (hj | hj)
    case inr => cases hj
    case inl =>
      cases hj
      rw [if_pos rfl, hp]
  case lost =>
    intro j hj
    obtain ⟨hx, hn, hr⟩ := h.lost hj
    have hij : i ≠ j := by
      rintro rfl
      rw [hr] at hp
      simp at hp
    exact ⟨hx, by rw [hn]; rfl, by simpa [hij] using hr⟩

-- A turn that gives nothing up.
theorem kept (w₁ : World) (h : Carried ls ps w) (ho : t.view.session.closed = false)
    (ht : t.event? ≠ some .teardown) (hc : t.cause ≠ .wake .ended) (hr : t.chunk? = none)
    (hx : w₁.exchange = w.exchange)
    (hi : ∀ i, t.attended.channel = some i →
      w.view.channel = some i ∨ w.dial = some (.done (some i)))
    (hd : ∀ i, w₁.dial = some (.done (some i)) → w.dial = some (.done (some i))) :
    Carried (ls ++ [.turn t]) ps (w₁.take t) := by
  apply h.turn hr (by rw [hx]) (by simp [hx]) (by simp [Turn.lost?_eq_none hc])
  intro i hi'
  have ho : (w₁.take t).exchange.output i = w.exchange.output i := by
    rw [take_output fun e => Turn.effects_givesUp ho ht hc, hx]
  refine ⟨?_, ho⟩
  rw [take_view, take_dial] at hi'
  obtain hi' | hi' := hi'
  case inl => exact hi i (t.after_channel.elim (fun hn => by simp [hn] at hi') (· ▸ hi'))
  case inr => exact .inr (hd i (Effect.of_foldl_dial hi'))

-- A turn after which nothing is held.
theorem released (h : Carried ls ps w) (hr : t.chunk? = none) (hx : w₁.exchange = w.exchange)
    (hl : ∀ i, t.lost? = some i → i < w.exchange.channels.length ∧
      w.exchange.waiting? i = none ∧ ofChannel i ps = History.received (turns ls) i)
    (hc : (w₁.take t).view.channel = none) (hd : (w₁.take t).dial = none) :
    Carried (ls ++ [.turn t]) ps (w₁.take t) := by
  apply h.turn hr (by rw [hx]) (by simp [hx]) hl
  simp [hc, hd]

end Carried

-- What a view hears carries output on.
theorem Carried.wake {c : Wake} {s : Surroundings} (h : Carried ls ps w) (r : Run w₀ ls w)
    (f : w₀.Fresh o) (hp : w.phase = .waiting) (of : w.Offers c w₁) (hn : s.now = w.now) :
    Carried (ls ++ [.turn ⟨w.view, s, .wake c⟩]) ps (w₁.take ⟨w.view, s, .wake c⟩) := by
  have lk := r.linked f
  have ho := lk.waiting hp
  have fit := (lk.fits f (hp ▸ nofun)).line
  have held {i} (hi : w.view.channel = some i) := fit.of_channel (Option.isSome_of_mem hi)
  have kept := h.kept (t := ⟨w.view, s, .wake c⟩) w₁ ho
  have torn (ht : w.view.event? s c = some .teardown) :
      (w₁.take ⟨w.view, s, .wake c⟩).view.channel = none ∧
        (w₁.take ⟨w.view, s, .wake c⟩).dial = none :=
    ((r.step (.wake s hp of hn)).linked f).of_closed f (take_closed w₁ ht)
  cases of
  case command c cs hq =>
    have hc : (w.view.attend s (.command c)).channel = w.view.channel :=
      congrArg Line.channel (w.view.attend_line s (.command c))
    obtain he | he := w.view.event?_command s c
    case inl =>
      have ⟨hc, hd⟩ := torn he
      exact h.released rfl rfl nofun hc hd
    case inr =>
      have ht : w.view.event? s (.command c) ≠ some .teardown := by
        obtain he | ⟨text, he⟩ := he <;> simp [he]
      exact kept ht nofun rfl rfl (fun i hi => .inl (hc ▸ hi)) fun _ => id
  case abandoned hq =>
    have ⟨hc, hd⟩ := torn rfl
    exact h.released rfl rfl nofun hc hd
  case connected r hq hd =>
    have hc := (fit.of_connecting (lk.dial.symm.trans (hd ▸ rfl))).2.1
    cases r
    case none   => exact kept nofun nofun rfl rfl (fun i hi => .inl hi) nofun
    case some j =>
      refine kept nofun nofun rfl rfl (fun i hi => .inr ?_) nofun
      cases hi
      exact hd
  case output i x chunk hq hi hr =>
    have ⟨_, hd, _, _⟩ := held hi
    have hd : w.dial = none := lk.dial_eq_none hd
    have ht : w.view.event? s (.output chunk) ≠ some .teardown := nofun
    have hc : Turn.chunk? ⟨w.view, s, .wake (.output chunk)⟩ = some (i, chunk) :=
      congrArg (Option.map (·, chunk)) hi
    apply h.receive hc rfl hi hr
    case hg  => exact fun e => Turn.effects_givesUp ho ht nofun
    case hi' => exact ((r.delivered f).held i hi).2
    case hv  =>
      rw [take_view]
      have hl := Turn.after_line_of_event (t := ⟨w.view, s, .wake (.output chunk)⟩) ho rfl
      exact (congrArg Line.channel hl).trans hi
    case hd  =>
      rw [take_dial]
      exact (Turn.dial_of_event (e := .output chunk) lk.dial ho rfl).trans hd
  case ended i x hq hi hr =>
    have ⟨_, hd, _, _⟩ := held hi
    have hd : w.dial = none := lk.dial_eq_none hd
    have hl := Turn.after_line_of_event (t := ⟨w.view, s, .wake .ended⟩) ho rfl
    apply h.released rfl rfl
    case hl =>
      intro j hj
      obtain rfl := Option.some.inj (hi.symm.trans hj)
      have ⟨he, hw⟩ := Exchange.output_ended hr
      have hp := h.held (.inl hi)
      rw [he, List.append_nil] at hp
      exact ⟨((r.delivered f).held i hi).2, hw, hp⟩
    case hc =>
      rw [take_view]
      exact (congrArg Line.channel hl).trans (Line.lost_channel ..)
    case hd =>
      rw [take_dial]
      exact (Turn.dial_of_event (e := .lost) lk.dial ho rfl).trans hd
  case timer τ due hq hd hl =>
    cases τ <;> exact kept nofun nofun rfl rfl (fun i hi => .inl hi) fun _ => id

theorem Carried.step (h : Carried ls ps w) (r : Run w₀ ls w) (f : w₀.Fresh o) (st : Step w l w')
    (hs : ∀ i, w'.exchange.output i <:+ w.exchange.output i) : Carried (ls ++ [l]) ps w' := by
  have lk := r.linked f
  have lk' := (r.step st).linked f
  have same := h.aside (l := l) w'
  cases st
  case wake s hp of hn => exact h.wake r f hp of hn
  case start s hc hn =>
    have ho : w.view.session.closed = false := by rw [lk.view_of_cold f hc]; rfl
    exact h.kept w ho nofun nofun rfl rfl (fun i hi => .inl hi) fun _ => id
  case tearDown s hc hx hn =>
    have ⟨hc, hd⟩ := lk'.of_closed f (take_closed (t := ⟨w.view, s, .closing⟩) w rfl)
    have hr := h.released (t := ⟨w.view, s, .closing⟩) rfl rfl nofun hc hd
    exact ⟨hr.unopened, hr.verbatim, hr.held, hr.lost⟩
  case move x hx =>
    obtain ⟨i, c, chunk, hc, ho, rfl⟩ | ho := hx.output
    case inl =>
      have hl := (hs i).length_le
      rw [Exchange.output_push hc, if_pos rfl, List.length_append] at hl
      exact absurd hl (Nat.not_succ_le_self _)
    case inr => exact same rfl rfl hx.grows.1 (fun i => hx.grows.gone) ho fun _ => .inl
  case arrive i x frame hx =>
    have hl := Exchange.length_nextFrame hx
    refine same rfl rfl (Nat.le_of_eq hl.symm) (fun j _ hn => ?_)
      (fun _ => Exchange.output_nextFrame hx) fun _ => .inl
    have hw := Exchange.waiting?_nextFrame (i := j) hx
    rw [hn] at hw
    exact Option.map_eq_none_iff.mp hw.symm
  case answer x i hd hx =>
    have hg := hx ▸ w.exchange.grows_connect
    refine same rfl rfl hg.1 (fun i => hg.gone) (fun _ => Exchange.output_connect hx) ?_
    refine fun j hj => .inr ?_
    cases hj
    exact Nat.le_of_eq (Exchange.length_connect hx).1.symm
  case call hd => exact same rfl rfl (Nat.le_refl _) (fun _ _ => id) (fun _ => rfl) nofun
  case fail hd => exact same rfl rfl (Nat.le_refl _) (fun _ _ => id) (fun _ => rfl) nofun
  all_goals exact same rfl rfl (Nat.le_refl _) (fun _ _ => id) (fun _ => rfl) fun _ => .inl

theorem Served.carried (h : Served w₀ ls ps w) (f : w₀.Fresh o) : Carried ls ps w := by
  induction h
  case push hs hc ho hi => exact hi.push hc ho
  case step hs st ho hi => exact hi.step hs.run f st ho
  case refl =>
    obtain ⟨id, hv⟩ := f.view
    refine ⟨fun _ => ⟨rfl, rfl⟩, fun _ => List.nil_prefix, ?_, nofun⟩
    rw [hv, f.dial]
    nofun

-- What the surface shows of a run, with all that was pushed in it.
structure Transcribed (ls : List Label) (ps : List (ChannelId × Bytes)) (w : World) : Prop where
  written : History.written (turns ls) = transcript (turns ls)
  -- The channels in it are numbered in that order, and each is lost or held in the end, or the view
  -- was closed.
  ordered : (opened (turns ls)).Pairwise (· < ·)
  fate {i : ChannelId} :
    i ∈ opened (turns ls) →
    i ∈ lost (turns ls) ∨ w.view.channel = some i ∨ w.view.session.closed = true
  -- The output of a channel in it is what was pushed, and nothing is missing once it was lost.
  verbatim (i : ChannelId) : History.received (turns ls) i <+: ofChannel i ps
  complete {i : ChannelId} :
    i ∈ lost (turns ls) →
    History.received (turns ls) i = ofChannel i ps ∧
      ∀ c, w.exchange.channel? i = some c → c.serverOpen = false
  held {i : ChannelId} :
    w.view.channel = some i →
    History.received (turns ls) i ++ w.exchange.output i = ofChannel i ps
  -- Once a connect has ended, one that fails writes nothing, and a view that was torn down neither.
  refused : (turns ls).Pairwise fun t u => t.result?.isSome → u.result? = some none → u.writes = []
  silent :
    (∀ t ∈ turns ls, t.event? = some .teardown → t.writes = []) ∧
      (turns ls).Pairwise fun t u => t.event? = some .teardown → u.writes = []

theorem Run.transcribed (r : Run w₀ ls w) (f : w₀.Fresh o) :
    (∃ ps, Served w₀ ls ps w) ∧ ∀ ps, Served w₀ ls ps w → Transcribed ls ps w := by
  refine ⟨r.served, fun ps hs => ?_⟩
  have hc := hs.carried f
  have hn := r.opened_nodup f
  have hv := (r.linked f).run_or f
  constructor
  case ordered  => exact (r.ordered f).sorted
  case verbatim => exact hc.verbatim
  case held     => exact fun hi => (hc.held (.inl hi)).symm
  case complete =>
    intro i hi
    have ⟨_, hw, hp⟩ := hc.lost hi
    refine ⟨hp.symm, fun c hx => ?_⟩
    rw [Exchange.waiting?_of_channel? hx] at hw
    simpa [Channel.waiting?] using hw
  case written =>
    obtain hv | ⟨id, rv⟩ := hv
    case inl => rw [hv]; rfl
    case inr => exact rv.written_eq_transcript hn
  case fate =>
    intro i hi
    obtain hv | ⟨id, rv⟩ := hv
    case inl => rw [hv] at hi; cases hi
    case inr => exact (rv.channels hn).fate hi
  case refused =>
    obtain hv | ⟨id, rv⟩ := hv
    case inl => rw [hv]; exact .nil
    case inr => exact rv.refused hn
  case silent =>
    refine ⟨fun t _ => Turn.writes_of_teardown, ?_⟩
    obtain hv | ⟨id, rv⟩ := hv
    case inl => rw [hv]; exact .nil
    case inr => exact rv.teardowns.imp fun h ht => Turn.writes_of_teardown (h ht)

-- The server pushes two chunks and hangs up. The first attempt fails, and the second one brings
-- another channel.
theorem transcribed_reconnect :
    ∃ o w₀ ls ps w, Fresh o w₀ ∧ Run w₀ ls w ∧ Served w₀ ls ps w ∧
      History.written (turns ls) = [[97], Session.mark, [98]] ∧ ofChannel 0 ps = [[97], []] ∧
      Transcribed ls ps w := by
  have f : Fresh { policy := { base := .ofMillis 10 } } { view := .create default _ } :=
    ⟨⟨default, rfl⟩, rfl, rfl⟩
  have up := Run.refl
    |>.step (.start ⟨0, none, "", none⟩ f.phase rfl)
    |>.step (.call rfl)
    |>.step (.answer rfl rfl)
    |>.step (.wait rfl rfl rfl)
    |>.step (.wake ⟨0, none, "", none⟩ rfl (.connected rfl rfl) rfl)
    |>.step (.move (.push 0 [97] rfl rfl))
    |>.step (.move (.push 0 [] rfl rfl))
    |>.step (.move (.hangUp 0))
  have lost := up
    |>.step (.wait rfl rfl rfl)
    |>.step (.wake ⟨0, none, "", none⟩ rfl (.output rfl rfl rfl) rfl)
    |>.step (.wait rfl rfl rfl)
    |>.step (.wake ⟨0, none, "", none⟩ rfl (.output rfl rfl rfl) rfl)
    |>.step (.wait rfl rfl rfl)
    |>.step (.wake ⟨0, none, "", none⟩ rfl (.ended rfl rfl rfl) rfl)
  have failed := lost
    |>.step (.pass 10000000 (by decide))
    |>.step (.wait rfl rfl rfl)
    |>.step (.wake ⟨10000000, none, "", none⟩ rfl
      (.timer (t := .reconnect) rfl rfl (by decide)) rfl)
    |>.step (.call rfl)
    |>.step (.fail rfl)
    |>.step (.wait rfl rfl rfl)
    |>.step (.wake ⟨10000000, none, "", none⟩ rfl (.connected rfl rfl) rfl)
  have r := failed
    |>.step (.pass 30000000 (by decide))
    |>.step (.wait rfl rfl rfl)
    |>.step (.wake ⟨30000000, none, "", none⟩ rfl
      (.timer (t := .reconnect) rfl rfl (by decide)) rfl)
    |>.step (.call rfl)
    |>.step (.answer rfl rfl)
    |>.step (.wait rfl rfl rfl)
    |>.step (.wake ⟨30000000, none, "", none⟩ rfl (.connected rfl rfl) rfl)
    |>.step (.move (.push 1 [98] rfl rfl))
    |>.step (.wait rfl rfl rfl)
    |>.step (.wake ⟨30000000, none, "", none⟩ rfl (.output rfl rfl rfl) rfl)
  obtain ⟨⟨ps, hs⟩, h⟩ := r.transcribed f
  have ht := h ps hs
  have h₀ := (ht.complete (.head _)).1.symm
  exact ⟨_, _, _, ps, _, f, r, hs, ht.written.trans rfl, h₀, ht⟩

end World

end RemoteTerm
