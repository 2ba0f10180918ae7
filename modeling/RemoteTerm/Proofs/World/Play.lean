import RemoteTerm.Proofs.World.Stage
/-!
Whatever is played on a stage, its view goes through a run of a world: the frames that reports show
are those that the server takes, and the attempts are the calls of the connector.
-/

namespace RemoteTerm

def World.withChannels (w : World) (cs : List Channel) : World :=
  { w with exchange := { w.exchange with channels := cs } }

open World (Run received)

namespace Stage

variable {s s' s'' : Stage}

-- The end of a connect, for a stage that may not have noted its beginning.
theorem answerDial_reaches (s : Stage) (crashes : Bool) :
    { s.world with dial := some .begun }.Reaches 0 (s.answerDial crashes).world := by
  cases crashes
  case true => exact .quiet (.fail rfl) rfl
  case false =>
    have gate := World.Reaches.quiet
      (.move (w := { s.world with dial := some .begun }) (.gate (s.script.manner ≠ .refuse))) rfl
    simp only [answerDial, Bool.false_eq_true, if_false]
    split
    case h_1 x i hx =>
      exact gate.trans (.trans (.quiet (.answer rfl hx) rfl) (.quiet (.move .accept) rfl))
    case h_2 x _ hx =>
      have fail := World.Reaches.quiet
        (.fail (w := { s.world with dial := some .begun, exchange := x }) rfl) rfl
      rw [show x = _ from (congrArg Prod.fst hx).symm] at fail ⊢
      exact gate.trans (.trans (.quiet (.move .stranger) rfl) fail)

theorem answerDial_attempts (s : Stage) (crashes : Bool) :
    (s.answerDial crashes).attempts = s.attempts := by
  cases crashes
  case true => rfl
  case false =>
    simp only [answerDial, Bool.false_eq_true, if_false]
    split <;> rfl

theorem beginDial_goes (s : Stage) (h : s.dial = some .requested) : s.Goes s.beginDial := by
  have call := World.Step.call (w := s.world) (congrArg (Option.map Dial.seen) h)
  have hc : s.world.Reaches 1 { s.world with dial := some .begun } := .one call rfl rfl
  simp only [beginDial]
  generalize decide (s.script.manner = .crash) = crashes
  split
  · have ha := { s with attempts := s.attempts + 1 }.answerDial_attempts crashes
    have hr := { s with attempts := s.attempts + 1 }.answerDial_reaches crashes
    exact ⟨1, hc.trans hr, ha⟩
  · exact ⟨1, hc, rfl⟩

theorem ring_goes (s : Stage) : s.Goes s.ring := by
  simp only [ring]
  split
  case h_2 => exact .refl s
  case h_1 due crashes earlier hd =>
    split
    case isFalse => exact .refl s
    case isTrue =>
      have hw : { s.world with dial := some .begun } = s.world := by
        simp only [world, hd]
        rfl
      exact ⟨0, hw ▸ s.answerDial_reaches crashes, s.answerDial_attempts crashes⟩

theorem settleFor_goes (fuel : Nat) (s : Stage) : s.Goes (settleFor fuel s) := by
  induction fuel generalizing s with
  | zero => exact .refl s
  | succ fuel hi =>
    simp only [settleFor]
    split
    case h_1 hd => exact s.runView_goes.trans ((beginDial_goes _ hd).trans (hi _))
    case h_2    => exact s.runView_goes

theorem settle_goes (s : Stage) : s.Goes s.settle := by
  have first : s.Goes (if s.viewGoesFirst then s.runView else s) := by
    split
    · exact s.runView_goes
    · exact .refl s
  exact first.trans ((ring_goes _).trans (settleFor_goes ..))

theorem move_goes {x : Exchange} (h : s.exchange.Moves x) : s.Goes { s with exchange := x } :=
  .quiet (.move h) rfl rfl

theorem serve_goes (s : Stage) (i : ChannelId) (chunk : Bytes) (times : Nat) :
    s.Goes (s.serve i chunk times).1 := by
  induction times generalizing s with
  | zero => exact .refl s
  | succ times hi =>
    have room : s.Goes (if (s.exchange.channel? i).any (·.isFull) then s.runView else s) := by
      split
      · exact s.runView_goes
      · exact .refl s
    simp only [serve]
    generalize (if (s.exchange.channel? i).any (·.isFull) then s.runView else s) = s₁ at room ⊢
    split
    case h_1 => exact room
    case h_2 c hc =>
      split
      case isTrue => exact room
      case isFalse hs =>
        split
        case isTrue => exact room
        case isFalse hc' =>
          have ho : c.isOpen = true := by simp_all [Channel.isOpen]
          exact room.trans ((move_goes (.push i chunk hc ho)).trans (hi _))

theorem requestClose_goes (s : Stage) : s.Goes s.requestClose :=
  .quiet .close rfl rfl

theorem take_goes (s : Stage) (step : Step) : s.Goes (s.take step).1 := by
  cases step <;> simp only [take]
  case post c =>
    split
    · exact .refl s
    · exact .quiet (.post c) rfl rfl
  case call c =>
    split
    · exact .quiet (.post c) rfl rfl
    · exact .refl s
  case close =>
    split
    · exact s.requestClose_goes
    · exact .refl s
  case drop =>
    split
    · exact s.requestClose_goes
    · exact .refl s
  case shutdown =>
    split
    · have unheld : s.requestClose.Goes { s.requestClose with held := false } := .of_world rfl rfl
      exact s.requestClose_goes.trans (unheld.trans (runView_goes _))
    · exact .refl s
  case serve =>
    split
    · exact s.serve_goes ..
    · exact .refl s
  case hangUp =>
    split
    · exact move_goes (.hangUp _)
    · exact .refl s
  case dismiss => exact move_goes .dismiss
  all_goals exact .of_world rfl rfl

-- One stage becomes another by a run in which the server takes just these frames. All calls of the
-- connector are counted.
def Follows (s : Stage) (fs : List (ChannelId × Frame)) (s' : Stage) : Prop :=
  ∃ ls, Run s.world ls s'.world ∧ received ls = fs ∧ s'.attempts = s.attempts + World.attempts ls

theorem Goes.follows (h : s.Goes s') : s.Follows [] s' := by
  obtain ⟨_, ⟨⟨ls, r, hr, rfl⟩, -⟩, ha⟩ := h
  exact ⟨ls, r, hr, ha⟩

theorem Follows.trans {fs fs' : List (ChannelId × Frame)} (h : s.Follows fs s')
    (h' : s'.Follows fs' s'') : s.Follows (fs ++ fs') s'' := by
  obtain ⟨ls, r, rfl, ha⟩ := h
  obtain ⟨ls', r', rfl, ha'⟩ := h'
  refine ⟨ls ++ ls', r.trans r', World.received_append .., ?_⟩
  rw [World.attempts_append, ha', ha, Nat.add_assoc]

theorem pass_follows {now : Instant} (h : s.now ≤ now) : s.Follows [] { s with now } :=
  ⟨[.quiet], Run.refl.step (.pass now h), rfl, rfl⟩

-- Wherever the clock stops on its way, what is due there goes first.
theorem stop_follows {now : Instant} (h : s.now ≤ now) : s.Follows [] { s with now }.settle :=
  (pass_follows h).trans (settle_goes _).follows

theorem advance_follows (s : Stage) (now target : Instant) (hn : s.now = now) (ht : now ≤ target) :
    s.Follows [] (s.advance now target) := by
  fun_induction advance s now target
  case case1 s now due _ h hi =>
    have stop : s.Follows [] { s with now := due }.settle := stop_follows (hn ▸ Nat.le_of_lt h.1)
    exact stop.trans (hi (settle_goes _).now_eq h.2)
  case case2 s now due _ _ => exact stop_follows (hn ▸ ht)
  case case3 s now _       => exact stop_follows (hn ▸ ht)

theorem wait_follows (s : Stage) (d : Duration) : s.Follows [] (s.wait d) := by
  have ht : s.now ≤ s.now.after d := Nat.le_add_right ..
  exact s.settle_goes.follows.trans (advance_follows _ _ _ s.settle_goes.now_eq ht)

-- The server takes some frames, one by one.
def arrivals (fs : List (ChannelId × Frame)) : List World.Label :=
  fs.map fun f => .arrive f.1 f.2

theorem received_arrivals (fs : List (ChannelId × Frame)) : received (arrivals fs) = fs := by
  induction fs with
  | nil          => rfl
  | cons f fs hi => exact congrArg (f :: ·) hi

theorem attempts_arrivals (fs : List (ChannelId × Frame)) : World.attempts (arrivals fs) = 0 := by
  induction fs with
  | nil          => rfl
  | cons f fs hi => exact hi

-- The first frame of a channel leaves all others where they are.
theorem nextFrame_at {x : Exchange} {pre post : List Channel} {c : Channel} {f : Frame}
    {fs : List Frame} (h : x.channels = pre ++ c :: post) (hf : c.frames = f :: fs) :
    x.nextFrame pre.length =
      ({ x with channels := pre ++ { c with frames := fs } :: post }, .item f) := by
  have hc : x.channel? pre.length = some c := by simp [Exchange.channel?, h]
  simp only [Exchange.nextFrame, hc, Channel.nextFrame, hf, Exchange.modify, h]
  rw [List.modify_eq_take_cons_drop (by simp)]
  simp

theorem drain_run (w : World) (pre post : List Channel) (c : Channel) :
    Run (w.withChannels (pre ++ c :: post)) (arrivals (c.frames.map (pre.length, ·)))
      (w.withChannels (pre ++ { c with frames := [] } :: post)) := by
  obtain ⟨fs, hf⟩ : ∃ fs, c.frames = fs := ⟨_, rfl⟩
  rw [hf]
  induction fs generalizing c with
  | nil =>
    have hc : { c with frames := [] } = c := by rw [← hf]
    rw [hc]
    exact .refl
  | cons f fs hi =>
    have first := Run.refl.step (.arrive (w := w.withChannels (pre ++ c :: post))
      (nextFrame_at rfl hf))
    exact first.trans (hi { c with frames := fs } rfl)

theorem drainAll_run (w : World) (pre cs : List Channel) :
    Run (w.withChannels (pre ++ cs))
      (arrivals ((cs.zipIdx pre.length).flatMap fun c => c.1.frames.map (c.2, ·)))
      (w.withChannels (pre ++ cs.map ({ · with frames := [] }))) := by
  induction cs generalizing pre with
  | nil => exact .refl
  | cons c cs hi =>
    have first := drain_run w pre cs c
    have rest := hi (pre ++ [{ c with frames := [] }])
    rw [← List.append_cons, ← List.append_cons, List.length_append] at rest
    rw [List.zipIdx_cons, List.flatMap_cons, arrivals, List.map_append]
    exact first.trans rest

theorem report_follows (s : Stage) : s.Follows s.report.2.frames s.report.1 :=
  ⟨_, drainAll_run s.world [] s.exchange.channels, received_arrivals _,
    (attempts_arrivals _).symm ▸ rfl⟩

-- What can be played on a stage, and the frames that the reports show.
inductive Played (s₀ : Stage) : List (ChannelId × Frame) → Stage → Prop
  | refl : Played s₀ [] s₀
  | take {fs s} (step : Step) : Played s₀ fs s → Played s₀ fs (s.take step).1
  | settle {fs s} : Played s₀ fs s → Played s₀ fs s.settle
  | wait {fs s} (d) : Played s₀ fs s → Played s₀ fs (s.wait d)
  | report {fs s} : Played s₀ fs s → Played s₀ (fs ++ s.report.2.frames) s.report.1

theorem Played.follows {s₀ : Stage} {fs : List (ChannelId × Frame)} (h : Played s₀ fs s) :
    s₀.Follows fs s := by
  induction h with
  | refl           => exact (Goes.refl s₀).follows
  | take step _ hi => simpa using hi.trans (take_goes _ step).follows
  | settle _ hi    => simpa using hi.trans (settle_goes _).follows
  | wait d _ hi    => simpa using hi.trans (wait_follows _ d)
  | report _ hi    => exact hi.trans (report_follows _)

theorem Played.takeAll {s₀ : Stage} {fs : List (ChannelId × Frame)} (steps : List Step)
    (h : Played s₀ fs s) : Played s₀ fs (s.takeAll steps).1 := by
  induction steps generalizing s with
  | nil             => exact h
  | cons x steps hi => exact hi (h.take x)

-- A stage whose view has just been created has the world of such a view.
theorem fresh_world {id : Uuid} {o : View.Options} (hv : s.view = .create id o)
    (hp : s.phase = .cold) (hd : s.dial = none) : s.world.Fresh o :=
  ⟨⟨id, hv⟩, congrArg Phase.seen hp, congrArg (Option.map Dial.seen) hd⟩

end Stage

end RemoteTerm
