import RemoteTerm.Proofs.View.Latch
import RemoteTerm.Proofs.World.Log
/-!
Whether a latch that is spent has been spent on something. It has, unless the server has closed its
end of the channel and the view does not know of it yet.
-/

namespace RemoteTerm

namespace World

variable {w w₀ : World} {ls : List Label} {o : View.Options} {c : Command} {s : Surroundings}

-- The frames that the exchange takes when a view does something.
def accepted (w : World) : List Effect → List (ChannelId × Frame)
  | [] => []
  | .transmit i frame :: es =>
    match w.exchange.send i frame with
    | (_, .ok ())   => (i, frame) :: (w.effect (.transmit i frame)).accepted es
    | (_, .error _) => (w.effect (.transmit i frame)).accepted es
  | e :: es => (w.effect e).accepted es

-- Whether the server still has its end of the channel that the view holds.
def IsServed (w : World) : Prop :=
  ∃ i channel, w.view.channel = some i ∧ w.exchange.channel? i = some channel ∧
    channel.serverOpen = true

-- The promise for a stroke: either the latch stays as it was, or it was armed and is not any more,
-- and then just what it made of the stroke has been accepted on the channel that is held.
def SpendsWell (w : World) (s : Surroundings) (c : Command) : Prop :=
  let t : Turn := ⟨w.view, s, .wake (.command c)⟩
  t.after.latch = w.view.latch ∨
    w.view.latch.isActive = true ∧ t.after.latch = {} ∧
      ∃ i text, w.view.channel = some i ∧ w.view.latch.encoded? c = some text ∧
        w.accepted t.effects = [(i, .input text)]

variable {i : ChannelId} {frame : Frame} {text : String}

theorem accepted_of_served (hi : w.view.channel = some i) (h : w.IsServed) :
    w.accepted [.transmit i frame] = [(i, frame)] := by
  obtain ⟨j, channel, hj, hc, ho⟩ := h
  obtain rfl := Option.some.inj (hi.symm.trans hj)
  simp only [accepted, Exchange.send, hc, Channel.send, ho, if_true]

theorem accepted_of_not_served (hi : w.view.channel = some i) (h : ¬ w.IsServed) :
    w.accepted [.transmit i frame] = [] := by
  cases hc : w.exchange.channel? i
  case none => simp only [accepted, Exchange.send, hc]
  case some channel =>
    have ho : ¬ channel.serverOpen = true := fun ho => h ⟨i, channel, hi, hc, ho⟩
    simp only [accepted, Exchange.send, hc, Channel.send, if_neg ho]

-- Where the latch is spent, it is spent well just if the server is there.
theorem spendsWell_iff_served (hc : w.view.session.isConnected = true)
    (he : w.view.latch.encoded? c = some text) (hi : w.view.channel = some i) :
    w.SpendsWell s c ↔ w.IsServed := by
  obtain ⟨hl, hx⟩ := Turn.spends (s := s) hc he
  rw [hi] at hx
  have ha : w.view.latch.isActive = true := by
    simp [Latch.isActive, (Latch.encoded?_ne_empty he).2]
  constructor
  case mp =>
    intro h
    obtain h | ⟨-, -, j, text', -, -, h⟩ := h
    case inl =>
      rw [← h, hl] at ha
      cases ha
    case inr =>
      apply Classical.byContradiction
      intro hn
      rw [hx] at h
      cases (accepted_of_not_served hi hn).symm.trans h
  case mpr =>
    intro h
    refine .inr ⟨ha, hl, i, text, hi, he, ?_⟩
    rw [hx]
    exact accepted_of_served hi h

-- A latch is spent on nothing just if the view is connected, the latch applies to the stroke, and
-- the server is not there any more.
theorem Run.spendsWell_iff (r : Run w₀ ls w) (f : w₀.Fresh o) (hs : c.isStroke = true) :
    w.SpendsWell s c ↔
      ¬ (w.view.session.isConnected = true ∧ (w.view.latch.encoded? c).isSome = true ∧
        ¬ w.IsServed) := by
  by_cases hc : w.view.session.isConnected = true
  case neg =>
    have hk : w.SpendsWell s c := .inl (Turn.keeps hs (.inl (by simpa using hc)))
    simp [hk, hc]
  case pos =>
    cases he : w.view.latch.encoded? c
    case none =>
      have hk : w.SpendsWell s c := .inl (Turn.keeps hs (.inr he))
      simp [hk]
    case some text =>
      have lk := r.linked f
      have hp : w.phase ≠ .cold := fun hp => by
        rw [lk.view_of_cold f hp] at hc
        cases hc
      have hi := View.channel_of_connected (lk.fits f hp).line hc
      obtain ⟨i, hi⟩ := Option.isSome_iff_exists.mp hi
      rw [spendsWell_iff_served hc he hi]
      simp [hc]

-- A latch that is armed before there is a connection is still armed after a key.
theorem spendsWell_connecting :
    ∃ w₀ ls w, Fresh {} w₀ ∧ Run w₀ ls w ∧ w.view.latch.armed = { ctrl := true } ∧
      w.SpendsWell ⟨0, none, "", none⟩ (.press { key := .char 'c' }) := by
  have f : Fresh {} { view := .create default _ } := ⟨⟨default, rfl⟩, rfl, rfl⟩
  have r := Run.refl
    |>.step (.start ⟨0, none, "", none⟩ f.phase rfl)
    |>.step (.post (.toggle .ctrl))
    |>.step (.wait rfl rfl rfl)
    |>.step (.wake ⟨0, none, "", none⟩ rfl (.command rfl) rfl)
  have h := r.spendsWell_iff (s := ⟨0, none, "", none⟩) (c := .press { key := .char 'c' }) f rfl
  exact ⟨_, _, _, f, r, rfl, h.mpr fun hn => nomatch hn.1⟩

-- The server hangs up, and before the view has noticed that a key takes the latch with it.
theorem not_spendsWell_hungUp :
    ∃ w₀ ls w, Fresh {} w₀ ∧ Run w₀ ls w ∧ w.phase = .waiting ∧
      w.queue = [.press { key := .char 'c' }] ∧ w.view.latch.armed = { ctrl := true } ∧
      ¬ w.SpendsWell ⟨0, none, "", none⟩ (.press { key := .char 'c' }) := by
  have f : Fresh {} { view := .create default _ } := ⟨⟨default, rfl⟩, rfl, rfl⟩
  have r := Run.refl
    |>.step (.start ⟨0, none, "", none⟩ f.phase rfl)
    |>.step (.call rfl)
    |>.step (.answer rfl rfl)
    |>.step (.wait rfl rfl rfl)
    |>.step (.wake ⟨0, none, "", none⟩ rfl (.connected rfl rfl) rfl)
    |>.step (.post (.toggle .ctrl))
    |>.step (.wait rfl rfl rfl)
    |>.step (.wake ⟨0, none, "", none⟩ rfl (.command rfl) rfl)
    |>.step (.wait rfl rfl rfl)
    |>.step (.move (.hangUp 0))
    |>.step (.post (.press { key := .char 'c' }))
  refine ⟨_, _, _, f, r, rfl, rfl, rfl, fun h => ?_⟩
  obtain ⟨i, channel, hi, hc, ho⟩ := (spendsWell_iff_served rfl rfl rfl).mp h
  cases hi
  cases hc
  cases ho

end World

end RemoteTerm
