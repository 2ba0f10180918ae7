import RemoteTerm.Proofs.View.History
import RemoteTerm.Proofs.View.Input
import RemoteTerm.Proofs.View.Sizing
/-!
A view and its server agree on the size. Each channel is told the size and a narrower one as soon as
it has opened, and in the end it has been told the size that the view has, whatever comes before the
redraw is due.
-/

namespace RemoteTerm

namespace History

-- The frames that have been handed to a channel.
def sent (ts : History) (i : ChannelId) : List Frame :=
  ofChannel i (ts.flatMap Turn.sent)

def sizes (ts : History) (i : ChannelId) : List Grid :=
  (sent ts i).filterMap Frame.size?

-- What a history has promised of sizes, with a redraw after so long.
structure Agreed (d : Duration) (ts : History) : Prop where
  -- A size that is known when a channel opens goes first on it, and then the narrower one.
  greeted {t i g} :
    t ∈ ts → t.opened? = some i → t.size? = some g →
    [.resize g, .resize g.narrowed] <+: sent ts i
  -- A redraw sends the size of the view, and not too soon after its own channel has opened.
  restored {t i f} :
    t ∈ ts → t.cause = .wake .redrawDue → (i, f) ∈ t.sent →
    t.view.session.grid.map .resize = some f ∧ i ∈ opened ts ∧
      ∀ t₀ ∈ ts, t₀.opened? = some i → t₀.around.now.after d ≤ t.around.now

-- What holds beside that in the view that has got there.
structure Sized (d : Duration) (ts : History) (z : Sizing) : Prop extends Agreed d ts where
  settled {i g} :
    z.connected = true → z.channel = some i → z.grid = some g → z.redrawAt = none →
    (sizes ts i).getLast? = some g
  -- A redraw may be armed for a channel that is gone, but never too early for the one that is held.
  armed {due} :
    z.redrawAt = some due →
    z.grid.isSome ∧
      ∀ i t₀, z.channel = some i → t₀ ∈ ts → t₀.opened? = some i → t₀.around.now.after d ≤ due
  unopened {i} : i ∉ opened ts → sent ts i = []

variable {d : Duration} {ts : History} {t : Turn} {z z' : Sizing} {i : ChannelId} {g : Grid}
  {text : String}

theorem sent_concat : sent (ts ++ [t]) i = sent ts i ++ ofChannel i t.sent := by
  simp [sent, ofChannel]

theorem sizes_concat :
    sizes (ts ++ [t]) i = sizes ts i ++ (ofChannel i t.sent).filterMap Frame.size? := by
  simp [sizes, sent_concat]

theorem mem_opened_concat (h : i ∈ opened ts) : i ∈ opened (ts ++ [t]) := by
  rw [opened_concat]
  exact List.mem_append_left _ h

theorem sent_of_foreign (h : ∀ x ∈ t.sent, x.1 ≠ i) : sent (ts ++ [t]) i = sent ts i := by
  have hs : ofChannel i t.sent = [] := by
    rw [ofChannel, List.map_eq_nil_iff, List.filter_eq_nil_iff]
    simpa using h
  rw [sent_concat, hs, List.append_nil]

namespace Sized

theorem nil (v : View) (hx : v.session.isConnected = false) (hr : v.redrawAt = none) :
    Sized d [] v.sizing where
  greeted   := nofun
  restored  := nofun
  settled h := by simp [View.sizing, hx] at h
  armed h   := by simp [View.sizing, hr] at h
  unopened  := fun _ => rfl

-- A turn keeps the promises if it greets the channel that it opens, and is a redraw only in time.
theorem concat (h : Sized d ts z) (hn : (opened (ts ++ [t])).Nodup)
    (ho : ∀ x ∈ t.sent, x.1 ∈ opened (ts ++ [t]))
    (hg : ∀ i g, t.opened? = some i → t.size? = some g →
      [.resize g, .resize g.narrowed] <+: ofChannel i t.sent)
    (hr : ∀ i f, t.cause = .wake .redrawDue → (i, f) ∈ t.sent →
      t.view.session.grid.map .resize = some f ∧ i ∈ opened ts ∧
        ∀ t₀ ∈ ts, t₀.opened? = some i → t₀.around.now.after d ≤ t.around.now)
    (hs : ∀ i g, z'.connected = true → z'.channel = some i → z'.grid = some g →
      z'.redrawAt = none → (sizes (ts ++ [t]) i).getLast? = some g)
    (ha : ∀ due, z'.redrawAt = some due → z'.grid.isSome ∧ ∀ i t₀, z'.channel = some i →
      t₀ ∈ ts ++ [t] → t₀.opened? = some i → t₀.around.now.after d ≤ due) :
    Sized d (ts ++ [t]) z' := by
  constructor
  case settled => exact hs _ _
  case armed   => exact ha _
  case unopened =>
    intro i hi
    have hf : ∀ x ∈ t.sent, x.1 ≠ i := by
      rintro x hx rfl
      exact hi (ho x hx)
    rw [sent_of_foreign hf]
    exact h.unopened fun hm => hi (mem_opened_concat hm)
  case toAgreed =>
    constructor
    case greeted =>
      intro u i g hu hi hz
      rw [sent_concat]
      obtain hu | hu := List.mem_append.mp hu
      case inl => exact (h.greeted hu hi hz).trans (List.prefix_append ..)
      case inr =>
        obtain rfl := List.mem_singleton.mp hu
        rw [h.unopened (not_opened hn hi)]
        exact hg i g hi hz
    case restored =>
      intro u i f hu hc hx
      have ⟨hf, hi, hd⟩ : u.view.session.grid.map .resize = some f ∧ i ∈ opened ts ∧
          ∀ t₀ ∈ ts, t₀.opened? = some i → t₀.around.now.after d ≤ u.around.now := by
        obtain hu | hu := List.mem_append.mp hu
        case inl => exact h.restored hu hc hx
        case inr =>
          obtain rfl := List.mem_singleton.mp hu
          exact hr i f hc hx
      refine ⟨hf, mem_opened_concat hi, fun t₀ h₀ ho₀ => ?_⟩
      obtain h₀ | h₀ := List.mem_append.mp h₀
      case inl => exact hd t₀ h₀ ho₀
      case inr =>
        obtain rfl := List.mem_singleton.mp h₀
        exact absurd hi (not_opened hn ho₀)

-- A turn that sends nothing, and leaves a view as it was or without a connection.
theorem quiet (h : Sized d ts z) (hn : (opened (ts ++ [t])).Nodup) (ho : t.opened? = none)
    (hs : t.sent = []) (hz : z'.connected = true → z' = z)
    (hr : z'.redrawAt = none ∨ z'.redrawAt = z.redrawAt ∧ (z.grid.isSome → z'.grid.isSome) ∧
      ∀ i, z'.channel = some i → z.channel = some i) : Sized d (ts ++ [t]) z' := by
  apply h.concat hn
  case ho => simp [hs]
  case hg => simp [ho]
  case hr => simp [hs]
  case hs =>
    intro i g hc hi hg hd
    obtain rfl := hz hc
    rw [sizes_concat, hs]
    exact (List.append_nil _).symm ▸ h.settled hc hi hg hd
  case ha =>
    intro due hd
    obtain hr | ⟨hr, hg, hc⟩ := hr
    case inl => simp [hr] at hd
    case inr =>
      have ⟨hz, ha⟩ := h.armed (hr ▸ hd)
      refine ⟨hg hz, fun i t₀ hi h₀ ho₀ => ?_⟩
      obtain h₀ | h₀ := List.mem_append.mp h₀
      case inl => exact ha i t₀ (hc i hi) h₀ ho₀
      case inr => simp_all

-- A channel opens, and a size is known.
theorem welcome (h : Sized d ts z) (hn : (opened (ts ++ [t])).Nodup) (ho : t.opened? = some i)
    (hg : t.size? = some g) (hs : t.sent = [(i, .resize g), (i, .resize g.narrowed)])
    (hi : z'.channel = some i) (hg' : z'.grid.isSome)
    (hr : z'.redrawAt = some (t.around.now.after d)) : Sized d (ts ++ [t]) z' := by
  have hm : i ∈ opened (ts ++ [t]) := by simp [opened_concat, ho]
  apply h.concat hn
  case ho => simp [hs, hm]
  case hg => simp_all [ofChannel]
  case hr =>
    intro j f hc
    simp [Turn.opened?, Turn.result?, hc] at ho
  case hs => simp [hr]
  case ha =>
    intro due hd
    obtain rfl := Option.some.inj (hr.symm.trans hd)
    refine ⟨hg', fun j t₀ hj h₀ ho₀ => ?_⟩
    obtain rfl := Option.some.inj (hi.symm.trans hj)
    obtain h₀ | h₀ := List.mem_append.mp h₀
    case inl => exact absurd (List.mem_filterMap.mpr ⟨t₀, h₀, ho₀⟩) (not_opened hn ho)
    case inr => exact List.mem_singleton.mp h₀ ▸ Nat.le_refl _

-- A channel opens, and no size is known. So there never was one, and no redraw is armed.
theorem reticent (h : Sized d ts z) (hn : (opened (ts ++ [t])).Nodup) (hg : t.size? = none)
    (hs : t.sent = []) (hz : z.grid = none) (hg' : z'.grid = none)
    (hr : z'.redrawAt = z.redrawAt) : Sized d (ts ++ [t]) z' := by
  apply h.concat hn
  case ho => simp [hs]
  case hg => simp [hg]
  case hr => simp [hs]
  case hs => simp [hg']
  case ha =>
    intro due hd
    have ⟨hs, _⟩ := h.armed (hr ▸ hd)
    simp [hz] at hs

-- The channel that is held is told the size that the view has then.
theorem resized (h : Sized d ts z) (hn : (opened (ts ++ [t])).Nodup) (ho : t.opened? = none)
    (hs : t.sent = [(i, .resize g)]) (hi : z.channel = some i) (hm : i ∈ opened ts)
    (hi' : z'.channel = some i) (hg' : z'.grid = some g)
    (hr : t.cause = .wake .redrawDue → t.view.session.grid = some g ∧
      ∃ due, z.redrawAt = some due ∧ due ≤ t.around.now)
    (hr' : z'.redrawAt = none ∨ z'.redrawAt = z.redrawAt) : Sized d (ts ++ [t]) z' := by
  apply h.concat hn
  case ho => simp [hs, mem_opened_concat hm]
  case hg => simp [ho]
  case hr =>
    intro j f hc hx
    obtain ⟨rfl, rfl⟩ : j = i ∧ f = .resize g := by simpa [hs] using hx
    have ⟨hg, due, hd, hl⟩ := hr hc
    refine ⟨by simp [hg], hm, fun t₀ h₀ ho₀ => ?_⟩
    exact Nat.le_trans ((h.armed hd).2 j t₀ hi h₀ ho₀) hl
  case hs =>
    intro j k _ hj hk _
    obtain rfl := Option.some.inj (hi'.symm.trans hj)
    obtain rfl := Option.some.inj (hg'.symm.trans hk)
    simp [sizes_concat, hs, ofChannel, Frame.size?]
  case ha =>
    intro due hd
    obtain hr' | hr' := hr'
    case inl => simp [hr'] at hd
    case inr =>
      refine ⟨by simp [hg'], fun j t₀ hj h₀ ho₀ => ?_⟩
      obtain rfl := Option.some.inj (hi'.symm.trans hj)
      obtain h₀ | h₀ := List.mem_append.mp h₀
      case inl => exact (h.armed (hr' ▸ hd)).2 i t₀ hi h₀ ho₀
      case inr => simp_all

-- Input goes out on the channel that is held.
theorem typed (h : Sized d ts z) (hn : (opened (ts ++ [t])).Nodup) (ho : t.opened? = none)
    (hs : t.sent = [(i, .input text)]) (hm : i ∈ opened ts) (hc : t.cause ≠ .wake .redrawDue) :
    Sized d (ts ++ [t]) z := by
  apply h.concat hn
  case ho => simp [hs, mem_opened_concat hm]
  case hg => simp [ho]
  case hr => simp [hc]
  case hs =>
    intro j k hz hj hk hd
    have he : (ofChannel j t.sent).filterMap Frame.size? = [] := by
      by_cases hij : i = j <;> simp [hs, ofChannel, hij, Frame.size?]
    rw [sizes_concat, he, List.append_nil]
    exact h.settled hz hj hk hd
  case ha =>
    intro due hd
    obtain ⟨hz, ha⟩ := h.armed hd
    refine ⟨hz, fun j t₀ hj h₀ ho₀ => ?_⟩
    obtain h₀ | h₀ := List.mem_append.mp h₀
    case inl => exact ha j t₀ hj h₀ ho₀
    case inr => simp_all

-- A turn that changes nothing of sizes.
theorem aside (h : Sized d ts z) (hn : (opened (ts ++ [t])).Nodup) (ho : t.opened? = none)
    (hs : t.sent = []) : Sized d (ts ++ [t]) z :=
  h.quiet hn ho hs (fun _ => rfl) (.inr ⟨rfl, id, fun _ => id⟩)

section

variable {v : View} {s : Surroundings} {w : Wake}

theorem on_input (h : Sized d ts v.sizing) (ho : v.session.closed = false)
    (hc : v.session.isConnected = true → ∃ i, v.channel = some i ∧ i ∈ opened ts)
    (he : Turn.event? ⟨v, s, .wake w⟩ = some (.input text)) (hw : w ≠ .redrawDue)
    (hr : Turn.opened? ⟨v, s, .wake w⟩ = none) (hn : (opened (ts ++ [⟨v, s, .wake w⟩])).Nodup) :
    Sized d (ts ++ [⟨v, s, .wake w⟩]) v.sizing := by
  by_cases hx : v.session.isConnected = true ∧ text ≠ ""
  case neg => exact h.aside hn hr (Turn.sent_nothing ho he nofun (if_neg hx))
  case pos =>
    obtain ⟨i, hi, hm⟩ := hc hx.1
    have hs := Turn.sent_on ho he nofun ((Turn.channel_of_input he).trans hi)
    simp only [Session.sends, if_pos hx] at hs
    exact h.typed hn hr hs hm (by simpa using hw)

theorem on_opened (h : Sized v.session.redrawDelay ts v.sizing) (ho : v.session.closed = false)
    (hn : (opened (ts ++ [⟨v, s, .wake (.connected (some i))⟩])).Nodup) :
    Sized v.session.redrawDelay (ts ++ [⟨v, s, .wake (.connected (some i))⟩])
      (Turn.after ⟨v, s, .wake (.connected (some i))⟩).sizing := by
  have hs := Turn.sent_on (t := ⟨v, s, .wake (.connected (some i))⟩) ho rfl nofun rfl
  rw [Turn.after_sizing_of_event ho rfl, Turn.attended_sizing]
  simp only [Sizing.attend, Sizing.told, View.sizing]
  cases hg : s.measured.or v.session.grid <;> simp only [hg, Session.sends] at hs ⊢
  case some g => exact h.welcome hn rfl hg hs rfl rfl rfl
  case none   =>
    have hz : v.session.grid = none := (Option.or_eq_none_iff.mp hg).2
    exact h.reticent hn hg hs hz hz rfl

theorem on_redraw {due : Instant} (h : Sized d ts v.sizing) (ho : v.session.closed = false)
    (hc : v.session.isConnected = true → ∃ i, v.channel = some i ∧ i ∈ opened ts)
    (hr : v.redrawAt = some due) (hd : due ≤ s.now)
    (hn : (opened (ts ++ [⟨v, s, .wake .redrawDue⟩])).Nodup) :
    Sized d (ts ++ [⟨v, s, .wake .redrawDue⟩]) (Turn.after ⟨v, s, .wake .redrawDue⟩).sizing := by
  rw [Turn.after_sizing_of_event ho rfl, Turn.attended_sizing]
  by_cases hx : v.session.isConnected = true
  case neg =>
    have hs := Turn.sent_nothing (t := ⟨v, s, .wake .redrawDue⟩) ho rfl nofun (if_neg hx)
    exact h.quiet hn rfl hs (fun hc => absurd hc hx) (.inl rfl)
  case pos =>
    obtain ⟨i, hi, hm⟩ := hc hx
    obtain ⟨g, hg⟩ : ∃ g, v.session.grid = some g := Option.isSome_iff_exists.mp (h.armed hr).1
    have hs := Turn.sent_on (t := ⟨v, s, .wake .redrawDue⟩) ho rfl nofun hi
    simp only [Session.sends, if_pos hx, hg] at hs
    exact h.resized hn rfl hs hi hm hi hg (fun _ => ⟨hg, due, hr, hd⟩) (.inl rfl)

theorem on_viewport (h : Sized d ts v.sizing) (ho : v.session.closed = false)
    (hc : v.session.isConnected = true → ∃ i, v.channel = some i ∧ i ∈ opened ts)
    (hn : (opened (ts ++ [⟨v, s, .wake .resizeSettled⟩])).Nodup) :
    Sized d (ts ++ [⟨v, s, .wake .resizeSettled⟩])
      (Turn.after ⟨v, s, .wake .resizeSettled⟩).sizing := by
  have on {i} := Turn.sent_on (t := ⟨v, s, .wake .resizeSettled⟩) (i := i) ho rfl nofun
  have nothing := Turn.sent_nothing (t := ⟨v, s, .wake .resizeSettled⟩) ho rfl nofun
  rw [Turn.after_sizing_of_event ho rfl, Turn.attended_sizing]
  simp only [Sizing.attend, Sizing.told]
  cases hm : s.measured <;> simp only [hm, Session.sends] at on nothing
  case none   => exact h.aside hn rfl (nothing trivial)
  case some g =>
    by_cases hx : v.session.isConnected = true ∧ v.session.grid ≠ some g
    case pos =>
      obtain ⟨i, hi, ho⟩ := hc hx.1
      have hs := on hi
      rw [if_pos hx] at hs
      exact h.resized hn rfl hs hi ho hi rfl (by simp) (.inr rfl)
    case neg =>
      have hs := nothing (if_neg hx)
      refine h.quiet hn rfl hs (fun hc => ?_) (.inr ⟨rfl, fun _ => rfl, fun _ => id⟩)
      have hg : v.session.grid = some g := Decidable.not_not.mp fun hg => hx ⟨hc, hg⟩
      simp [View.sizing, hg]

-- What a view hears keeps the promises.
theorem wake (h : Sized d ts v.sizing) (hc : Channels ts v.line) (f : v.line.Fits)
    (ho : v.session.closed = false) (hd : v.session.redrawDelay = d) (hw : v.Hears s.now w)
    (hn : (opened (ts ++ [⟨v, s, .wake w⟩])).Nodup) :
    Sized d (ts ++ [⟨v, s, .wake w⟩]) (Turn.after ⟨v, s, .wake w⟩).sizing := by
  have told {e} := Turn.after_sizing_of_event (t := ⟨v, s, .wake w⟩) (e := e) ho
  have kept := Turn.after_sizing_of_no_event (t := ⟨v, s, .wake w⟩)
  have gone := Turn.sent_of_teardown (t := ⟨v, s, .wake w⟩)
  have nothing {e} := Turn.sent_nothing (t := ⟨v, s, .wake w⟩) (e := e) ho
  have mute := Turn.sent_of_no_event (t := ⟨v, s, .wake w⟩)
  rw [Turn.attended_sizing] at told kept
  -- Whoever is connected holds a channel that has opened.
  have held (hx : v.session.isConnected = true) : ∃ i, v.channel = some i ∧ i ∈ opened ts := by
    obtain ⟨i, hi⟩ := Option.isSome_iff_exists.mp (View.channel_of_connected f hx)
    exact ⟨i, hi, List.mem_of_getLast? (hc.held hi).1⟩
  cases hw
  case command c =>
    obtain he | he | ⟨text, he⟩ := v.event?_command s c
    case inl     => exact told he ▸ h.quiet hn rfl (gone he) nofun (.inl rfl)
    case inr.inl => exact kept he ▸ h.aside hn rfl (mute he)
    case inr.inr => exact told he ▸ h.on_input ho held he nofun rfl hn
  case abandoned  => exact told rfl ▸ h.quiet hn rfl (gone rfl) nofun (.inl rfl)
  case output b _ => exact told rfl ▸ h.aside hn rfl (nothing rfl nofun rfl)
  case ended _    =>
    exact told rfl ▸ h.quiet hn rfl (nothing rfl nofun rfl) nofun (.inr ⟨rfl, id, nofun⟩)
  case connected r _ =>
    cases r
    case some i => exact hd ▸ (hd ▸ h).on_opened ho hn
    case none   =>
      exact told rfl ▸ h.quiet hn rfl (nothing rfl nofun rfl) nofun (.inr ⟨rfl, id, fun _ => id⟩)
  case timer t due ht hl =>
    cases t
    case redraw    => exact h.on_redraw ho held ht hl hn
    case resize    => exact h.on_viewport ho held hn
    case reconnect => exact told rfl ▸ h.aside hn rfl (nothing rfl nofun rfl)
    case flush     => exact kept rfl ▸ h.aside hn rfl (mute rfl)

theorem closing (h : Sized d ts v.sizing) (hn : (opened (ts ++ [⟨v, s, .closing⟩])).Nodup) :
    Sized d (ts ++ [⟨v, s, .closing⟩]) (Turn.after ⟨v, s, .closing⟩).sizing := by
  have hs := Turn.sent_of_teardown (t := ⟨v, s, .closing⟩) rfl
  cases ho : v.session.closed
  case true  => exact Turn.after_closing_of_closed ho ▸ h.aside hn rfl hs
  case false =>
    rw [Turn.after_sizing_of_event ho rfl, Turn.attended_sizing]
    exact h.quiet hn rfl hs nofun (.inl rfl)

end

end Sized

end History

namespace View.Run

variable {v : View} {id : Uuid} {o : Options} {ts : History}

theorem redrawDelay_eq (r : Run (create id o) ts v) : v.session.redrawDelay = o.redrawDelay := by
  induction r
  case start s           => exact Turn.after_redrawDelay _
  case wake r _ _ hi     => exact (Turn.after_redrawDelay _).trans hi
  case closing r hi      => exact (Turn.after_redrawDelay _).trans hi

-- Where no channel opens twice, the promises are kept.
theorem sized (r : Run (create id o) ts v) (hn : (History.opened ts).Nodup) :
    History.Sized o.redrawDelay ts v.sizing := by
  induction r
  case start s =>
    have h : History.Sized o.redrawDelay [] (create id o).sizing := .nil _ rfl rfl
    have hs := Turn.sent_nothing (t := ⟨create id o, s, .start⟩) rfl rfl nofun rfl
    rw [Turn.after_sizing_of_event rfl rfl]
    exact h.aside hn rfl hs
  case wake s w r ho hw hi =>
    have hn' := History.nodup_of_concat hn
    exact (hi hn').wake (r.channels hn') r.fits.line ho r.redrawDelay_eq hw hn
  case closing r hi => exact (hi (History.nodup_of_concat hn)).closing hn

end View.Run

end RemoteTerm
