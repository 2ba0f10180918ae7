import RemoteTerm.Proofs.Session.Sizes
import RemoteTerm.Proofs.View.History
import RemoteTerm.Proofs.View.Sizing
/-!
Sizes of use. Where a surface never measures an empty grid, the server of its view is never told one
either, also not in the narrower size that it is told when a channel has opened.
-/

namespace RemoteTerm

namespace Grid

-- A grid that has a cell.
structure Usable (g : Grid) : Prop where
  cols : 1 ≤ g.cols
  rows : 1 ≤ g.rows

variable {g : Grid}

theorem one_le_cols_narrowed : 1 ≤ g.narrowed.cols := by
  rw [UInt16.le_iff_toNat_le, toNat_cols_narrowed]
  exact Nat.le_max_right ..

-- Only the empty grid becomes wider.
theorem cols_narrowed_le_iff : g.narrowed.cols ≤ g.cols ↔ 1 ≤ g.cols := by
  rw [UInt16.le_iff_toNat_le, UInt16.le_iff_toNat_le, toNat_cols_narrowed, UInt16.toNat_one]
  omega

theorem Usable.narrowed (h : g.Usable) : g.narrowed.Usable where
  cols := one_le_cols_narrowed
  rows := h.rows

end Grid

namespace Session

variable {s s' : Session} {e : Event} {as : List Action} {g : Grid}

theorem Step.usable (st : Step s e s' as) (hs : ∀ g ∈ s.grid, g.Usable)
    (he : ∀ g ∈ e.measured?, g.Usable) : ∀ g ∈ s'.grid, g.Usable := by
  cases ho : s.closed
  case false =>
    rw [st.grid_measured ho]
    cases hm : e.measured?
    case none   => exact hs
    case some m => simpa using he m hm
  case true =>
    cases st <;> first | exact hs | simp_all [Session.isConnected]

theorem usable_of_sends (hs : ∀ g ∈ s.grid, g.Usable) (he : ∀ g ∈ e.measured?, g.Usable)
    (h : .resize g ∈ s.sends e) : g.Usable := by
  cases e <;> simp only [sends, List.not_mem_nil] at h
  case opened m =>
    cases hg : m.or s.grid <;> simp only [hg, List.not_mem_nil] at h
    case some size =>
      have hu : size.Usable := by
        obtain hm | ⟨-, hm⟩ := Option.or_eq_some_iff.mp hg
        · exact he size hm
        · exact hs size hm
      obtain rfl | rfl : g = size ∨ g = size.narrowed := by simpa using h
      · exact hu
      · exact hu.narrowed
  case redrawDue =>
    split at h
    · exact hs g (by simpa using h)
    · simp at h
  case viewport m =>
    cases m <;> simp only [List.not_mem_nil] at h
    case some size =>
      split at h
      · obtain rfl : g = size := by simpa using h
        exact he g rfl
      · simp at h
  case input text => split at h <;> simp at h

end Session

namespace Turn

variable {t : Turn} {e : Session.Event} {g : Grid} {i : ChannelId}

-- What a session hears of sizes is what has been measured.
theorem measured?_of_event (h : t.event? = some e) :
    e.measured? = none ∨ e.measured? = t.around.measured := by
  obtain ⟨v, s, c⟩ := t
  cases c <;> simp only [event?, Option.some.injEq] at h
  case wake w =>
    cases w
    case command c =>
      obtain rfl | ⟨text, rfl⟩ := View.command_event h <;> exact .inl rfl
    case connected r => cases r <;> cases h <;> first | exact .inr rfl | exact .inl rfl
    all_goals cases h <;> first | exact .inr rfl | exact .inl rfl
  all_goals subst h; exact .inl rfl

theorem usable_of_event (h : t.event? = some e) (hm : ∀ g ∈ t.around.measured, g.Usable) :
    ∀ g ∈ e.measured?, g.Usable := by
  obtain he | he := measured?_of_event h
  case inl => simp [he]
  case inr => exact he ▸ hm

theorem usable (hv : ∀ g ∈ t.view.session.grid, g.Usable)
    (hm : ∀ g ∈ t.around.measured, g.Usable) : ∀ g ∈ t.after.session.grid, g.Usable := by
  rw [after_session]
  cases h : t.event?
  case none   => exact hv
  case some e =>
    exact (t.view.session.step_step e).usable hv (usable_of_event h hm)

theorem usable_of_sent (ho : t.view.session.closed = false ∨ t.event? = some .teardown)
    (hv : ∀ g ∈ t.view.session.grid, g.Usable) (hm : ∀ g ∈ t.around.measured, g.Usable)
    (hs : (i, .resize g) ∈ t.sent) : g.Usable := by
  cases h : t.event?
  case none => simp [sent_of_no_event h] at hs
  case some e =>
    by_cases he : e = .teardown
    case pos => simp [sent_of_teardown (he ▸ h)] at hs
    case neg =>
      have ho : t.view.session.closed = false := ho.resolve_right (by simpa [h] using he)
      rw [sent_of_event ho h he] at hs
      cases hc : t.attended.channel <;> simp only [hc, Option.elim, List.not_mem_nil] at hs
      case some j =>
        have hs : .resize g ∈ t.view.session.sends e := by
          obtain ⟨f, hf, hj⟩ := List.mem_map.mp hs
          cases hj
          exact hf
        exact Session.usable_of_sends hv (usable_of_event h hm) hs

theorem event?_of_opened (h : t.opened? = some i) :
    t.event? = some (.opened t.around.measured) := by
  obtain ⟨v, s, c⟩ := t
  cases c <;> try cases h
  case wake w => cases w <;> cases h; rfl

theorem attended_channel_of_opened (h : t.opened? = some i) : t.attended.channel = some i := by
  obtain ⟨v, s, c⟩ := t
  cases c <;> try cases h
  case wake w => cases w <;> cases h; rfl

theorem sent_of_opened (ho : t.view.session.closed = false) (h : t.opened? = some i)
    (hg : t.size? = some g) : t.sent = [(i, .resize g), (i, .resize g.narrowed)] := by
  rw [sent_on ho (event?_of_opened h) nofun (attended_channel_of_opened h)]
  simp only [size?] at hg
  simp [Session.sends, hg]

end Turn

-- What a view tells its server of sizes is of use.
structure History.Usable (ts : History) : Prop where
  told {t i g} : t ∈ ts → (i, .resize g) ∈ t.sent → g.Usable
  -- All that is said when a channel opens. The second size is not larger than the first.
  greeted {t i g} :
    t ∈ ts → t.opened? = some i → t.size? = some g →
    t.sent = [(i, .resize g), (i, .resize g.narrowed)] ∧ g.narrowed.cols ≤ g.cols

namespace History.Usable

variable {ts : History} {t : Turn}

theorem concat (h : Usable ts) (ho : t.view.session.closed = false ∨ t.event? = some .teardown)
    (hv : ∀ g ∈ t.view.session.grid, g.Usable) (hm : ∀ g ∈ t.around.measured, g.Usable) :
    Usable (ts ++ [t]) := by
  constructor
  case told =>
    intro u i g hu hs
    obtain hu | hu := List.mem_append.mp hu
    case inl => exact h.told hu hs
    case inr =>
      obtain rfl := List.mem_singleton.mp hu
      exact Turn.usable_of_sent ho hv hm hs
  case greeted =>
    intro u i g hu hi hg
    obtain hu | hu := List.mem_append.mp hu
    case inl => exact h.greeted hu hi hg
    case inr =>
      obtain rfl := List.mem_singleton.mp hu
      have ho : u.view.session.closed = false :=
        ho.resolve_right (by simp [Turn.event?_of_opened hi])
      have hu : g.Usable := by
        obtain hg | ⟨-, hg⟩ := Option.or_eq_some_iff.mp hg
        · exact hm g hg
        · exact hv g hg
      exact ⟨Turn.sent_of_opened ho hi hg, Grid.cols_narrowed_le_iff.mpr hu.cols⟩

end History.Usable

namespace View.Run

variable {v : View} {id : Uuid} {o : Options} {ts : History}

theorem usable (r : Run (create id o) ts v) (hm : ∀ t ∈ ts, ∀ g ∈ t.around.measured, g.Usable) :
    History.Usable ts ∧ ∀ g ∈ v.session.grid, g.Usable := by
  induction r
  case start s =>
    have hm := hm _ (List.mem_singleton_self _)
    have h : History.Usable [] := ⟨nofun, nofun⟩
    exact ⟨h.concat (.inl rfl) nofun hm, Turn.usable nofun hm⟩
  case wake s w r ho hw hi =>
    have ⟨h, hv⟩ := hi fun t ht => hm t (List.mem_append_left _ ht)
    have hm := hm _ (List.mem_append_right _ (List.mem_singleton_self _))
    exact ⟨h.concat (.inl ho) hv hm, Turn.usable hv hm⟩
  case closing s r hi =>
    have ⟨h, hv⟩ := hi fun t ht => hm t (List.mem_append_left _ ht)
    have hm := hm _ (List.mem_append_right _ (List.mem_singleton_self _))
    exact ⟨h.concat (.inr rfl) hv hm, Turn.usable hv hm⟩

end View.Run

end RemoteTerm
