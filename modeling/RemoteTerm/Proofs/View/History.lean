import RemoteTerm.Proofs.View.Resources
/-!
What the turns that a view has taken tell of its channels: which have opened, what has come from
each of them, and which were lost again. No channel is lost that has not opened, and the one that is
held is the one that has opened last.
-/

namespace RemoteTerm

abbrev History := List Turn

-- What belongs to one channel.
def ofChannel {α : Type} (i : ChannelId) (xs : List (ChannelId × α)) : List α :=
  (xs.filter (·.1 = i)).map Prod.snd

theorem ofChannel_append {α : Type} {i : ChannelId} {xs ys : List (ChannelId × α)} :
    ofChannel i (xs ++ ys) = ofChannel i xs ++ ofChannel i ys := by
  simp [ofChannel]

theorem filterMap_concat {α β : Type} (f : α → Option β) (xs : List α) (x : α) :
    (xs ++ [x]).filterMap f = xs.filterMap f ++ (f x).toList := by
  cases h : f x <;> simp [h]

namespace Turn

-- How a connect has ended that a turn hears of.
def result? (t : Turn) : Option (Option ChannelId) :=
  match t.cause with
  | .wake (.connected r) => some r
  | _                    => none

-- The channel that opens in a turn.
def opened? (t : Turn) : Option ChannelId :=
  t.result?.join

-- The channel whose output a turn finds to have ended.
def lost? (t : Turn) : Option ChannelId :=
  match t.cause with
  | .wake .ended => t.view.channel
  | _            => none

-- The output that a turn receives, with the channel that it comes from.
def chunk? (t : Turn) : Option (ChannelId × Bytes) :=
  match t.cause with
  | .wake (.output bytes) => t.view.channel.map (·, bytes)
  | _                     => none

theorem lost?_eq_none {t : Turn} (h : t.cause ≠ .wake .ended) : t.lost? = none := by
  obtain ⟨v, s, c⟩ := t
  cases c <;> try rfl
  case wake w => cases w <;> first | rfl | exact absurd rfl h

end Turn

namespace History

def results (ts : History) : List (Option ChannelId) :=
  ts.filterMap Turn.result?

def opened (ts : History) : List ChannelId :=
  ts.filterMap Turn.opened?

def lost (ts : History) : List ChannelId :=
  ts.filterMap Turn.lost?

def received (ts : History) (i : ChannelId) : List Bytes :=
  ofChannel i (ts.filterMap Turn.chunk?)

-- What the history of a view tells of the channels that its line may hold.
structure Channels (ts : History) (l : Line) : Prop where
  -- A view is connecting as long as it has not heard of the end of any connect.
  first : l.closed = false → (l.connection = .connecting ↔ results ts = [])
  held {i} : l.channel = some i → (opened ts).getLast? = some i ∧ i ∉ lost ts
  unopened {i} : i ∉ opened ts → received ts i = [] ∧ i ∉ lost ts
  fate {i} : i ∈ opened ts → i ∈ lost ts ∨ l.channel = some i ∨ l.closed = true

variable {ts : History} {t : Turn} {v : View} {l l' : Line} {i : ChannelId}

theorem results_concat : results (ts ++ [t]) = results ts ++ t.result?.toList :=
  filterMap_concat ..

theorem opened_concat : opened (ts ++ [t]) = opened ts ++ t.opened?.toList :=
  filterMap_concat ..

theorem lost_concat : lost (ts ++ [t]) = lost ts ++ t.lost?.toList :=
  filterMap_concat ..

theorem received_concat :
    received (ts ++ [t]) i = received ts i ++ ofChannel i t.chunk?.toList := by
  rw [received, filterMap_concat, ofChannel_append, ← received]

theorem nodup_of_concat (h : (opened (ts ++ [t])).Nodup) : (opened ts).Nodup := by
  rw [opened_concat] at h
  exact (List.nodup_append.mp h).1

-- A channel that opens in the last turn has not opened before.
theorem not_opened (h : (opened (ts ++ [t])).Nodup) (hi : t.opened? = some i) :
    i ∉ opened ts := by
  rw [opened_concat, hi] at h
  have ⟨_, _, hd⟩ := List.nodup_append.mp h
  exact fun hm => hd i hm i List.mem_cons_self rfl

-- A turn that hears nothing of the channels.
theorem concat_of_none (ts : History) (hr : t.result? = none) (hl : t.lost? = none)
    (hc : t.chunk? = none) :
    results (ts ++ [t]) = results ts ∧ opened (ts ++ [t]) = opened ts ∧
      lost (ts ++ [t]) = lost ts ∧ ∀ i, received (ts ++ [t]) i = received ts i := by
  have ho : t.opened? = none := congrArg Option.join hr
  simp [results_concat, opened_concat, lost_concat, received_concat, hr, hl, hc, ho, ofChannel]

namespace Channels

theorem aside (h : Channels ts l) (hr : t.result? = none) (hl : t.lost? = none)
    (hc : t.chunk? = none) (hx : l'.connection = l.connection) (ho : l'.closed = l.closed)
    (hi : l'.channel = l.channel) : Channels (ts ++ [t]) l' := by
  have ⟨er, eo, el, ec⟩ := concat_of_none ts hr hl hc
  constructor <;> simp only [er, eo, el, ec, hi, hx, ho]
  case first    => exact h.first
  case held     => exact h.held
  case unopened => exact h.unopened
  case fate     => exact h.fate

theorem tornDown (h : Channels ts l) (hr : t.result? = none) (hl : t.lost? = none)
    (hc : t.chunk? = none) : Channels (ts ++ [t]) l.tornDown := by
  have ⟨er, eo, el, ec⟩ := concat_of_none ts hr hl hc
  constructor <;> simp only [er, eo, el, ec, Line.tornDown]
  case first    => simp
  case held     => simp
  case unopened => exact h.unopened
  case fate     => simp

-- A connect ends, with a channel or without.
theorem connected {r : Option ChannelId} (h : Channels ts l) (hr : t.result? = some r)
    (hl : t.lost? = none) (hc : t.chunk? = none) (hn : (opened (ts ++ [t])).Nodup)
    (hi : l.channel = none) (ho : l.closed = false) (hi' : l'.channel = r)
    (hx' : l'.connection ≠ .connecting) : Channels (ts ++ [t]) l' := by
  have ht : t.opened? = r := congrArg Option.join hr
  constructor <;>
    simp only [results_concat, opened_concat, lost_concat, received_concat, hr, hl, hc, ht, hi',
      Option.toList_none, Option.toList_some, List.append_nil, ofChannel, List.filter_nil,
      List.map_nil]
  case first => simp [hx']
  case held  =>
    rintro i rfl
    exact ⟨List.getLast?_concat, (h.unopened (not_opened hn ht)).2⟩
  case unopened => exact fun hm => h.unopened fun hm' => hm (List.mem_append_left _ hm')
  case fate =>
    intro i hm
    obtain hm | hm := List.mem_append.mp hm
    case inl => exact .inl ((h.fate hm).resolve_right (by simp [hi, ho]))
    case inr => exact .inr (.inl (by simpa using hm))

-- Output comes from the channel that is held.
theorem output {b : Bytes} (h : Channels ts l) (hr : t.result? = none) (hl : t.lost? = none)
    (hc : t.chunk? = some (i, b)) (hi : l.channel = some i) : Channels (ts ++ [t]) l := by
  have ht : t.opened? = none := congrArg Option.join hr
  constructor <;>
    simp only [results_concat, opened_concat, lost_concat, received_concat, hr, hl, hc, ht,
      Option.toList_none, Option.toList_some, List.append_nil]
  case first => exact h.first
  case held  => exact h.held
  case fate  => exact h.fate
  case unopened =>
    intro j hj
    have hij : i ≠ j := by
      rintro rfl
      exact hj (List.mem_of_getLast? (h.held hi).1)
    simpa [ofChannel, hij] using h.unopened hj

-- The channel that is held is lost.
theorem ended (h : Channels ts l) (hr : t.result? = none) (hl : t.lost? = some i)
    (hc : t.chunk? = none) (hi : l.channel = some i) (ho : l.closed = false)
    (hx : l.connection ≠ .connecting) (hi' : l'.channel = none)
    (hx' : l'.connection ≠ .connecting) : Channels (ts ++ [t]) l' := by
  have ht : t.opened? = none := congrArg Option.join hr
  constructor <;>
    simp only [results_concat, opened_concat, lost_concat, received_concat, hr, hl, hc, ht, hi',
      Option.toList_none, Option.toList_some, List.append_nil, ofChannel, List.filter_nil,
      List.map_nil]
  case first => simp [hx', mt (h.first ho).mpr hx]
  case held  => nofun
  case unopened =>
    intro j hj
    have hij : j ≠ i := by
      rintro rfl
      exact hj (List.mem_of_getLast? (h.held hi).1)
    simpa [hij] using h.unopened hj
  case fate =>
    intro j hj
    obtain hm | hm | hm := h.fate hj
    case inl     => exact .inl (List.mem_append_left _ hm)
    case inr.inl =>
      obtain rfl := Option.some.inj (hi.symm.trans hm)
      simp
    case inr.inr => simp [ho] at hm

-- What a view hears is told of its channels.
theorem wake {s : Surroundings} {w : Wake} (h : Channels ts v.line) (f : v.line.Fits)
    (ho : v.session.closed = false) (hw : v.Hears s.now w)
    (hn : (opened (ts ++ [⟨v, s, .wake w⟩])).Nodup) :
    Channels (ts ++ [⟨v, s, .wake w⟩]) (Turn.after ⟨v, s, .wake w⟩).line := by
  have told {e} := Turn.after_line_of_event (t := ⟨v, s, .wake w⟩) (e := e) ho
  have kept := Turn.after_line_of_no_event (t := ⟨v, s, .wake w⟩)
  rw [Turn.attended_line] at told kept
  cases hw
  case command c =>
    obtain he | he | ⟨text, he⟩ := v.event?_command s c
    case inl     => exact told he ▸ h.tornDown rfl rfl rfl
    case inr.inl => exact kept he ▸ h.aside rfl rfl rfl rfl rfl rfl
    case inr.inr => exact told he ▸ h.aside rfl rfl rfl rfl rfl rfl
  case abandoned => exact told rfl ▸ h.tornDown rfl rfl rfl
  case connected r hd =>
    have ⟨_, hi, _, _⟩ := f.of_connecting hd
    cases r
    case none =>
      have hi' := (v.line.attend (.connected none)).lost_channel v.session.policy s.now
      exact told rfl ▸ h.connected rfl rfl rfl hn hi ho (hi'.trans hi) (Line.lost_connection _ _ _)
    case some i => exact told rfl ▸ h.connected rfl rfl rfl hn hi ho rfl nofun
  case output b hc =>
    obtain ⟨i, hi⟩ := Option.isSome_iff_exists.mp hc
    exact told rfl ▸ h.output rfl rfl (congrArg (Option.map (·, b)) hi) hi
  case ended hc =>
    have ⟨_, _, _, hx⟩ := f.of_channel hc
    obtain ⟨i, hi⟩ := Option.isSome_iff_exists.mp hc
    have hi' := (v.line.attend .ended).lost_channel v.session.policy s.now
    exact told rfl ▸ h.ended rfl hi rfl hi ho (by simp [hx]) hi' (Line.lost_connection _ _ _)
  case timer t due ht hd =>
    cases t
    case reconnect =>
      obtain ⟨_, _, _, n, hx⟩ := f.of_reconnectAt ht
      have hl := Line.told_reconnectDue v.session.policy s.now hx
      exact (told rfl).trans hl ▸ h.aside rfl rfl rfl rfl rfl rfl
    case flush => exact kept rfl ▸ h.aside rfl rfl rfl rfl rfl rfl
    all_goals exact told rfl ▸ h.aside rfl rfl rfl rfl rfl rfl

end Channels

end History

namespace View.Run

variable {v : View} {id : Uuid} {o : Options} {ts : History}

-- Where no channel opens twice.
theorem channels (r : Run (create id o) ts v) (hn : (History.opened ts).Nodup) :
    History.Channels ts v.line := by
  induction r
  case start s =>
    rw [Turn.after_line_of_event rfl rfl]
    exact ⟨fun _ => iff_of_true rfl rfl, nofun, fun _ => ⟨rfl, nofun⟩, nofun⟩
  case wake ts v s w r ho hw hi =>
    exact (hi (History.nodup_of_concat hn)).wake r.fits.line ho hw hn
  case closing ts v s r hi =>
    rw [Turn.after_line_closing r.fits]
    exact (hi (History.nodup_of_concat hn)).tornDown rfl rfl rfl

end View.Run

end RemoteTerm
