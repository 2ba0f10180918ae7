import RemoteTerm.Proofs.View.History
/-!
What a view writes to its surface: the output of each channel that it opens, one channel after
another, with a mark after each that was lost.
-/

namespace RemoteTerm

def Action.write? : Action → Option Bytes
  | write bytes => some bytes
  | _           => none

def Effect.write? : Effect → Option Bytes
  | surface (.write bytes) => some bytes
  | _                      => none

namespace Session

def mark : Bytes :=
  Bytes.ofString lostMarker

-- What an open session has written on an event.
def prints (s : Session) : Event → List Bytes
  | .output bytes => if bytes = [] then [] else [bytes]
  | .lost         =>
    match s.connection with
    | .connecting | .connected => [mark]
    | _                        => []
  | _             => []

variable {s s' : Session} {e : Event} {as : List Action}

theorem parting_writes (s : Session) : s.parting.filterMap Action.write? = s.prints .lost := by
  cases h : s.connection <;> simp [parting, prints, h, Action.write?, mark]

theorem Step.writes (st : Step s e s' as) (ho : s.closed = false) :
    as.filterMap Action.write? = s.prints e := by
  cases st <;> try rfl
  case deaf hc _    => simp [ho] at hc
  case opened       => exact s.welcome_filterMap rfl
  case negotiated   => exact s.welcome_filterMap rfl
  case retried      => rw [List.filterMap_append, parting_writes]; exact List.append_nil _
  case gaveUp       => rw [List.filterMap_append, parting_writes]; exact List.append_nil _
  case exhausted hx => simp [prints, hx]
  case output hb    => simp [prints, hb, Action.write?]

end Session

namespace View

variable {v : View} {now : Instant} {as : List Action}

theorem perform_writes (v : View) (a : Action) :
    (v.perform now a).2.filterMap Effect.write? = a.write?.toList := by
  cases a <;> simp only [perform, release, Action.write?]
  case send f       => cases v.channel <;> rfl
  case openChannel  => split <;> rfl
  case closeChannel =>
    cases v.channel <;> by_cases hd : v.connecting = true <;> simp [hd, Effect.write?]
  all_goals rfl

end View

namespace Turn

def writes (t : Turn) : List Bytes :=
  t.effects.filterMap Effect.write?

variable {t : Turn} {e : Session.Event}

theorem atOnce_writes (t : Turn) : t.atOnce.filterMap Effect.write? = [] := by
  obtain ⟨v, s, c⟩ := t
  cases c <;> try rfl
  case wake w =>
    rw [List.filterMap_eq_nil_iff]
    intro e he
    obtain ⟨-, i, rfl⟩ | ⟨text, rfl⟩ | rfl | ⟨d, rfl⟩ := View.react_atOnce he <;> rfl

theorem writes_eq (t : Turn) : t.writes = t.heard.2.filterMap Action.write? :=
  effects_filterMap t.atOnce_writes fun v a => v.perform_writes a

theorem writes_of_event (ho : t.view.session.closed = false) (h : t.event? = some e) :
    t.writes = t.view.session.prints e := by
  rw [writes_eq, heard_of_event h, ← attended_session]
  exact (t.attended.session.step_step e).writes (t.attended_session ▸ ho)

theorem writes_of_no_event (h : t.event? = none) : t.writes = [] := by
  obtain ⟨n, hn, -⟩ := heard_of_no_event h
  rw [writes_eq, hn]
  cases n <;> rfl

theorem writes_of_teardown (h : t.event? = some .teardown) : t.writes = [] := by
  rw [writes, List.filterMap_eq_nil_iff]
  intro x hx
  obtain ⟨i, rfl⟩ | rfl := effects_of_teardown h hx <;> rfl

end Turn

namespace History

def written (ts : History) : List Bytes :=
  ts.flatMap Turn.writes

-- What is to be seen of a channel: its output, and a mark if it was lost.
def chapter (ts : History) (i : ChannelId) : List Bytes :=
  (received ts i).filter (· ≠ []) ++ if i ∈ lost ts then [Session.mark] else []

-- What is to be seen before that: a mark, if the first connect has failed.
def prologue (ts : History) : List Bytes :=
  if (results ts).head? = some none then [Session.mark] else []

def transcript (ts : History) : List Bytes :=
  prologue ts ++ (opened ts).flatMap (chapter ts)

-- Where something is appended to the last of the chapters, it is appended to all of them.
theorem flatMap_of_last {α β : Type} {f g : α → List β} {xs : List α} {x : α} {ys : List β}
    (hn : xs.Nodup) (hx : xs.getLast? = some x) (h : ∀ y, y ≠ x → g y = f y)
    (hg : g x = f x ++ ys) : xs.flatMap g = xs.flatMap f ++ ys := by
  obtain ⟨xs, rfl⟩ := List.getLast?_eq_some_iff.mp hx
  have ⟨_, _, hd⟩ := List.nodup_append.mp hn
  have hf : xs.map g = xs.map f :=
    List.map_congr_left fun y hy => h y (hd y hy x List.mem_cons_self)
  simp [List.flatMap_def, hf, hg]

variable {ts : History} {t : Turn} {l : Line} {v : View} {i : ChannelId}

theorem written_concat : written (ts ++ [t]) = written ts ++ t.writes := by
  simp [written]

theorem opened_eq (ts : History) : opened ts = (results ts).filterMap id := by
  rw [opened, results, List.filterMap_filterMap]
  congr

theorem chapter_of_none (hl : t.lost? = none) (hc : t.chunk? = none) :
    chapter (ts ++ [t]) = chapter ts := by
  funext i
  simp [chapter, lost_concat, received_concat, hl, hc, ofChannel]

-- A turn that hears nothing of the channels must write nothing.
theorem transcript_aside (hr : t.result? = none) (hl : t.lost? = none) (hc : t.chunk? = none)
    (hw : t.writes = []) : transcript (ts ++ [t]) = transcript ts ++ t.writes := by
  have ⟨er, eo, _⟩ := concat_of_none ts hr hl hc
  simp only [transcript, prologue, er, eo, chapter_of_none hl hc, hw, List.append_nil]

theorem prologue_concat {r : Option ChannelId} (hr : t.result? = some r) :
    prologue (ts ++ [t]) =
      if results ts = [] then (if r = none then [Session.mark] else []) else prologue ts := by
  cases h : results ts <;> simp [prologue, results_concat, h, hr]

namespace Channels

theorem chapter_of_unopened (h : Channels ts l) (hi : i ∉ opened ts) : chapter ts i = [] := by
  simp [chapter, h.unopened hi]

-- The chapter that is still open is that of the channel that is held.
theorem transcript_held {ys : List Bytes} (h : Channels ts l) (hn : (opened ts).Nodup)
    (hr : t.result? = none) (hi : l.channel = some i)
    (hj : ∀ j, j ≠ i → chapter (ts ++ [t]) j = chapter ts j)
    (hx : chapter (ts ++ [t]) i = chapter ts i ++ ys) :
    transcript (ts ++ [t]) = transcript ts ++ ys := by
  have ht : t.opened? = none := congrArg Option.join hr
  have hp : prologue (ts ++ [t]) = prologue ts := by simp [prologue, results_concat, hr]
  have ho : opened (ts ++ [t]) = opened ts := by simp [opened_concat, ht]
  rw [transcript, hp, ho, flatMap_of_last hn (h.held hi).1 hj hx, ← List.append_assoc]
  rfl

theorem transcript_lost (h : Channels ts l) (hn : (opened ts).Nodup) (hr : t.result? = none)
    (hl : t.lost? = some i) (hc : t.chunk? = none) (hi : l.channel = some i) :
    transcript (ts ++ [t]) = transcript ts ++ [Session.mark] := by
  apply h.transcript_held hn hr hi
  case hj =>
    intro j hj
    simp [chapter, lost_concat, received_concat, hl, hc, ofChannel, hj]
  case hx => simp [chapter, lost_concat, received_concat, hl, hc, ofChannel, (h.held hi).2]

theorem transcript_chunk {b : Bytes} (h : Channels ts l) (hn : (opened ts).Nodup)
    (hr : t.result? = none) (hl : t.lost? = none) (hc : t.chunk? = some (i, b))
    (hi : l.channel = some i) :
    transcript (ts ++ [t]) = transcript ts ++ if b = [] then [] else [b] := by
  apply h.transcript_held hn hr hi
  case hj =>
    intro j hj
    simp [chapter, lost_concat, received_concat, hl, hc, ofChannel, hj.symm]
  case hx =>
    by_cases hb : b = [] <;>
      simp [chapter, lost_concat, received_concat, hl, hc, ofChannel, (h.held hi).2, hb]

-- A new channel has nothing to show yet.
theorem transcript_opened (h : Channels ts l) (hr : t.result? = some (some i))
    (hl : t.lost? = none) (hc : t.chunk? = none) (hi : i ∉ opened ts) :
    transcript (ts ++ [t]) = transcript ts := by
  have ht : t.opened? = some i := congrArg Option.join hr
  have hp : prologue (ts ++ [t]) = prologue ts := by
    rw [prologue_concat hr]
    split
    case isTrue hn => simp [prologue, hn]
    case isFalse   => rfl
  simp [transcript, hp, opened_concat, ht, chapter_of_none hl hc, h.chapter_of_unopened hi]

-- A connect that fails is shown only if it is the first.
theorem transcript_refused (hr : t.result? = some none) (hl : t.lost? = none)
    (hc : t.chunk? = none) :
    transcript (ts ++ [t]) = transcript ts ++ if results ts = [] then [Session.mark] else [] := by
  have ht : t.opened? = none := congrArg Option.join hr
  rw [transcript, prologue_concat hr, opened_concat, ht, chapter_of_none hl hc]
  by_cases hn : results ts = []
  case pos => simp [transcript, prologue, opened_eq, hn]
  case neg => simp [transcript, hn]

-- What a view hears carries its transcript on by what it writes.
theorem transcript_wake {s : Surroundings} {w : Wake} (h : Channels ts v.line) (f : v.line.Fits)
    (ho : v.session.closed = false) (hw : v.Hears s.now w)
    (hn : (opened (ts ++ [⟨v, s, .wake w⟩])).Nodup) :
    transcript (ts ++ [⟨v, s, .wake w⟩]) = transcript ts ++ Turn.writes ⟨v, s, .wake w⟩ := by
  have told {e} := Turn.writes_of_event (t := ⟨v, s, .wake w⟩) (e := e) ho
  have kept := Turn.writes_of_no_event (t := ⟨v, s, .wake w⟩)
  have hn' := nodup_of_concat hn
  cases hw
  case command c =>
    obtain he | he | ⟨text, he⟩ := v.event?_command s c
    case inl     => exact transcript_aside rfl rfl rfl (told he)
    case inr.inl => exact transcript_aside rfl rfl rfl (kept he)
    case inr.inr => exact transcript_aside rfl rfl rfl (told he)
  case abandoned => exact transcript_aside rfl rfl rfl (told rfl)
  case connected r hd =>
    have ⟨_, _, _, hx⟩ := f.of_connecting hd
    have hf := h.first ho
    cases r
    case none =>
      rw [told rfl, transcript_refused rfl rfl rfl]
      obtain hx | ⟨n, hx⟩ := hx
      case inl => simp [← hf, Session.prints, hx, show v.session.connection = _ from hx]
      case inr => simp [← hf, Session.prints, hx, show v.session.connection = _ from hx]
    case some i =>
      rw [told rfl, h.transcript_opened rfl rfl rfl (not_opened hn rfl)]
      exact (List.append_nil _).symm
  case output b hc =>
    obtain ⟨i, hi⟩ := Option.isSome_iff_exists.mp hc
    rw [told rfl]
    exact h.transcript_chunk hn' rfl rfl (congrArg (Option.map (·, b)) hi) hi
  case ended hc =>
    have ⟨_, _, _, hx⟩ := f.of_channel hc
    obtain ⟨i, hi⟩ := Option.isSome_iff_exists.mp hc
    have hp : v.session.prints .lost = [Session.mark] := by
      simp [Session.prints, show v.session.connection = _ from hx]
    exact (told rfl).trans hp ▸ h.transcript_lost hn' rfl hi rfl hi
  case timer t due ht hd =>
    cases t
    case flush => exact transcript_aside rfl rfl rfl (kept rfl)
    all_goals exact transcript_aside rfl rfl rfl (told rfl)

end Channels

end History

namespace View.Run

variable {v : View} {id : Uuid} {o : Options} {ts : History}

-- What a view has written is its transcript.
theorem written_eq_transcript (r : Run (create id o) ts v) (hn : (History.opened ts).Nodup) :
    History.written ts = History.transcript ts := by
  induction r
  case start s =>
    have hw := Turn.writes_of_event (t := ⟨create id o, s, .start⟩) (e := .start) rfl rfl
    rw [History.written, List.flatMap_singleton, hw]
    rfl
  case wake ts v s w r ho hw hi =>
    have hn' := History.nodup_of_concat hn
    rw [(r.channels hn').transcript_wake r.fits.line ho hw hn, ← hi hn', History.written_concat]
  case closing ts v s r hi =>
    have hn' := History.nodup_of_concat hn
    have hw := Turn.writes_of_teardown (t := ⟨v, s, .closing⟩) rfl
    rw [History.transcript_aside rfl rfl rfl hw, ← hi hn', History.written_concat]

-- A connect that fails writes nothing once another one has ended.
theorem refused (r : Run (create id o) ts v) (hn : (History.opened ts).Nodup) :
    ts.Pairwise fun t u => t.result?.isSome → u.result? = some none → u.writes = [] := by
  induction r
  case start s => exact List.pairwise_singleton ..
  case closing s r hi =>
    refine List.pairwise_append.mpr
      ⟨hi (History.nodup_of_concat hn), List.pairwise_singleton .., fun t ht u hu _ he => ?_⟩
    obtain rfl := List.mem_singleton.mp hu
    cases he
  case wake ts v s w r ho hw hi =>
    have hn' := History.nodup_of_concat hn
    refine List.pairwise_append.mpr ⟨hi hn', List.pairwise_singleton .., fun t ht u hu hs he => ?_⟩
    obtain rfl := List.mem_singleton.mp hu
    obtain rfl : w = .connected none := by cases w <;> cases he; rfl
    have ⟨_, _, _, hx⟩ := r.fits.line.of_connecting hw.connecting
    have hr : History.results ts ≠ [] := by
      obtain ⟨x, hx⟩ := Option.isSome_iff_exists.mp hs
      exact List.ne_nil_of_mem (List.mem_filterMap.mpr ⟨t, ht, hx⟩)
    obtain ⟨n, hx⟩ := hx.resolve_left (mt ((r.channels hn').first ho).mp hr)
    rw [Turn.writes_of_event ho rfl, Session.prints, show v.session.connection = _ from hx]

end View.Run

end RemoteTerm
