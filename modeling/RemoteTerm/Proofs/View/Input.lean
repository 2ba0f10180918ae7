import RemoteTerm.Proofs.View.Line
/-!
The input that a view sends. It is what comes to it as text while it is connected, on the channel
that it holds at that time, and nothing else.
-/

namespace RemoteTerm

def Frame.input? : Frame → Option String
  | input text => some text
  | _          => none

def Action.input? : Action → Option String
  | send frame => frame.input?
  | _          => none

-- The input among effects, with the channel that it goes to.
def Effect.input? : Effect → Option (ChannelId × String)
  | transmit channel frame => frame.input?.map (channel, ·)
  | _                      => none

namespace Session

-- The input that is sent for an event.
def takes (s : Session) : Event → List String
  | .input text => if s.isConnected = true ∧ text ≠ "" then [text] else []
  | _           => []

variable {s s' : Session} {e : Event} {as : List Action}

theorem Step.inputs (st : Step s e s' as) : as.filterMap Action.input? = s.takes e := by
  cases st <;> try rfl
  case opened                 => exact s.welcome_filterMap rfl
  case negotiated             => exact s.welcome_filterMap rfl
  case retried                => rw [List.filterMap_append, s.parting_filterMap fun _ => rfl]; rfl
  case gaveUp                 => rw [List.filterMap_append, s.parting_filterMap fun _ => rfl]; rfl
  case input text hc ht       => exact (if_pos ⟨hc, ht⟩).symm
  case noInput text ho h      => exact (if_neg fun ⟨hc, ht⟩ => by simp_all).symm
  case deaf ho _              =>
    cases e <;> try rfl
    exact (if_neg fun ⟨hc, _⟩ => by simp_all [isConnected_iff]).symm

-- Where input is sent, nothing else is done.
theorem Step.of_input {text : String} (st : Step s (.input text) s' as) (hc : s.isConnected = true)
    (ht : text ≠ "") : as = [.send (.input text)] := by
  cases st
  case input      => rfl
  case noInput h  => simp_all
  case deaf ho _  => simp_all [isConnected_iff]

end Session

namespace View

variable {v : View} {now : Instant} {as : List Action}

theorem perform_inputs (v : View) (a : Action) (h : a.input? = none) :
    (v.perform now a).2.filterMap Effect.input? = [] := by
  cases a <;> simp only [perform, release]
  case send frame =>
    have hf : frame.input? = none := h
    cases v.channel <;> simp [Effect.input?, hf]
  case openChannel  => split <;> rfl
  case closeChannel =>
    cases v.channel <;> by_cases hd : v.connecting = true <;> simp [hd, Effect.input?]
  all_goals rfl

theorem performAll_inputs (h : as.filterMap Action.input? = []) :
    (v.performAll now as).2.filterMap Effect.input? = [] := by
  have hn := List.filterMap_eq_nil_iff.mp h
  rw [performAll_filterMap _ (fun _ => none) fun v a ha => v.perform_inputs a (hn a ha)]
  exact List.filterMap_eq_nil_iff.mpr fun _ _ => rfl

end View

namespace Turn

-- The input that a turn sends, with the channels that it goes to.
def inputs (t : Turn) : List (ChannelId × String) :=
  t.effects.filterMap Effect.input?

-- The text that a turn comes to, with the channel that the view is connected on.
def typed (t : Turn) : List (ChannelId × String) :=
  match t.cause with
  | .wake (.command c) =>
    if t.view.session.isConnected = true then
      match t.view.channel, t.view.text? t.around c with
      | some channel, some text => if text = "" then [] else [(channel, text)]
      | _, _                    => []
    else []
  | _ => []

variable {t : Turn} {text : String}

theorem atOnce_inputs (t : Turn) : t.atOnce.filterMap Effect.input? = [] :=
  atOnce_filterMap fun e h => by cases e <;> first | rfl | cases h

-- Only a command brings input, and no command touches the channel before the session hears of it.
theorem channel_of_input (he : t.event? = some (.input text)) :
    t.attended.channel = t.view.channel := by
  obtain ⟨v, s, c⟩ := t
  have hl := attended_line ⟨v, s, c⟩
  cases c
  case wake w =>
    cases w
    case command c => exact congrArg Line.channel hl
    case connected r => cases r <;> cases he
    all_goals cases he
  all_goals cases he

-- Input for a connected view goes out on its channel at once.
theorem effects_of_input (he : t.event? = some (.input text))
    (hc : t.view.session.isConnected = true) (ht : text ≠ "") :
    t.effects =
      t.atOnce ++ (t.view.channel.map (Effect.transmit · (.input text))).toList := by
  rw [← attended_session] at hc
  have ha := (t.attended.session.step_step (.input text)).of_input hc ht
  have hh : t.heard.2 = [.send (.input text)] := by rw [heard_of_event he]; exact ha
  have hx : t.heard.1.channel = t.view.channel := by
    obtain ⟨s, hs⟩ := t.heard_view
    rw [hs, ← channel_of_input he]
  simp only [effects, outcome_eq, hh, View.performAll_cons, View.perform, View.performAll_nil, hx,
    List.append_nil]

theorem typed_eq (t : Turn) :
    t.typed = t.event?.elim [] fun e =>
      (t.view.session.takes e).flatMap fun text => (t.view.channel.map (·, text)).toList := by
  obtain ⟨v, s, c⟩ := t
  cases c
  case wake w =>
    cases w
    case command c =>
      have he : v.event? s (.command c) = (v.text? s c).map .input ∨ v.text? s c = none ∧
          v.event? s (.command c) = some .teardown := by
        cases c <;> first | exact .inl rfl | exact .inr ⟨rfl, rfl⟩
      simp only [typed, event?]
      obtain he | ⟨ht, he⟩ := he
      case inl =>
        rw [he]
        cases v.channel <;> cases v.text? s c <;> try simp
        case some.some channel text =>
          cases hc : v.session.isConnected <;> by_cases ht : text = "" <;>
            simp [Session.takes, hc, ht]
      case inr =>
        rw [he, ht]
        cases v.channel <;> simp [Session.takes]
    case connected r => cases r <;> rfl
    all_goals rfl
  all_goals rfl

-- What a turn sends is what it has been typed.
theorem inputs_eq_typed (t : Turn) : t.inputs = t.typed := by
  have quiet (h : t.heard.2.filterMap Action.input? = []) : t.inputs = [] := by
    simp only [inputs, effects, outcome_eq, List.filterMap_append, atOnce_inputs,
      View.performAll_inputs h]
    rfl
  rw [typed_eq]
  cases he : t.event?
  case none =>
    obtain ⟨n, hn, -⟩ := heard_of_no_event he
    apply quiet
    rw [hn]
    cases n <;> rfl
  case some e =>
    have hi : t.heard.2.filterMap Action.input? = t.view.session.takes e := by
      rw [heard_of_event he, ← attended_session]
      exact (t.attended.session.step_step e).inputs
    simp only [Option.elim_some]
    by_cases ht : t.view.session.takes e = []
    case pos =>
      rw [quiet (hi.trans ht), ht]
      rfl
    case neg =>
      cases e <;> try exact absurd rfl ht
      case input text =>
        obtain ⟨hc, hx⟩ : t.view.session.isConnected = true ∧ text ≠ "" :=
          Decidable.not_not.mp fun h => ht (if_neg h)
        rw [inputs, effects_of_input he hc hx, List.filterMap_append, atOnce_inputs,
          Session.takes, if_pos ⟨hc, hx⟩]
        cases t.view.channel <;> rfl

end Turn

end RemoteTerm
