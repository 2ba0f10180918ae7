import RemoteTerm.Proofs.Exchange.Waiting
/-!
The output that waits on a channel for the client. Only pushing adds to it, and what the client does
not take from it is lost only with its own end.
-/

namespace RemoteTerm

namespace Exchange

variable {x x' : Exchange} {i j : ChannelId} {chunk : Bytes}

def output (x : Exchange) (i : ChannelId) : List Bytes :=
  (x.channel? i).elim [] Channel.output

theorem output_of_channel? {c : Channel} (h : x.channel? i = some c) : x.output i = c.output := by
  rw [output, h]
  rfl

theorem output_of_length_le (h : x.channels.length ≤ i) : x.output i = [] := by
  rw [output, channel?, List.getElem?_eq_none h]
  rfl

theorem output_modify (x : Exchange) (i j : ChannelId) (f : Channel → Channel) :
    (x.modify j f).output i =
      if j = i then (x.channel? i).elim [] fun c => (f c).output else x.output i := by
  simp only [output, channel?, modify, List.getElem?_modify]
  split <;> cases x.channels[i]? <;> rfl

-- A change of one channel that the client does not see.
theorem output_modify_eq {f : Channel → Channel} (h : ∀ c, (f c).output = c.output) :
    (x.modify j f).output i = x.output i := by
  simp only [output_modify, h, ite_eq_right_iff]
  exact fun _ => rfl

theorem output_set {c c' : Channel} (h : x.channel? j = some c) :
    (x.modify j fun _ => c').output i = if j = i then c'.output else x.output i := by
  rw [output_modify]
  split
  case isTrue he => rw [← he, h]; rfl
  case isFalse   => rfl

theorem output_push {c : Channel} (h : x.channel? j = some c) :
    (x.push j chunk).output i = x.output i ++ if j = i then [chunk] else [] := by
  rw [push, output_modify]
  split
  case isTrue he => rw [← he, h, output_of_channel? h]; rfl
  case isFalse   => exact (List.append_nil _).symm

theorem output_send (x : Exchange) (i j : ChannelId) (frame : Frame) :
    (x.send j frame).1.output i = x.output i := by
  cases h : x.channel? j <;> simp only [send, h]
  case some c =>
    rw [output_set h]
    split
    case isFalse   => rfl
    case isTrue he =>
      rw [← he, output_of_channel? h, Channel.send]
      split <;> rfl

theorem output_closeClient (x : Exchange) (i j : ChannelId) :
    (x.closeClient j).output i = if j = i then [] else x.output i := by
  rw [closeClient, output_modify]
  split
  case isTrue  => cases x.channel? i <;> rfl
  case isFalse => rfl

theorem output_nextFrame {r : Receipt Frame} (h : x.nextFrame j = (x', r)) :
    x'.output i = x.output i := by
  obtain rfl := congrArg Prod.fst h
  cases hc : x.channel? j <;> simp only [nextFrame, hc]
  case some c =>
    rw [output_set hc]
    split
    case isFalse   => rfl
    case isTrue he =>
      rw [← he, output_of_channel? hc, Channel.nextFrame]
      split <;> rfl

-- The client takes the first of what waits.
theorem output_receive (h : x.receive j = (x', .item chunk)) :
    x.output i = (if j = i then [chunk] else []) ++ x'.output i := by
  cases hc : x.channel? j <;> simp only [receive, hc, Prod.mk.injEq, reduceCtorEq, and_false] at h
  case some c =>
    obtain ⟨rfl, hr⟩ := h
    rw [output_set hc]
    split
    case isFalse   => rfl
    case isTrue he =>
      rw [← he, output_of_channel? hc]
      cases ho : c.output <;> simp only [Channel.receive, ho] at hr ⊢
      case nil => split at hr <;> cases hr
      case cons first rest =>
        cases hr
        rfl

-- The output ends only after all of it has been taken, and only if the server is gone.
theorem output_ended (h : x.receive j = (x', .ended)) :
    x.output j = [] ∧ x.waiting? j = none := by
  cases hc : x.channel? j <;> simp only [receive, hc, Prod.mk.injEq] at h
  case none   => simp [output, waiting?, hc]
  case some c =>
    rw [output_of_channel? hc, waiting?_of_channel? hc]
    cases ho : c.output <;> simp only [Channel.receive, ho] at h
    case cons => cases h.2
    case nil  => cases hs : c.serverOpen <;> simp_all [Channel.waiting?]

theorem output_connect {r : Except TransportError ChannelId} (h : x.connect = (x', r)) :
    x'.output i = x.output i := by
  obtain rfl := congrArg Prod.fst h
  simp only [connect]
  split <;> try split
  case isFalse.isFalse =>
    simp only [output, channel?, List.getElem?_append]
    split
    case isTrue     => rfl
    case isFalse hi =>
      rw [List.getElem?_eq_none (Nat.not_lt.mp hi), List.getElem?_singleton]
      split <;> rfl
  all_goals rfl

-- By itself an exchange pushes a chunk of output, or leaves all output as it is.
theorem Moves.output (h : x.Moves x') :
    (∃ i c chunk, x.channel? i = some c ∧ c.isOpen = true ∧ x' = x.push i chunk) ∨
      ∀ i, x'.output i = x.output i := by
  cases h
  case push c i chunk hc ho => exact .inl ⟨i, c, chunk, hc, ho, rfl⟩
  case gate b               => exact .inr fun _ => rfl
  case hangUp j             => exact .inr fun _ => output_modify_eq fun _ => rfl
  case stranger             => exact .inr fun _ => output_connect rfl
  case accept =>
    simp only [Exchange.accept]
    split
    case h_1 => exact .inr fun _ => output_modify_eq fun _ => rfl
    case h_2 => exact .inr fun _ => rfl
  case dismiss =>
    refine .inr fun i => ?_
    simp only [Exchange.output, channel?, Exchange.dismiss, List.getElem?_map]
    cases x.channels[i]? with
    | none   => rfl
    | some c => cases h : c.accepted <;> simp [h, Channel.closeServer]

end Exchange

end RemoteTerm
