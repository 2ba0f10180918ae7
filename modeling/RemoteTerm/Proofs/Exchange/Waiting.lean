import RemoteTerm.Proofs.View.Input
import RemoteTerm.Proofs.World
/-!
The input that waits on a channel for the server, as long as the server has not closed its end. Only
sending adds to it, and only the server takes from it.
-/

namespace RemoteTerm

-- The input that is for one channel.
def onChannel (i : ChannelId) (inputs : List (ChannelId × String)) : List String :=
  inputs.filterMap fun x => if x.1 = i then some x.2 else none

theorem onChannel_append {i : ChannelId} {xs ys : List (ChannelId × String)} :
    onChannel i (xs ++ ys) = onChannel i xs ++ onChannel i ys :=
  List.filterMap_append

def Channel.inputs (c : Channel) : List String :=
  c.frames.filterMap Frame.input?

-- What the server would still see of a channel.
def Channel.waiting? (c : Channel) : Option (List String) :=
  if c.serverOpen then some c.inputs else none

namespace Exchange

variable {x x' : Exchange} {i j : ChannelId} {frame : Frame}

def waiting? (x : Exchange) (i : ChannelId) : Option (List String) :=
  (x.channel? i).bind Channel.waiting?

theorem waiting?_modify (x : Exchange) (i j : ChannelId) (f : Channel → Channel) :
    (x.modify j f).waiting? i =
      if j = i then (x.channel? i).bind fun c => (f c).waiting? else x.waiting? i := by
  simp only [waiting?, channel?, modify, List.getElem?_modify]
  split <;> cases x.channels[i]? <;> rfl

-- A change of one channel that the server does not see.
theorem waiting?_modify_eq {f : Channel → Channel} (h : ∀ c, (f c).waiting? = c.waiting?) :
    (x.modify j f).waiting? i = x.waiting? i := by
  simp only [waiting?_modify, h, ite_eq_right_iff]
  exact fun _ => rfl

theorem waiting?_set {c c' : Channel} (h : x.channel? j = some c) :
    (x.modify j fun _ => c').waiting? i = if j = i then c'.waiting? else x.waiting? i := by
  rw [waiting?_modify]
  split
  case isTrue he => rw [← he, h]; rfl
  case isFalse   => rfl

theorem waiting?_of_channel? {c : Channel} (h : x.channel? i = some c) :
    x.waiting? i = c.waiting? := by
  rw [waiting?, h]
  rfl

theorem waiting?_closeClient (x : Exchange) (i j : ChannelId) :
    (x.closeClient j).waiting? i = x.waiting? i :=
  waiting?_modify_eq fun _ => rfl

theorem onChannel_input? (i j : ChannelId) (frame : Frame) :
    onChannel i (frame.input?.map (j, ·)).toList = if j = i then frame.input?.toList else [] := by
  cases frame.input? <;> by_cases h : j = i <;> simp [onChannel, h]

theorem waiting?_send (x : Exchange) (i j : ChannelId) (frame : Frame) :
    (x.send j frame).1.waiting? i =
      (x.waiting? i).map (· ++ onChannel i (frame.input?.map (j, ·)).toList) := by
  rw [onChannel_input?]
  cases h : x.channel? j
  case none =>
    simp only [send, h]
    split
    case isTrue he => rw [← he, waiting?, h]; rfl
    case isFalse   => simp
  case some c =>
    simp only [send, h, waiting?_set h]
    split
    case isFalse   => simp
    case isTrue he =>
      rw [← he, waiting?_of_channel? h]
      cases ho : c.serverOpen <;> cases hf : frame.input? <;>
        simp [Channel.send, Channel.waiting?, Channel.inputs, ho, hf]

theorem waiting?_receive {r : Receipt Bytes} (h : x.receive j = (x', r)) :
    x'.waiting? i = x.waiting? i := by
  obtain rfl := congrArg Prod.fst h
  cases hc : x.channel? j <;> simp only [receive, hc]
  case some c =>
    rw [waiting?_set hc]
    split
    case isFalse   => rfl
    case isTrue he =>
      rw [← he, waiting?_of_channel? hc, Channel.receive]
      split <;> rfl

-- The server takes the first of what waits.
theorem waiting?_nextFrame (h : x.nextFrame j = (x', .item frame)) :
    x.waiting? i = (x'.waiting? i).map (onChannel i (frame.input?.map (j, ·)).toList ++ ·) := by
  rw [onChannel_input?]
  cases hc : x.channel? j <;> simp only [nextFrame, hc, Prod.mk.injEq, reduceCtorEq, and_false] at h
  case some c =>
    obtain ⟨rfl, hf⟩ := h
    rw [waiting?_set hc]
    split
    case isFalse   => simp
    case isTrue he =>
      rw [← he, waiting?_of_channel? hc]
      cases hs : c.frames <;> simp only [Channel.nextFrame, hs] at hf
      case nil => split at hf <;> cases hf
      case cons first rest =>
        cases hf
        cases ho : c.serverOpen <;> cases hi : frame.input? <;>
          simp [Channel.nextFrame, Channel.waiting?, Channel.inputs, hs, ho, hi]

theorem length_receive {r : Receipt Bytes} (h : x.receive j = (x', r)) :
    x'.channels.length = x.channels.length := by
  obtain rfl := congrArg Prod.fst h
  cases hc : x.channel? j <;> simp [receive, hc, modify]

theorem length_nextFrame {r : Receipt Frame} (h : x.nextFrame j = (x', r)) :
    x'.channels.length = x.channels.length := by
  obtain rfl := congrArg Prod.fst h
  cases hc : x.channel? j <;> simp [nextFrame, hc, modify]

theorem lt_of_nextFrame (h : x.nextFrame j = (x', .item frame)) : j < x.channels.length := by
  apply Decidable.byContradiction
  intro hj
  have hc : x.channel? j = none := List.getElem?_eq_none (Nat.not_lt.mp hj)
  simp [nextFrame, hc] at h

theorem length_connect (h : x.connect = (x', .ok j)) :
    j = x.channels.length ∧ x'.channels.length = x.channels.length + 1 := by
  simp only [connect] at h
  split at h <;> try split at h
  all_goals cases h
  simp

-- What waits on a channel after something has happened waited there before, or the channel is new.
def Grows (x x' : Exchange) : Prop :=
  x.channels.length ≤ x'.channels.length ∧
    ∀ i texts, x'.waiting? i = some texts →
      x.waiting? i = some texts ∨ x.channel? i = none ∧ texts = []

-- A server that is gone does not come back.
theorem Grows.gone (h : x.Grows x') (hi : i < x.channels.length) (hn : x.waiting? i = none) :
    x'.waiting? i = none := by
  cases hw : x'.waiting? i
  case none       => rfl
  case some texts =>
    obtain hw | ⟨hc, -⟩ := h.2 i texts hw
    case inl => simp [hn] at hw
    case inr => exact absurd hi (Nat.not_lt.mpr (List.getElem?_eq_none_iff.mp hc))

theorem grows_of_modify {f : Channel → Channel}
    (h : ∀ c texts, (f c).waiting? = some texts → c.waiting? = some texts) :
    x.Grows (x.modify j f) := by
  refine ⟨by simp [modify], fun i texts hw => .inl ?_⟩
  rw [waiting?_modify] at hw
  split at hw
  case isFalse => exact hw
  case isTrue  =>
    obtain ⟨c, hc, hw⟩ := Option.bind_eq_some_iff.mp hw
    rw [waiting?_of_channel? hc]
    exact h c texts hw

theorem grows_connect (x : Exchange) : x.Grows x.connect.1 := by
  simp only [connect]
  split
  case isTrue => exact ⟨Nat.le_refl _, fun _ _ => .inl⟩
  case isFalse =>
    split
    case isTrue => exact ⟨Nat.le_refl _, fun _ _ => .inl⟩
    case isFalse =>
      refine ⟨by simp, fun i texts hw => ?_⟩
      simp only [waiting?, channel?] at hw ⊢
      rw [List.getElem?_append] at hw
      split at hw
      case isTrue     => exact .inl hw
      case isFalse hi =>
        obtain ⟨c, hc, hw⟩ := Option.bind_eq_some_iff.mp hw
        rw [List.getElem?_singleton, Option.ite_none_right_eq_some] at hc
        obtain rfl := Option.some.inj hc.2
        exact .inr ⟨List.getElem?_eq_none (Nat.not_lt.mp hi), (Option.some.inj hw).symm⟩

theorem Moves.grows (h : x.Moves x') : x.Grows x' := by
  cases h
  case accept =>
    simp only [Exchange.accept]
    split
    case h_1 => exact grows_of_modify fun _ _ => id
    case h_2 => exact ⟨Nat.le_refl _, fun _ _ => .inl⟩
  case gate b => exact ⟨Nat.le_refl _, fun _ _ => .inl⟩
  case dismiss =>
    refine ⟨by simp [Exchange.dismiss], fun i texts hw => .inl ?_⟩
    simp only [waiting?, channel?, Exchange.dismiss, List.getElem?_map] at hw ⊢
    cases hc : x.channels[i]? <;> rw [hc] at hw
    case none   => exact hw
    case some c => cases ha : c.accepted <;> simp_all [Channel.waiting?, Channel.closeServer]
  case push => exact grows_of_modify fun _ _ => id
  case hangUp => exact grows_of_modify fun _ _ => nofun
  case stranger => exact x.grows_connect

end Exchange

end RemoteTerm
