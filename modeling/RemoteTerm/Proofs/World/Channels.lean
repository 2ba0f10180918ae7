import RemoteTerm.Proofs.View.History
import RemoteTerm.Proofs.World.Delivery
/-!
The channels that the view of a world opens: each is a new one.
-/

namespace RemoteTerm

namespace World

open History

variable {w w' w₀ w₁ : World} {ls : List Label} {l : Label} {t : Turn} {o : View.Options}

-- The channels that have opened were numbered in that order, and the one that a connect has ended
-- with comes after them.
structure Ordered (ls : List Label) (w : World) : Prop where
  sorted : (opened (turns ls)).Pairwise (· < ·)
  known  : ∀ i ∈ opened (turns ls), i < w.exchange.channels.length
  done   : ∀ j, w.dial = some (.done (some j)) → ∀ i ∈ opened (turns ls), i < j

namespace Ordered

theorem aside (h : Ordered ls w) (ht : l.turn? = none)
    (hx : w.exchange.channels.length ≤ w'.exchange.channels.length)
    (hd : ∀ j, w'.dial = some (.done (some j)) →
      w.dial = some (.done (some j)) ∨ w.exchange.channels.length ≤ j) :
    Ordered (ls ++ [l]) w' := by
  constructor <;> rw [turns_append, ht, Option.toList_none, List.append_nil]
  case sorted => exact h.sorted
  case known  => exact fun i hi => Nat.lt_of_lt_of_le (h.known i hi) hx
  case done   =>
    intro j hj i hi
    obtain hj | hj := hd j hj
    case inl => exact h.done j hj i hi
    case inr => exact Nat.lt_of_lt_of_le (h.known i hi) hj

-- A turn opens no channel, or the one that a connect has ended with.
theorem turn (h : Ordered ls w) (hx : w₁.exchange.channels.length = w.exchange.channels.length)
    (hc : ∀ i, t.opened? = some i → i < w.exchange.channels.length)
    (hd : t.opened? = none ∧ w₁.dial = w.dial ∨
      w₁.dial = none ∧ ∀ i, t.opened? = some i → w.dial = some (.done (some i))) :
    Ordered (ls ++ [.turn t]) (w₁.take t) := by
  constructor <;> simp only [turns_append, Label.turn?, Option.toList_some, opened_concat,
    take_length, take_dial, hx]
  case sorted =>
    refine List.pairwise_append.mpr ⟨h.sorted, by cases t.opened? <;> simp, fun i hi j hj => ?_⟩
    have hj := Option.mem_toList.mp hj
    obtain ⟨hn, -⟩ | ⟨-, hd⟩ := hd
    case inl => simp [hn] at hj
    case inr => exact h.done j (hd j hj) i hi
  case known =>
    intro i hi
    obtain hi | hi := List.mem_append.mp hi
    case inl => exact h.known i hi
    case inr => exact hc i (Option.mem_toList.mp hi)
  case done =>
    intro j hj i hi
    have hj := Effect.of_foldl_dial hj
    obtain ⟨hn, hd⟩ | ⟨hd, -⟩ := hd
    case inl =>
      simp only [hn, Option.toList_none, List.append_nil] at hi
      exact h.done j (hd ▸ hj) i hi
    case inr => simp [hd] at hj

theorem step (h : Ordered ls w) (hc : ∀ i, w.dial = some (.done (some i)) →
    i < w.exchange.channels.length) (st : Step w l w') : Ordered (ls ++ [l]) w' := by
  cases st
  case start s hp hn     => exact h.turn rfl nofun (.inl ⟨rfl, rfl⟩)
  case tearDown s hp _ _ =>
    have ho := h.turn (t := ⟨w.view, s, .closing⟩) rfl nofun (.inl ⟨rfl, rfl⟩)
    exact ⟨ho.sorted, ho.known, ho.done⟩
  case wake c w' s hp of hn =>
    cases of
    case connected r hq hd =>
      refine h.turn rfl (fun i hi => hc i ?_) (.inr ⟨rfl, fun i hi => ?_⟩)
      all_goals rw [hd, show r = some i from hi]
    case output i x chunk _ _ hr =>
      exact h.turn (Exchange.length_receive hr) nofun (.inl ⟨rfl, rfl⟩)
    case timer τ _ _ _ _ => cases τ <;> exact h.turn rfl nofun (.inl ⟨rfl, rfl⟩)
    all_goals exact h.turn rfl nofun (.inl ⟨rfl, rfl⟩)
  case move hx => exact h.aside rfl hx.grows.1 fun _ => .inl
  case arrive hx =>
    have hl := Exchange.length_nextFrame hx
    exact h.aside rfl (Nat.le_of_eq hl.symm) fun _ => .inl
  case call hd => exact h.aside rfl (Nat.le_refl _) nofun
  case fail hd => exact h.aside rfl (Nat.le_refl _) nofun
  case answer x i hd hx =>
    obtain ⟨rfl, hl⟩ := Exchange.length_connect hx
    refine h.aside rfl (hl ▸ Nat.le_succ _) fun j hj => .inr ?_
    cases hj
    exact Nat.le_refl _
  all_goals exact h.aside rfl (Nat.le_refl _) fun _ => .inl

end Ordered

theorem Run.ordered (r : Run w₀ ls w) (f : w₀.Fresh o) : Ordered ls w := by
  induction r
  case refl         => exact ⟨.nil, nofun, nofun⟩
  case step r st hi => exact hi.step (fun i hi => ((r.delivered f).done i hi).2) st

-- No channel opens twice.
theorem Run.opened_nodup (r : Run w₀ ls w) (f : w₀.Fresh o) : (opened (turns ls)).Nodup :=
  (r.ordered f).sorted.imp Nat.ne_of_lt

end World

end RemoteTerm
