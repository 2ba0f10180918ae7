import RemoteTerm.Proofs.View.Settling
import RemoteTerm.Proofs.World.Log
/-!
Time in a world never goes back. So a burst of resizes, however long it is and whatever happens
meanwhile, comes to one measurement at most, after the burst.
-/

namespace RemoteTerm

namespace World

open History

-- The turns of a world are in the order of their times, and none is ahead of its clock.
structure Chronological (ls : List Label) (w : World) : Prop where
  ordered : (turns ls).Pairwise fun t u => t.around.now ≤ u.around.now
  past    : ∀ t ∈ turns ls, t.around.now ≤ w.now

-- How a world deals with resizes, by the quiet period that its view waits for.
structure Debounced (d : Duration) (ls : List Label) (w : World) : Prop where
  -- A measurement is pending from a resize on until it is made, the view is torn down, or another
  -- resize takes the place of the first one. Nothing else moves the time that it is due.
  pending : Armed d (turns ls) w.view.resizeAt
  made {pre t post} :
    turns ls = pre ++ t :: post → t.viewport?.isSome = true → Answers d pre t
  burst {pre seg post u} :
    turns ls = pre ++ seg ++ post → Burst d seg u → seg.countP (·.viewport?.isSome) ≤ 1
  -- When it is due, a view that waits is able to make it.
  onward {due s} :
    w.phase = .waiting → w.queue = [] → w.view.resizeAt = some due → due ≤ w.now → s.now = w.now →
    ∃ t w', Step w (.turn t) w' ∧ t.around = s ∧ t.viewport? = some s.measured

variable {w w' w₀ : World} {ls : List Label} {l : Label} {t : Turn} {o : View.Options}

theorem Step.now_le (st : Step w l w') : w.now ≤ w'.now := by
  cases st <;> try exact Nat.le_refl _
  case pass hn            => exact hn
  case start s _ _        => exact Nat.le_of_eq (w.take_now ⟨w.view, s, .start⟩).symm
  case tearDown s _ _ _   => exact Nat.le_of_eq (w.take_now ⟨w.view, s, .closing⟩).symm
  case wake c w₁ s _ of _ =>
    exact Nat.le_of_eq ((w₁.take_now ⟨w.view, s, .wake c⟩).trans of.now_eq).symm

theorem Step.now_eq (st : Step w l w') (h : l.turn? = some t) : t.around.now = w.now := by
  cases st <;> cases h <;> assumption

theorem Run.chronological (r : Run w₀ ls w) : Chronological ls w := by
  induction r
  case refl => exact ⟨.nil, List.forall_mem_nil _⟩
  case step ls w l w' r st hi =>
    have past : ∀ t ∈ turns ls, t.around.now ≤ w'.now :=
      fun t ht => Nat.le_trans (hi.past t ht) st.now_le
    constructor <;> rw [turns_append] <;> cases hl : l.turn?
    case ordered.none   => simpa using hi.ordered
    case past.none      => simpa using past
    case ordered.some t =>
      refine List.pairwise_append.mpr ⟨hi.ordered, List.pairwise_singleton .., fun u hu x hx => ?_⟩
      obtain rfl := List.mem_singleton.mp hx
      exact st.now_eq hl ▸ hi.past u hu
    case past.some t    =>
      refine List.forall_mem_append.mpr ⟨past, List.forall_mem_singleton.mpr ?_⟩
      exact st.now_eq hl ▸ st.now_le

-- In every run, however resizes come and whatever else goes on between them.
theorem Run.debounced (r : Run w₀ ls w) (f : w₀.Fresh o) : Debounced o.debounce ls w := by
  have lk := r.linked f
  have made {pre t post} (he : turns ls = pre ++ t :: post) (ht : t.viewport?.isSome = true) :
      Answers o.debounce pre t := by
    obtain hn | ⟨id, rv⟩ := lk.run_or f
    case inl => simp [hn] at he
    case inr => exact (he ▸ rv).answers ht
  constructor
  case made => exact made
  case pending =>
    by_cases hc : w.phase = .cold
    case pos =>
      rw [lk.view_of_cold f hc, (lk.cold hc).2]
      exact armed_of_none fun _ => awaits_nil
    case neg =>
      obtain ⟨id, hv⟩ := f.view
      exact (hv ▸ lk.run hc).armed
  case burst =>
    intro pre seg post u he b
    have hn : (pre ++ seg).Pairwise fun t u => t.around.now ≤ u.around.now :=
      (List.pairwise_append.mp (he ▸ r.chronological.ordered)).1
    obtain h | ⟨h, -⟩ := b.answered (fun hs => made (by rw [he, hs, List.append_assoc]; rfl)) hn
    all_goals omega
  case onward =>
    intro due s hp hq hd hn hs
    exact ⟨_, _, .wake s hp (.timer (t := .resize) hq hd hn) hs, rfl, rfl⟩

-- Two resizes 50 milliseconds apart, and a channel that is lost after them. The size that counts is
-- measured 100 milliseconds after the second one.
theorem debounced_lost_between :
    ∃ w₀ ls w, Fresh {} w₀ ∧ Run w₀ ls w ∧ Debounced (.ofMillis 100) ls w ∧
      (turns ls).map (fun t => (t.around.now, t.resized, t.viewport?)) =
        [(0, false, none), (0, false, none), (0, true, none), (50000000, true, none),
          (60000000, false, none), (150000000, false, some (some ⟨100, 30⟩))] ∧
      (turns ls).map (·.after.resizeAt) =
        [none, none, some 100000000, some 150000000, some 150000000, none] ∧
      w.view.session.grid = some ⟨100, 30⟩ := by
  have f : Fresh {} { view := .create default _ } := ⟨⟨default, rfl⟩, rfl, rfl⟩
  have resizes := Run.refl
    |>.step (.start ⟨0, none, "", none⟩ f.phase rfl)
    |>.step (.call rfl)
    |>.step (.answer rfl rfl)
    |>.step (.wait rfl rfl rfl)
    |>.step (.wake ⟨0, some ⟨80, 24⟩, "", none⟩ rfl (.connected rfl rfl) rfl)
    |>.step (.post .resized)
    |>.step (.wait rfl rfl rfl)
    |>.step (.wake ⟨0, some ⟨81, 24⟩, "", none⟩ rfl (.command rfl) rfl)
    |>.step (.pass 50000000 (by decide))
    |>.step (.post .resized)
    |>.step (.wait rfl rfl rfl)
    |>.step (.wake ⟨50000000, some ⟨90, 24⟩, "", none⟩ rfl (.command rfl) rfl)
  have r := resizes
    |>.step (.pass 60000000 (by decide))
    |>.step (.move (.hangUp 0))
    |>.step (.wait rfl rfl rfl)
    |>.step (.wake ⟨60000000, none, "", none⟩ rfl (.ended rfl rfl rfl) rfl)
    |>.step (.pass 150000000 (by decide))
    |>.step (.wait rfl rfl rfl)
    |>.step (.wake ⟨150000000, some ⟨100, 30⟩, "", none⟩ rfl
      (.timer (t := .resize) rfl rfl (by decide)) rfl)
  have h := r.debounced f
  exact ⟨_, _, _, f, r, h, rfl, rfl, rfl⟩

end World

end RemoteTerm
