import RemoteTerm.Proofs.View.Agreement
import RemoteTerm.Proofs.World.Channels
import RemoteTerm.Proofs.World.Log
/-!
The server's idea of the size comes to that of the view on every channel, in whatever order channels
open and are lost, and the view changes its size.
-/

namespace RemoteTerm

namespace World

open History

variable {w w₀ : World} {ls : List Label} {o : View.Options}

theorem Run.sized (r : Run w₀ ls w) (f : w₀.Fresh o) :
    Sized o.redrawDelay (turns ls) w.view.sizing := by
  have lk := r.linked f
  by_cases hc : w.phase = .cold
  case pos =>
    rw [lk.view_of_cold f hc, (lk.cold hc).2]
    exact .nil _ rfl rfl
  case neg =>
    obtain ⟨id, hv⟩ := f.view
    have rv := lk.run hc
    rw [hv] at rv
    exact rv.sized (r.opened_nodup f)

-- A view that is connected and has no redraw before it has told its channel the size that it has.
theorem Run.agreed (r : Run w₀ ls w) (f : w₀.Fresh o) :
    Agreed o.redrawDelay (turns ls) ∧
      ∀ g, w.view.session.isConnected = true → w.view.session.grid = some g →
        w.view.redrawAt = none →
        ∃ i, w.view.channel = some i ∧ (sizes (turns ls) i).getLast? = some g := by
  have hs := r.sized f
  refine ⟨hs.toAgreed, fun g hx hg hd => ?_⟩
  have lk := r.linked f
  have hc : w.phase ≠ .cold := fun hc => by
    rw [lk.view_of_cold f hc] at hx
    cases hx
  have hi := View.channel_of_connected (lk.fits f hc).line hx
  obtain ⟨i, hi⟩ := Option.isSome_iff_exists.mp hi
  exact ⟨i, hi, hs.settled hx hi hg hd⟩

-- The first channel is lost before its redraw is due. The second one opens before that time, and
-- the view changes its size before the redraw of that one.
theorem agreed_quick_reconnect :
    ∃ o w₀ ls w, Fresh o w₀ ∧ Run w₀ ls w ∧ o.redrawDelay = .ofMillis 75 ∧
      sent (turns ls) 0 = [.resize ⟨80, 24⟩, .resize ⟨79, 24⟩] ∧
      sent (turns ls) 1 =
        [.resize ⟨80, 24⟩, .resize ⟨79, 24⟩, .resize ⟨100, 30⟩, .resize ⟨100, 30⟩] ∧
      w.now = 135000000 ∧ Agreed o.redrawDelay (turns ls) ∧
      ∃ i, w.view.channel = some i ∧ (sizes (turns ls) i).getLast? = some ⟨100, 30⟩ := by
  have f : Fresh { policy := { base := .ofMillis 10 }, debounce := .ofMillis 20 }
      { view := .create default _ } := ⟨⟨default, rfl⟩, rfl, rfl⟩
  have lost := Run.refl
    |>.step (.start ⟨0, none, "", none⟩ f.phase rfl)
    |>.step (.call rfl)
    |>.step (.answer rfl rfl)
    |>.step (.wait rfl rfl rfl)
    |>.step (.wake ⟨0, some ⟨80, 24⟩, "", none⟩ rfl (.connected rfl rfl) rfl)
    |>.step (.pass 50000000 (by decide))
    |>.step (.move (.hangUp 0))
    |>.step (.wait rfl rfl rfl)
    |>.step (.wake ⟨50000000, none, "", none⟩ rfl (.ended rfl rfl rfl) rfl)
  have again := lost
    |>.step (.pass 60000000 (by decide))
    |>.step (.wait rfl rfl rfl)
    |>.step (.wake ⟨60000000, none, "", none⟩ rfl
      (.timer (t := .reconnect) rfl rfl (by decide)) rfl)
    |>.step (.call rfl)
    |>.step (.answer rfl rfl)
    |>.step (.wait rfl rfl rfl)
    |>.step (.wake ⟨60000000, none, "", none⟩ rfl (.connected rfl rfl) rfl)
  have r := again
    |>.step (.post .resized)
    |>.step (.wait rfl rfl rfl)
    |>.step (.wake ⟨60000000, none, "", none⟩ rfl (.command rfl) rfl)
    |>.step (.pass 80000000 (by decide))
    |>.step (.wait rfl rfl rfl)
    |>.step (.wake ⟨80000000, some ⟨100, 30⟩, "", none⟩ rfl
      (.timer (t := .resize) rfl rfl (by decide)) rfl)
    |>.step (.pass 135000000 (by decide))
    |>.step (.wait rfl rfl rfl)
    |>.step (.wake ⟨135000000, none, "", none⟩ rfl
      (.timer (t := .redraw) rfl rfl (by decide)) rfl)
  have h := r.agreed f
  refine ⟨_, _, _, _, f, r, rfl, ?_, ?_, rfl, h.1, h.2 _ rfl rfl rfl⟩
  all_goals rfl

end World

end RemoteTerm
