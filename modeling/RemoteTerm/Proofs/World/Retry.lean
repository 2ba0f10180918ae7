import RemoteTerm.Proofs.View.Calls
import RemoteTerm.Proofs.World.Log
/-!
How often a view tries to connect, and when.
-/

namespace RemoteTerm

open Log

namespace World

-- What a log says of the calls in it, and of the world that it has led to.
structure Restrained (p : Policy) (es : Log) (w : World) : Prop where
  -- After a failure there are only so many calls until a channel opens.
  outage {pre t c mid post} :
    es = pre ++ (t, .failure c) :: (mid ++ post) → c = .connecting ∨ c = .connected →
    opens mid = 0 → calls mid ≤ p.maxAttempts.toNat
  -- An attempt is announced as soon as a failure has come, and is numbered from that.
  cause {pre t i m post} :
    es = pre ++ (t, .notice (.reconnecting i m)) :: post →
    ∃ pre' c, pre = pre' ++ [(t, .failure c)] ∧ c.tried < m ∧ i = c.tried + 1 ∧ m = p.maxAttempts
  -- Each attempt is one call, and then the user is told what has come of it.
  once {pre t i m mid u n post} :
    es = pre ++ (t, .notice (.reconnecting i m)) :: (mid ++ (u, .notice n) :: post) → Silent mid →
    calls mid = 1 ∧ (n = .reconnecting (i + 1) m ∨ n = .gaveUp ∨ n = .reconnected)
  -- Until the user is told, the call is still to be made, or it has been made and is going on.
  -- Only a teardown cuts this short.
  pending {pre t i m mid} :
    es = pre ++ (t, .notice (.reconnecting i m)) :: mid → Silent mid →
    calls mid ≤ 1 ∧ (∃ u, (u, .teardown) ∈ mid) ∨
    calls mid = 0 ∧
      (w.view.reconnectAt = some (t.after (p.delay (i - 1))) ∨ w.dial = some .requested) ∨
    calls mid = 1 ∧ (w.dial = some .begun ∨ ∃ r, w.dial = some (.done r))
  -- The call is not made before its time.
  late {pre t i m mid u post} :
    es = pre ++ (t, .notice (.reconnecting i m)) :: (mid ++ (u, .call) :: post) → Silent mid →
    t.after (p.delay (i - 1)) ≤ u
  -- After the last attempt nothing comes but a teardown.
  gaveUp {pre t post} :
    es = pre ++ (t, .notice .gaveUp) :: post →
    (∀ e ∈ post, e.2 = .teardown) ∧
      (post = [] → w.view.session.connection = .exhausted ∧ w.view.session.closed = false)
  total : calls es ≤ 1 + p.maxAttempts.toNat * (1 + opens es)

variable {p : Policy} {w w₀ : World} {ls : List Label} {o : View.Options} {a : Progress} {es : Log}
  {i : UInt32} {t : Instant}

theorem called_eq_true {d : Option Dial} (h : called d = true) :
    d = some .begun ∨ ∃ r, d = some (.done r) := by
  cases d with
  | none => cases h
  | some d => cases d <;> simp_all [called]

-- Where the connect of an attempt has not been called, it is going to be.
theorem At.going {c : Bool} (h : w.At (.retrying i t c)) (lk : Linked w₀ ls w) (f : w₀.Fresh o) :
    c = false ∧ (w.view.reconnectAt = some (t.after (o.policy.delay (i - 1))) ∨
      w.dial = some .requested) ∨
    c = true ∧ (w.dial = some .begun ∨ ∃ r, w.dial = some (.done r)) := by
  obtain ⟨c, hc⟩ : ∃ c, called w.dial = c := ⟨_, rfl⟩
  rw [At, hc, lk.policy_eq f] at h
  cases h
  case retrying ho hx _ _ hr =>
    cases c
    case true  => exact .inr ⟨rfl, called_eq_true hc⟩
    case false =>
      refine .inl ⟨rfl, hr.imp id fun hr => ?_⟩
      have hp : w.phase ≠ .cold := fun hp => by
        rw [lk.view_of_cold f hp] at hx
        cases hx
      have fit := (lk.fits f hp).line
      simp only [Line.Fits, ho, hx, hr.1, iff_true] at fit
      obtain ⟨d, hd⟩ := Option.isSome_iff_exists.mp (lk.dial.trans fit.2)
      cases d <;> simp_all [called]

-- An attempt that the user has not been told of yet.
theorem At.pending {mid : Log} (hw : w.At a)
    (h : Progress.Along o.policy (.retrying i t false) mid a) (hs : Silent mid)
    (lk : Linked w₀ ls w) (f : w₀.Fresh o) :
    calls mid ≤ 1 ∧ (∃ u, (u, .teardown) ∈ mid) ∨
    calls mid = 0 ∧ (w.view.reconnectAt = some (t.after (o.policy.delay (i - 1))) ∨
      w.dial = some .requested) ∨
    calls mid = 1 ∧ (w.dial = some .begun ∨ ∃ r, w.dial = some (.done r)) := by
  have ht := h.trying .retrying hs
  have ⟨hl, hd⟩ := h.due_le hs
  cases ht
  case torn   => exact .inl ⟨hl, (h.torn_mem rfl).resolve_left nofun⟩
  case failed => cases hw
  case back   => cases hw
  case retrying c =>
    have hd := hd.resolve_left nofun
    obtain ⟨rfl, hg⟩ | ⟨rfl, hg⟩ := hw.going lk f
    case inl => exact .inr (.inl ⟨Nat.succ.inj hd, hg⟩)
    case inr => exact .inr (.inr ⟨hd, hg⟩)

theorem Run.restrained (r : Run w₀ ls w) (f : w₀.Fresh o) : Restrained o.policy (log ls) w := by
  obtain ⟨a, h, hw⟩ := r.along f
  constructor
  case outage =>
    intro pre t c mid post he hc hm
    obtain ⟨b, -, h⟩ := (he ▸ h).split
    exact h.calls_le_of_failure hc hm
  case cause =>
    intro pre t i m post he
    obtain ⟨n, hp, hn, hi, hm, -⟩ := (he ▸ h).of_reconnecting
    obtain ⟨pre', c, hp', rfl⟩ := hp.of_failed
    exact ⟨pre', c, hp', hn, hi, hm⟩
  case once =>
    intro pre t i m mid u n post he hs
    obtain ⟨k, -, -, -, hm, h⟩ := (he ▸ h).of_reconnecting
    exact hm ▸ h.of_notice hs
  case pending =>
    intro pre t i m mid he hs
    obtain ⟨k, -, -, -, -, h⟩ := (he ▸ h).of_reconnecting
    exact hw.pending h hs (r.linked f) f
  case late =>
    intro pre t i m mid u post he hs
    obtain ⟨k, -, -, -, -, h⟩ := (he ▸ h).of_reconnecting
    exact h.of_call hs
  case gaveUp =>
    intro pre t post he
    obtain ⟨ht, hp⟩ := (he ▸ h).of_gaveUp
    refine ⟨ht, fun hn => ?_⟩
    rw [hp hn] at hw
    cases hw
    case exhausted ho hx => exact ⟨hx, ho⟩
  case total =>
    have hl := h.credit_le
    simp only [Progress.credit] at hl
    rw [Nat.mul_add]
    omega

-- The first connect fails, and a second later so does the only attempt.
theorem restrained_gaveUp :
    ∃ w₀ ls w, Fresh { policy := { maxAttempts := 1 } } w₀ ∧ Run w₀ ls w ∧
      log ls =
        [(0, .call), (0, .failure .connecting), (0, .notice (.reconnecting 1 1)),
          (1000000000, .call), (1000000000, .failure (.reconnecting 1)),
          (1000000000, .notice .gaveUp)] ∧
      Restrained { maxAttempts := 1 } (log ls) w := by
  have f : Fresh { policy := { maxAttempts := 1 } } { view := .create default _ } :=
    ⟨⟨default, rfl⟩, rfl, rfl⟩
  have first := Run.refl
    |>.step (.start ⟨0, none, "", none⟩ f.phase rfl)
    |>.step (.call rfl)
    |>.step (.fail rfl)
    |>.step (.wait rfl rfl rfl)
    |>.step (.wake ⟨0, none, "", none⟩ rfl (.connected rfl rfl) rfl)
  have second := first
    |>.step (.pass 1000000000 (by decide))
    |>.step (.wait rfl rfl rfl)
    |>.step (.wake ⟨1000000000, none, "", none⟩ rfl
      (.timer (t := .reconnect) rfl rfl (by decide)) rfl)
    |>.step (.call rfl)
    |>.step (.fail rfl)
    |>.step (.wait rfl rfl rfl)
    |>.step (.wake ⟨1000000000, none, "", none⟩ rfl (.connected rfl rfl) rfl)
  have h := second.restrained f
  exact ⟨_, _, _, f, second, rfl, h⟩

end World

end RemoteTerm
