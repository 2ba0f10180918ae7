import RemoteTerm.Session.Policy
/-!
How delays grow. By the rule the base doubles with each attempt up to the ceiling, however large the
numbers get. The delays keep to it up to attempt 31, and from then on only if the ceiling is within
reach of the largest factor. Where the base is not above the ceiling they never shrink, and lie
between the two.
-/

namespace RemoteTerm.Policy

-- The delay before an attempt by the rule, in nanoseconds that have no bound.
def doubled (p : Policy) (n : UInt32) : Nat :=
  min (p.base.nanos * Nat.pow 2 n.toNat) p.ceiling.nanos

-- What is expected of the delays of a policy, however many attempts there are.
structure Steady (p : Policy) : Prop where
  positive {n}  : 0 < (p.delay n).nanos
  growing {m n} : m ≤ n → p.base ≤ p.delay m ∧ p.delay m ≤ p.delay n ∧ p.delay n ≤ p.ceiling

variable {p : Policy} {m n : UInt32}

theorem factor_of_lt (h : n.toNat < 32) : factor n = Nat.pow 2 n.toNat :=
  if_pos h

theorem factor_of_le (h : 32 ≤ n.toNat) : factor n = UInt32.size - 1 :=
  if_neg (Nat.not_lt.mpr h)

-- No ceiling is beyond the longest duration, so a product that stops there makes no difference.
theorem nanos_delay (p : Policy) (n : UInt32) :
    (p.delay n).nanos = min (p.base.nanos * factor n) p.ceiling.nanos := by
  have h := p.ceiling.le_longest
  rw [delay, Duration.nanos_min, Duration.nanos_scale]
  omega

-- A delay is that of the rule, unless the largest factor is too small for it and the ceiling too
-- high to hide that.
theorem delay_eq_doubled_iff :
    (p.delay n).nanos = p.doubled n ↔
      n.toNat < 32 ∨ p.base.nanos = 0 ∨ p.ceiling.nanos ≤ p.base.nanos * (UInt32.size - 1) := by
  rw [nanos_delay, doubled]
  by_cases hn : n.toNat < 32
  case pos => simp [factor_of_lt hn, hn]
  case neg =>
    have hn := Nat.not_lt.mp hn
    rw [factor_of_le hn]
    -- A base of zero is not told from any multiple of it.
    by_cases hb : p.base.nanos = 0
    case pos => simp [hb]
    case neg =>
      have hf : UInt32.size ≤ Nat.pow 2 n.toNat := Nat.pow_le_pow_right (n := 2) (by decide) hn
      have hp : p.base.nanos * (UInt32.size - 1) < p.base.nanos * Nat.pow 2 n.toNat :=
        Nat.mul_lt_mul_of_pos_left (Nat.lt_of_lt_of_le (by decide) hf) (Nat.pos_of_ne_zero hb)
      have reached {x y c : Nat} (h : x < y) : min x c = min y c ↔ c ≤ x := by omega
      rw [reached hp]
      simp [hb, Nat.not_lt.mpr hn]

-- The base is one millisecond and the ceiling about 58 days. The delay is one millisecond short.
theorem delay_ne_doubled :
    (delay { base := .ofMillis 1, ceiling := .ofMillis 5000000000 } 32).nanos ≠
      doubled { base := .ofMillis 1, ceiling := .ofMillis 5000000000 } 32 := by
  decide +kernel

theorem base_le_delay (h : p.base ≤ p.ceiling) (n : UInt32) : p.base ≤ p.delay n := by
  have hf : p.base.nanos * 1 ≤ p.base.nanos * factor n :=
    Nat.mul_le_mul_left _ (factor_pos n)
  have h := Duration.le_def.mp h
  rw [Duration.le_def, nanos_delay]
  omega

theorem delay_le_delay (h : m ≤ n) : p.delay m ≤ p.delay n := by
  have hf := Nat.mul_le_mul_left p.base.nanos (factor_le_factor h)
  rw [Duration.le_def, nanos_delay, nanos_delay]
  omega

theorem steady (hb : 0 < p.base.nanos) (h : p.base ≤ p.ceiling) : p.Steady where
  positive {n} := Nat.lt_of_lt_of_le hb (base_le_delay h n)
  growing hmn  := ⟨base_le_delay h _, delay_le_delay hmn, delay_le_ceiling ..⟩

end RemoteTerm.Policy
