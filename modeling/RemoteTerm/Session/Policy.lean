import RemoteTerm.Time
/-!
How long to wait before each attempt to reconnect, and how often to try.
-/

namespace RemoteTerm

structure Policy where
  base        : Duration := .ofMillis 1000
  ceiling     : Duration := .ofMillis 30000
  maxAttempts : UInt32   := 10
deriving DecidableEq, Inhabited

namespace Policy

-- Two to the power of the attempt, as far as 32 bits can hold it.
def factor (attempt : UInt32) : Nat :=
  if attempt.toNat < 32 then Nat.pow 2 attempt.toNat else UInt32.size - 1

-- The delay before an attempt, counted from zero: it doubles each time up to the ceiling.
def delay (p : Policy) (attempt : UInt32) : Duration :=
  min (p.base.scale (factor attempt)) p.ceiling

theorem delay_le_ceiling (p : Policy) (n : UInt32) : p.delay n ≤ p.ceiling := by
  rw [Duration.le_def, delay, Duration.nanos_min]
  omega

theorem factor_pos (n : UInt32) : 0 < factor n := by
  unfold factor
  split
  · exact Nat.two_pow_pos _
  · decide

theorem factor_le_factor {m n : UInt32} (h : m ≤ n) : factor m ≤ factor n := by
  have h := UInt32.le_iff_toNat_le.1 h
  simp only [factor, Nat.pow_eq, UInt32.size]
  split <;> split
  · exact Nat.pow_le_pow_right (by decide) h
  · rename_i lt _
    have := Nat.pow_le_pow_right (n := 2) (by decide) (Nat.le_of_lt_succ lt)
    omega
  · omega
  · exact Nat.le_refl _

end Policy

end RemoteTerm
