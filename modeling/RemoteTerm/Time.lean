/-!
Points in time and lengths of time, in whole nanoseconds.
-/

namespace RemoteTerm

-- Nanoseconds since an origin that is the same for everything on one clock.
abbrev Instant := Nat

-- The most nanoseconds that a duration can hold: 64 bits of seconds and a fraction.
def Duration.longest : Nat := 18446744073709551615 * 1000000000 + 999999999

@[ext]
structure Duration where
  nanos : Nat
  le_longest : nanos ≤ Duration.longest
deriving DecidableEq

namespace Duration

-- The duration of so many nanoseconds, or the longest one.
def ofNanos (n : Nat) : Duration :=
  ⟨min n longest, Nat.min_le_right ..⟩

def ofMillis (n : UInt64) : Duration :=
  ofNanos (n.toNat * 1000000)

instance : Inhabited Duration := ⟨ofNanos 0⟩

-- A multiple of a duration stops at the longest one.
def scale (d : Duration) (n : Nat) : Duration :=
  ofNanos (d.nanos * n)

instance : Min Duration where
  min a b := if a.nanos ≤ b.nanos then a else b

instance : LE Duration where
  le a b := a.nanos ≤ b.nanos

theorem le_def {a b : Duration} : a ≤ b ↔ a.nanos ≤ b.nanos := Iff.rfl

theorem nanos_ofNanos (n : Nat) : (ofNanos n).nanos = min n longest := rfl

-- Every count of milliseconds that fits in 64 bits is a duration of its own.
theorem nanos_ofMillis (n : UInt64) : (ofMillis n).nanos = n.toNat * 1000000 := by
  have h : n.toNat < 18446744073709551616 := n.toNat_lt
  have e : longest = 18446744073709551615999999999 := by decide
  simp only [ofMillis, nanos_ofNanos, e]
  omega

theorem nanos_scale (d : Duration) (n : Nat) : (d.scale n).nanos = min (d.nanos * n) longest := rfl

theorem nanos_min (a b : Duration) : (min a b).nanos = min a.nanos b.nanos := by
  show (if a.nanos ≤ b.nanos then a else b).nanos = _
  split <;> omega

end Duration

namespace Instant

-- The time from one instant to a later one. Where the second is not later it is zero.
def since (now earlier : Instant) : Nat :=
  now - earlier

def after (t : Instant) (d : Duration) : Instant :=
  t + d.nanos

end Instant

end RemoteTerm
