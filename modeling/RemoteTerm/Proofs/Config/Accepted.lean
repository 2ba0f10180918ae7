import RemoteTerm.Proofs.Config.Resolve
import RemoteTerm.Proofs.Session.Backoff
/-!
What can be relied on in a configuration, wherever it comes from. Every way to one ends with the
check for flaws, and without a flaw the delays of the policy are steady.
-/

namespace RemoteTerm.Config

-- The configurations that come out of a text, out of a file, and of settings and a file.
inductive Obtained (c : Config) : Prop
  | text {t}              : ofText t = .ok c → Obtained c
  | file {r}              : load r = .ok c → Obtained c
  | settings {s env read} : resolve s env read = .ok c → Obtained c

-- What a client relies on in its configuration.
structure Valid (c : Config) : Prop where
  baseDelay : 0 < c.reconnect.baseDelay
  maxDelay  : c.reconnect.baseDelay ≤ c.reconnect.maxDelay
  cols      : c.terminal.cols ≠ 0
  rows      : c.terminal.rows ≠ 0
  session   : c.server.session ≠ ""

variable {c b : Config} {t : String} {r : Reading} {s : CommandLine.Settings} {env : Environment}
  {read : String → Reading}

theorem flaw?_eq_none_iff : c.flaw? = none ↔ c.Valid := by
  constructor
  case mp =>
    intro h
    simp only [flaw?] at h
    constructor <;> grind
  case mpr =>
    rintro ⟨hb, hm, hc, hr, hs⟩
    simp only [flaw?]
    grind

theorem flaw?_of_accept {ε : Type} {f : Flaw → ε} (h : b.accept.mapError f = .ok c) :
    c.flaw? = none := by
  obtain ⟨rfl, hf⟩ := accept_eq_ok_iff.mp (mapError_eq_ok_iff.mp h)
  exact hf

theorem flaw?_of_text (h : ofText t = .ok c) : c.flaw? = none := by
  simp only [ofText] at h
  split at h
  case h_1 => cases h
  case h_2 => exact flaw?_of_accept h

theorem flaw?_of_load (h : load r = .ok c) : c.flaw? = none := by
  cases hr : ofReading? r
  case none =>
    obtain ⟨e, he⟩ := load_of_none hr
    cases he.symm.trans h
  case some b => exact flaw?_of_accept (load_of_some hr ▸ h)

-- The settings are over the file before the last check, so that the check is about both.
theorem flaw?_of_resolve (h : resolve s env read = .ok c) : c.flaw? = none := by
  cases hc : filed? s env read
  case none =>
    obtain ⟨e, he⟩ := resolve_of_none hc
    cases he.symm.trans h
  case some b =>
    cases hb : b.flaw?
    case none   => exact flaw?_of_accept (resolve_of_accepted hc hb ▸ h)
    case some f =>
      obtain ⟨path, he⟩ := resolve_of_flawed hc hb
      cases he.symm.trans h

theorem Obtained.flaw?_eq_none : Obtained c → c.flaw? = none
  | text h     => flaw?_of_text h
  | file h     => flaw?_of_load h
  | settings h => flaw?_of_resolve h

-- Milliseconds become nanoseconds without a loss, be they as many as 64 bits can hold.
theorem Valid.steady (h : c.Valid) : c.policy.Steady := by
  have hb := UInt64.lt_iff_toNat_lt.mp h.baseDelay
  have hm := UInt64.le_iff_toNat_le.mp h.maxDelay
  apply Policy.steady
  · rw [policy, Duration.nanos_ofMillis]
    exact Nat.mul_pos hb (by decide)
  · rw [Duration.le_def, policy, Duration.nanos_ofMillis, Duration.nanos_ofMillis]
    exact Nat.mul_le_mul_right _ hm

theorem Obtained.dependable (h : Obtained c) : c.Valid ∧ c.policy.Steady :=
  have hv := flaw?_eq_none_iff.mp h.flaw?_eq_none
  ⟨hv, hv.steady⟩

-- A file with the shortest and the longest delay that it can have, and settings over it.
theorem Obtained.dependable_extreme :
    ∃ c, resolve { config := some "f.toml", session := some "ok" } []
        (fun _ => .content (Bytes.ofString
          "[reconnect]\nbase_delay_ms = 1\nmax_delay_ms = 9223372036854775807\n")) = .ok c ∧
      c.Valid ∧ c.policy.Steady := by
  have hf : filed? { config := some "f.toml", session := some "ok" } []
      (fun _ => .content (Bytes.ofString
        "[reconnect]\nbase_delay_ms = 1\nmax_delay_ms = 9223372036854775807\n")) =
        some { reconnect := { baseDelay := 1, maxDelay := 9223372036854775807 } } := by
    decide +kernel
  have hr := resolve_of_accepted hf (by decide)
  exact ⟨_, hr, Obtained.dependable (.settings hr)⟩

end RemoteTerm.Config
