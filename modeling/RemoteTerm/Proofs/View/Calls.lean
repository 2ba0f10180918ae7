import RemoteTerm.Proofs.View.Progress
/-!
The calls in a log. Each call is paid for from a credit, which only the opening of a channel fills up
again, and each attempt is one call.
-/

namespace RemoteTerm

namespace Log

def calls (es : Log) : Nat :=
  es.countP (·.2 = .call)

def opens (es : Log) : Nat :=
  es.countP (·.2 = .opened)

-- A part of a log in which the user is told nothing of the connection.
def Silent (es : Log) : Prop :=
  ∀ e ∈ es, ∀ n, e.2 ≠ .notice n

theorem calls_cons (e : Instant × Mark) (es : Log) : calls (e :: es) = calls [e] + calls es := by
  simp only [calls, List.countP_cons, List.countP_nil]
  omega

theorem opens_cons (e : Instant × Mark) (es : Log) : opens (e :: es) = opens [e] + opens es := by
  simp only [opens, List.countP_cons, List.countP_nil]
  omega

end Log

open Log

namespace Progress

-- How many calls can still be made before the next channel opens.
def credit (p : Policy) : Progress → Nat
  | first false        => p.maxAttempts.toNat + 1
  | first true         => p.maxAttempts.toNat
  | failed n _         => p.maxAttempts.toNat - n.toNat
  | retrying n _ false => p.maxAttempts.toNat - n.toNat + 1
  | retrying n _ true  => p.maxAttempts.toNat - n.toNat
  | up | back          => p.maxAttempts.toNat
  | exhausted | torn        => 0

-- How many calls are made before the user is told again of the connection.
def due : Progress → Nat
  | first false | retrying _ _ false => 1
  | _                                => 0

-- How far an attempt can get before the user is told again of the connection.
inductive Trying (n : UInt32) (t : Instant) : Progress → Prop
  | retrying {called} : Trying n t (.retrying n t called)
  | failed {u} : Trying n t (.failed n u)
  | back : Trying n t .back
  | torn : Trying n t .torn

variable {p : Policy} {a b : Progress} {es : Log} {e : Instant × Mark} {n : UInt32} {t u : Instant}

namespace Next

theorem credit_le (h : Next p a e b) :
    calls [e] + b.credit p ≤ a.credit p + p.maxAttempts.toNat * opens [e] := by
  cases h <;> simp only [calls, opens, credit]
  case retry n t hm =>
    have hm' := UInt32.lt_iff_toNat_lt.mp hm
    rw [toNat_succ hm]
    simp
    omega
  case dial | redial =>
    simp
    omega
  all_goals simp

theorem due_le (h : Next p a e b) (hn : ∀ m, e.2 ≠ .notice m) :
    calls [e] + b.due ≤ a.due ∧ (b = .torn ∨ calls [e] + b.due = a.due) := by
  cases h <;> simp_all [calls, due]

theorem trying (h : Next p a e b) (ha : a.Trying n t) (hn : ∀ m, e.2 ≠ .notice m) :
    b.Trying n t := by
  cases ha <;> cases h <;> first | constructor | exact absurd rfl (hn _)

-- Nothing comes after the end of all attempts but a teardown, and nothing else comes after that.
theorem teardown_of_ended (h : Next p a e b) (ha : a = .exhausted ∨ a = .torn) :
    e.2 = .teardown ∧ b = .torn := by
  obtain rfl | rfl := ha <;> cases h <;> exact ⟨rfl, rfl⟩

end Next

namespace Along

theorem credit_le (h : Along p a es b) :
    calls es + b.credit p ≤ a.credit p + p.maxAttempts.toNat * opens es := by
  induction h with
  | nil => simp [calls, opens]
  | cons hn _ hi =>
    have hc := hn.credit_le
    rw [calls_cons, opens_cons, Nat.mul_add]
    omega

theorem teardown_of_ended (h : Along p a es b) (ha : a = .exhausted ∨ a = .torn) :
    (∀ e ∈ es, e.2 = .teardown) ∧ (b = .torn ∨ es = [] ∧ b = a) := by
  induction h with
  | nil => simp
  | cons hn _ hi =>
    obtain ⟨he, rfl⟩ := hn.teardown_of_ended ha
    obtain ⟨hs, hb⟩ := hi (.inr rfl)
    exact ⟨List.forall_mem_cons.mpr ⟨he, hs⟩, .inl (hb.elim id And.right)⟩

theorem due_le (h : Along p a es b) (hn : Silent es) :
    calls es + b.due ≤ a.due ∧ (b = .torn ∨ calls es + b.due = a.due) := by
  induction h with
  | nil => simp [calls]
  | cons hx h hi =>
    obtain ⟨hn, hs⟩ := List.forall_mem_cons.mp hn
    obtain ⟨hl, he⟩ := hx.due_le hn
    obtain ⟨hl', he'⟩ := hi hs
    rw [calls_cons]
    refine ⟨by omega, ?_⟩
    obtain rfl | he := he
    case inl => exact .inl ((h.teardown_of_ended (.inr rfl)).2.elim id And.right)
    case inr => exact he'.imp id fun he' => by omega

theorem torn_mem (h : Along p a es b) (hb : b = .torn) :
    a = .torn ∨ ∃ u, (u, .teardown) ∈ es := by
  induction h with
  | nil => exact .inl hb
  | cons hx _ hi =>
    obtain rfl | ⟨u, hu⟩ := hi hb
    case inl => cases hx; exact .inr ⟨_, List.mem_cons_self⟩
    case inr => exact .inr ⟨u, List.mem_cons_of_mem _ hu⟩

theorem trying (h : Along p a es b) (ha : a.Trying n t) (hn : Silent es) : b.Trying n t := by
  induction h with
  | nil => exact ha
  | cons hx _ hi =>
    obtain ⟨hn, hs⟩ := List.forall_mem_cons.mp hn
    exact hi (hx.trying ha hn) hs

-- Where a log announces an attempt, a failure has come, and the attempt goes on from there.
theorem of_reconnecting {pre post : Log} {i m : UInt32}
    (h : Along p a (pre ++ (t, .notice (.reconnecting i m)) :: post) b) :
    ∃ n, Along p a pre (.failed n t) ∧ n < m ∧ i = n + 1 ∧ m = p.maxAttempts ∧
      Along p (.retrying i t false) post b := by
  obtain ⟨c, hpre, h⟩ := h.split
  cases h with
  | cons hx hpost =>
    cases hx
    case retry n hn => exact ⟨n, hpre, hn, rfl, rfl, hpost⟩

-- A failure is the last thing in a log that leads to one.
theorem of_failed (h : Along p (.first false) es (.failed n t)) :
    ∃ pre c, es = pre ++ [(t, .failure c)] ∧ c.tried = n := by
  obtain rfl | ⟨pre, e, rfl⟩ := es.eq_nil_or_concat
  case inl => cases h
  case inr =>
    rw [List.concat_eq_append] at h ⊢
    obtain ⟨c, -, h⟩ := h.split
    cases h with
    | cons hx h =>
      cases h
      cases hx <;> exact ⟨pre, _, rfl, rfl⟩

-- A failure of what was not an attempt already leaves all attempts to be made.
theorem calls_le_of_failure {c : Connection} {mid post : Log}
    (h : Along p a ((t, .failure c) :: (mid ++ post)) b) (hc : c = .connecting ∨ c = .connected)
    (hm : opens mid = 0) : calls mid ≤ p.maxAttempts.toNat := by
  cases h with
  | cons hx h =>
    obtain ⟨d, h, -⟩ := h.split
    have hl := h.credit_le
    rw [hm] at hl
    obtain rfl | rfl := hc <;> cases hx <;> simp [credit] at hl <;> omega

-- What comes after an attempt, in a part of a log that starts with it.
theorem of_notice {i : UInt32} {m : Notice} {mid post : Log}
    (h : Along p (.retrying i t false) (mid ++ (u, .notice m) :: post) b) (hs : Silent mid) :
    calls mid = 1 ∧ (m = .reconnecting (i + 1) p.maxAttempts ∨ m = .gaveUp ∨ m = .reconnected) := by
  obtain ⟨c, hm, h⟩ := h.split
  have ht := hm.trying .retrying hs
  have hd := (hm.due_le hs).2
  cases h with
  | cons hx => cases ht <;> cases hx <;> simp_all [due]

theorem of_call {i : UInt32} {mid post : Log}
    (h : Along p (.retrying i t false) (mid ++ (u, .call) :: post) b) (hs : Silent mid) :
    t.after (p.delay (i - 1)) ≤ u := by
  obtain ⟨c, hm, h⟩ := h.split
  have ht := hm.trying .retrying hs
  cases h with
  | cons hx =>
    cases ht <;> cases hx
    assumption

theorem of_gaveUp {pre post : Log} (h : Along p a (pre ++ (t, .notice .gaveUp) :: post) b) :
    (∀ e ∈ post, e.2 = .teardown) ∧ (post = [] → b = .exhausted) := by
  obtain ⟨c, -, h⟩ := h.split
  cases h with
  | cons hx h =>
    cases hx
    refine ⟨(h.teardown_of_ended (.inl rfl)).1, fun hp => ?_⟩
    subst hp
    cases h
    rfl

end Along

end Progress

end RemoteTerm
