import Mathlib.Data.List.Forall2
import RemoteTerm.Json.Printer
import RemoteTerm.Proofs.Json.Spaced
/-!
Printing is a way of writing. What is printed are the tokens of a tree, without any blanks.
-/

namespace RemoteTerm.Json

variable {c : Char} {s : String} {q : Quoted}

theorem mod_sixteen_lt (n : Nat) : n % 16 < 16 :=
  Nat.mod_lt n (Nat.succ_pos 15)

-- The last hexadecimal digit of a number.
def lastDigit (n : Nat) : Fin 16 :=
  ⟨n % 16, mod_sixteen_lt n⟩

theorem unit?_digits (a b : Fin 16) :
    unit? '0' '0' (Hex.digit a) (Hex.digit b) = some (a.val * 16 + b.val) := by
  have hz : Hex.value? '0' = some 0 := rfl
  simp [unit?, hz, Hex.value?_digit, Hex.number]

-- A character as it is printed.
def Piece.of (c : Char) : Piece :=
  match c with
  | '"'    => .short '"' '"' rfl
  | '\\'   => .short '\\' '\\' rfl
  | '\x08' => .short 'b' '\x08' rfl
  | '\x0c' => .short 'f' '\x0c' rfl
  | '\n'   => .short 'n' '\n' rfl
  | '\r'   => .short 'r' '\r' rfl
  | '\t'   => .short 't' '\t' rfl
  | c =>
    if h : ' ' ≤ c ∧ c ≠ '"' ∧ c ≠ '\\' then .plain c h
    else
      let high := lastDigit (c.toNat / 16)
      let low := lastDigit c.toNat
      .unit '0' '0' (Hex.digit high) (Hex.digit low) (high.val * 16 + low.val)
        (unit?_digits high low)

theorem Piece.chars_of : (of c).chars = escape c := by
  fun_cases of c
  case case8 hq hb _ _ _ _ _ h =>
    rw [escape, if_neg (Char.not_lt.mpr h.1)] <;> first | rfl | assumption
  case case9 hq hb _ _ _ _ _ h _ _ =>
    have hc : c < ' ' := Char.not_le.mp fun hc => h ⟨hc, hq, hb⟩
    rw [escape, if_pos hc] <;> first | rfl | assumption
  all_goals rfl

-- The characters that stand for themselves.
theorem escape_eq_singleton_iff : escape c = [c] ↔ ' ' ≤ c ∧ c ≠ '"' ∧ c ≠ '\\' := by
  rw [← Piece.chars_of]
  fun_cases Piece.of c
  case case8 h     => exact iff_of_true rfl h
  case case9 h _ _ => exact iff_of_false (by simp [Piece.chars]) h
  all_goals decide

namespace Quoted

-- The units of control codes are no surrogates.
theorem text?_control {a b d e : Char} {u : Nat} {h : unit? a b d e = some u} (hu : u < 32) :
    text? (.unit a b d e u h :: q) = (text? q).map (Char.ofNat u :: ·) := by
  have ht : isTrail u = false := by simp [isTrail]; omega
  have hl : isLead u = false := by simp [isLead]; omega
  rw [text?.eq_def]
  simp only [ht, hl, Bool.false_eq_true, if_false]

theorem text?_of_cons : text? (Piece.of c :: q) = (text? q).map (c :: ·) := by
  fun_cases Piece.of c
  case case9 hq hb _ _ _ _ _ h high low =>
    have hn : c.toNat < 32 := Char.not_le.mp fun hc => h ⟨hc, hq, hb⟩
    have hu : high.val * 16 + low.val = c.toNat := by
      simp only [high, low, lastDigit]
      omega
    rw [text?_control (hu ▸ hn), hu, Char.ofNat_toNat]
  all_goals rfl

-- A string as it is printed.
def of (s : String) : Quoted :=
  s.toList.map Piece.of

theorem chars_of : (of s).chars = s.toList.flatMap escape := by
  simp [of, chars, List.flatMap_map, Piece.chars_of]

theorem string?_of : (of s).string? = some s := by
  have ht (cs : List Char) : text? (cs.map Piece.of) = some cs := by
    induction cs with
    | nil          => rfl
    | cons c cs hi => rw [List.map_cons, text?_of_cons, hi]; rfl
  rw [string?, of, ht, Option.map_some, String.ofList_toList]

end Quoted

theorem appendDigits_eq_ofDigitChars {n : Nat} {ds : List Char} :
    appendDigits n ds = Nat.ofDigitChars 10 ds n := by
  simp only [appendDigits, Nat.ofDigitChars, Nat.mul_comm]

-- A natural number as it is printed.
def Digits.of (n : Nat) : Digits where
  chars   := Nat.toDigits 10 n
  ne_nil  := Nat.toDigits_ne_nil
  isDigit := fun _ h => Nat.isDigit_of_mem_toDigits (by decide) (by decide) h

theorem Digits.value_of {n : Nat} : (of n).value = n := by
  rw [value, appendDigits_eq_ofDigitChars, of, Nat.ofDigitChars_ten_toDigits]

-- Only zero itself begins with zero.
theorem head?_toDigits {n : Nat} (h : (Nat.toDigits 10 n).head? = some '0') : n = 0 := by
  induction n using Nat.base_induction 10 (by decide) with
  | single n hn => simpa [Nat.toDigits_of_lt_base hn] using h
  | digit n d hd hn hi =>
    rw [← Nat.toDigits_append_toDigits (by decide) hn hd,
      List.head?_append_of_ne_nil _ Nat.toDigits_ne_nil] at h
    exact absurd (hi h) (Nat.ne_of_gt hn)

-- An integer as it is printed.
def Literal.of (n : Int) : Literal where
  negative := decide (n < 0)
  whole    := .of n.natAbs
  isZero h := by rw [head?_toDigits h]; exact Nat.le_refl 1

theorem Literal.chars_of {n : Int} : (of n).chars = (toString n).toList := by
  rw [Int.toString_eq_repr]
  cases n
  case ofNat m => simp [chars, magnitude, of, Digits.of, Int.repr]
  case negSucc m => simp [chars, magnitude, of, Digits.of, Int.repr]

theorem Literal.count?_of {n : Nat} : (of n).count? = some n := by
  simp [count?, of, Digits.value_of]

-- Tokens with the same blanks before each.
theorem spaced_flatMap (bs : List Char) (ts : List Token) (h : ∀ c ∈ bs, isBlank c = true) :
    Spaced ts (ts.flatMap fun t => bs ++ t.chars) := by
  induction ts with
  | nil          => exact .blank nofun
  | cons t ts hi => exact .token h hi

namespace Written

-- A tree is what is printed of a value.
def Prints (w : Written) (v : Json) : Prop :=
  w.tokens.flatMap Token.chars = v.toChars

namespace Prints

theorem null : Prints .null .null :=
  rfl

theorem bool {b : Bool} : Prints (.bool b) (.bool b) := by
  cases b <;> rfl

theorem string : Prints (.string (.of s)) (.string s) := by
  simp [Prints, tokens, Token.chars, Quoted.chars_of, toChars, quote]

theorem integer {n : Int} : Prints (.number (.of n)) (.integer n) := by
  simp [Prints, tokens, Token.chars, Literal.chars_of, toChars]

theorem object {ms : List (Quoted × Written)} {js : List (String × Json)}
    (h : List.Forall₂ (fun m j => m.1 = .of j.1 ∧ m.2.Prints j.2) ms js) :
    Prints (.object ms) (.object js) := by
  -- There is a comma before members that are not the first ones, unless there are none.
  have hm (first : Bool) : (membersTokens first ms).flatMap Token.chars =
      (if first ∨ js = [] then [] else [',']) ++ membersToChars js ++ ['\x7d'] := by
    induction h generalizing first with
    | nil => simp [membersTokens, membersToChars, Token.chars]
    | @cons m j ms js hw h hi =>
      obtain ⟨q, w⟩ := m
      obtain ⟨n, v⟩ := j
      obtain ⟨rfl, hw⟩ := hw
      simp only [Prints] at hw
      cases js <;> cases first <;>
        simp [membersTokens, membersToChars, hi, hw, Token.chars, Quoted.chars_of, quote]
  simp [Prints, tokens, toChars, hm, Token.chars]

end Prints

end Written

end RemoteTerm.Json
