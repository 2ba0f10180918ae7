/-!
Ctrl, Alt and Shift, and sets of them.
-/

namespace RemoteTerm

inductive Modifier where
  | ctrl | alt | shift
deriving DecidableEq, Repr

structure Modifiers where
  ctrl  : Bool := false
  alt   : Bool := false
  shift : Bool := false
deriving DecidableEq, Repr

namespace Modifiers

instance : EmptyCollection Modifiers := ⟨{}⟩

instance : Inhabited Modifiers := ⟨∅⟩

def isEmpty (m : Modifiers) : Bool :=
  !(m.ctrl || m.alt || m.shift)

def contains (m : Modifiers) : Modifier → Bool
  | .ctrl  => m.ctrl
  | .alt   => m.alt
  | .shift => m.shift

def toggle (m : Modifiers) : Modifier → Modifiers
  | .ctrl  => { m with ctrl := !m.ctrl }
  | .alt   => { m with alt := !m.alt }
  | .shift => { m with shift := !m.shift }

theorem contains_empty (a : Modifier) : contains ∅ a = false := by
  cases a <;> rfl

theorem contains_toggle (m : Modifiers) (a b : Modifier) :
    (m.toggle a).contains b = if a = b then !m.contains b else m.contains b := by
  cases a <;> cases b <;> rfl

theorem isEmpty_iff {m : Modifiers} : m.isEmpty = true ↔ m = ∅ := by
  obtain ⟨c, a, s⟩ := m
  revert c a s
  decide

end Modifiers

end RemoteTerm
