import RemoteTerm.Key.Encoding
/-!
The latch of a view: modifiers that are armed by a tap and used up by the next stroke they apply to.
-/

namespace RemoteTerm

structure Latch where
  armed : Modifiers := ∅
deriving DecidableEq, Repr, Inhabited

-- A chunk of text on its way out, and whether the armed modifiers went into it.
structure EncodedText where
  data    : String
  applied : Bool
deriving DecidableEq, Repr

namespace Latch

def isActive (l : Latch) : Bool :=
  !l.armed.isEmpty

def toggle (l : Latch) (m : Modifier) : Latch :=
  ⟨l.armed.toggle m⟩

def disarm (_ : Latch) : Latch := {}

-- A stroke that the armed set can encode takes the whole set with it. Any other leaves it.
def encodeKey (l : Latch) (k : Key) : Latch × Option String :=
  match k.encodeLatched l.armed with
  | some s => (l.disarm, some s)
  | none   => (l, none)

def encodeText (l : Latch) (chunk : String) : Latch × EncodedText :=
  match encodeTextLatched chunk l.armed with
  | some s => (l.disarm, ⟨s, true⟩)
  | none   => (l, ⟨chunk, false⟩)

end Latch

end RemoteTerm
