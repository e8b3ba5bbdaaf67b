import MediaMux.Text.Outline

/-!
# Priority classes

A class is a signed 32-bit level; level 0 is the class that always has a flow.
-/

namespace MediaMux

/-- The priority class of an outgoing packet. -/
structure Priority where
  level : Int32
deriving DecidableEq, Inhabited

namespace Priority

/-- The class of packets that no rule singles out. -/
def default : Priority := ⟨0⟩

/-- The class at level `n`, wrapped to 32 bits. -/
def ofInt (n : Int) : Priority := ⟨Int32.ofInt n⟩

def toInt (p : Priority) : Int := p.level.toInt

instance : LT Priority := ⟨fun p q => p.level < q.level⟩

instance : DecidableLT Priority := fun p q => inferInstanceAs (Decidable (p.level < q.level))

def toText (p : Priority) : String := toString p.toInt

def outline (p : Priority) : Text.Outline := .applied "Priority" [.atom p.toText]

end Priority

end MediaMux
