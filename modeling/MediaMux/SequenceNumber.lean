/-!
# Sequence numbers

Packets of a stream are numbered modulo `2 ^ 16`. Two numbers have no order of their own; what is
well defined is how far one lies after another, counting across the wrap.
-/

namespace MediaMux

/-- The number of a packet in its stream, modulo `2 ^ 16`. -/
structure SequenceNumber where
  value : UInt16
deriving DecidableEq, Inhabited

namespace SequenceNumber

def ofNat (n : Nat) : SequenceNumber := ⟨UInt16.ofNat n⟩

def toNat (s : SequenceNumber) : Nat := s.value.toNat

/-- How many packets after `base` this one is, across the wrap. -/
def stepsAfter (s base : SequenceNumber) : Nat := (s.value - base.value).toNat

/-- The number `n` packets after `s`. -/
def advance (s : SequenceNumber) (n : Nat) : SequenceNumber := ⟨s.value + UInt16.ofNat n⟩

def toText (s : SequenceNumber) : String := toString s.toNat

theorem stepsAfter_self (s : SequenceNumber) : s.stepsAfter s = 0 := by
  simp [stepsAfter]

/-- Two numbers that lie equally far after a third are the same. -/
theorem stepsAfter_inj {s t base : SequenceNumber} :
    s.stepsAfter base = t.stepsAfter base ↔ s = t := by
  constructor
  · intro h
    have hvalue : s.value - base.value = t.value - base.value := UInt16.toNat_inj.mp h
    have hsame : s.value = t.value := by
      rw [← UInt16.sub_add_cancel s.value base.value, hvalue, UInt16.sub_add_cancel]
    cases s
    cases t
    exact congrArg SequenceNumber.mk hsame
  · rintro rfl
    rfl

theorem stepsAfter_eq_zero_iff {s base : SequenceNumber} : s.stepsAfter base = 0 ↔ s = base := by
  rw [← stepsAfter_self base, stepsAfter_inj]

theorem stepsAfter_advance {base : SequenceNumber} {n : Nat} (h : n < UInt16.size) :
    (base.advance n).stepsAfter base = n := by
  have hn : (UInt16.ofNat n).toNat = n := by simpa using Nat.mod_eq_of_lt h
  simp only [stepsAfter, advance]
  rw [UInt16.add_comm, UInt16.add_sub_cancel, hn]

end SequenceNumber

end MediaMux
