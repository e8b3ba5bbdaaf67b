/-!
# Clocks

A clock is read in nanoseconds. One with stride zero stands still until it is set, as in a rehearsed
session; one with a positive stride has moved on at every reading.
-/

namespace MediaMux

/-- A clock that shows `now`, and what a reading moves it by. -/
structure Clock where
  now : Nat := 0
  stride : Nat := 0
deriving DecidableEq

namespace Clock

/-- A reading, and the clock after it. -/
def read (c : Clock) : Nat × Clock := (c.now, { c with now := c.now + c.stride })

def set (c : Clock) (now : Nat) : Clock := { c with now := now }

end Clock

end MediaMux
