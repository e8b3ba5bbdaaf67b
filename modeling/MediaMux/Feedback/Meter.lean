/-!
# Meters

A meter is asked for the transport's own measurements whenever a report is put together. It may
have none, or have become unavailable, and being asked may cancel a token.
-/

namespace MediaMux.Feedback

/-- The name of something that can be cancelled, once and for good. -/
abbrev Token := String

/-- Measurements of a transport. Lengths of time are in nanoseconds. -/
structure Measurement where
  roundTrip : Option Nat := none
  lossPercent : Option Nat := none
deriving DecidableEq

/-- What a meter answers, nothing if it is unavailable, and the token that answering cancels. -/
structure Reading where
  measured : Option Measurement := some {}
  cancels : Option Token := none
deriving DecidableEq

def unavailableMessage : String := "metric source unavailable"

/-- A meter: its answer to each question, and how many it has answered. -/
structure Meter where
  readings : Nat → Reading := fun _ => {}
  answered : Nat := 0

namespace Meter

/-- The next answer, and the meter after it. -/
def read (m : Meter) : Reading × Meter :=
  (m.readings m.answered, { m with answered := m.answered + 1 })

def setReading (m : Meter) (reading : Reading) : Meter :=
  { m with readings := fun _ => reading }

end Meter

end MediaMux.Feedback
