/-!
# Round-trip estimates

The smoothed round-trip time and its mean variation after RFC 6298, in whole microseconds on 32-bit
words: the first sample sets both, and each later one moves the variation by a quarter and then the
smoothed time by an eighth. A sample that 32 bits do not hold counts as the largest that they do.
-/

namespace MediaMux.Feedback

/-- Estimates from samples, in microseconds. -/
structure RoundTripEstimate where
  smoothed : UInt32 := 0
  variation : UInt32 := 0
  /-- How many samples were seen, up to the largest number. -/
  count : UInt32 := 0
deriving DecidableEq

namespace RoundTripEstimate

/-- The whole microseconds of a sample in nanoseconds, as far as 32 bits hold them. -/
def micros (sample : Nat) : UInt32 := UInt32.ofNat (min (sample / 1000) (UInt32.size - 1))

def absDiff (a b : UInt32) : UInt32 := if a < b then b - a else a - b

/-- The estimates after one more sample, in nanoseconds. -/
def observe (e : RoundTripEstimate) (sample : Nat) : RoundTripEstimate :=
  let x := micros sample
  if e.count = 0 then
    { smoothed := x, variation := x / 2, count := 1 }
  else
    { variation :=
        ((e.variation.toUInt64 * 3 + (absDiff e.smoothed x).toUInt64) / 4).toUInt32
      smoothed := ((e.smoothed.toUInt64 * 7 + x.toUInt64) / 8).toUInt32
      count := if e.count = 0xffffffff then e.count else e.count + 1 }

/-- The smoothed round-trip time in nanoseconds, once there was a sample. -/
def smoothedTime? (e : RoundTripEstimate) : Option Nat :=
  if e.count = 0 then none else some (e.smoothed.toNat * 1000)

def variationTime (e : RoundTripEstimate) : Nat := e.variation.toNat * 1000

/-- The estimates before the first and after each sample. -/
def trace (e : RoundTripEstimate) : List Nat → List RoundTripEstimate
  | [] => [e]
  | sample :: rest => e :: trace (e.observe sample) rest

end RoundTripEstimate

end MediaMux.Feedback
