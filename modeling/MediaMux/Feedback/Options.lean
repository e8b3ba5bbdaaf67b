/-!
# Options of the feedback reporter

What a session may leave open, and what the reporter runs with: an interval, a capacity and a batch
that are all positive. `Request.toOptions` refuses the first option that is zero.
-/

namespace MediaMux.Feedback

/-- The options as asked for. Lengths of time are in nanoseconds. -/
structure Request where
  interval : Option Nat := none
  /-- How many acked packets to keep for a stream until they are reported. -/
  capacity : Option Nat := none
  /-- How many acked packets make a report due before its time. -/
  batch : Option Nat := none

/-- The options that a reporter runs with. -/
structure Options where
  interval : Nat
  capacity : Nat
  batch : Nat
  interval_pos : 0 < interval
  capacity_pos : 0 < capacity
  batch_pos : 0 < batch

/-- The option that is zero. -/
inductive OptionsError
  | zeroInterval
  | zeroCapacity
  | zeroBatch
deriving DecidableEq

def OptionsError.message : OptionsError → String
  | zeroInterval => "invalid configuration: report_interval = 0"
  | zeroCapacity => "invalid configuration: max_window_per_ssrc = 0"
  | zeroBatch => "invalid configuration: max_report_batch = 0"

namespace Request

def intervalOrDefault (r : Request) : Nat := r.interval.getD 20_000_000

def capacityOrDefault (r : Request) : Nat := r.capacity.getD 4096

def batchOrDefault (r : Request) : Nat := r.batch.getD 1024

/-- The options to run with, if none is zero. -/
def toOptions (r : Request) : Except OptionsError Options :=
  if hi : 0 < r.intervalOrDefault then
    if hc : 0 < r.capacityOrDefault then
      if hb : 0 < r.batchOrDefault then
        .ok ⟨r.intervalOrDefault, r.capacityOrDefault, r.batchOrDefault, hi, hc, hb⟩
      else .error .zeroBatch
    else .error .zeroCapacity
  else .error .zeroInterval

end Request

end MediaMux.Feedback
