import MediaMux.Feedback.Report

/-!
# The journal of a session

Everything that a session did and that is asked for afterwards, newest first. The metrics are read
off the journal: each is a count or a sum over its entries.
-/

namespace MediaMux

open Feedback

/-- Something that a session did. Reporters go by their number. -/
inductive JournalEntry
  | sent (bytes : Nat)
  | refused
  | compound
  /-- A packet was handed over with a notifier for a reporter. -/
  | tracked (reporter : Nat) (packet : SentPacket)
  | resolved (reporter : Nat) (outcome : Outcome) (late : Bool)
  | acked (reporter : Nat) (ack : Ack)
  | lost (reporter : Nat) (ssrc : Ssrc) (sequenceNumber : SequenceNumber)
  | evicted (reporter : Nat) (oldest : Option SentPacket)
  | sampled (reporter : Nat)
  /-- A reporter handed a report to its sink. -/
  | reported (reporter : Nat) (report : Report) (taken : Bool)
  /-- A reporter was stopped while it put a report together. -/
  | withdrawn (reporter : Nat) (report : Report)
  | discarded (reporter : Nat) (outcomes : List Outcome)
deriving DecidableEq

/-- What a session did, newest first. -/
abbrev Journal := List JournalEntry

/-- What is measured of a session. -/
structure Metrics where
  acked : Nat
  evicted : Nat
  reports : Nat
  late : Nat
  lost : Nat
  refusedReports : Nat
  compounds : Nat
  writes : Nat
  refusedWrites : Nat
  bytes : Nat
  /-- How long each ack took, in nanoseconds, oldest first. -/
  ackDelays : List Nat
deriving DecidableEq

namespace Journal

def metrics (j : Journal) : Metrics where
  acked := j.countP fun e => match e with | .acked .. => true | _ => false
  evicted := j.countP fun e => match e with | .evicted .. => true | _ => false
  reports := j.countP fun e => match e with | .reported .. => true | _ => false
  late := j.countP fun e => match e with | .resolved _ _ late => late | _ => false
  lost := j.countP fun e => match e with | .lost .. => true | _ => false
  refusedReports := j.countP fun e => match e with | .reported _ _ taken => !taken | _ => false
  compounds := j.countP fun e => match e with | .compound => true | _ => false
  writes := j.countP fun e => match e with | .sent .. => true | _ => false
  refusedWrites := j.countP fun e => match e with | .refused => true | _ => false
  bytes := total (fun e => match e with | .sent n => n | _ => 0) j
  ackDelays := (j.filterMap fun e => match e with | .acked _ a => some a.delay | _ => none).reverse

end Journal

/-- A length of time in seconds: the whole seconds and the rest, each rounded, then added. -/
def secondsOfNanos (n : Nat) : Float :=
  Float.ofNat (n / 1_000_000_000) + Float.ofNat (n % 1_000_000_000) / 1e9

end MediaMux
