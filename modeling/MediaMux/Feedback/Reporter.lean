import MediaMux.Clock
import MediaMux.Journal
import MediaMux.Feedback.Backlog
import MediaMux.Feedback.Meter
import MediaMux.Feedback.Options
import MediaMux.Feedback.RoundTrip
import MediaMux.Feedback.Sink

/-!
# The feedback reporter

A reporter takes the outcomes of packets from its queue into its backlog, and hands reports on them
to its sink: at every tick, and as soon as a batch is complete. It is stopped by request, by its
parent token, or by a meter that is no longer available, and takes note of that between any
two actions and before it hands a report over. It also stops, without being told, if it would have
to wait for a tick later than its timer can tell.

What a reporter shares with the rest of its session is the `Environment`.
-/

namespace MediaMux.Feedback

/-- What the reporters of a session share. -/
structure Environment where
  clock : Clock := {}
  meter : Meter := {}
  cancelled : List Token := []
  sinks : List Sink := []
  journal : Journal := []

/-- Where a reporter asks for measurements. -/
inductive MeterKind
  /-- Nowhere: nothing is measured. -/
  | unmetered
  /-- At the meter of the session. -/
  | shared
deriving DecidableEq

inductive Phase
  | idle
  /-- It runs, and its next report is due at `nextTick`. -/
  | running (nextTick : Nat)
  | stopped
deriving DecidableEq

structure Reporter where
  number : Nat
  sender : Ssrc
  options : Options
  meter : MeterKind := .shared
  sink : Nat
  parent : Option Token := none
  /-- The last time that its timer can tell. -/
  horizon : Nat
  stopRequested : Bool := false
  phase : Phase := .idle
  queue : List Outcome := []
  backlog : Backlog
  estimate : RoundTripEstimate := {}

namespace Environment

def log (env : Environment) (e : JournalEntry) : Environment :=
  { env with journal := e :: env.journal }

def now (env : Environment) : Nat × Environment :=
  let (now, clock) := env.clock.read
  (now, { env with clock := clock })

def cancel (env : Environment) (token : Token) : Environment :=
  { env with cancelled := token :: env.cancelled }

/-- Hands a report to the sink at `place`, and tells whether it was taken. -/
def offer (env : Environment) (place : Nat) (report : Report) : Environment × Bool :=
  match env.sinks[place]? with
  | none => (env, false)
  | some s =>
    let (s, verdict) := s.offer report
    ({ env with sinks := env.sinks.set place s }, verdict.isOk)

end Environment

namespace Reporter

/-- A reporter that has not started to run. -/
def new (number : Nat) (sender : Ssrc) (options : Options) (meter : MeterKind) (sink : Nat)
    (parent : Option Token) (horizon : Nat) : Reporter where
  number := number
  sender := sender
  options := options
  meter := meter
  sink := sink
  parent := parent
  horizon := horizon
  backlog := { limit := options.capacity }

def toldToStop (r : Reporter) (env : Environment) : Bool :=
  r.stopRequested || r.parent.any env.cancelled.contains

def isStopped (r : Reporter) : Bool := r.phase = .stopped

def requestStop (r : Reporter) : Reporter := { r with stopRequested := true }

/-- Puts an outcome into the queue, or finds that the reporter has stopped. -/
def enqueue (r : Reporter) (env : Environment) (outcome : Outcome) :
    Reporter × Environment :=
  if r.isStopped then (r, env.log (.resolved r.number outcome true))
  else ({ r with queue := r.queue ++ [outcome] }, env.log (.resolved r.number outcome false))

/-- Asks the meter. Asking may cancel a token. -/
def measure (r : Reporter) (env : Environment) : Option Measurement × Environment :=
  let env := env.log (.sampled r.number)
  match r.meter with
  | .unmetered => (some {}, env)
  | .shared =>
    let (reading, meter) := env.meter.read
    let env := { env with meter := meter }
    (reading.measured, match reading.cancels with
      | some token => env.cancel token
      | none => env)

/-- Hands a report over, unless the reporter has been told to stop since it was begun. -/
def handOver (r : Reporter) (env : Environment) (report : Report) : Environment :=
  if r.toldToStop env then env.log (.withdrawn r.number report)
  else
    let (env, taken) := env.offer r.sink report
    env.log (.reported r.number report taken)

/-- Reports what waits in the backlog, if anything does. The round-trip time of the report is that
of the meter, or else the reporter's own estimate. -/
def makeReport (r : Reporter) (env : Environment) : Reporter × Environment :=
  if r.backlog.isEmpty then (r, env)
  else
    match r.measure env with
    | (none, env) => (r.requestStop, env)
    | (some measured, env) =>
      let (now, env) := env.now
      let roundTrip := measured.roundTrip.or r.estimate.smoothedTime?
      match r.backlog.drain r.sender now roundTrip with
      | (backlog, none) => ({ r with backlog := backlog }, env)
      | (backlog, some report) =>
        let r := { r with backlog := backlog }
        (r, r.handOver env report)

def takeIn (r : Reporter) (env : Environment) : Outcome → Reporter × Environment
  | .acked a =>
    let env := env.log (.acked r.number a)
    let (backlog, admission) := r.backlog.takeAck a
    ({ r with estimate := r.estimate.observe a.delay, backlog := backlog },
      match admission with
      | .added => env
      | .displacing oldest => env.log (.evicted r.number oldest))
  | .lost ssrc sequenceNumber =>
    ({ r with backlog := r.backlog.takeLoss ssrc }, env.log (.lost r.number ssrc sequenceNumber))

/-- Reports early if a batch is complete. -/
def reportBatch (r : Reporter) (env : Environment) : Reporter × Environment :=
  if r.options.batch ≤ r.backlog.waiting then r.makeReport env else (r, env)

/-- Stops for good. What is in the queue is discarded. -/
def close (r : Reporter) (env : Environment) : Reporter × Environment :=
  ({ r with phase := .stopped, queue := [] }, env.log (.discarded r.number r.queue))

/-- The tolerance for a tick that fires late, in nanoseconds. -/
def lateness : Nat := 5_000_000

/-- When the tick after the one that was due at `due` and fired at `now` is due: an interval after
it was due, or after it fired if it was late. -/
def tickAfter (interval due now : Nat) : Nat :=
  if due + lateness < now then now + interval else due + interval

/-- Whether the tick to wait for, after that due at `due` if it is due by `now`, is later than the
timer can tell. -/
def overruns (r : Reporter) (due now : Nat) : Bool :=
  r.horizon < if due ≤ now then tickAfter r.options.interval due now else due

def phaseName (r : Reporter) : String :=
  match r.phase with
  | .idle => "Idle"
  | .running _ => "Running"
  | .stopped => "Stopped"

def outline (r : Reporter) : Text.Outline :=
  .partialRecord "LocalFeedback" [("state", .atom r.phaseName)]

end Reporter

end MediaMux.Feedback
