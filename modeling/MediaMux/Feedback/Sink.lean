import MediaMux.Feedback.Report

/-!
# Report sinks

A sink takes reports and keeps them until they are fetched, or refuses them. Queues refuse when
their receiver is gone or their capacity is used up; any other sink decides by a rule on the number
of the attempt and the report.
-/

namespace MediaMux.Feedback

inductive SinkError
  | receiverDropped
  | closed
  | full
  | refused (text : String)
deriving DecidableEq

def SinkError.message : SinkError → String
  | receiverDropped => "report receiver dropped"
  | closed => "error queueing report: channel closed"
  | full => "error queueing report: no available capacity"
  | refused text => text

/-- What decides whether a report is taken. -/
inductive SinkKind
  | unboundedQueue
  | boundedQueue (capacity : Nat)
  | rule (verdict : Nat → Report → Except String Unit)

/-- A sink, how many reports it was handed, and those it took that were not fetched yet. -/
structure Sink where
  kind : SinkKind
  attempts : Nat := 0
  waiting : List Report := []
  receiverDropped : Bool := false

namespace Sink

/-- A sink that refuses the first `n` reports. -/
def refusingFirst (n : Nat) : Sink where
  kind := .rule fun attempt _ =>
    if attempt < n then .error "congestion controller busy" else .ok ()

/-- A sink that takes the first `n` reports, or all. -/
def takingFirst (n : Option Nat) : Sink where
  kind := .rule fun attempt report =>
    if n.all (attempt < ·) then .ok () else .error ("closed for " ++ toString report.sender)

def isQueue (s : Sink) : Bool :=
  match s.kind with
  | .rule _ => false
  | _ => true

def verdict (s : Sink) (report : Report) : Except SinkError Unit :=
  match s.kind with
  | .unboundedQueue => if s.receiverDropped then .error .receiverDropped else .ok ()
  | .boundedQueue capacity =>
    if s.receiverDropped then .error .closed
    else if capacity ≤ s.waiting.length then .error .full
    else .ok ()
  | .rule verdict =>
    match verdict s.attempts report with
    | .ok () => .ok ()
    | .error text => .error (.refused text)

/-- Hands `report` to the sink. -/
def offer (s : Sink) (report : Report) : Sink × Except SinkError Unit :=
  let verdict := s.verdict report
  ({ s with
      attempts := s.attempts + 1
      waiting := match verdict with
        | .ok () => s.waiting ++ [report]
        | .error _ => s.waiting },
    verdict)

def offerAll (s : Sink) : List Report → Sink × List (Except SinkError Unit)
  | [] => (s, [])
  | report :: rest =>
    let (s, verdict) := s.offer report
    let (s, verdicts) := s.offerAll rest
    (s, verdict :: verdicts)

def take (s : Sink) : List Report × Sink := (s.waiting, { s with waiting := [] })

/-- Drops the receiver of a queue, with all that waits there. -/
def dropReceiver (s : Sink) : Sink :=
  if s.isQueue then { s with waiting := [], receiverDropped := true } else s

/-- Hands several reports to the sink, dropping its receiver before number `dropAt`. -/
def offerDropping (s : Sink) (dropAt : Option Nat) (reports : List Report) :
    Sink × List (Except SinkError Unit) :=
  match dropAt with
  | none => s.offerAll reports
  | some n =>
    if n < reports.length then
      let (s, first) := s.offerAll (reports.take n)
      let (s, others) := s.dropReceiver.offerAll (reports.drop n)
      (s, first ++ others)
    else s.offerAll reports

end Sink

end MediaMux.Feedback
