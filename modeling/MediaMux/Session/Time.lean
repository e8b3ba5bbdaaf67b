import MediaMux.Session.Feedback

/-!
# Time in a session

Reporters run while time passes and at no other point. `settle` lets them do what is to be done
now, `sleep` lets the time run on and stops at every tick that is due, `jump` moves it at once, and
`join` lets it run until the latest reporter has stopped. Ticks can be due between whole
milliseconds, but the time stops at whole ones only.
-/

namespace MediaMux

open Feedback

/-- How waiting for a reporter ended. -/
inductive JoinOutcome
  | joined
  | timeout
  | noFeedback
deriving DecidableEq

namespace Session

/-- Lets each of the reporters do what is to be done at the time `now`, the oldest first. -/
def settleAll (now : Nat) : List Reporter → Environment → List Reporter × Environment
  | [], env => ([], env)
  | r :: rest, env =>
    let settled := r.settle now env
    let others := settleAll now rest settled.2
    (settled.1 :: others.1, others.2)

def settle (s : Session) : Session :=
  let settled := settleAll s.timer s.reporters s.env
  { s with reporters := settled.1, env := settled.2 }

def millisecond : Nat := 1_000_000

/-- The first whole millisecond at or after `time`. -/
def wholeMillisecond (time : Nat) : Nat := (time + (millisecond - 1)) / millisecond * millisecond

/-- When the next tick of a reporter wakes it. -/
def nextWake? (s : Session) : Option Nat :=
  (s.reporters.filterMap Reporter.nextTick?).min?.map wholeMillisecond

/-- Lets the time run to `target`, stopping at every tick on the way, or until `done` holds. -/
def runUntil (target : Nat) (done : Session → Bool) (s : Session) : Session :=
  let settled := s.settle
  if done settled then settled
  else
    match settled.nextWake? with
    | none => { settled with timer := max s.timer target }.settle
    | some wake =>
      if s.timer < wake ∧ wake ≤ target then
        runUntil target done { settled with timer := wake }
      else { settled with timer := max s.timer target }.settle
termination_by target - s.timer
decreasing_by omega

def sleep (s : Session) (ms : Nat) : Session :=
  s.runUntil (s.timer + ms * millisecond) fun _ => false

def jump (s : Session) (ms : Nat) : Session :=
  { s.settle with timer := s.timer + ms * millisecond }.settle

def hasStopped (s : Session) (number : Nat) : Bool :=
  (s.reporters[number]?).all Reporter.isStopped

/-- Waits at most `ms` milliseconds for the latest reporter to stop. The handle can be waited on
once; later waits do not wait. A reporter that stops at the very end is not seen to. -/
def join (s : Session) (ms : Nat) : Session × JoinOutcome :=
  match s.feedback? with
  | none => (s.settle, .noFeedback)
  | some handle =>
    if handle.joinable && !s.hasStopped handle.reporter then
      let target := s.timer + ms * millisecond
      let s := s.modifyRtp fun rtp =>
        { rtp with feedback := some { handle with joinable := false } }
      let s := s.runUntil target fun s => s.hasStopped handle.reporter
      (s, if s.hasStopped handle.reporter && s.timer < target then .joined else .timeout)
    else (s.settle, .joined)

end Session

end MediaMux
