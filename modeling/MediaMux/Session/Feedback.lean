import MediaMux.Session

/-!
# Feedback in a session

Starting a reporter, replacing and stopping it, and what can be asked of the latest one.
-/

namespace MediaMux

open Feedback

/-- Why no reporter was started. -/
inductive StartError
  | invalidOptions (cause : OptionsError)
  | noRuntime
deriving DecidableEq

/-- The messages of the failure, outermost first. -/
def StartError.chain : StartError → List String
  | invalidOptions cause => ["error validating feedback options", cause.message]
  | noRuntime =>
    ["local feedback generator needs a tokio runtime",
      "there is no reactor running, must be called from the context of a Tokio 1.x runtime"]

namespace Session

/-- Adds a sink; its place is the number of those before it. -/
def addSink (s : Session) (sink : Sink) : Session × Nat :=
  ({ s with env := { s.env with sinks := s.env.sinks ++ [sink] } }, s.env.sinks.length)

def modifySink (s : Session) (place : Nat) (f : Sink → Sink) : Session :=
  { s with env := { s.env with sinks := s.env.sinks.modify place f } }

/-- Whether a reporter can still hand reports to the sink at `place`. -/
def feedsSink (s : Session) (place : Nat) : Bool :=
  s.reporters.any fun r => r.sink = place && !r.isStopped

def feedback? (s : Session) : Option FeedbackHandle := s.rtp.bind (·.feedback)

def reporter? (s : Session) : Option Reporter :=
  s.feedback?.bind fun handle => s.reporters[handle.reporter]?

/-- Tells the latest reporter to stop, if it was not told to before. -/
def stopFeedback (s : Session) : Session :=
  match s.tracker? with
  | none => s
  | some number => { s with reporters := s.reporters.modify number (·.requestStop) }

/-- Starts a reporter and tells the one before it to stop. On a failure nothing changes, nor if
the flows of RTP packets were dropped: there is nothing left to give feedback on. -/
def startFeedback (s : Session) (sender : Ssrc) (request : Request) (meter : MeterKind)
    (sink : Nat) (parent : Option Token) : Session × Except StartError Unit :=
  match s.rtp with
  | none => (s, .ok ())
  | some rtp =>
    match request.toOptions with
    | .error e => (s, .error (.invalidOptions e))
    | .ok options =>
      if s.hasRuntime then
        let number := s.reporters.length
        let r := Reporter.new number sender options meter sink parent s.horizon
        let stopped := s.stopFeedback
        ({ stopped with
            reporters := stopped.reporters ++ [r]
            rtp := some { rtp with feedback := some { reporter := number } } },
          .ok ())
      else (s, .error .noRuntime)

/-- Drops the flows of RTP packets, which stops their reporter. -/
def dropRtp (s : Session) : Session := { s.stopFeedback with rtp := none }

def cancelToken (s : Session) (token : Token) : Session := { s with env := s.env.cancel token }

def setReading (s : Session) (reading : Reading) : Session :=
  { s with env := { s.env with meter := s.env.meter.setReading reading } }

def setClock (s : Session) (now : Nat) : Session :=
  { s with env := { s.env with clock := s.env.clock.set now } }

def rtpOutline? (s : Session) : Option Text.Outline := do
  let rtp ← s.rtp
  return .partialRecord "RtpFlow" [("flows", rtp.table.outline),
    ("local_feedback", .option (s.reporter?.map Reporter.outline))]

end Session

end MediaMux
