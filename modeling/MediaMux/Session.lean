import MediaMux.Flow.Table
import MediaMux.Classifier
import MediaMux.Feedback.Reporter.Loop

/-!
# Sessions

A session has transports, the flows of outgoing RTP packets with their classifier, and the feedback
reporters that were started, the latest of which may still run. Packets are written through
`writeRtp`, which attaches a notifier while feedback is on; `inform` carries the outcome from a
notifier to the queue of its reporter.
-/

namespace MediaMux

open Feedback

inductive Watcher
  | noted (tag : String)
  /-- The queue of a reporter, with what is remembered of the packet. -/
  | tracked (reporter : Nat) (packet : SentPacket)
deriving DecidableEq

/-- The handle to the latest reporter. It can be waited for once. -/
structure FeedbackHandle where
  reporter : Nat
  joinable : Bool := true
deriving DecidableEq

/-- The flows of outgoing RTP packets. -/
structure RtpSender where
  table : FlowTable := {}
  classifier : Classifier := .uniform
  feedback : Option FeedbackHandle := none

/-- The last nanosecond of the seconds that 63 bits count. -/
def lastInstant : Nat := 9_223_372_036_854_775_807_999_999_999

/-- A session. Transports, reporters and sinks go by their places. -/
structure Session where
  env : Environment := {}
  transports : List (Transport Watcher) := []
  rtp : Option RtpSender := some {}
  reporters : List Reporter := []
  timer : Nat := 0
  /-- The last time that the timers can tell. -/
  horizon : Nat := lastInstant
  /-- Whether there is a runtime for reporters to run in. -/
  hasRuntime : Bool := true
  notes : List (String × Delivery) := []

namespace Session

/-- A session whose default flow has the id `id`, if one is given. -/
def start (id : Option Nat) (clock : Clock) (hasRuntime : Bool) (horizon : Nat) :
    Except FlowError Session := do
  let base ← match id with
    | none => .ok {}
    | some id => Flow.identified id
  return { env := { clock := clock }, rtp := some { table := { base := base } },
           hasRuntime := hasRuntime, horizon := horizon }

def log (s : Session) (e : JournalEntry) : Session := { s with env := s.env.log e }

/-! ### Transports -/

/-- Adds a transport; its place is the number of those before it. -/
def addTransport (s : Session) (traits : TransportTraits) : Session × Nat :=
  ({ s with transports := s.transports ++ [{ traits := traits }] }, s.transports.length)

def modifyTransport (s : Session) (place : Nat) (f : Transport Watcher → Transport Watcher) :
    Session :=
  { s with transports := s.transports.modify place f }

/-! ### Notifiers -/

def enqueue (s : Session) (reporter : Nat) (outcome : Outcome) : Session :=
  match s.reporters[reporter]? with
  | none => s
  | some r =>
    let next := r.enqueue s.env outcome
    { s with reporters := s.reporters.set reporter next.1, env := next.2 }

/-- Tells a watcher what became of its packet. An ack is stamped with the time it is told. -/
def inform (s : Session) (w : Watcher) (d : Delivery) : Session :=
  match w, d with
  | .noted tag, d => { s with notes := s.notes ++ [(tag, d)] }
  | .tracked reporter packet, .acked =>
    let (now, env) := s.env.now
    { s with env := env }.enqueue reporter (.acked ⟨packet, now⟩)
  | .tracked reporter packet, .lost =>
    s.enqueue reporter (.lost packet.ssrc packet.sequenceNumber)

/-- Resolves the notifier of the buffer `i` of a transport; false if it does not wait. -/
def resolve (s : Session) (place i : Nat) (d : Delivery) : Session × Bool :=
  match (s.transports[place]?).bind (·.heldAt? i) with
  | none => (s, false)
  | some w => ((s.modifyTransport place (·.release i)).inform w d, true)

/-- Resolves the notifiers of `count` buffers from `i` on, and counts those that waited. -/
def resolveRange (s : Session) (place i : Nat) (d : Delivery) : Nat → Session × Nat
  | 0 => (s, 0)
  | count + 1 =>
    let (s, waited) := s.resolve place i d
    let (s, others) := s.resolveRange place (i + 1) d count
    (s, (if waited then 1 else 0) + others)

/-- Drops a transport that nothing leads to any more: the notifiers that it holds are lost. -/
def abandonTransport (s : Session) (place : Nat) : Session :=
  match s.transports[place]? with
  | none => s
  | some t => (s.resolveRange place 0 .lost t.held.length).1

/-! ### Writing -/

def writeFlow (s : Session) (f : Flow) (payload : Bytes) : Session × Except FlowError Nat :=
  let (transports, outcome) := f.write s.transports payload
  let s := { s with transports := transports }
  match outcome with
  | .ok n => (s.log (.sent n), .ok n)
  | .error (.refused e) => (s.log .refused, .error (.refused e))
  | .error e => (s, .error e)

def writeFlowWatched (s : Session) (f : Flow) (payload : Bytes) (w : Watcher) :
    Session × Except FlowError Nat :=
  let (transports, outcome) := f.writeWatched s.transports payload w
  let s := { s with transports := transports }
  match outcome with
  | .ok (n, resolution) =>
    let s := match w with
      | .tracked reporter packet => s.log (.tracked reporter packet)
      | .noted _ => s
    let s := match resolution with
      | some d => s.inform w d
      | none => s
    (s.log (.sent n), .ok n)
  | .error (.refused e) => (s.log .refused, .error (.refused e))
  | .error e => (s, .error e)

/-- Writes packets back to back as one compound packet on a flow. -/
def writeCompound (s : Session) (f : Flow) (packets : List Serialized) :
    Session × Except FlowError Nat :=
  match Serialized.concat packets with
  | .error e => (s, .error e)
  | .ok payload => (s.log .compound).writeFlow f payload

/-- The number of the reporter that writes are tracked for: the latest, until it is to stop. -/
def tracker? (s : Session) : Option Nat := do
  let rtp ← s.rtp
  let handle ← rtp.feedback
  let r ← s.reporters[handle.reporter]?
  if r.toldToStop s.env then none else some handle.reporter

def writeRtp (s : Session) (header : RtpHeader) (payload : Bytes) :
    Session × Except FlowError Nat :=
  match s.rtp with
  | none => (s, .error .unbound)
  | some rtp =>
    match header.serialized.result with
    | .error e => (s, .error e)
    | .ok bytes =>
      let packet := bytes ++ payload
      let (priority, classifier) := rtp.classifier.classify header payload
      let s := { s with rtp := some { rtp with classifier := classifier } }
      match rtp.table.get? priority with
      | none => (s, .error (.noFlowFor priority))
      | some f =>
        match s.tracker? with
        | none => s.writeFlow f packet
        | some reporter =>
          let (now, env) := s.env.now
          { s with env := env }.writeFlowWatched f packet
            (.tracked reporter ⟨now, header.ssrc, packet.length, header.sequenceNumber⟩)

/-! ### Setting up the flows of RTP packets -/

def modifyRtp (s : Session) (f : RtpSender → RtpSender) : Session := { s with rtp := s.rtp.map f }

def bindRtp (s : Session) (place : Nat) : Session :=
  s.modifyRtp fun rtp => { rtp with table := rtp.table.bind place }

/-- Gives the class `p` a flow with the id `id`, bound to a transport. -/
def addRtpFlow (s : Session) (p : Priority) (id place : Nat) : Session × Except FlowError Unit :=
  match Flow.identified id with
  | .error e => (s, .error e)
  | .ok f => (s.modifyRtp fun rtp => { rtp with table := rtp.table.put p (f.bind place) }, .ok ())

def setClassifier (s : Session) (p : Classifier) : Session :=
  s.modifyRtp fun rtp => { rtp with classifier := p }

end Session

end MediaMux
