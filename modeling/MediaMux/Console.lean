import MediaMux.Demuxer
import MediaMux.Session.Time

/-!
# A session under names

A console holds a session whose transports, flows, receivers and sinks have names. Giving a name
again replaces what had it. A transport that has neither a name nor a flow is dropped with the
notifiers that it holds.

The clock of a rehearsed session follows the dial of the console. A live session has a clock of its
own.
-/

namespace MediaMux

open Feedback

/-- A session and the names of its parts. -/
structure Console where
  session : Session
  isLive : Bool := false
  dial : Nat := 0
  transports : Keyed String Nat := []
  flows : Keyed String Flow := []
  compounds : Keyed String Flow := []
  demuxer : Demuxer := {}
  receivers : Keyed String Nat := []
  sinks : Keyed String Nat := []

namespace Console

/-- A console with a new session whose default flow has the id `id`, if one is given. -/
def start (id : Option Nat) (isLive hasRuntime : Bool) : Except FlowError Console := do
  let clock : Clock := { stride := if isLive then 1 else 0 }
  return { session := ← Session.start id clock hasRuntime lastInstant, isLive := isLive }

def modify (c : Console) (f : Session → Session) : Console := { c with session := f c.session }

/-! ### Clock -/

def setDial (c : Console) (now : Nat) : Console :=
  let c := { c with dial := now }
  if c.isLive then c else c.modify (·.setClock now)

/-- Turns the dial by a number of nanoseconds, back to zero at most. -/
def turnDial (c : Console) (nanos : Int) : Console := c.setDial (c.dial + nanos).toNat

/-! ### Transports -/

def transportAt? (c : Console) (place : Nat) : Option (Transport Watcher) :=
  c.session.transports[place]?

def transport? (c : Console) (name : String) : Option (Transport Watcher) :=
  (c.transports.get? name).bind c.transportAt?

def allFlows (c : Console) : List Flow :=
  c.flows.map (·.2) ++ c.compounds.map (·.2) ++
    match c.session.rtp with
    | some rtp => rtp.table.entries.map (·.2)
    | none => []

/-- Whether a name or a flow leads to the transport at `place`. -/
def reaches (c : Console) (place : Nat) : Bool :=
  c.transports.any (fun e => e.2 = place) || c.allFlows.any fun f => f.transport = some place

/-- Drops the transports that nothing leads to. -/
def reclaim (c : Console) : Console :=
  c.modify fun s => (List.range s.transports.length).foldl
    (fun s place => if c.reaches place then s else s.abandonTransport place) s

def addTransport (c : Console) (name : String) (traits : TransportTraits) : Console :=
  let (s, place) := c.session.addTransport traits
  { c with session := s, transports := c.transports.put name place }.reclaim

def modifyTransport (c : Console) (name : String) (f : Transport Watcher → Transport Watcher) :
    Console :=
  match c.transports.get? name with
  | some place => c.modify (·.modifyTransport place f)
  | none => c

def takeBuffers (c : Console) (name : String) : List Bytes × Console :=
  (((c.transport? name).map (·.buffers)).getD [], c.modifyTransport name (·.takeBuffers.2))

/-- Resolves notifiers that a transport holds, and counts those that waited. -/
def resolve (c : Console) (name : String) (i count : Nat) (d : Delivery) : Console × Nat :=
  match c.transports.get? name with
  | some place =>
    let (s, n) := c.session.resolveRange place i d count
    ({ c with session := s }, n)
  | none => (c, 0)

/-- Lets `use` have the place of the transport `name`, and drops what nothing leads to then. -/
def withTransport (c : Console) (name : String) (use : Console → Nat → Console) : Console :=
  match c.transports.get? name with
  | some place => (use c place).reclaim
  | none => c

/-! ### Flows -/

def newFlow : Option Nat → Except FlowError Flow
  | some id => Flow.identified id
  | none => .ok {}

/-- Adds a flow; one that cannot have its id leaves the former flow in place. -/
def addFlow (c : Console) (name : String) (id : Option Nat) : Console × Except FlowError Flow :=
  match newFlow id with
  | .ok f => ({ c with flows := c.flows.put name f }.reclaim, .ok f)
  | .error e => (c, .error e)

def bindFlow (c : Console) (name transport : String) : Console :=
  c.withTransport transport fun c place =>
    match c.flows.get? name with
    | some f => { c with flows := c.flows.put name (f.bind place) }
    | none => c

/-- Drops a flow; false if there is none of that name. -/
def dropFlow (c : Console) (name : String) : Console × Bool :=
  ({ c with flows := c.flows.remove name }.reclaim, (c.flows.get? name).isSome)

/-- Writes a payload on a flow, with a notifier that notes under `tag` if one is given. -/
def writeFlow (c : Console) (f : Flow) (payload : Bytes) (tag : Option String) :
    Console × Except FlowError Nat :=
  let (s, outcome) := match tag with
    | none => c.session.writeFlow f payload
    | some tag => c.session.writeFlowWatched f payload (.noted tag)
  ({ c with session := s }, outcome)

def takeNotes (c : Console) : List (String × Delivery) × Console :=
  (c.session.notes, c.modify fun s => { s with notes := [] })

def addCompound (c : Console) (name : String) (id : Option Nat) :
    Console × Except FlowError Flow :=
  match newFlow id with
  | .ok f => ({ c with compounds := c.compounds.put name f }.reclaim, .ok f)
  | .error e => (c, .error e)

def bindCompound (c : Console) (name transport : String) : Console :=
  c.withTransport transport fun c place =>
    match c.compounds.get? name with
    | some f => { c with compounds := c.compounds.put name (f.bind place) }
    | none => c

def writeCompound (c : Console) (f : Flow) (packets : List Serialized) :
    Console × Except FlowError Nat :=
  let (s, outcome) := c.session.writeCompound f packets
  ({ c with session := s }, outcome)

/-! ### Demultiplexing -/

/-- Drops the receiver `name`; false if there is none. -/
def dropReceiver (c : Console) (name : String) : Console × Bool :=
  match c.receivers.get? name with
  | some place =>
    ({ c with demuxer := c.demuxer.dropReceiver place, receivers := c.receivers.remove name }, true)
  | none => (c, false)

/-- Subscribes to an id, with the receiver under `name`. The former receiver of that name is
dropped. -/
def subscribe (c : Console) (id : Nat) (name : String) : Console :=
  let (d, place) := c.demuxer.subscribe id
  let c := ({ c with demuxer := d }.dropReceiver name).1
  { c with receivers := c.receivers.put name place }

/-- Ends the subscription to an id; false if there is none. -/
def unsubscribe (c : Console) (id : Nat) : Console × Bool :=
  let (d, existed) := c.demuxer.unsubscribe id
  ({ c with demuxer := d }, existed)

def route (c : Console) (packets : List Bytes) : Console × List (Except FlowError Nat) :=
  let (d, outcomes) := c.demuxer.routeAll packets
  ({ c with demuxer := d }, outcomes)

/-- Takes what waits for the receiver `name`, and whether more can come. -/
def receive (c : Console) (name : String) : Console × Option (List Bytes × Bool) :=
  match c.receivers.get? name with
  | some place =>
    let (d, payloads) := c.demuxer.receive place
    ({ c with demuxer := d }, some (payloads, c.demuxer.canReceive place))
  | none => (c, none)

/-- Closes the receiver `name`. -/
def closeReceiver (c : Console) (name : String) : Console :=
  match c.receivers.get? name with
  | some place => { c with demuxer := c.demuxer.close place }
  | none => c

/-! ### RTP packets -/

def bindRtp (c : Console) (transport : String) : Console :=
  c.withTransport transport fun c place => c.modify (·.bindRtp place)

def addRtpFlow (c : Console) (p : Priority) (id : Nat) (transport : String) :
    Console × Except FlowError Unit :=
  match c.transports.get? transport with
  | some place =>
    let (s, outcome) := c.session.addRtpFlow p id place
    ({ c with session := s }.reclaim, outcome)
  | none => (c, .ok ())

def writeRtp (c : Console) (payload : Bytes) :
    List RtpHeader → Console × List (Except FlowError Nat)
  | [] => (c, [])
  | header :: rest =>
    let (s, outcome) := c.session.writeRtp header payload
    let (c, outcomes) := { c with session := s }.writeRtp payload rest
    (c, outcome :: outcomes)

def dropRtp (c : Console) : Console × Bool :=
  ((c.modify (·.dropRtp)).reclaim, c.session.rtp.isSome)

/-! ### Feedback -/

def modifySink (c : Console) (name : String) (f : Sink → Sink) : Console :=
  match c.sinks.get? name with
  | some place => c.modify (·.modifySink place f)
  | none => c

/-- Adds a sink. The receiver of the former sink of that name is dropped, also if a reporter still
feeds it. -/
def addSink (c : Console) (name : String) (sink : Sink) : Console :=
  let c := c.modifySink name (·.dropReceiver)
  let (s, place) := c.session.addSink sink
  { c with session := s, sinks := c.sinks.put name place }

/-- Starts a reporter that reports to the sink `name`. -/
def startFeedback (c : Console) (sender : Ssrc) (request : Request) (meter : MeterKind)
    (name : String) (parent : Option Token) : Console × Except StartError Unit :=
  match c.sinks.get? name with
  | some place =>
    let (s, outcome) := c.session.startFeedback sender request meter place parent
    ({ c with session := s }, outcome)
  | none => (c, .ok ())

def sink? (c : Console) (name : String) : Option Sink :=
  (c.sinks.get? name).bind fun place => c.session.env.sinks[place]?

/-- Whether a reporter can still hand reports to the sink `name`. -/
def feedsSink (c : Console) (name : String) : Bool :=
  (c.sinks.get? name).any c.session.feedsSink

/-- Hands the last report that a sink took to it again. -/
def redeliver (c : Console) (name : String) : Console × Option (Except SinkError Unit) :=
  match c.sink? name with
  | some s =>
    match s.waiting.getLast? with
    | some report =>
      let (s, verdict) := s.offer report
      (c.modifySink name fun _ => s, some verdict)
    | none => (c, none)
  | none => (c, none)

def join (c : Console) (ms : Nat) : Console × JoinOutcome :=
  let (s, outcome) := c.session.join ms
  ({ c with session := s }, outcome)

def metrics (c : Console) : Metrics := c.session.env.journal.metrics

end Console

end MediaMux
