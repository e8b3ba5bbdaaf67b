import MediaMux.VarInt
import MediaMux.Error
import MediaMux.Keyed

/-!
# The receiving side of identified flows

A demultiplexer takes the flow id off each packet and puts the payload into the channel that is
subscribed to that id. Subscribing to an id again closes its former channel. A packet for a channel
whose receiver is gone ends the subscription and counts as one for an unknown flow.
-/

namespace MediaMux

/-- The flow id at the front of `packet` and the payload after it. -/
def unframe (packet : Bytes) : Except FlowError (Nat × Bytes) :=
  match VarInt.decode? packet with
  | some (id, payload) => .ok (id.value, payload)
  | none => .error .malformedId

/-- What waits for a receiver, and whether the receiver still takes payloads. -/
structure Channel where
  queue : List Bytes := []
  isOpen : Bool := true
deriving DecidableEq

/-- Channels, in the order of their subscriptions, and the channel of each id that has one. -/
structure Demuxer where
  routes : Keyed Nat Nat := []
  channels : List Channel := []
deriving DecidableEq

namespace Demuxer

/-- Subscribes a new channel to `id`; its place is the number of those before it. -/
def subscribe (d : Demuxer) (id : Nat) : Demuxer × Nat :=
  let place := d.channels.length
  ({ routes := d.routes.put id place, channels := d.channels ++ [{}] }, place)

def unsubscribe (d : Demuxer) (id : Nat) : Demuxer × Bool :=
  ({ d with routes := d.routes.remove id }, (d.routes.get? id).isSome)

/-- The open channel that is subscribed to `id`. -/
def channel? (d : Demuxer) (id : Nat) : Option (Nat × Channel) := do
  let place ← d.routes.get? id
  let c ← d.channels[place]?
  if c.isOpen then some (place, c) else none

/-- Puts the payload of a packet into the channel of its flow, and gives the id of the flow. -/
def route (d : Demuxer) (packet : Bytes) : Demuxer × Except FlowError Nat :=
  match unframe packet with
  | .error e => (d, .error e)
  | .ok (id, payload) =>
    match d.channel? id with
    | some (place, c) =>
      ({ d with channels := d.channels.set place { c with queue := c.queue ++ [payload] } },
        .ok id)
    | none => ({ d with routes := d.routes.remove id }, .error (.unknownId id))

def routeAll (d : Demuxer) : List Bytes → Demuxer × List (Except FlowError Nat)
  | [] => (d, [])
  | packet :: rest =>
    let (d, outcome) := d.route packet
    let (d, outcomes) := d.routeAll rest
    (d, outcome :: outcomes)

def canReceive (d : Demuxer) (place : Nat) : Bool :=
  (d.channels[place]?).any (·.isOpen) && d.routes.any fun e => e.2 = place

def receive (d : Demuxer) (place : Nat) : Demuxer × List Bytes :=
  match d.channels[place]? with
  | some c => ({ d with channels := d.channels.set place { c with queue := [] } }, c.queue)
  | none => (d, [])

/-- Closes the channel at `place`; what waits there can still be taken. -/
def close (d : Demuxer) (place : Nat) : Demuxer :=
  { d with channels := d.channels.modify place fun c => { c with isOpen := false } }

/-- Drops the receiver of the channel at `place`, with what waits there. -/
def dropReceiver (d : Demuxer) (place : Nat) : Demuxer :=
  { d with channels := d.channels.modify place fun _ => { isOpen := false } }

end Demuxer

end MediaMux
