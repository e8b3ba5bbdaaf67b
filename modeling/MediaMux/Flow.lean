import MediaMux.Transport
import MediaMux.VarInt

/-!
# Flows

A flow is a logical channel on a transport that several flows may share. A flow with an id writes
the id before every payload. Transports are listed in a session and named by their place.
-/

namespace MediaMux

/-- A logical channel: its id, if any, and the place of the transport that it is bound to. -/
structure Flow where
  id : Option VarInt := none
  transport : Option Nat := none
deriving DecidableEq

namespace Flow

variable {ω : Type}

def identified (id : Nat) : Except FlowError Flow :=
  match VarInt.ofNat? id with
  | some v => .ok { id := some v }
  | none => .error (.idTooLarge id)

/-- The flow bound to the transport at `place`; what the former one holds stays with it. -/
def bind (f : Flow) (place : Nat) : Flow := { f with transport := some place }

def isBound (f : Flow) : Bool := f.transport.isSome

/-- The bytes before every payload. -/
def idBytes (f : Flow) : Bytes := (f.id.map VarInt.encode).getD []

def frame (f : Flow) (payload : Bytes) : Bytes := f.idBytes ++ payload

def target? (f : Flow) (ts : List (Transport ω)) : Option (Nat × Transport ω) := do
  let place ← f.transport
  let t ← ts[place]?
  return (place, t)

/-- Writes `payload` and gives the number of bytes accepted, those of the id included. -/
def write (f : Flow) (ts : List (Transport ω)) (payload : Bytes) :
    List (Transport ω) × Except FlowError Nat :=
  match f.target? ts with
  | none => (ts, .error .unbound)
  | some (place, t) =>
    let (t, outcome) := t.write (f.frame payload)
    (ts.set place t, outcome.mapError .refused)

/-- Writes `payload` with a notifier. Besides the number of bytes accepted it gives the delivery
that the notifier is to be resolved with at once. After a failure the notifier is no longer needed:
the payload is not on its way, so there is no outcome to tell. -/
def writeWatched (f : Flow) (ts : List (Transport ω)) (payload : Bytes) (watcher : ω) :
    List (Transport ω) × Except FlowError (Nat × Option Delivery) :=
  match f.target? ts with
  | none => (ts, .error .unbound)
  | some (place, t) =>
    if t.traits.reportsDelivery then
      let (t, outcome) := t.writeWatched (f.frame payload) watcher
      (ts.set place t, outcome.mapError .refused)
    else (ts, .error .deliveryUnobservable)

def outline (f : Flow) : Text.Outline :=
  .partialRecord "Flow"
    [("id", .option (f.id.map fun v => .atom v.toText)), ("bound", .bool f.isBound)]

def compoundOutline (f : Flow) : Text.Outline := .record "RtcpFlow" [("flow", f.outline)]

end Flow

end MediaMux
