import MediaMux.Bytes
import MediaMux.Error
import MediaMux.Notifier

/-!
# Transports

A transport takes whole buffers or refuses them. One that is aware of delivery takes a notifier with
a buffer: it keeps the notifier until the outcome is known, or resolves it at once. A refused buffer
leaves nothing behind, and its notifier goes back to the writer. Refusals are scripted ahead.
-/

namespace MediaMux

/-- What a transport does with the notifier of a buffer that it took. -/
inductive Disposition
  | hold
  | resolve (delivery : Delivery)
deriving DecidableEq

/-- What does not change about a transport. -/
structure TransportTraits where
  reportsDelivery : Bool := false
  disposition : Disposition := .hold
  /-- The most bytes of a buffer that count as accepted. -/
  acceptLimit : Option Nat := none
  /-- Whether only the latest scripted refusal counts, and only by its kind. -/
  latestRefusalOnly : Bool := false
  refusesPlain : Bool := true
deriving DecidableEq

/-- A transport that keeps notifiers of the kind `ω`. -/
structure Transport (ω : Type) where
  traits : TransportTraits := {}
  refusals : List TransportError := []
  buffers : List Bytes := []
  /-- The notifiers kept, by the number of their buffer; resolved ones leave a gap. -/
  held : List (Option ω) := []

namespace Transport

variable {ω : Type}

def refuseNext (t : Transport ω) (e : TransportError) : Transport ω :=
  if t.traits.latestRefusalOnly then { t with refusals := [{ kind := e.kind }] }
  else { t with refusals := t.refusals ++ [e] }

def accepted (t : Transport ω) (buffer : Bytes) : Nat :=
  match t.traits.acceptLimit with
  | none => buffer.length
  | some limit => min buffer.length limit

def store (t : Transport ω) (buffer : Bytes) : Transport ω :=
  { t with buffers := t.buffers ++ [buffer] }

def write (t : Transport ω) (buffer : Bytes) : Transport ω × Except TransportError Nat :=
  match t.refusals with
  | e :: rest =>
    if t.traits.refusesPlain then ({ t with refusals := rest }, .error e)
    else (t.store buffer, .ok (t.accepted buffer))
  | [] => (t.store buffer, .ok (t.accepted buffer))

/-- Offers a buffer with a notifier. A buffer that is taken may resolve it at once. -/
def writeWatched (t : Transport ω) (buffer : Bytes) (watcher : ω) :
    Transport ω × Except TransportError (Nat × Option Delivery) :=
  match t.refusals with
  | e :: rest => ({ t with refusals := rest }, .error e)
  | [] =>
    match t.traits.disposition with
    | .hold =>
      ({ t.store buffer with held := t.held ++ [some watcher] },
        .ok (t.accepted buffer, none))
    | .resolve delivery => (t.store buffer, .ok (t.accepted buffer, some delivery))

def pending (t : Transport ω) : Nat := t.held.countP Option.isSome

def heldAt? (t : Transport ω) (i : Nat) : Option ω := (t.held[i]?).join

def release (t : Transport ω) (i : Nat) : Transport ω := { t with held := t.held.set i none }

def takeBuffers (t : Transport ω) : List Bytes × Transport ω :=
  (t.buffers, { t with buffers := [] })

end Transport

end MediaMux
