import MediaMux.Priority

/-!
# Failures of flows

What can go wrong when a flow is set up, written to or read from, as causes. `FlowError.message` is
the wording, `FlowError.source?` the failure underneath, and `FlowError.isSetupMistake` tells
mistakes of the set-up from failures that may pass.
-/

namespace MediaMux

inductive TransportErrorKind
  | notFound
  | permissionDenied
  | connectionRefused
  | connectionReset
  | connectionAborted
  | notConnected
  | brokenPipe
  | wouldBlock
  | invalidInput
  | invalidData
  | timedOut
  | writeZero
  | interrupted
  | unexpectedEnd
  | outOfMemory
  | other
deriving DecidableEq, Inhabited

/-- The wording of a kind of failure that comes with no text of its own. -/
def TransportErrorKind.description : TransportErrorKind → String
  | notFound => "entity not found"
  | permissionDenied => "permission denied"
  | connectionRefused => "connection refused"
  | connectionReset => "connection reset"
  | connectionAborted => "connection aborted"
  | notConnected => "not connected"
  | brokenPipe => "broken pipe"
  | wouldBlock => "operation would block"
  | invalidInput => "invalid input parameter"
  | invalidData => "invalid data"
  | timedOut => "timed out"
  | writeZero => "write zero"
  | interrupted => "operation interrupted"
  | unexpectedEnd => "unexpected end of file"
  | outOfMemory => "out of memory"
  | other => "other error"

/-- Why a transport refused a write. -/
structure TransportError where
  kind : TransportErrorKind
  text : Option String := none
deriving DecidableEq, Inhabited

/-- The text that came with the failure, else the wording of its kind. -/
def TransportError.message (e : TransportError) : String := e.text.getD e.kind.description

inductive FlowError
  | deliveryUnobservable
  | unbound
  | idTooLarge (id : Nat)
  | refused (cause : TransportError)
  | unserializable (cause : String)
  | malformedId
  | unknownId (id : Nat)
  | noFlowFor (priority : Priority)
deriving DecidableEq

namespace FlowError

def message : FlowError → String
  | deliveryUnobservable => "transport does not support delivery notification"
  | unbound => "flow is not bound to a transport"
  | idTooLarge id => "flow id " ++ toString id ++ " does not fit into a 62-bit varint"
  | refused cause => "error writing to transport: " ++ cause.message
  | unserializable cause => "error marshalling packet: " ++ cause
  | malformedId => "malformed flow id prefix"
  | unknownId id => "no handler registered for flow id " ++ toString id
  | noFlowFor priority =>
    "bug: prioritizer returned priority " ++ priority.toText ++
      " but no flow is registered for it"

def source? : FlowError → Option String
  | refused cause => some cause.message
  | unserializable cause => some cause
  | _ => none

/-- Whether the flows were set up wrongly. -/
def isSetupMistake : FlowError → Bool
  | deliveryUnobservable | unbound | noFlowFor _ => true
  | _ => false

end FlowError

end MediaMux
