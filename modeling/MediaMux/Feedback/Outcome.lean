import MediaMux.Packet

/-!
# Sent packets and their outcomes

What is remembered of a packet between its hand-over to the transport and its outcome, and the
outcome itself. Times are nanoseconds after a base that is never passed, lengths of time are
nanoseconds.
-/

namespace MediaMux.Feedback

/-- A packet handed to a transport. `size` counts the header and the payload, not the flow id. -/
structure SentPacket where
  sentAt : Nat
  ssrc : Ssrc
  size : Nat
  sequenceNumber : SequenceNumber
deriving DecidableEq

/-- A packet that the transport reported as delivered. -/
structure Ack where
  packet : SentPacket
  ackedAt : Nat
deriving DecidableEq

/-- How long the outcome took, zero if the clock was set back in between. -/
def Ack.delay (a : Ack) : Nat := a.ackedAt - a.packet.sentAt

/-- What became of a packet, on its way to the reporter. -/
inductive Outcome
  | acked (ack : Ack)
  | lost (ssrc : Ssrc) (sequenceNumber : SequenceNumber)
deriving DecidableEq

end MediaMux.Feedback
