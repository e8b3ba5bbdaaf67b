import MediaMux.Total
import MediaMux.Feedback.Outcome

/-!
# Feedback reports

A report lists, by source, the packets acked since the last report with an estimate of when each
arrived, and how many were lost. It has the shape of the receiver's feedback after RFC 8888, but is
put together on the sending side.
-/

namespace MediaMux.Feedback

structure ReportedPacket where
  sequenceNumber : SequenceNumber
  size : Nat
  sentAt : Nat
  ackedAt : Nat
  /-- When the packet is thought to have reached the receiver. -/
  arrival : Nat
deriving DecidableEq

/-- The estimated time on the way, zero for an arrival before the send time. -/
def ReportedPacket.transitTime (p : ReportedPacket) : Nat := p.arrival - p.sentAt

/-- What is reported on one source. -/
structure StreamReport where
  ssrc : Ssrc
  /-- The sequence number of the packet sent first. -/
  origin : SequenceNumber
  packets : List ReportedPacket
  lost : Nat
deriving DecidableEq

namespace StreamReport

def numbers (s : StreamReport) : List SequenceNumber := s.packets.map (·.sequenceNumber)

def bytes (s : StreamReport) : Nat := total (·.size) s.packets

end StreamReport

/-- Feedback on behalf of the source `sender`. -/
structure Report where
  sender : Ssrc
  madeAt : Nat
  /-- The round-trip time that the arrivals were estimated with. -/
  roundTrip : Option Nat
  /-- One entry for a source, in increasing order. -/
  streams : List StreamReport
deriving DecidableEq

namespace Report

def stream? (r : Report) (ssrc : Ssrc) : Option StreamReport :=
  r.streams.find? fun s => s.ssrc = ssrc

/-- What is reported on `ssrc` and its place in the report. -/
def findStream? (r : Report) (ssrc : Ssrc) : Option (Nat × StreamReport) := do
  let i ← r.streams.findIdx? fun s => s.ssrc = ssrc
  let s ← r.streams[i]?
  return (i, s)

def ackedTotal (r : Report) : Nat := total (·.packets.length) r.streams

def lostTotal (r : Report) : Nat := total (·.lost) r.streams

/-- Whether the packet `sequenceNumber` of `ssrc` is reported as acked. -/
def contains (r : Report) (ssrc : Ssrc) (sequenceNumber : SequenceNumber) : Bool :=
  (r.stream? ssrc).any fun s => s.numbers.contains sequenceNumber

end Report

end MediaMux.Feedback
