import MediaMux.Keyed
import MediaMux.Feedback.Report

/-!
# The backlog of unreported packets

Acked packets wait by source until a report takes them, at most `limit` of a source; when one more
comes, the oldest makes way. Losses are only counted. `drain` empties the backlog into a report.
`lane` is the view of a backlog: what waits for each source. Each operation changes it at one source
or at all (`lane_takeAck`, `lane_takeLoss`, `lane_drain`).
-/

namespace MediaMux.Feedback

/-- What waits for one source: acked packets in the order of their acks, and a count of losses. -/
structure Lane where
  acked : List Ack := []
  lost : Nat := 0
deriving DecidableEq

structure Backlog where
  limit : Nat
  lanes : Keyed Ssrc Lane := []
  waiting : Nat := 0
deriving DecidableEq

/-- How a backlog took an acked packet in. -/
inductive Admission
  | added
  /-- The lane of the source was full, and `oldest` made way. -/
  | displacing (oldest : Option SentPacket)
deriving DecidableEq

def Admission.evicted? : Admission → Option SentPacket
  | added => none
  | displacing oldest => oldest

namespace Lane

def isEmpty (l : Lane) : Bool := l.acked.isEmpty && l.lost == 0

/-- Whether the oldest packet makes way when one more comes. -/
def isFull (l : Lane) (limit : Nat) : Bool := limit ≤ l.acked.length

/-- The lane with one more packet, without the oldest if it was full. -/
def takeAck (l : Lane) (limit : Nat) (a : Ack) : Lane :=
  { l with acked := (if l.isFull limit then l.acked.tail else l.acked) ++ [a] }

def takeLoss (l : Lane) : Lane := { l with lost := l.lost + 1 }

/-- The packet sent first, of several at one time the one acked first. -/
def earliest : List Ack → Option Ack
  | [] => none
  | a :: rest =>
    match earliest rest with
    | none => some a
    | some b => if b.packet.sentAt < a.packet.sentAt then some b else some a

/-- The point `span` before `time`, if the base of time was not later. -/
def earlier? (time span : Nat) : Option Nat := if span ≤ time then some (time - span) else none

/-- When an acked packet arrived: half a round trip before its ack, but not before it was sent. -/
def arrival (halfTrip : Nat) (a : Ack) : Nat :=
  max ((earlier? a.ackedAt halfTrip).getD a.packet.sentAt) a.packet.sentAt

def reported (halfTrip : Nat) (a : Ack) : ReportedPacket where
  sequenceNumber := a.packet.sequenceNumber
  size := a.packet.size
  sentAt := a.packet.sentAt
  ackedAt := a.ackedAt
  arrival := arrival halfTrip a

/-- The entries in the order of their distance from `origin`, acks first to last at the same one. -/
def sortFrom (origin : SequenceNumber) (packets : List ReportedPacket) : List ReportedPacket :=
  packets.mergeSort fun p q =>
    p.sequenceNumber.stepsAfter origin ≤ q.sequenceNumber.stepsAfter origin

/-- The sequence number that the report on the lane starts from. -/
def origin (l : Lane) : SequenceNumber :=
  ((earliest l.acked).map (·.packet.sequenceNumber)).getD default

def report (l : Lane) (ssrc : Ssrc) (roundTrip : Option Nat) : StreamReport where
  ssrc := ssrc
  origin := l.origin
  packets := sortFrom l.origin (l.acked.map (reported (roundTrip.getD 0 / 2)))
  lost := l.lost

end Lane

namespace Backlog

def lane (b : Backlog) (ssrc : Ssrc) : Lane := (b.lanes.get? ssrc).getD {}

def isEmpty (b : Backlog) : Bool := b.lanes.all fun e => e.2.isEmpty

def takeAck (b : Backlog) (a : Ack) : Backlog × Admission :=
  let l := b.lane a.packet.ssrc
  let lanes := b.lanes.put a.packet.ssrc (l.takeAck b.limit a)
  if l.isFull b.limit then
    ({ b with lanes := lanes }, .displacing (l.acked.head?.map (·.packet)))
  else ({ b with lanes := lanes, waiting := b.waiting + 1 }, .added)

def takeLoss (b : Backlog) (ssrc : Ssrc) : Backlog :=
  { b with lanes := b.lanes.put ssrc (b.lane ssrc).takeLoss }

def takeLosses (b : Backlog) (ssrc : Ssrc) : Nat → Backlog
  | 0 => b
  | n + 1 => (b.takeLoss ssrc).takeLosses ssrc n

/-- The report on each source that has something to report. -/
def reports (b : Backlog) (roundTrip : Option Nat) : List StreamReport :=
  (b.lanes.filter fun e => !e.2.isEmpty).map fun e => e.2.report e.1 roundTrip

/-- Empties the backlog into a report; there is none if nothing waits. -/
def drain (b : Backlog) (sender : Ssrc) (now : Nat) (roundTrip : Option Nat) :
    Backlog × Option Report :=
  let streams := b.reports roundTrip
  ({ limit := b.limit },
    if streams.isEmpty then none else some ⟨sender, now, roundTrip, streams⟩)

def takeAcks (b : Backlog) : List Ack → Backlog × List Admission
  | [] => (b, [])
  | a :: rest =>
    let (b, admission) := b.takeAck a
    let (b, admissions) := b.takeAcks rest
    (b, admission :: admissions)

/-! ### The view after each operation -/

theorem lane_empty (limit : Nat) (ssrc : Ssrc) : Backlog.lane { limit := limit } ssrc = {} :=
  rfl

theorem limit_takeAck (b : Backlog) (a : Ack) : (b.takeAck a).1.limit = b.limit := by
  simp only [takeAck]
  split <;> rfl

theorem get?_takeAck (b : Backlog) (a : Ack) (ssrc : Ssrc) :
    (b.takeAck a).1.lanes.get? ssrc =
      if a.packet.ssrc = ssrc then some ((b.lane ssrc).takeAck b.limit a)
      else b.lanes.get? ssrc := by
  have hput : (b.takeAck a).1.lanes =
      b.lanes.put a.packet.ssrc ((b.lane a.packet.ssrc).takeAck b.limit a) := by
    simp only [takeAck]
    split <;> rfl
  rw [hput, Keyed.get?_put]
  split
  · next h => rw [h]
  · rfl

theorem get?_takeLoss (b : Backlog) (lost ssrc : Ssrc) :
    (b.takeLoss lost).lanes.get? ssrc =
      if lost = ssrc then some (b.lane ssrc).takeLoss else b.lanes.get? ssrc := by
  rw [takeLoss, Keyed.get?_put]
  split
  · next h => rw [h]
  · rfl

theorem lane_takeAck (b : Backlog) (a : Ack) (ssrc : Ssrc) :
    (b.takeAck a).1.lane ssrc =
      if a.packet.ssrc = ssrc then (b.lane ssrc).takeAck b.limit a else b.lane ssrc := by
  rw [lane, get?_takeAck]
  split <;> rfl

theorem lane_takeLoss (b : Backlog) (lost ssrc : Ssrc) :
    (b.takeLoss lost).lane ssrc =
      if lost = ssrc then (b.lane ssrc).takeLoss else b.lane ssrc := by
  rw [lane, get?_takeLoss]
  split <;> rfl

theorem lane_drain (b : Backlog) (sender : Ssrc) (now : Nat) (roundTrip : Option Nat)
    (ssrc : Ssrc) : (b.drain sender now roundTrip).1.lane ssrc = {} := rfl

end Backlog

end MediaMux.Feedback
