import MediaMux.Bytes
import MediaMux.SequenceNumber
import MediaMux.Error

/-!
# Packets as flows see them

Formats of packets are no concern of flows. A packet is what its serialization appends to a buffer
and, if that fails, why; of an RTP header a few fields are read besides. The fixed header of twelve
bytes is there for callers without a format of their own.
-/

namespace MediaMux

/-- The source that a stream of packets comes from. -/
abbrev Ssrc := UInt32

/-- What serializing a packet appended, and the failure that ended it. -/
structure Serialized where
  bytes : Bytes
  failure : Option String := none
  /-- The number of bytes that the packet asks room for. -/
  room : Nat := bytes.length
deriving DecidableEq

/-- A packet whose report count is out of range: nothing of it can be written. -/
def Serialized.broken : Serialized where
  bytes := []
  failure := some "invalid report count"
  room := 4

def Serialized.result (s : Serialized) : Except FlowError Bytes :=
  match s.failure with
  | none => .ok s.bytes
  | some cause => .error (.unserializable cause)

/-- The bytes of all packets back to back, or the first failure. -/
def Serialized.concat : List Serialized → Except FlowError Bytes
  | [] => .ok []
  | s :: rest => do
    let bytes ← s.result
    let more ← concat rest
    return bytes ++ more

/-- An RTP header: the fields that flows read, and its serialization. -/
structure RtpHeader where
  ssrc : Ssrc
  sequenceNumber : SequenceNumber
  marker : Bool
  payloadType : UInt8
  serialized : Serialized

structure FixedHeader where
  ssrc : Ssrc := 1
  sequenceNumber : SequenceNumber := ⟨0⟩
  marker : Bool := false
  payloadType : UInt8 := 96
  timestamp : UInt32 := 0

namespace FixedHeader

def encode (h : FixedHeader) : Bytes :=
  [0x80, (if h.marker then 0x80 else 0) ||| (h.payloadType &&& 0x7f)]
    ++ Bytes.bigEndian 2 h.sequenceNumber.toNat
    ++ Bytes.bigEndian 4 h.timestamp.toNat
    ++ Bytes.bigEndian 4 h.ssrc.toNat

def toRtpHeader (h : FixedHeader) : RtpHeader where
  ssrc := h.ssrc
  sequenceNumber := h.sequenceNumber
  marker := h.marker
  payloadType := h.payloadType
  serialized := { bytes := h.encode }

def outline (h : FixedHeader) : Text.Outline :=
  .record "TestRtpHeader" [("ssrc", .atom (toString h.ssrc)),
    ("sequence_number", .atom h.sequenceNumber.toText), ("marker", .bool h.marker),
    ("payload_type", .atom (toString h.payloadType)), ("timestamp", .atom (toString h.timestamp))]

end FixedHeader

end MediaMux
