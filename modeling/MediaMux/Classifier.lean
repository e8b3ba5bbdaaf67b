import MediaMux.Packet

/-!
# Routing by priority

A classifier gives each outgoing packet its class. Taking turns has a memory: it counts the packets
it has routed, on 64 bits. A rule may remember all the packets that it was asked about. `classify`
gives the class and the classifier for the next packet.
-/

namespace MediaMux

/-- How packets get their class. -/
inductive Classifier
  | uniform
  /-- Packets with the marker go to the class `marked`, others to class 0. -/
  | byMarker (marked : Priority)
  /-- Packets go to the listed classes in turn; `routed` have gone before. -/
  | inTurn (classes : List Priority) (routed : UInt64)
  /-- A rule on the header and the payload. -/
  | byRule (rule : RtpHeader → Bytes → Priority)
  /-- A rule that goes by the packets it was asked about before, oldest first, too. -/
  | byRecord (rule : List (RtpHeader × Bytes) → RtpHeader → Bytes → Priority)
      (asked : List (RtpHeader × Bytes))

namespace Classifier

/-- The class for a packet, and the classifier after it. -/
def classify (p : Classifier) (header : RtpHeader) (payload : Bytes) : Priority × Classifier :=
  match p with
  | uniform => (.default, uniform)
  | byMarker marked => (if header.marker then marked else .default, byMarker marked)
  | inTurn [] routed => (.default, inTurn [] routed)
  | inTurn (c :: classes) routed =>
    ((c :: classes).getD (routed.toNat % (classes.length + 1)) .default,
      inTurn (c :: classes) (routed + 1))
  | byRule rule => (rule header payload, byRule rule)
  | byRecord rule asked =>
    (rule asked header payload, byRecord rule (asked ++ [(header, payload)]))

def constant (n : Int) : Classifier := byRule fun _ _ => .ofInt n

def byPayloadType (n : Int) : Classifier :=
  byRule fun header _ => .ofInt (header.payloadType.toNat - n)

/-- The class whose level has the bits of the ssrc. -/
def bySsrc : Classifier := byRule fun header _ => .ofInt header.ssrc.toNat

def bySequenceNumber (n : Int) : Classifier :=
  byRule fun header _ => .ofInt (header.sequenceNumber.toNat % max n 1)

def byPayloadLength : Classifier := byRule fun _ payload => .ofInt payload.length

def byFirstByte : Classifier :=
  byRule fun _ payload => .ofInt ((payload.head?.map UInt8.toNat).getD 0)

def classifyAll (p : Classifier) : List (RtpHeader × Bytes) → List Priority
  | [] => []
  | (header, payload) :: rest =>
    let (priority, next) := p.classify header payload
    priority :: next.classifyAll rest

end Classifier

end MediaMux
