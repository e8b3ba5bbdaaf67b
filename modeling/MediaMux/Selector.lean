import MediaMux.Text.Quoted

/-!
# Session options chosen by name

A vocabulary lists the words for the choices of one kind. The first word of a choice is the one it
is shown by, other words for it are accepted too, and nothing else is: not another case, no blanks.
-/

namespace MediaMux

/-- The words for the choices of one kind. -/
structure Vocabulary (α : Type) where
  kind : String
  words : List (String × α)
  fallback : α

/-- A word that a vocabulary does not have. -/
structure UnknownWord where
  kind : String
  word : String
deriving DecidableEq

def UnknownWord.message (e : UnknownWord) : String :=
  "unknown " ++ e.kind ++ ": " ++ Text.Quoted.encode e.word

namespace Vocabulary

variable {α : Type}

def parse (v : Vocabulary α) (word : String) : Except UnknownWord α :=
  match v.words.lookup word with
  | some choice => .ok choice
  | none => .error ⟨v.kind, word⟩

/-- The choice that `word` stands for, or the fallback. -/
def parseOrFallback (v : Vocabulary α) (word : String) : α :=
  (v.words.lookup word).getD v.fallback

def spelling [DecidableEq α] (v : Vocabulary α) (choice : α) : String :=
  ((v.words.find? fun entry => entry.2 = choice).map (·.1)).getD ""

end Vocabulary

/-- The algorithm that decides how fast to send. -/
inductive CongestionControl
  | reno
  | cubic
  | bbr
  | scream
  | gcc
deriving DecidableEq

namespace CongestionControl

def vocabulary : Vocabulary CongestionControl where
  kind := "congestion control algorithm"
  words := [("reno", reno), ("cubic", cubic), ("bbr", bbr), ("scream", scream), ("gcc", gcc)]
  fallback := reno

/-- Whether the algorithm runs on top of RTP and consumes feedback reports, as opposed to running
inside the transport. -/
def consumesReports : CongestionControl → Bool
  | scream | gcc => true
  | _ => false

end CongestionControl

/-- What of the transport connection carries RTP. -/
inductive Carrier
  | any
  | datagram
  | stream
deriving DecidableEq

namespace Carrier

def vocabulary : Vocabulary Carrier where
  kind := "transport mode"
  words := [("any", any), ("quic-dgram", datagram), ("datagram", datagram), ("dgram", datagram),
    ("quic-stream", stream), ("stream", stream)]
  fallback := any

/-- Whether packets can get lost one by one, so that each has an outcome of its own. -/
def isLossy : Carrier → Bool
  | datagram => true
  | _ => false

end Carrier

/-- The format of the congestion feedback that the receiver sends. -/
inductive ReceiverFeedback
  | none
  | rfc8888
  | rfc8888Pion
  | twcc
deriving DecidableEq

namespace ReceiverFeedback

def vocabulary : Vocabulary ReceiverFeedback where
  kind := "RTCP congestion control feedback type"
  words := [("none", none), ("rfc8888", rfc8888), ("rfc8888-pion", rfc8888Pion), ("twcc", twcc)]
  fallback := none

end ReceiverFeedback

end MediaMux
