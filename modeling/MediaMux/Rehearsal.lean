import MediaMux.Console

/-!
# Rehearsals

A rehearsal is a console that is ready to use: a plain transport and one that is aware of delivery,
a flow for RTCP, a meter with a round-trip time, and a sink that refuses its first reports. Both
transports keep only the latest scripted refusal, and the aware one refuses only buffers that come
with a notifier.
-/

namespace MediaMux.Rehearsal

open Feedback

def plain : String := "plain"

def aware : String := "aware"

def rtcp : String := "rtcp"

def sink : String := "sink"

/-- A rehearsal whose flows have the given ids, with the round-trip time `roundTrip` and a sink that
refuses its first `refusals` reports. -/
def start (rtpId rtcpId : Option Nat) (roundTrip refusals : Nat) : Except FlowError Console := do
  let c ← Console.start rtpId false true
  let (c, outcome) := c.addCompound rtcp rtcpId
  let _ ← outcome
  let c := c.addTransport plain { latestRefusalOnly := true }
  let c := c.addTransport aware
    { reportsDelivery := true, latestRefusalOnly := true, refusesPlain := false }
  let c := c.addSink sink (.refusingFirst refusals)
  return c.modify (·.setReading { measured := some { roundTrip := some roundTrip } })

end MediaMux.Rehearsal
