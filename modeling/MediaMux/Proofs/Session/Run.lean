import Mathlib.Logic.Function.Basic
import MediaMux.Session.Time
import MediaMux.Proofs.Feedback.Round

/-!
# Runs of a session

Nothing in a session waits for anything else: packets are written, notifiers resolved, clocks set
and reporters replaced in any order, and every reporter goes through its rounds step by step
meanwhile. A `Call` is something done to the session from outside, an `Action` a call or one step of
a reporter, and a run is any list of actions.
-/

namespace MediaMux

open Feedback

inductive Call
  | addTransport (traits : TransportTraits)
  /-- A transport behaves like this from now on. -/
  | script (place : Nat) (traits : TransportTraits) (refusals : List TransportError)
  | takeBuffers (place : Nat)
  /-- A transport resolves the notifier of its buffer `i`, or drops it, which counts as lost. -/
  | resolve (place i : Nat) (delivery : Delivery)
  | writeRtp (header : RtpHeader) (payload : Bytes)
  | writeFlow (f : Flow) (payload : Bytes)
  | writeNoted (f : Flow) (payload : Bytes) (tag : String)
  | writeCompound (f : Flow) (packets : List Serialized)
  | takeNotes
  | bindRtp (place : Nat)
  | addRtpFlow (p : Priority) (id place : Nat)
  | setClassifier (classifier : Classifier)
  | startFeedback (sender : Ssrc) (request : Request) (meter : MeterKind) (sink : Nat)
      (parent : Option Token)
  | stopFeedback
  /-- The handle to the latest reporter is waited on. -/
  | claimHandle
  | dropRtp
  | cancelToken (token : Token)
  | setReading (reading : Reading)
  | setClock (now : Nat)
  | addSink (sink : Sink)
  | modifySink (place : Nat) (f : Sink → Sink)
  | pass (time : Nat)

namespace Session

def apply (s : Session) : Call → Session
  | .addTransport traits => (s.addTransport traits).1
  | .script place traits refusals =>
    s.modifyTransport place fun t => { t with traits := traits, refusals := refusals }
  | .takeBuffers place => s.modifyTransport place (·.takeBuffers.2)
  | .resolve place i d => (s.resolve place i d).1
  | .writeRtp header payload => (s.writeRtp header payload).1
  | .writeFlow f payload => (s.writeFlow f payload).1
  | .writeNoted f payload tag => (s.writeFlowWatched f payload (.noted tag)).1
  | .writeCompound f packets => (s.writeCompound f packets).1
  | .takeNotes => { s with notes := [] }
  | .bindRtp place => s.bindRtp place
  | .addRtpFlow p id place => (s.addRtpFlow p id place).1
  | .setClassifier classifier => s.setClassifier classifier
  | .startFeedback sender request meter sink parent =>
    (s.startFeedback sender request meter sink parent).1
  | .stopFeedback => s.stopFeedback
  | .claimHandle =>
    s.modifyRtp fun rtp => { rtp with feedback := rtp.feedback.map ({ · with joinable := false }) }
  | .dropRtp => s.dropRtp
  | .cancelToken token => s.cancelToken token
  | .setReading reading => s.setReading reading
  | .setClock now => s.setClock now
  | .addSink sink => (s.addSink sink).1
  | .modifySink place f => s.modifySink place f
  | .pass time => { s with timer := s.timer + time }

end Session

/-- Something that happens in a session: a call, or a step of a reporter. -/
inductive Action
  | call (c : Call)
  | proceed (reporter : Nat)

/-- A session, and how far each of its reporters is in a round of its loop. -/
structure World where
  session : Session
  stage : Nat → Stage := fun _ => .between

namespace World

def scene? (w : World) (g : Nat) : Option Scene :=
  (w.session.reporters[g]?).map fun r => ⟨r, w.stage g, w.session.env⟩

/-- The world with the reporter `g` as it is in `sc`. -/
def put (w : World) (g : Nat) (sc : Scene) : World where
  session := { w.session with reporters := w.session.reporters.set g sc.reporter, env := sc.env }
  stage := Function.update w.stage g sc.stage

/-- The world after an action. A reporter that waits or has stopped does nothing. -/
def step (w : World) : Action → World
  | .call c => { w with session := w.session.apply c }
  | .proceed g =>
    match (w.scene? g).bind (Scene.proceed? w.session.timer) with
    | none => w
    | some sc => w.put g sc

def run (w : World) (actions : List Action) : World := actions.foldl step w

/-- A session that was just started. -/
def Initial (w : World) : Prop :=
  ∃ id clock hasRuntime horizon s, Session.start id clock hasRuntime horizon = .ok s ∧
    w = { session := s }

def Reachable (w : World) : Prop := ∃ origin actions, Initial origin ∧ origin.run actions = w

variable {w : World}

theorem run_append (w : World) (before after : List Action) :
    w.run (before ++ after) = (w.run before).run after := List.foldl_append

theorem run_concat (w : World) (before : List Action) (a : Action) :
    w.run (before ++ [a]) = (w.run before).step a := run_append w before [a]

theorem Initial.reachable (h : Initial w) : Reachable w := ⟨w, [], h, rfl⟩

theorem Reachable.run (h : Reachable w) (actions : List Action) : Reachable (w.run actions) := by
  obtain ⟨origin, before, horigin, rfl⟩ := h
  exact ⟨origin, before ++ actions, horigin, run_append origin before actions⟩

/-- What holds of every new session and is kept by every action holds in every reachable world. -/
theorem Reachable.induction {P : World → Prop} (hinitial : ∀ w, Initial w → P w)
    (hstep : ∀ w a, P w → P (w.step a)) (h : Reachable w) : P w := by
  obtain ⟨origin, actions, horigin, rfl⟩ := h
  have hrun : ∀ w, P w → P (w.run actions) := by
    induction actions with
    | nil => exact fun _ hw => hw
    | cons a rest ih => exact fun w hw => ih _ (hstep w a hw)
  exact hrun origin (hinitial origin horigin)

theorem scene?_eq_some {g : Nat} {sc : Scene} (h : w.scene? g = some sc) :
    w.session.reporters[g]? = some sc.reporter ∧ sc.stage = w.stage g ∧
      sc.env = w.session.env := by
  unfold scene? at h
  cases hr : w.session.reporters[g]? with
  | none => simp [hr] at h
  | some r =>
    simp only [hr, Option.map_some, Option.some.injEq] at h
    subst h
    exact ⟨rfl, rfl, rfl⟩

theorem scene?_of_reporter {g : Nat} {r : Reporter} (h : w.session.reporters[g]? = some r) :
    w.scene? g = some ⟨r, w.stage g, w.session.env⟩ := by
  simp [scene?, h]

theorem put_put (w : World) (g : Nat) (sc next : Scene) :
    (w.put g sc).put g next = w.put g next := by
  simp [put]

theorem put_scene {g : Nat} {sc : Scene} (h : w.scene? g = some sc) : w.put g sc = w := by
  obtain ⟨hr, hstage, henv⟩ := scene?_eq_some h
  obtain ⟨hlt, hget⟩ := List.getElem?_eq_some_iff.mp hr
  unfold put
  rw [hstage, henv, Function.update_eq_self, ← hget, List.set_getElem_self hlt]

theorem scene?_put {g : Nat} {sc : Scene} (h : w.scene? g = some sc) (next : Scene) :
    (w.put g next).scene? g = some next := by
  obtain ⟨hr, -, -⟩ := scene?_eq_some h
  obtain ⟨hlt, -⟩ := List.getElem?_eq_some_iff.mp hr
  simp [scene?, put, hlt]

theorem step_of_proceeds {g : Nat} {sc next : Scene} (hsc : w.scene? g = some sc)
    (hp : Scene.Proceeds w.session.timer sc next) : w.step (.proceed g) = w.put g next := by
  have hnext : sc.proceed? w.session.timer = some next := hp
  simp [step, hsc, hnext]

theorem step_of_waiting {g : Nat}
    (h : (w.scene? g).bind (Scene.proceed? w.session.timer) = none) :
    w.step (.proceed g) = w := by
  simp [step, h]

theorem initial_empty : Initial { session := {} } := ⟨none, {}, true, lastInstant, {}, rfl, rfl⟩

/-- A new session with a sink and a reporter that stops when the token "call" is cancelled. -/
def withReporter : World :=
  ({ session := {} } : World).run
    [.call (.addSink (.takingFirst none)), .call (.startFeedback 1 {} .shared 0 (some "call"))]

theorem reachable_withReporter : Reachable withReporter := initial_empty.reachable.run _

/-- A packet of the stream `ssrc` is written. -/
def writing (ssrc : Ssrc) (sequenceNumber : SequenceNumber) : Action :=
  .call (.writeRtp (FixedHeader.toRtpHeader { ssrc := ssrc, sequenceNumber := sequenceNumber }) [])

/-- A reporter is started that reports every packet at once, and a packet is written and acked. -/
def ackedPacket : List Action :=
  [.call (.addSink (.takingFirst none)),
    .call (.startFeedback 1 { batch := some 1 } .shared 0 none),
    .call (.addTransport { reportsDelivery := true }),
    .call (.bindRtp 0),
    writing 1 ⟨0⟩,
    .call (.resolve 0 0 .acked)]

/-- Of four packets on two streams the third and the second are acked, the first is lost between
them, and the fourth is acked last. The reporter hands a batch of two over and has the last packet
in its backlog. -/
def fourPackets : List Action :=
  [.call (.addSink (.takingFirst none)),
    .call (.startFeedback 1 { batch := some 2 } .shared 0 none),
    .call (.addTransport { reportsDelivery := true }),
    .call (.bindRtp 0),
    writing 1 ⟨7⟩, writing 1 ⟨8⟩, writing 2 ⟨7⟩, writing 1 ⟨9⟩,
    .call (.resolve 0 2 .acked), .call (.resolve 0 0 .lost), .call (.resolve 0 1 .acked),
    .call (.resolve 0 3 .acked)] ++ List.replicate 8 (.proceed 0)

end World

end MediaMux
