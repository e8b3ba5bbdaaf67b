import Mathlib.Data.List.Forall2
import MediaMux.Proofs.Session.Projection
import MediaMux.Proofs.Session.Tables

/-!
# A session that does not hear its sinks

`Session.deaf` forgets the sinks and what they answered to reports. Nothing else in a session
depends on it: what calls and reporters do to a deaf session is what they do to the session
(`World.deaf_step`), so that runs of sessions that differ in their sinks stay the same but for the
answers (`World.deaf_run`).
-/

namespace MediaMux

open Feedback

/-- The entry with the report taken. -/
def JournalEntry.deaf : JournalEntry → JournalEntry
  | .reported reporter report _ => .reported reporter report true
  | e => e

theorem JournalEntry.deaf_deaf (e : JournalEntry) : e.deaf.deaf = e.deaf := by
  cases e <;> rfl

/-! ### Journals -/

namespace Journal

theorem of_deaf (g : Nat) (j : Journal) :
    of g (j.map JournalEntry.deaf) = (of g j).map JournalEntry.deaf := by
  have hsame : (fun e : JournalEntry => decide (e.reporter? = some g)) ∘ JournalEntry.deaf =
      fun e => decide (e.reporter? = some g) := by
    funext e
    cases e <;> rfl
  unfold of
  rw [List.filter_map, hsame]

theorem gather_deaf {α : Type} {select : JournalEntry → List α}
    (h : ∀ e, select e.deaf = select e) (j : Journal) :
    gather select (j.map JournalEntry.deaf) = gather select j := by
  induction j with
  | nil => rfl
  | cons e older ih => rw [List.map_cons, gather_cons, gather_cons, ih, h]

theorem countP_deaf {p : JournalEntry → Bool} (h : ∀ e, p e.deaf = p e) (j : Journal) :
    (j.map JournalEntry.deaf).countP p = j.countP p := by
  rw [List.countP_map]
  exact List.countP_congr fun e _ => by rw [Function.comp, h]

theorem total_deaf {measure : JournalEntry → Nat} (h : ∀ e, measure e.deaf = measure e)
    (j : Journal) : total measure (j.map JournalEntry.deaf) = total measure j := by
  induction j with
  | nil => rfl
  | cons e older ih => rw [List.map_cons, total, total, ih, h]

/-- Of the metrics only the number of refused reports is lost. -/
theorem metrics_deaf (j : Journal) :
    metrics (j.map JournalEntry.deaf) = { j.metrics with refusedReports := 0 } := by
  have hdelays : ∀ select : JournalEntry → Option Nat, (∀ e, select e.deaf = select e) →
      ((j.map JournalEntry.deaf).filterMap select).reverse = (j.filterMap select).reverse := by
    intro select h
    rw [List.filterMap_map]
    exact congrArg List.reverse (List.filterMap_congr fun e _ => h e)
  have htaken : ∀ e ∈ j.map JournalEntry.deaf, ¬ (match e with
      | .reported _ _ taken => !taken
      | _ => false) = true := by
    intro e he
    obtain ⟨e, -, rfl⟩ := List.mem_map.mp he
    cases e <;> exact Bool.false_ne_true
  unfold metrics
  dsimp only
  rw [Metrics.mk.injEq]
  refine ⟨countP_deaf ?_ j, countP_deaf ?_ j, countP_deaf ?_ j, countP_deaf ?_ j,
    countP_deaf ?_ j, List.countP_eq_zero.mpr htaken, countP_deaf ?_ j, countP_deaf ?_ j,
    countP_deaf ?_ j, total_deaf ?_ j, hdelays _ ?_⟩
  all_goals
    intro e
    cases e <;> rfl

end Journal

/-! ### Reporters -/

namespace Feedback

/-- What reporters share, without the sinks and their answers. -/
def Environment.deaf (env : Environment) : Environment :=
  { env with sinks := [], journal := env.journal.map JournalEntry.deaf }

/-- The scene without the sinks and their answers. -/
def Scene.deaf (sc : Scene) : Scene := { sc with env := sc.env.deaf }

namespace Environment

variable {env : Environment}

theorem deaf_deaf (env : Environment) : env.deaf.deaf = env.deaf := by
  simp only [deaf, List.map_map]
  congr 1
  exact List.map_congr_left fun e _ => e.deaf_deaf

theorem deaf_log (env : Environment) (e : JournalEntry) :
    (env.log e).deaf = env.deaf.log e.deaf := rfl

theorem deaf_offer (env : Environment) (place : Nat) (report : Report) :
    (env.offer place report).1.deaf = env.deaf := by
  unfold offer
  split <;> rfl

end Environment

namespace Reporter

variable (r : Reporter) (env : Environment)

@[simp] theorem toldToStop_deaf : r.toldToStop env.deaf = r.toldToStop env := rfl

theorem deaf_enqueue (outcome : Outcome) :
    r.enqueue env.deaf outcome = ((r.enqueue env outcome).1, (r.enqueue env outcome).2.deaf) := by
  unfold enqueue
  split <;> rfl

theorem deaf_takeIn (outcome : Outcome) :
    r.takeIn env.deaf outcome = ((r.takeIn env outcome).1, (r.takeIn env outcome).2.deaf) := by
  cases outcome with
  | acked a =>
    unfold takeIn
    dsimp only
    split <;> rfl
  | lost => rfl

theorem deaf_measure :
    r.measure env.deaf = ((r.measure env).1, (r.measure env).2.deaf) := by
  unfold measure
  cases r.meter with
  | unmetered => rfl
  | shared =>
    dsimp only
    unfold Environment.deaf Environment.log
    dsimp only
    split <;> rfl

/-- Whatever the sink answers, the report is handed over or withdrawn. -/
theorem deaf_handOver (report : Report) :
    (r.handOver env report).deaf = (r.handOver env.deaf report).deaf := by
  unfold handOver
  rw [toldToStop_deaf]
  split
  · rw [Environment.deaf_log, Environment.deaf_log, Environment.deaf_deaf]
  · dsimp only
    rw [Environment.deaf_log, Environment.deaf_log, Environment.deaf_offer, Environment.deaf_offer,
      Environment.deaf_deaf]
    rfl

end Reporter

namespace Scene

variable (now : Nat) (r : Reporter) (env : Environment)

theorem deaf_begin? : begin? now r env.deaf = (begin? now r env).map deaf := by
  unfold begin?
  cases r.phase with
  | stopped | idle => rfl
  | running due =>
    dsimp only
    rw [Reporter.toldToStop_deaf]
    split
    · rfl
    · split
      · rfl
      · cases r.queue with
        | nil => rfl
        | cons outcome rest =>
          simp only [takeFirst, Reporter.deaf_takeIn]
          rfl

theorem deaf_ask : ask r env.deaf = (ask r env).deaf := by
  unfold ask
  split
  · rfl
  · rw [Reporter.deaf_measure]
    cases (r.measure env) with
    | mk answer next => cases answer <;> rfl

theorem deaf_assemble (measurement : Measurement) :
    assemble r env.deaf measurement = (assemble r env measurement).deaf := by
  have hclock : env.deaf.now = (env.now.1, env.now.2.deaf) := rfl
  unfold assemble
  rw [hclock]
  cases r.backlog.drain r.sender env.now.1
      (measurement.roundTrip.or r.estimate.smoothedTime?) with
  | mk backlog report => cases report <;> rfl

theorem deaf_deaf (sc : Scene) : sc.deaf.deaf = sc.deaf := by
  unfold deaf
  rw [Environment.deaf_deaf]

/-- A step of a reporter is the same but for the answer of its sink. -/
theorem deaf_proceed? (sc : Scene) :
    (sc.proceed? now).map deaf = (sc.deaf.proceed? now).map deaf := by
  have hsame : ∀ next : Option Scene, next.map deaf = (next.map deaf).map deaf := by
    intro next
    rw [Option.map_map]
    exact Option.map_congr fun sc _ => sc.deaf_deaf.symm
  obtain ⟨r, st, env⟩ := sc
  cases st with
  | between =>
    show (begin? now r env).map deaf = (begin? now r env.deaf).map deaf
    rw [deaf_begin?]
    exact hsame _
  | reporting =>
    show some (ask r env).deaf = some (ask r env.deaf).deaf
    rw [deaf_ask, deaf_deaf]
  | measured measurement =>
    show some (assemble r env measurement).deaf = some (assemble r env.deaf measurement).deaf
    rw [deaf_assemble, deaf_deaf]
  | assembled report =>
    -- the one step that hears a sink; what it hears goes to the journal and nowhere else
    show some (Scene.mk r .between (r.handOver env report).deaf) =
      some (Scene.mk r .between (r.handOver env.deaf report).deaf)
    rw [Reporter.deaf_handOver]

end Scene

end Feedback

/-! ### Calls -/

namespace Session

/-- The session without the sinks and their answers. -/
def deaf (s : Session) : Session := { s with env := s.env.deaf }

variable {s : Session}

@[simp] theorem reporters_deaf (s : Session) : s.deaf.reporters = s.reporters := rfl

@[simp] theorem transports_deaf (s : Session) : s.deaf.transports = s.transports := rfl

@[simp] theorem rtp_deaf (s : Session) : s.deaf.rtp = s.rtp := rfl

@[simp] theorem tracker?_deaf (s : Session) : s.deaf.tracker? = s.tracker? := rfl

theorem deaf_deaf (s : Session) : s.deaf.deaf = s.deaf := by
  unfold deaf
  rw [Environment.deaf_deaf]

theorem deaf_enqueue (s : Session) (g : Nat) (outcome : Outcome) :
    s.deaf.enqueue g outcome = (s.enqueue g outcome).deaf := by
  unfold enqueue
  rw [reporters_deaf]
  split
  · rfl
  · next r hr =>
    have hnext : r.enqueue s.deaf.env outcome = _ := r.deaf_enqueue s.env outcome
    rw [hnext]
    rfl

theorem deaf_inform (s : Session) (w : Watcher) (d : Delivery) :
    s.deaf.inform w d = (s.inform w d).deaf := by
  cases w with
  | noted tag => rfl
  | tracked g p =>
    cases d with
    | acked => exact deaf_enqueue { s with env := s.env.now.2 } g (.acked ⟨p, s.env.now.1⟩)
    | lost => exact deaf_enqueue s g _

theorem deaf_resolve (s : Session) (place i : Nat) (d : Delivery) :
    s.deaf.resolve place i d = ((s.resolve place i d).1.deaf, (s.resolve place i d).2) := by
  unfold resolve
  rw [transports_deaf]
  split
  · rfl
  · next w _ =>
    exact congrArg (·, true) (deaf_inform (s.modifyTransport place (·.release i)) w d)

theorem deaf_stopFeedback (s : Session) : s.deaf.stopFeedback = s.stopFeedback.deaf := by
  unfold stopFeedback
  rw [tracker?_deaf]
  split <;> rfl

theorem deaf_startFeedback (s : Session) (sender : Ssrc) (request : Request) (meter : MeterKind)
    (sink : Nat) (parent : Option Token) :
    s.deaf.startFeedback sender request meter sink parent =
      ((s.startFeedback sender request meter sink parent).1.deaf,
        (s.startFeedback sender request meter sink parent).2) := by
  have hruntime : s.deaf.hasRuntime = s.hasRuntime := rfl
  unfold startFeedback
  rw [deaf_stopFeedback, rtp_deaf, hruntime]
  cases s.rtp with
  | none => rfl
  | some rtp =>
    dsimp only
    cases request.toOptions with
    | error e => rfl
    | ok options =>
      dsimp only
      split <;> rfl

theorem deaf_writeFlow (s : Session) (f : Flow) (payload : Bytes) :
    s.deaf.writeFlow f payload = ((s.writeFlow f payload).1.deaf, (s.writeFlow f payload).2) := by
  unfold writeFlow
  rw [transports_deaf]
  rcases f.write s.transports payload with ⟨ts, e | n⟩
  · cases e <;> rfl
  · rfl

theorem deaf_writeFlowWatched (s : Session) (f : Flow) (payload : Bytes) (w : Watcher) :
    s.deaf.writeFlowWatched f payload w =
      ((s.writeFlowWatched f payload w).1.deaf, (s.writeFlowWatched f payload w).2) := by
  unfold writeFlowWatched
  rw [transports_deaf]
  rcases f.writeWatched s.transports payload w with ⟨ts, e | ⟨n, resolution⟩⟩
  · cases e <;> rfl
  · cases w with
    | noted tag => cases resolution <;> rfl
    | tracked g p =>
      cases resolution with
      | none => rfl
      | some d =>
        have htold := deaf_inform ({ s with transports := ts }.log (.tracked g p)) (.tracked g p) d
        refine Prod.ext ?_ rfl
        exact congrArg (log · (.sent n)) htold

theorem deaf_writeCompound (s : Session) (f : Flow) (packets : List Serialized) :
    s.deaf.writeCompound f packets =
      ((s.writeCompound f packets).1.deaf, (s.writeCompound f packets).2) := by
  unfold writeCompound
  split
  · rfl
  · exact deaf_writeFlow (s.log .compound) f _

theorem deaf_writeRtp (s : Session) (header : RtpHeader) (payload : Bytes) :
    s.deaf.writeRtp header payload =
      ((s.writeRtp header payload).1.deaf, (s.writeRtp header payload).2) := by
  have hdeaf := s.rtp_deaf
  cases hrtp : s.rtp with
  | none => simp [writeRtp, hrtp]
  | some rtp =>
    cases hbytes : header.serialized.result with
    | error e => simp [writeRtp, hrtp, hbytes]
    | ok bytes =>
      cases hflow : rtp.table.get? (rtp.classifier.classify header payload).1 with
      | none =>
        simp only [writeRtp, hdeaf, hrtp, hbytes, hflow]
        rfl
      | some f =>
        rw [writeRtp_of_flow (hdeaf.trans hrtp) hbytes hflow, writeRtp_of_flow hrtp hbytes hflow,
          tracker?_deaf]
        cases s.tracker? with
        | none => exact deaf_writeFlow (s.classified rtp header payload) f _
        | some g =>
          exact deaf_writeFlowWatched { s.classified rtp header payload with env := s.env.now.2 }
            f _ _

end Session

/-- Whether the call concerns a sink. -/
def Call.onSink : Call → Bool
  | addSink _ | modifySink .. => true
  | _ => false

namespace Session

variable {s : Session}

theorem deaf_apply_of_onSink {c : Call} (hc : c.onSink = true) : (s.apply c).deaf = s.deaf := by
  cases c with
  | addSink | modifySink => rfl
  | _ => cases hc

/-- A call to a deaf session does what it does to the session. -/
theorem deaf_apply {c : Call} (hc : c.onSink = false) : s.deaf.apply c = (s.apply c).deaf := by
  cases c with
  | addSink | modifySink => cases hc
  | writeRtp header payload => exact congrArg Prod.fst (s.deaf_writeRtp header payload)
  | writeFlow f payload => exact congrArg Prod.fst (s.deaf_writeFlow f payload)
  | writeNoted f payload tag =>
    exact congrArg Prod.fst (s.deaf_writeFlowWatched f payload (.noted tag))
  | writeCompound f packets => exact congrArg Prod.fst (s.deaf_writeCompound f packets)
  | resolve place i d => exact congrArg Prod.fst (s.deaf_resolve place i d)
  | startFeedback sender request meter sink parent =>
    exact congrArg Prod.fst (s.deaf_startFeedback sender request meter sink parent)
  | stopFeedback => exact s.deaf_stopFeedback
  | dropRtp => exact congrArg (fun s' : Session => { s' with rtp := none }) s.deaf_stopFeedback
  | addRtpFlow p id place =>
    show (s.deaf.addRtpFlow p id place).1 = (s.addRtpFlow p id place).1.deaf
    unfold addRtpFlow
    split <;> rfl
  | addTransport | script | takeBuffers | takeNotes | bindRtp | setClassifier | claimHandle
  | cancelToken | setReading | setClock | pass => rfl

end Session

/-! ### Runs -/

/-- Whether the action concerns a sink. -/
def Action.onSink : Action → Bool
  | call c => c.onSink
  | proceed _ => false

/-- The actions are the same, or both concern a sink. -/
def Action.SameButSink (a b : Action) : Prop := a = b ∨ a.onSink = true ∧ b.onSink = true

namespace World

variable {w w' : World}

/-- The world without the sinks and their answers. -/
def deaf (w : World) : World := { w with session := w.session.deaf }

theorem deaf_deaf (w : World) : w.deaf.deaf = w.deaf := by
  unfold deaf
  rw [Session.deaf_deaf]

theorem deaf_put (w : World) (g : Nat) (sc : Scene) :
    w.deaf.put g sc.deaf = (w.put g sc).deaf := rfl

theorem deaf_step_of_onSink {a : Action} (ha : a.onSink = true) : (w.step a).deaf = w.deaf := by
  cases a with
  | call c => exact congrArg (World.mk · w.stage) (Session.deaf_apply_of_onSink ha)
  | proceed => cases ha

theorem deaf_scene? (w : World) (g : Nat) : w.deaf.scene? g = (w.scene? g).map Scene.deaf := by
  unfold scene?
  rw [Option.map_map]
  rfl

/-- What happens to a deaf world is what happens to the world. -/
theorem deaf_step {a : Action} (ha : a.onSink = false) :
    (w.deaf.step a).deaf = (w.step a).deaf := by
  cases a with
  | call c =>
    have hsession := Session.deaf_apply (s := w.session) ha
    show World.mk (w.session.deaf.apply c).deaf w.stage = World.mk (w.session.apply c).deaf w.stage
    rw [hsession, Session.deaf_deaf]
  | proceed g =>
    have htimer : w.deaf.session.timer = w.session.timer := rfl
    unfold step
    dsimp only
    rw [deaf_scene?, htimer]
    cases w.scene? g with
    | none => exact w.deaf_deaf
    | some sc =>
      have hproceed := sc.deaf_proceed? w.session.timer
      simp only [Option.map_some, Option.bind_some]
      cases hnext : sc.proceed? w.session.timer with
      | none =>
        rw [hnext, Option.map_none, eq_comm, Option.map_eq_none_iff] at hproceed
        rw [hproceed]
        exact w.deaf_deaf
      | some next =>
        rw [hnext, Option.map_some, eq_comm, Option.map_eq_some_iff] at hproceed
        obtain ⟨deafNext, hsome, hdeaf⟩ := hproceed
        rw [hsome]
        dsimp only
        rw [← deaf_put, hdeaf, deaf_deaf, deaf_put]

/-- Worlds that differ in their sinks stay so under the same action, and under any two on sinks. -/
theorem deaf_step_eq (hw : w.deaf = w'.deaf) {a b : Action} (h : a.SameButSink b) :
    (w.step a).deaf = (w'.step b).deaf := by
  rcases h with rfl | ⟨ha, hb⟩
  · cases ha : a.onSink with
    | true => rw [deaf_step_of_onSink ha, deaf_step_of_onSink ha, hw]
    | false => rw [← deaf_step ha, hw, deaf_step ha]
  · rw [deaf_step_of_onSink ha, deaf_step_of_onSink hb, hw]

theorem deaf_run (hw : w.deaf = w'.deaf) {actions actions' : List Action}
    (h : List.Forall₂ Action.SameButSink actions actions') :
    (w.run actions).deaf = (w'.run actions').deaf := by
  induction h generalizing w w' with
  | nil => exact hw
  | cons hab _ ih => exact ih (deaf_step_eq hw hab)

end World

end MediaMux
