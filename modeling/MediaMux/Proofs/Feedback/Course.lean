import MediaMux.Proofs.Feedback.History
import MediaMux.Proofs.Feedback.Round

/-!
# The course of a reporter

`Scene.Step` is all that can happen to a reporter: something elsewhere in the session, a request to
stop, a packet tracked for it, an outcome told to it, or a step of its own. `Scene.Move` lists the
steps of its own, each with the condition under which it is taken. What every step keeps holds in
the whole course of the reporter (`Course.induction`).
-/

namespace MediaMux.Feedback

/-! ### The environment -/

namespace Environment

@[simp] theorem journal_log (env : Environment) (e : JournalEntry) :
    (env.log e).journal = e :: env.journal := rfl

@[simp] theorem cancelled_log (env : Environment) (e : JournalEntry) :
    (env.log e).cancelled = env.cancelled := rfl

@[simp] theorem journal_now (env : Environment) : env.now.2.journal = env.journal := rfl

@[simp] theorem cancelled_now (env : Environment) : env.now.2.cancelled = env.cancelled := rfl

/-- Offering a report changes the sinks only. -/
theorem exists_offer (env : Environment) (place : Nat) (report : Report) :
    ∃ sinks, (env.offer place report).1 = { env with sinks := sinks } := by
  unfold offer
  split <;> exact ⟨_, rfl⟩

@[simp] theorem journal_offer (env : Environment) (place : Nat) (report : Report) :
    (env.offer place report).1.journal = env.journal := by
  obtain ⟨sinks, hoffer⟩ := env.exists_offer place report
  rw [hoffer]

@[simp] theorem cancelled_offer (env : Environment) (place : Nat) (report : Report) :
    (env.offer place report).1.cancelled = env.cancelled := by
  obtain ⟨sinks, hoffer⟩ := env.exists_offer place report
  rw [hoffer]

end Environment

namespace Reporter

/-- Asking the meter is noted and may cancel a token. If it is the meter of the session, that has
answered once more. -/
theorem exists_measure (r : Reporter) (env : Environment) :
    ∃ cancelled, env.cancelled ⊆ cancelled ∧ (r.measure env).2 =
      { env with
        journal := .sampled r.number :: env.journal
        cancelled := cancelled
        meter := if r.meter = .shared then env.meter.read.2 else env.meter } := by
  unfold measure
  cases r.meter with
  | unmetered => exact ⟨env.cancelled, List.Subset.refl _, rfl⟩
  | shared =>
    dsimp only
    split
    · exact ⟨_, List.subset_cons_self _ _, rfl⟩
    · exact ⟨env.cancelled, List.Subset.refl _, rfl⟩

@[simp] theorem journal_measure (r : Reporter) (env : Environment) :
    (r.measure env).2.journal = .sampled r.number :: env.journal := by
  obtain ⟨cancelled, -, hmeasure⟩ := r.exists_measure env
  rw [hmeasure]

theorem cancelled_measure (r : Reporter) (env : Environment) :
    env.cancelled ⊆ (r.measure env).2.cancelled := by
  obtain ⟨cancelled, hsubset, hmeasure⟩ := r.exists_measure env
  rwa [hmeasure]

theorem toldToStop_mono {r : Reporter} {env env' : Environment}
    (h : env.cancelled ⊆ env'.cancelled) (ht : r.toldToStop env = true) :
    r.toldToStop env' = true := by
  unfold toldToStop at ht ⊢
  cases hp : r.parent with
  | none => simpa [hp] using ht
  | some token =>
    simp only [hp, Option.any_some, Bool.or_eq_true, List.contains_iff_mem] at ht ⊢
    exact ht.imp_right fun hm => h hm

theorem toldToStop_requestStop (r : Reporter) (env : Environment) :
    r.requestStop.toldToStop env = true := by
  simp [toldToStop, requestStop]

end Reporter

namespace Scene

open Journal

variable {now : Nat} {sc next : Scene}

/-- The journal entries on the reporter of a scene. -/
def history (sc : Scene) : Journal := sc.env.journal.of sc.reporter.number

def told (sc : Scene) : Bool := sc.reporter.toldToStop sc.env

/-- Something that can happen to a reporter. -/
inductive Step : Scene → Scene → Prop
  /-- Something that is not about the reporter. -/
  | elsewhere {r : Reporter} {st : Stage} {env env' : Environment}
      (hcancelled : env.cancelled ⊆ env'.cancelled)
      (hjournal : env'.journal.of r.number = env.journal.of r.number) :
      Step ⟨r, st, env⟩ ⟨r, st, env'⟩
  | stop (r : Reporter) (st : Stage) (env : Environment) :
      Step ⟨r, st, env⟩ ⟨r.requestStop, st, env⟩
  | track (r : Reporter) (st : Stage) (env : Environment) (p : SentPacket) :
      Step ⟨r, st, env⟩ ⟨r, st, env.log (.tracked r.number p)⟩
  | receive (r : Reporter) (st : Stage) (env : Environment) (outcome : Outcome) :
      Step ⟨r, st, env⟩ ⟨(r.enqueue env outcome).1, st, (r.enqueue env outcome).2⟩
  | proceed {now : Nat} {sc next : Scene} (h : Proceeds now sc next) : Step sc next

/-- Whether a backlog that took an outcome in is to be reported. -/
def stageAfter (options : Options) (backlog : Backlog) : Stage :=
  if options.batch ≤ backlog.waiting then .reporting else .between

/-- A step of a reporter's own, with what made the reporter take it. -/
inductive Move (now : Nat) : Scene → Scene → Prop
  | start {r : Reporter} {env : Environment} (hphase : r.phase = .idle) :
      Move now ⟨r, .between, env⟩
        ⟨{ r with phase := .running (now + r.options.interval) }, .between, env⟩
  | close {r : Reporter} {env : Environment} {due : Nat} (hphase : r.phase = .running due)
      (hends : r.toldToStop env = true ∨ r.overruns due now = true) :
      Move now ⟨r, .between, env⟩ ⟨(r.close env).1, .between, (r.close env).2⟩
  | tick {r : Reporter} {env : Environment} {due : Nat} (hphase : r.phase = .running due)
      (htold : r.toldToStop env = false) (hdue : due ≤ now)
      (hfits : r.overruns due now = false) :
      Move now ⟨r, .between, env⟩
        ⟨{ r with phase := .running (Reporter.tickAfter r.options.interval due now) },
          .reporting, env⟩
  | add {r : Reporter} {env : Environment} {due : Nat} {a : Ack} {rest : List Outcome}
      (hphase : r.phase = .running due) (htold : r.toldToStop env = false)
      (hqueue : r.queue = .acked a :: rest) (hadmission : (r.backlog.takeAck a).2 = .added)
      (hfits : r.overruns due now = false) :
      Move now ⟨r, .between, env⟩
        ⟨{ r with
            queue := rest
            estimate := r.estimate.observe a.delay
            backlog := (r.backlog.takeAck a).1 },
          stageAfter r.options (r.backlog.takeAck a).1, env.log (.acked r.number a)⟩
  | displace {r : Reporter} {env : Environment} {due : Nat} {a : Ack} {rest : List Outcome}
      {oldest : Option SentPacket}
      (hphase : r.phase = .running due) (htold : r.toldToStop env = false)
      (hqueue : r.queue = .acked a :: rest)
      (hadmission : (r.backlog.takeAck a).2 = .displacing oldest)
      (hfits : r.overruns due now = false) :
      Move now ⟨r, .between, env⟩
        ⟨{ r with
            queue := rest
            estimate := r.estimate.observe a.delay
            backlog := (r.backlog.takeAck a).1 },
          stageAfter r.options (r.backlog.takeAck a).1,
          (env.log (.acked r.number a)).log (.evicted r.number oldest)⟩
  | lose {r : Reporter} {env : Environment} {due : Nat} {ssrc : Ssrc}
      {sequenceNumber : SequenceNumber} {rest : List Outcome}
      (hphase : r.phase = .running due) (htold : r.toldToStop env = false)
      (hqueue : r.queue = .lost ssrc sequenceNumber :: rest)
      (hfits : r.overruns due now = false) :
      Move now ⟨r, .between, env⟩
        ⟨{ r with queue := rest, backlog := r.backlog.takeLoss ssrc },
          stageAfter r.options (r.backlog.takeLoss ssrc),
          env.log (.lost r.number ssrc sequenceNumber)⟩
  | skip {r : Reporter} {env : Environment} (hempty : r.backlog.isEmpty = true) :
      Move now ⟨r, .reporting, env⟩ ⟨r, .between, env⟩
  | unavailable {r : Reporter} {env : Environment} (hbacklog : r.backlog.isEmpty = false)
      (hanswer : (r.measure env).1 = none) :
      Move now ⟨r, .reporting, env⟩ ⟨r.requestStop, .between, (r.measure env).2⟩
  | answer {r : Reporter} {env : Environment} {measurement : Measurement}
      (hbacklog : r.backlog.isEmpty = false) (hanswer : (r.measure env).1 = some measurement) :
      Move now ⟨r, .reporting, env⟩ ⟨r, .measured measurement, (r.measure env).2⟩
  | nothing {r : Reporter} {env : Environment} {measurement : Measurement} {backlog : Backlog}
      (hdrain : r.backlog.drain r.sender env.now.1
        (measurement.roundTrip.or r.estimate.smoothedTime?) = (backlog, none)) :
      Move now ⟨r, .measured measurement, env⟩ ⟨{ r with backlog := backlog }, .between, env.now.2⟩
  | assemble {r : Reporter} {env : Environment} {measurement : Measurement} {backlog : Backlog}
      {report : Report}
      (hdrain : r.backlog.drain r.sender env.now.1
        (measurement.roundTrip.or r.estimate.smoothedTime?) = (backlog, some report)) :
      Move now ⟨r, .measured measurement, env⟩
        ⟨{ r with backlog := backlog }, .assembled report, env.now.2⟩
  | withdraw {r : Reporter} {env : Environment} {report : Report}
      (htold : r.toldToStop env = true) :
      Move now ⟨r, .assembled report, env⟩ ⟨r, .between, env.log (.withdrawn r.number report)⟩
  | hand {r : Reporter} {env : Environment} {report : Report}
      (htold : r.toldToStop env = false) :
      Move now ⟨r, .assembled report, env⟩
        ⟨r, .between, (env.offer r.sink report).1.log
          (.reported r.number report (env.offer r.sink report).2)⟩

/-- A reporter that has been told to stop, or would have to wait past its horizon, stops. -/
theorem begin?_of_ends {r : Reporter} {env : Environment} {due : Nat}
    (hphase : r.phase = .running due)
    (hends : r.toldToStop env = true ∨ r.overruns due now = true) :
    begin? now r env = some ⟨(r.close env).1, .between, (r.close env).2⟩ := by
  have hcloses := (Bool.or_eq_true _ _).mpr hends
  simp [begin?, hphase, hcloses]

theorem Move.of_begin? {r : Reporter} {env : Environment} (h : begin? now r env = some next) :
    Move now ⟨r, .between, env⟩ next := by
  unfold begin? at h
  cases hp : r.phase with
  | stopped => simp [hp] at h
  | idle =>
    simp only [hp, Option.some.injEq] at h
    exact h ▸ Move.start hp
  | running due =>
    simp only [hp] at h
    cases hends : r.toldToStop env || r.overruns due now with
    | true =>
      simp only [hends, if_true, Option.some.injEq] at h
      exact h ▸ Move.close hp (Bool.or_eq_true_iff.mp hends)
    | false =>
      simp only [hends, Bool.false_eq_true, if_false] at h
      obtain ⟨ht, hfits⟩ := Bool.or_eq_false_iff.mp hends
      by_cases hd : due ≤ now
      · simp only [hd, if_true, Option.some.injEq] at h
        exact h ▸ Move.tick hp ht hd hfits
      · simp only [hd, if_false] at h
        cases hq : r.queue with
        | nil => simp [hq] at h
        | cons outcome rest =>
          simp only [hq, Option.some.injEq, takeFirst] at h
          subst h
          cases outcome with
          | acked a =>
            cases ha : (r.backlog.takeAck a).2 with
            | added =>
              simp only [Reporter.takeIn, ha]
              exact Move.add hp ht hq ha hfits
            | displacing oldest =>
              simp only [Reporter.takeIn, ha]
              exact Move.displace hp ht hq ha hfits
          | lost ssrc sequenceNumber => exact Move.lose hp ht hq hfits

theorem move_ask (now : Nat) (r : Reporter) (env : Environment) :
    Move now ⟨r, .reporting, env⟩ (ask r env) := by
  unfold ask
  cases hb : r.backlog.isEmpty with
  | true => exact Move.skip hb
  | false =>
    cases hm : r.measure env with
    | mk answer env' =>
      have henv : env' = (r.measure env).2 := by rw [hm]
      subst henv
      cases answer with
      | none => exact Move.unavailable hb (by rw [hm])
      | some measurement => exact Move.answer hb (by rw [hm])

theorem move_assemble (now : Nat) (r : Reporter) (env : Environment) (measurement : Measurement) :
    Move now ⟨r, .measured measurement, env⟩ (assemble r env measurement) := by
  unfold assemble
  cases hd : r.backlog.drain r.sender env.now.1
      (measurement.roundTrip.or r.estimate.smoothedTime?) with
  | mk backlog report =>
    cases report with
    | none => exact Move.nothing hd
    | some report => exact Move.assemble hd

theorem move_handOver (now : Nat) (r : Reporter) (env : Environment) (report : Report) :
    Move now ⟨r, .assembled report, env⟩ { reporter := r, env := r.handOver env report } := by
  unfold Reporter.handOver
  cases ht : r.toldToStop env with
  | true => exact Move.withdraw ht
  | false => exact Move.hand ht

theorem Proceeds.move (h : Proceeds now sc next) : Move now sc next := by
  obtain ⟨r, st, env⟩ := sc
  cases st with
  | between => exact .of_begin? h
  | reporting => exact Option.some.inj h ▸ move_ask now r env
  | measured measurement => exact Option.some.inj h ▸ move_assemble now r env measurement
  | assembled report => exact Option.some.inj h ▸ move_handOver now r env report

/-! ### What a step of a reporter's own leaves alone -/

theorem Move.number_eq (h : Move now sc next) : next.reporter.number = sc.reporter.number := by
  cases h <;> rfl

theorem Move.cancelled_subset (h : Move now sc next) : sc.env.cancelled ⊆ next.env.cancelled := by
  cases h with
  | unavailable | answer => exact Reporter.cancelled_measure _ _
  | hand => simp [List.Subset.refl]
  | _ => exact List.Subset.refl _

/-- A reporter adds entries on itself only, and none on what is tracked for it or told to it. -/
theorem Move.journal_extends (h : Move now sc next) :
    Extends (fun e => e.reporter? = some sc.reporter.number ∧ e.isOwn = true)
      sc.env.journal next.env.journal := by
  have hsame := Extends.refl
    (fun e => e.reporter? = some sc.reporter.number ∧ e.isOwn = true) sc.env.journal
  cases h with
  | start | tick | skip | nothing | assemble => exact hsame
  | close | add | lose | withdraw => exact hsame.log ⟨rfl, rfl⟩
  | displace => exact (hsame.log ⟨rfl, rfl⟩).log ⟨rfl, rfl⟩
  | unavailable | answer =>
    dsimp only
    rw [Reporter.journal_measure]
    exact hsame.log ⟨rfl, rfl⟩
  | hand =>
    rw [Environment.journal_log, Environment.journal_offer]
    exact hsame.log ⟨rfl, rfl⟩

/-! ### What a step leaves alone -/

/-- The reporters were started on the same terms. -/
structure SameTerms (r r' : Reporter) : Prop where
  sender : r'.sender = r.sender
  options : r'.options = r.options
  meter : r'.meter = r.meter
  sink : r'.sink = r.sink
  parent : r'.parent = r.parent
  horizon : r'.horizon = r.horizon

theorem SameTerms.trans {r r' r'' : Reporter} (h : SameTerms r r') (h' : SameTerms r' r'') :
    SameTerms r r'' :=
  ⟨h'.sender.trans h.sender, h'.options.trans h.options, h'.meter.trans h.meter,
    h'.sink.trans h.sink, h'.parent.trans h.parent, h'.horizon.trans h.horizon⟩

theorem Step.terms (h : Step sc next) : SameTerms sc.reporter next.reporter := by
  cases h with
  | elsewhere | stop | track => exact ⟨rfl, rfl, rfl, rfl, rfl, rfl⟩
  | receive r =>
    unfold Reporter.enqueue
    split <;> exact ⟨rfl, rfl, rfl, rfl, rfl, rfl⟩
  | proceed hp => cases hp.move <;> exact ⟨rfl, rfl, rfl, rfl, rfl, rfl⟩

theorem terms_of_steps (h : Relation.ReflTransGen Step sc next) :
    SameTerms sc.reporter next.reporter := by
  induction h with
  | refl => exact ⟨rfl, rfl, rfl, rfl, rfl, rfl⟩
  | tail _ hlast ih => exact ih.trans hlast.terms

/-! ### Courses -/

/-- A reporter that has just been made. -/
structure Fresh (sc : Scene) : Prop where
  phase : sc.reporter.phase = .idle
  queue : sc.reporter.queue = []
  backlog : sc.reporter.backlog = { limit := sc.reporter.options.capacity }
  estimate : sc.reporter.estimate = {}
  stage : sc.stage = .between
  history : sc.history = []

/-- A scene that a reporter can come to. -/
def Course (sc : Scene) : Prop :=
  ∃ origin : Scene, Fresh origin ∧ Relation.ReflTransGen Step origin sc

/-- What holds of every new reporter and is kept by every step holds in the whole course. -/
theorem Course.induction {P : Scene → Prop} (hfresh : ∀ sc, Fresh sc → P sc)
    (hstep : ∀ sc next, P sc → Step sc next → P next) (h : Course sc) : P sc := by
  obtain ⟨origin, horigin, hsteps⟩ := h
  induction hsteps with
  | refl => exact hfresh origin horigin
  | tail _ hlast ih => exact hstep _ _ ih hlast

theorem Course.tail (h : Course sc) (hsteps : Relation.ReflTransGen Step sc next) :
    Course next := by
  obtain ⟨origin, horigin, hbefore⟩ := h
  exact ⟨origin, horigin, hbefore.trans hsteps⟩

end Scene

end MediaMux.Feedback
