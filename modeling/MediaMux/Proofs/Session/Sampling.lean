import MediaMux.Proofs.Feedback.Sampling
import MediaMux.Proofs.Session.Handovers
import MediaMux.Proofs.Session.Resolutions

/-!
# Measurements in a session

Each report that a reporter hands over goes back to a question to its meter, and the reporter does
nothing else in between (`World.Prepared`). Along a run a reporter asks once for each tick and each
full batch with something to report (`World.Initial.questions_run`). Both are put together in
`World.reports_carry_round_trip`.
-/

namespace MediaMux

open Feedback Journal JournalEntry

/-! ### What a call leaves to a reporter -/

theorem JournalEntry.question_of_isOwn {e : JournalEntry} (h : e.isOwn = false) :
    e.question = [] := by
  cases e <;> first | rfl | cases h

namespace Crew

variable {c c' : Crew}

theorem Deed.backlog_eq (h : Deed c c') {g : Nat} {r r' : Reporter}
    (hr : c.reporters[g]? = some r) (hr' : c'.reporters[g]? = some r') :
    r'.backlog = r.backlog := by
  obtain ⟨hlt, -⟩ := List.getElem?_eq_some_iff.mp hr
  cases h with
  | elsewhere | track => exact congrArg (·.backlog) (Option.some.inj (hr'.symm.trans hr))
  | @receive rs env q other hother outcome =>
    rw [List.getElem?_set] at hr'
    split at hr'
    · next h =>
      subst h
      cases hr.symm.trans hother
      simp only [hlt, if_true, Option.some.injEq] at hr'
      subst hr'
      unfold Reporter.enqueue
      split <;> rfl
    · exact congrArg (·.backlog) (Option.some.inj (hr'.symm.trans hr))
  | stop rs env q =>
    rw [List.getElem?_modify] at hr'
    obtain ⟨x, hx, rfl⟩ := Option.map_eq_some_iff.mp hr'
    cases hr.symm.trans hx
    split <;> rfl
  | add rs env sender options meter sink parent =>
    rw [List.getElem?_append_left hlt] at hr'
    exact congrArg (·.backlog) (Option.some.inj (hr'.symm.trans hr))

theorem backlog_of_deeds (h : Relation.ReflTransGen Deed c c') {g : Nat} {r r' : Reporter}
    (hr : c.reporters[g]? = some r) (hr' : c'.reporters[g]? = some r') :
    r'.backlog = r.backlog := by
  induction h generalizing r' with
  | refl => exact congrArg (·.backlog) (Option.some.inj (hr'.symm.trans hr))
  | @tail mid last hsteps hlast ih =>
    obtain ⟨hlt, -⟩ := List.getElem?_eq_some_iff.mp hr
    have hle := Session.length_le_of_deeds hsteps
    have hmid := List.getElem?_eq_getElem (Nat.lt_of_lt_of_le hlt hle)
    exact (hlast.backlog_eq hmid hr').trans (ih hmid)

end Crew

namespace World

variable {w : World} {g : Nat} {sc next : Scene} {actions : List Action}

/-! ### Questions -/

def asks (w : World) (g : Nat) : Bool := (w.scene? g).any Scene.asks

/-- Whether the next step of the reporter `g` asks the meter of the session. -/
def reads (w : World) (g : Nat) : Bool := (w.scene? g).any Scene.reads

/-- Whether the action is a tick of the reporter `g`, or completes a batch, with something to
report. -/
def attemptsAt (w : World) (g : Nat) : Action → Bool
  | .call _ => false
  | .proceed q => q = g && (w.scene? g).any (Scene.attempts w.session.timer)

/-- How many ticks and full batches of the reporter `g` have something to report in a run. -/
def attempts (w : World) (g : Nat) : List Action → Nat
  | [] => 0
  | a :: rest => (w.attemptsAt g a).toNat + (w.step a).attempts g rest

def questions (w : World) (g : Nat) : Nat := (gather question (w.history g)).length

theorem asks_call (hw : InOrder w) (c : Call) (g : Nat) :
    (w.step (.call c)).asks g = w.asks g := by
  have hdeeds := (w.session.effect_apply c).deeds hw.session
  unfold asks
  cases hr : w.session.reporters[g]? with
  | some r =>
    obtain ⟨r', hr', -, -⟩ := Crew.follows_of_deeds hdeeds hw.session.registered hr
    have hbacklog := Crew.backlog_of_deeds hdeeds hr hr'
    have hscene : (w.step (.call c)).scene? g = some ⟨r', w.stage g, (w.session.apply c).env⟩ :=
      scene?_of_reporter hr'
    rw [scene?_of_reporter hr, hscene]
    simp [Scene.asks, hbacklog]
  | none =>
    -- a reporter that is new is between two rounds
    have hbetween : w.stage g = .between :=
      hw.coursed.between g (List.getElem?_eq_none_iff.mp hr)
    have hnone : w.scene? g = none := by simp [scene?, hr]
    rw [hnone]
    cases hr' : (w.session.apply c).reporters[g]? with
    | none => simp [scene?, step, hr']
    | some r' => simp [scene?, step, hr', Scene.asks, hbetween]

theorem questions_call (hw : InOrder w) (c : Call) (g : Nat) :
    (w.step (.call c)).questions g = w.questions g :=
  congrArg List.length (((hw.journal_call c).of g).gather_eq fun _ he => question_of_isOwn he)

theorem attemptsAt_of_waiting {q : Nat}
    (h : (w.scene? q).bind (Scene.proceed? w.session.timer) = none) (g : Nat) :
    w.attemptsAt g (.proceed q) = false := by
  show (decide (q = g) && (w.scene? g).any (Scene.attempts w.session.timer)) = false
  by_cases hq : q = g
  · subst hq
    cases hsc : w.scene? q with
    | none => simp
    | some sc =>
      rw [hsc, Option.bind_some] at h
      simp [Scene.attempts_of_waiting h]
  · simp [hq]

/-- A step of a reporter asks, if it is the one to, and the next one is to ask if this one makes a
report due. -/
theorem InOrder.questions_put (hw : InOrder w) (hsc : w.scene? g = some sc)
    (hp : Scene.Proceeds w.session.timer sc next) :
    (w.put g next).questions g = w.questions g + (w.asks g).toNat ∧
      (w.put g next).asks g = w.attemptsAt g (.proceed g) := by
  have hafter : (w.put g next).history g = next.history :=
    ((hw.put hsc hp).history_eq (scene?_put hsc next)).symm
  have hquestions := congrArg List.length hp.move.questions
  refine ⟨?_, ?_⟩
  · unfold questions asks
    rw [hafter, ← hw.history_eq hsc, hsc, hquestions, List.length_append]
    cases hasks : sc.asks <;> simp [hasks]
  · show ((w.put g next).scene? g).any Scene.asks =
      (decide (g = g) && (w.scene? g).any (Scene.attempts w.session.timer))
    simp [scene?_put hsc next, hsc, hp.asks_eq]

theorem InOrder.questions_proceed (hw : InOrder w) (g : Nat) :
    (w.step (.proceed g)).questions g = w.questions g + (w.asks g).toNat ∧
      (w.step (.proceed g)).session.env.meter.answered =
        w.session.env.meter.answered + (w.reads g).toNat := by
  rcases w.proceed_cases g with ⟨hwaits, hsame⟩ | ⟨sc, next, hsc, hp, hput⟩
  · have hnone : w.asks g = false ∧ w.reads g = false := by
      unfold asks reads
      cases hsc : w.scene? g with
      | none => exact ⟨rfl, rfl⟩
      | some sc =>
        rw [hsc, Option.bind_some] at hwaits
        have hasks : sc.asks = false := by simp [Scene.asks, (Scene.waits hwaits).1]
        simp [Scene.reads, hasks]
    rw [hsame, hnone.1, hnone.2]
    exact ⟨rfl, rfl⟩
  · obtain ⟨-, -, henv⟩ := scene?_eq_some hsc
    rw [hput, reads, hsc, Option.any_some, ← henv]
    exact ⟨(hw.questions_put hsc hp).1, hp.move.answered⟩

theorem InOrder.questions_put_other (hw : InOrder w) {q : Nat} (hsc : w.scene? q = some sc)
    (hp : Scene.Proceeds w.session.timer sc next) (hq : g ≠ q) :
    (w.put q next).questions g = w.questions g ∧ (w.put q next).asks g = w.asks g := by
  refine ⟨?_, ?_⟩
  · unfold questions
    rw [hw.history_put hsc hp hq]
  · unfold asks
    cases hr : w.session.reporters[g]? with
    | none => simp [World.scene?, World.put, hr, Ne.symm hq]
    | some r => simp [World.scene?, World.put, hr, hq, Ne.symm hq, Scene.asks]

/-- Each action that makes a report due is followed by a question, and no other is. -/
theorem InOrder.questions_step (hw : InOrder w) (a : Action) (g : Nat) :
    (w.step a).questions g + ((w.step a).asks g).toNat =
      w.questions g + (w.asks g).toNat + (w.attemptsAt g a).toNat := by
  cases a with
  | call c =>
    rw [questions_call hw, asks_call hw]
    rfl
  | proceed q =>
    rcases w.proceed_cases q with ⟨hwaits, hsame⟩ | ⟨sc, next, hsc, hp, hput⟩
    · rw [hsame, attemptsAt_of_waiting hwaits]
      rfl
    · rw [hput]
      by_cases hq : g = q
      · subst hq
        obtain ⟨hquestions, hasks⟩ := hw.questions_put hsc hp
        rw [hquestions, hasks]
      · obtain ⟨hquestions, hasks⟩ := hw.questions_put_other hsc hp hq
        have hnone : w.attemptsAt g (.proceed q) = false := by
          simp [attemptsAt, Ne.symm hq]
        rw [hquestions, hasks, hnone]
        rfl

theorem InOrder.questions_run (hw : InOrder w) (actions : List Action) (g : Nat) :
    (w.run actions).questions g + ((w.run actions).asks g).toNat =
      w.questions g + (w.asks g).toNat + w.attempts g actions := by
  induction actions generalizing w with
  | nil => rfl
  | cons a rest ih =>
    have hrest := ih (hw.step a)
    rw [hw.questions_step, Nat.add_assoc] at hrest
    exact hrest

theorem Initial.questions_run (h : Initial w) (actions : List Action) (g : Nat) :
    (w.run actions).questions g + ((w.run actions).asks g).toNat = w.attempts g actions := by
  obtain ⟨hreporters, -, hjournal, -⟩ := h.empty
  rw [h.inOrder.questions_run]
  simp [questions, asks, history, scene?, hreporters, hjournal, Journal.of]

/-! ### Rounds in a run -/

/-- A reporter is in a round since it took a step of its own. -/
theorem InOrder.entered_step (hw : InOrder w) {a : Action}
    (hstage : (w.step a).stage g ≠ .between) :
    (a = .proceed g ∧ ∃ sc next, w.scene? g = some sc ∧
      Scene.Proceeds w.session.timer sc next ∧ next.stage = (w.step a).stage g) ∨
    (a ≠ .proceed g ∧ (w.step a).stage g = w.stage g) := by
  cases a with
  | call c => exact .inr ⟨nofun, rfl⟩
  | proceed q =>
    rcases w.proceed_cases q with ⟨hwaits, hsame⟩ | ⟨sc, next, hsc, hp, hput⟩
    · rw [hsame] at hstage ⊢
      refine .inr ⟨?_, rfl⟩
      rintro ⟨rfl⟩
      -- a reporter waits between two rounds only
      cases hr : w.session.reporters[g]? with
      | none => exact hstage (hw.coursed.between g (List.getElem?_eq_none_iff.mp hr))
      | some r =>
        rw [scene?_of_reporter hr, Option.bind_some] at hwaits
        exact hstage (Scene.waits hwaits).1
    · rw [hput]
      by_cases hq : q = g
      · subst hq
        exact .inl ⟨rfl, sc, next, hsc, hp, by simp [World.put]⟩
      · exact .inr ⟨fun h => hq (Action.proceed.inj h), by simp [World.put, Ne.symm hq]⟩

/-- Step `j` of a run takes the reporter `g` to the stage `st`, and up to step `k` it takes no
other. -/
structure Enters (w : World) (actions : List Action) (g j k : Nat) (st : Stage) : Prop where
  lt : j < k
  own : actions[j]? = some (.proceed g)
  proceeds : ∃ sc next, (w.before actions j).scene? g = some sc ∧
    Scene.Proceeds (w.before actions j).session.timer sc next ∧ next.stage = st
  last : ∀ n, j < n → n < k → actions[n]? ≠ some (.proceed g)

theorem Enters.succ {j k : Nat} {st : Stage} (h : Enters w actions g j k st)
    (hother : actions[k]? ≠ some (.proceed g)) : Enters w actions g j (k + 1) st := by
  refine ⟨Nat.lt_succ_of_lt h.lt, h.own, h.proceeds, ?_⟩
  intro n hn hle
  rcases Nat.lt_succ_iff_lt_or_eq.mp hle with hlt | rfl
  · exact h.last n hn hlt
  · exact hother

/-- A reporter that is in a round came to its stage by a step of its own. -/
theorem Initial.exists_enters (h : Initial w) {k : Nat} {st : Stage}
    (hstage : (w.before actions k).stage g = st) (hst : st ≠ .between) :
    ∃ j, Enters w actions g j k st := by
  induction k with
  | zero => exact absurd (hstage.symm.trans (h.between g)) hst
  | succ k ih =>
    cases ha : actions[k]? with
    | none =>
      rw [before_succ_of_none ha] at hstage
      obtain ⟨j, hj⟩ := ih hstage
      exact ⟨j, hj.succ (ha ▸ nofun)⟩
    | some a =>
      rw [before_succ ha] at hstage
      have hw : InOrder (w.before actions k) := (h.reachable.run _).inOrder
      rcases hw.entered_step (hstage ▸ hst) with
        ⟨rfl, sc, next, hsc, hp, hnext⟩ | ⟨hother, hsame⟩
      · refine ⟨k, Nat.lt_succ_self k, ha, ⟨sc, next, hsc, hp, hnext.trans hstage⟩, ?_⟩
        intro n hn hle
        exact absurd (Nat.lt_of_lt_of_le hn (Nat.le_of_lt_succ hle)) (Nat.lt_irrefl k)
      · obtain ⟨j, hj⟩ := ih (hsame.symm.trans hstage)
        exact ⟨j, hj.succ fun hown => hother (Option.some.inj (ha.symm.trans hown))⟩

/-! ### The way of a report -/

/-- How the reporter `g` came to hand over a report in step `k` of a run. In step `i` it had
something to report and asked its meter, which measured `m`. It put the report together in step `j`,
and did nothing else in between. -/
structure Prepared (w : World) (actions : List Action) (g i j k : Nat) (m : Measurement)
    (report : Report) : Prop where
  order : i < j ∧ j < k
  asking : actions[i]? = some (.proceed g)
  making : actions[j]? = some (.proceed g)
  alone : ∀ n, i < n → n < k → actions[n]? = some (.proceed g) → n = j
  answered : ∃ r, (w.before actions i).session.reporters[g]? = some r ∧
    (w.before actions i).stage g = .reporting ∧ r.backlog.isEmpty = false ∧
    let meter := (w.before actions i).session.env.meter
    match r.meter with
    | .unmetered => m = {}
    | .shared => (meter.readings meter.answered).measured = some m
  madeAt : report.madeAt = (w.before actions j).session.env.clock.now
  /-- It carries what the meter measured, or else the estimate from how long each ack took that was
  taken in so far. -/
  roundTrip : report.roundTrip = m.roundTrip.or
    (RoundTripEstimate.ofSamples ((gather takenAck ((w.before actions j).history g)).map
      fun a => a.ackedAt - a.packet.sentAt)).smoothedTime?
  /-- The acks were taken in in the order in which they were told. -/
  inTurn : gather takenAck ((w.before actions j).history g) <+:
    (gather toldInTime ((w.before actions j).history g)).filterMap Outcome.ack?
  unknown : report.roundTrip = none ↔
    m.roundTrip = none ∧ gather takenAck ((w.before actions j).history g) = []

theorem stage_of_handover? {h : Handover} (hhanded : w.handover? (.proceed g) = some h) :
    w.stage g = .assembled h.report := by
  obtain ⟨sc, hsc, hsome⟩ := Option.bind_eq_some_iff.mp hhanded
  obtain ⟨-, hstage, -⟩ := scene?_eq_some hsc
  rw [← hstage]
  unfold Scene.handover? at hsome
  cases hst : sc.stage with
  | between | reporting | measured => simp [hst] at hsome
  | assembled report =>
    simp only [hst] at hsome
    split at hsome
    · cases hsome
    · cases hsome
      rfl

/-- Every report that is handed over was prepared for. -/
theorem Initial.exists_prepared (horigin : Initial w) {k : Nat} {h : Handover}
    (hhanded : (w.before actions k).handover? (.proceed g) = some h) :
    ∃ i j m, Prepared w actions g i j k m h.report := by
  obtain ⟨j, hj⟩ := horigin.exists_enters (stage_of_handover? hhanded) nofun
  obtain ⟨made, assembled, hmade, hassembles, hstage⟩ := hj.proceeds
  obtain ⟨m, hmeasured, hmadeAt, hroundTrip⟩ := hassembles.move.of_assembled hstage
  obtain ⟨-, hstagej, henv⟩ := scene?_eq_some hmade
  obtain ⟨i, hi⟩ := horigin.exists_enters (hstagej.symm.trans hmeasured) nofun
  obtain ⟨asked, answered, hasked, hanswers, hanswered⟩ := hi.proceeds
  obtain ⟨hreporting, hbacklog, hanswer⟩ := hanswers.move.of_measured hanswered
  obtain ⟨hr, hstagei, henvi⟩ := scene?_eq_some hasked
  have hreach : Reachable (w.before actions j) := horigin.reachable.run _
  have hcourse := hreach.course hmade
  have hestimate := hcourse.estimate_eq
  have hturn := hcourse.takenAck_prefix
  rw [hreach.inOrder.history_eq hmade] at hestimate hturn
  rw [hestimate] at hroundTrip
  refine ⟨i, j, m, ⟨hi.lt, hj.lt⟩, hi.own, hj.own, ?_,
    ⟨asked.reporter, hr, hstagei.symm.trans hreporting, hbacklog, ?_⟩, henv ▸ hmadeAt, hroundTrip,
    hturn, ?_⟩
  · intro n hin hnk hown
    rcases Nat.lt_trichotomy n j with hlt | heq | hgt
    · exact absurd hown (hi.last n hin hlt)
    · exact heq
    · exact absurd hown (hj.last n hgt hnk)
  · rw [Scene.measure_eq, henvi] at hanswer
    dsimp only
    cases hmeter : asked.reporter.meter with
    | unmetered =>
      rw [hmeter] at hanswer
      exact (Option.some.inj hanswer).symm
    | shared =>
      rw [hmeter] at hanswer
      exact hanswer
  · rw [hroundTrip, Option.or_eq_none_iff, RoundTripEstimate.smoothedTime?_ofSamples_eq_none,
      List.map_eq_nil_iff]

/-- Along any run of a new session, every report that a reporter hands over was prepared for: it
carries the round-trip time of the answer that its meter gave for it or else of the estimate from
all acks taken in so far, and none if there is neither. The reporter asks its meter once for each
tick and each full batch with something to report, in its next step, and not otherwise: each of its
steps asks if it is the one to, and so has the meter of the session answer once, if that is its. -/
theorem reports_carry_round_trip {origin : World} (horigin : Initial origin)
    (actions : List Action) (g : Nat) :
    (∀ k h, actions[k]? = some (.proceed g) →
      (origin.before actions k).handover? (.proceed g) = some h →
      ∃ i j m, Prepared origin actions g i j k m h.report) ∧
    (origin.run actions).questions g + ((origin.run actions).asks g).toNat =
      origin.attempts g actions ∧
    ∀ k, actions[k]? = some (.proceed g) →
      let w := origin.before actions k
      let after := origin.before actions (k + 1)
      after.questions g = w.questions g + (w.asks g).toNat ∧
        after.session.env.meter.answered =
          w.session.env.meter.answered + (w.reads g).toNat := by
  refine ⟨fun k h _ hhanded => horigin.exists_prepared hhanded, horigin.questions_run actions g, ?_⟩
  intro k hk w after
  have hafter : after = w.step (.proceed g) := before_succ hk
  rw [hafter]
  exact (horigin.reachable.run (actions.take k)).inOrder.questions_proceed g

/-- Two packets are acked, each after a while and reported at once. By the second report the meter
has measured a round-trip time. -/
def measuredOnce : List Action :=
  ackedPacket.take 4 ++
    [writing 1 ⟨0⟩, .call (.setClock 40_000), .call (.resolve 0 0 .acked)] ++
    List.replicate 5 (.proceed 0) ++
    [.call (.setReading { measured := some { roundTrip := some 70_000 } }), writing 1 ⟨1⟩,
      .call (.setClock 100_000), .call (.resolve 0 1 .acked)] ++
    List.replicate 4 (.proceed 0)

/-- A reporter asks its meter once for each report. The first carries its own estimate, as the meter
measures nothing, and the second what the meter measures. -/
theorem report_of_one_ack :
    let origin : World := { session := {} }
    (∃ i j m report, Prepared origin measuredOnce 0 i j 11 m report ∧
      report.madeAt = 40_000 ∧ report.roundTrip = some 40_000) ∧
    (∃ i j m report, Prepared origin measuredOnce 0 i j 19 m report ∧
      report.madeAt = 100_000 ∧ report.roundTrip = some 70_000) ∧
    (origin.run measuredOnce).questions 0 = 2 ∧ origin.attempts 0 measuredOnce = 2 := by
  intro origin
  obtain ⟨hreports, hcount, -⟩ := reports_carry_round_trip initial_empty measuredOnce 0
  have hfirst : ((origin.before measuredOnce 11).handover? (.proceed 0)).map
      (fun h => (h.report.madeAt, h.report.roundTrip)) = some (40_000, some 40_000) := by
    decide +kernel
  have hsecond : ((origin.before measuredOnce 19).handover? (.proceed 0)).map
      (fun h => (h.report.madeAt, h.report.roundTrip)) = some (100_000, some 70_000) := by
    decide +kernel
  obtain ⟨h, hhanded, hmade⟩ := Option.map_eq_some_iff.mp hfirst
  obtain ⟨h', hhanded', hmade'⟩ := Option.map_eq_some_iff.mp hsecond
  obtain ⟨i, j, m, hprepared⟩ := hreports 11 h rfl hhanded
  obtain ⟨i', j', m', hprepared'⟩ := hreports 19 h' rfl hhanded'
  have hquestions : (origin.run measuredOnce).questions 0 = 2 := by decide +kernel
  have hasks : (origin.run measuredOnce).asks 0 = false := by decide +kernel
  rw [hquestions, hasks] at hcount
  exact ⟨⟨i, j, m, h.report, hprepared, Prod.mk.inj hmade⟩,
    ⟨i', j', m', h'.report, hprepared', Prod.mk.inj hmade'⟩, hquestions, hcount.symm⟩

end World

end MediaMux
