import MediaMux.Proofs.Feedback.Batch
import MediaMux.Proofs.Feedback.Deadline
import MediaMux.Proofs.Feedback.Smoothing

/-!
# Measurements of a reporter

The estimate of a reporter is made from all acks that it has taken in (`Course.estimate_eq`). A
reporter asks its meter in the step after one that makes a report due and at no other point
(`Proceeds.asks_eq`, `Move.questions`). A report carries the round-trip time of the answer, or else
the estimate (`Move.of_measured`, `Move.of_assembled`).
-/

namespace MediaMux.Feedback

open Journal JournalEntry

namespace Outcome

def event : Outcome → Backlog.Event
  | acked a => .ack a
  | lost ssrc _ => .loss ssrc

def ack? : Outcome → Option Ack
  | acked a => some a
  | lost _ _ => none

end Outcome

theorem filterMap_takenIn (j : Journal) :
    (gather takenIn j).filterMap Outcome.ack? = gather takenAck j := by
  induction j with
  | nil => rfl
  | cons e j ih => cases e <;> simp [ih, Outcome.ack?]

namespace Scene

variable {now : Nat} {sc next : Scene}

/-! ### The estimate -/

theorem Move.estimate_eq (h : Move now sc next)
    (hbefore : sc.reporter.estimate = .ofSamples ((gather takenAck sc.history).map Ack.delay)) :
    next.reporter.estimate = .ofSamples ((gather takenAck next.history).map Ack.delay) := by
  simp only [history] at hbefore
  cases h with
  | start | tick | skip | nothing | assemble => exact hbefore
  | close | lose | withdraw => simpa [history, Reporter.close] using hbefore
  | add | displace =>
    dsimp only at hbefore
    simp [history, hbefore, RoundTripEstimate.ofSamples_concat]
  | unavailable | answer | hand => simpa [history, Reporter.requestStop] using hbefore

theorem Step.estimate_eq (h : Step sc next)
    (hbefore : sc.reporter.estimate = .ofSamples ((gather takenAck sc.history).map Ack.delay)) :
    next.reporter.estimate = .ofSamples ((gather takenAck next.history).map Ack.delay) := by
  cases h with
  | elsewhere hcancelled hjournal => simpa [history, hjournal] using hbefore
  | stop => exact hbefore
  | track => simpa [history] using hbefore
  | receive =>
    unfold Reporter.enqueue
    split <;> simpa [history] using hbefore
  | proceed hp => exact hp.move.estimate_eq hbefore

/-- The estimate is from all acks that were taken in, whatever has become of them. -/
theorem Course.estimate_eq (h : Course sc) :
    sc.reporter.estimate = .ofSamples ((gather takenAck sc.history).map Ack.delay) :=
  h.induction (P := fun sc =>
      sc.reporter.estimate = .ofSamples ((gather takenAck sc.history).map Ack.delay))
    (fun sc hfresh => by rw [hfresh.estimate, hfresh.history]; rfl)
    fun _ _ hbefore hstep => hstep.estimate_eq hbefore

/-- Acks are taken in in the order in which they were told. -/
theorem Course.takenAck_prefix (h : Course sc) :
    gather takenAck sc.history <+: (gather toldInTime sc.history).filterMap Outcome.ack? := by
  rw [h.queued.told, List.append_assoc, List.filterMap_append, filterMap_takenIn]
  exact List.prefix_append _ _

/-! ### Questions -/

def asks (sc : Scene) : Bool :=
  match sc.stage with
  | .reporting => !sc.reporter.backlog.isEmpty
  | _ => false

/-- The backlog that the next step is to report, unless the reporter stops: at a tick that is due
the one that there is, and otherwise the one with the next outcome, if that completes a batch. -/
def dueBacklog? (now : Nat) (sc : Scene) : Option Backlog :=
  match sc.stage, sc.reporter.phase with
  | .between, .running due =>
    if sc.told || sc.reporter.overruns due now then none
    else if due ≤ now then some sc.reporter.backlog
    else
      (sc.reporter.queue.head?.map fun outcome => sc.reporter.backlog.step outcome.event).filter
        fun b => sc.reporter.options.batch ≤ b.waiting
  | _, _ => none

/-- Whether the next step is a tick or completes a batch, with something to report. -/
def attempts (now : Nat) (sc : Scene) : Bool := (sc.dueBacklog? now).any fun b => !b.isEmpty

theorem attempts_of_waiting (h : sc.proceed? now = none) : sc.attempts now = false := by
  obtain ⟨r, st, env⟩ := sc
  obtain ⟨rfl, hstopped | ⟨htold, hqueue, due, hphase, hlt, hfits⟩⟩ := waits h
  · simp only at hstopped
    simp [attempts, dueBacklog?, hstopped]
  · simp only at htold hqueue hphase hfits
    simp [attempts, dueBacklog?, htold, hqueue, hphase, hfits, Nat.not_le_of_lt hlt]

theorem backlog_takeIn (r : Reporter) (env : Environment) (outcome : Outcome) :
    (r.takeIn env outcome).1.backlog = r.backlog.step outcome.event := by
  cases outcome <;> rfl

theorem options_takeIn (r : Reporter) (env : Environment) (outcome : Outcome) :
    (r.takeIn env outcome).1.options = r.options := by
  cases outcome <;> rfl

theorem asks_takeFirst (r : Reporter) (env : Environment) (outcome : Outcome)
    (rest : List Outcome) :
    (takeFirst r env outcome rest).asks =
      (decide (r.options.batch ≤ (r.backlog.step outcome.event).waiting) &&
        !(r.backlog.step outcome.event).isEmpty) := by
  simp only [asks, takeFirst, backlog_takeIn, options_takeIn]
  by_cases hfull : r.options.batch ≤ (r.backlog.step outcome.event).waiting <;> simp [hfull]

/-- A reporter asks its meter in the step after one that makes a report due. -/
theorem Proceeds.asks_eq (h : Proceeds now sc next) : next.asks = sc.attempts now := by
  obtain ⟨r, st, env⟩ := sc
  cases st with
  | reporting | measured | assembled =>
    have hnone : next.asks = false := by
      cases h.move <;> rfl
    rw [hnone]
    rfl
  | between =>
    have hbegin : begin? now r env = some next := h
    unfold begin? at hbegin
    unfold attempts dueBacklog?
    cases hphase : r.phase with
    | stopped => simp [hphase] at hbegin
    | idle =>
      simp only [hphase, Option.some.injEq] at hbegin
      subst hbegin
      rfl
    | running due =>
      simp only [hphase] at hbegin
      cases hends : r.toldToStop env || r.overruns due now with
      | true =>
        simp only [hends, if_true, Option.some.injEq] at hbegin
        subst hbegin
        simp [asks, told, hends]
      | false =>
        simp only [hends, Bool.false_eq_true, if_false] at hbegin
        by_cases hdue : due ≤ now
        · simp only [hdue, if_true, Option.some.injEq] at hbegin
          subst hbegin
          simp [asks, told, hends, hdue]
        · simp only [hdue, if_false] at hbegin
          cases hqueue : r.queue with
          | nil => simp [hqueue] at hbegin
          | cons outcome rest =>
            simp only [hqueue, Option.some.injEq] at hbegin
            subst hbegin
            rw [asks_takeFirst]
            simp [told, hends, hdue, Option.any_filter]

/-- A step asks the meter at most once, and does if it is the one to. -/
theorem Move.questions (h : Move now sc next) :
    gather question next.history =
      gather question sc.history ++ if sc.asks then [()] else [] := by
  cases h with
  | start | tick | nothing | assemble => simp [history, asks]
  | skip hempty => simp [history, asks, hempty]
  | close | add | displace | lose | withdraw | hand => simp [history, asks, Reporter.close]
  | unavailable hbacklog | answer hbacklog =>
    simp [history, asks, hbacklog, Reporter.requestStop]

/-- Whether the next step asks the meter of the session. -/
def reads (sc : Scene) : Bool := sc.asks && sc.reporter.meter = .shared

theorem meter_offer (env : Environment) (place : Nat) (report : Report) :
    (env.offer place report).1.meter = env.meter := by
  obtain ⟨sinks, hoffer⟩ := env.exists_offer place report
  rw [hoffer]

theorem answered_measure (r : Reporter) (env : Environment) :
    (r.measure env).2.meter.answered =
      env.meter.answered + (decide (r.meter = .shared)).toNat := by
  obtain ⟨cancelled, -, hmeasure⟩ := r.exists_measure env
  rw [hmeasure]
  by_cases hmeter : r.meter = .shared <;> simp [hmeter, Meter.read]

/-- A step has the meter of the session answer once, if it is the one to ask it, and else not. -/
theorem Move.answered (h : Move now sc next) :
    next.env.meter.answered = sc.env.meter.answered + sc.reads.toNat := by
  cases h with
  | start | close | tick | add | displace | lose | nothing | assemble | withdraw => rfl
  | skip hempty => simp [reads, asks, hempty]
  | hand => exact congrArg Meter.answered (meter_offer _ _ _)
  | unavailable hbacklog | answer hbacklog =>
    rw [answered_measure]
    simp [reads, asks, hbacklog]

/-! ### The answer in the report -/

/-- What a reporter reads off its meter: nothing, if it has none, and else the next answer of the
meter of the session. -/
theorem measure_eq (r : Reporter) (env : Environment) :
    (r.measure env).1 = match r.meter with
      | .unmetered => some {}
      | .shared => (env.meter.readings env.meter.answered).measured := by
  unfold Reporter.measure
  cases r.meter <;> rfl

/-- A reporter has an answer of its meter after it asked. -/
theorem Move.of_measured (h : Move now sc next) {m : Measurement}
    (hstage : next.stage = .measured m) :
    sc.stage = .reporting ∧ sc.reporter.backlog.isEmpty = false ∧
      (sc.reporter.measure sc.env).1 = some m := by
  cases h with
  | answer hbacklog hanswer =>
    cases hstage
    exact ⟨rfl, hbacklog, hanswer⟩
  | add | displace | lose =>
    dsimp only [stageAfter] at hstage
    split at hstage <;> cases hstage
  | _ => cases hstage

/-- A report is put together at the time that the clock shows, with the round-trip time of the
answer or else of the estimate. -/
theorem Move.of_assembled (h : Move now sc next) {report : Report}
    (hstage : next.stage = .assembled report) :
    ∃ m, sc.stage = .measured m ∧ report.madeAt = sc.env.now.1 ∧
      report.roundTrip = m.roundTrip.or sc.reporter.estimate.smoothedTime? := by
  cases h with
  | @assemble r env m backlog report' hdrain =>
    cases hstage
    obtain ⟨-, rfl, -⟩ := Backlog.drain_eq_some hdrain
    exact ⟨m, rfl, rfl, rfl⟩
  | add | displace | lose => exact absurd hstage (stageAfter_ne_assembled report)
  | _ => cases hstage

end Scene

end MediaMux.Feedback
