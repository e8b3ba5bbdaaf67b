import MediaMux.Proofs.Feedback.Ledger
import MediaMux.Proofs.Session.Batches
import MediaMux.Proofs.Session.Timers

/-!
# The life of a reporter in a session

Whatever happens in a session, a reporter starts once, stops for good, and is silent from the moment
it is told to (`World.silent_once_told`). It is told by each of the calls that are there for it, by
its parent token and by a meter that is unavailable (`World.told_of_tellsToStop`).
-/

namespace MediaMux

open Feedback

namespace World

variable {w : World} {g : Nat} {sc : Scene}

/-! ### Telling a reporter to stop -/

theorem tracker?_of_scene (hsc : w.scene? g = some sc) (hlatest : w.session.latest? = some g) :
    w.session.tracker? = if sc.told then none else some g := by
  obtain ⟨hr, -, henv⟩ := scene?_eq_some hsc
  rw [Session.tracker?_of_latest hlatest hr, ← henv]
  rfl

theorem stop_again (hsc : w.scene? g = some sc) (htold : sc.told = true)
    (hlatest : w.session.latest? = some g) (n : Nat) :
    w.run (List.replicate n (.call .stopFeedback)) = w := by
  have hsame : w.step (.call .stopFeedback) = w := by
    have htracker := tracker?_of_scene hsc hlatest
    simp [step, Session.apply, Session.stopFeedback, htracker, htold]
  induction n with
  | zero => rfl
  | succ n ih =>
    rw [List.replicate_succ]
    show (w.step (.call .stopFeedback)).run (List.replicate n (.call .stopFeedback)) = w
    rw [hsame, ih]

theorem toldToStop_stopFeedback (hsc : w.scene? g = some sc)
    (hlatest : w.session.latest? = some g) :
    ∃ r, w.session.stopFeedback.reporters[g]? = some r ∧
      r.toldToStop w.session.env = true := by
  obtain ⟨hr, -, henv⟩ := scene?_eq_some hsc
  have htracker := tracker?_of_scene hsc hlatest
  unfold Session.stopFeedback
  cases htold : sc.told with
  | true =>
    simp only [htracker, htold, if_true]
    exact ⟨sc.reporter, hr, henv ▸ htold⟩
  | false =>
    simp only [htracker, htold, Bool.false_eq_true, if_false]
    exact ⟨sc.reporter.requestStop, by simp [hr], Reporter.toldToStop_requestStop _ _⟩

/-- A successful start adds a reporter when the latest one was told to stop. -/
theorem reporters_startFeedback (hlatest : w.session.latest? = some g) {sender : Ssrc}
    {request : Request} {meter : MeterKind} {sink : Nat} {parent : Option Token}
    (hok : (w.session.startFeedback sender request meter sink parent).2 = .ok ()) :
    ∃ new, (w.session.startFeedback sender request meter sink parent).1.reporters =
        w.session.stopFeedback.reporters ++ [new] ∧
      (w.session.startFeedback sender request meter sink parent).1.env = w.session.env := by
  have hstarted := w.session.started_startFeedback sender request meter sink parent
  generalize w.session.startFeedback sender request meter sink parent = started at hstarted hok ⊢
  cases hstarted with
  | dropped hrtp => simp [Session.latest?, Session.feedback?, hrtp] at hlatest
  | invalid | noRuntime => cases hok
  | started =>
    rcases w.session.stopFeedback_cases with hstop | ⟨q, hstop⟩
    all_goals
      rw [hstop]
      exact ⟨_, rfl, rfl⟩

theorem scene?_of_reporting (hsc : w.scene? g = some sc) (hstage : sc.stage = .reporting) :
    (w.step (.proceed g)).scene? g = some (Scene.ask sc.reporter sc.env) := by
  have hproceed : sc.proceed? w.session.timer = some (Scene.ask sc.reporter sc.env) := by
    obtain ⟨r, st, env⟩ := sc
    subst hstage
    rfl
  rw [step_of_proceeds hsc hproceed]
  exact scene?_put hsc _

/-- The actions that tell the reporter `g` to stop. -/
inductive TellsToStop (w : World) (g : Nat) : Action → Prop
  | stop (hlatest : w.session.latest? = some g) : TellsToStop w g (.call .stopFeedback)
  | drop (hlatest : w.session.latest? = some g) : TellsToStop w g (.call .dropRtp)
  | replace {sender : Ssrc} {request : Request} {meter : MeterKind} {sink : Nat}
      {parent : Option Token} (hlatest : w.session.latest? = some g)
      (hok : (w.session.startFeedback sender request meter sink parent).2 = .ok ()) :
      TellsToStop w g (.call (.startFeedback sender request meter sink parent))
  | parent {sc : Scene} {token : Token} (hsc : w.scene? g = some sc)
      (hparent : sc.reporter.parent = some token) : TellsToStop w g (.call (.cancelToken token))
  /-- It asks its meter, which is unavailable. -/
  | unavailable {sc : Scene} (hsc : w.scene? g = some sc) (hstage : sc.stage = .reporting)
      (hbacklog : sc.reporter.backlog.isEmpty = false)
      (hanswer : (sc.reporter.measure sc.env).1 = none) : TellsToStop w g (.proceed g)
  /-- It asks its meter, and the parent token is cancelled meanwhile. -/
  | sample {sc : Scene} {token : Token} (hsc : w.scene? g = some sc)
      (hstage : sc.stage = .reporting) (hbacklog : sc.reporter.backlog.isEmpty = false)
      (hparent : sc.reporter.parent = some token)
      (hcancelled : token ∈ (sc.reporter.measure sc.env).2.cancelled) :
      TellsToStop w g (.proceed g)

theorem told_of_tellsToStop {a : Action} (hsc : w.scene? g = some sc) (h : TellsToStop w g a) :
    ∃ next, (w.step a).scene? g = some next ∧ next.told = true := by
  cases h with
  | stop hlatest =>
    obtain ⟨r, hr, htold⟩ := toldToStop_stopFeedback hsc hlatest
    refine ⟨_, scene?_of_reporter hr, ?_⟩
    rcases w.session.stopFeedback_cases with hstop | ⟨q, hstop⟩
    all_goals
      simp only [step, Session.apply, hstop]
      exact htold
  | drop hlatest =>
    obtain ⟨r, hr, htold⟩ := toldToStop_stopFeedback hsc hlatest
    refine ⟨_, scene?_of_reporter hr, ?_⟩
    rcases w.session.stopFeedback_cases with hstop | ⟨q, hstop⟩
    all_goals
      simp only [step, Session.apply, Session.dropRtp, hstop]
      exact htold
  | @replace sender request meter sink parent hlatest hok =>
    obtain ⟨r, hr, htold⟩ := toldToStop_stopFeedback hsc hlatest
    obtain ⟨hlt, -⟩ := List.getElem?_eq_some_iff.mp hr
    obtain ⟨new, hreporters, henv⟩ := reporters_startFeedback hlatest hok
    have hkept : (w.session.startFeedback sender request meter sink parent).1.reporters[g]? =
        some r := by
      rw [hreporters, List.getElem?_append_left hlt]
      exact hr
    refine ⟨_, scene?_of_reporter hkept, ?_⟩
    show r.toldToStop (w.session.startFeedback sender request meter sink parent).1.env = true
    rw [henv]
    exact htold
  | parent hsc' hparent =>
    obtain ⟨hr, -, -⟩ := scene?_eq_some hsc'
    refine ⟨_, scene?_of_reporter hr, ?_⟩
    simp [Scene.told, Reporter.toldToStop, hparent, step, Session.apply, Session.cancelToken,
      Environment.cancel]
  | unavailable hsc' hstage hbacklog hanswer =>
    have htold := Scene.told_of_unavailable hbacklog hanswer
    exact ⟨_, scene?_of_reporting hsc' hstage, htold⟩
  | sample hsc' hstage hbacklog hparent hcancelled =>
    have htold := Scene.told_of_sample hbacklog hparent hcancelled
    exact ⟨_, scene?_of_reporting hsc' hstage, htold⟩

/-! ### Silence -/

theorem sinks_of_told (hsc : w.scene? g = some sc) (htold : sc.told = true) :
    (w.step (.proceed g)).session.env.sinks = w.session.env.sinks := by
  obtain ⟨-, -, henv⟩ := scene?_eq_some hsc
  rcases w.step_proceed g with hsame | ⟨sc', next, hsc', hp, hput⟩
  · rw [hsame]
  · cases hsc.symm.trans hsc'
    rw [hput, ← henv]
    exact hp.move.sinks_of_told htold

theorem handed_of_told (hw : Reachable w) (hsc : w.scene? g = some sc) (htold : sc.told = true)
    (actions : List Action) :
    ∃ next, (w.run actions).scene? g = some next ∧ next.told = true ∧
      Journal.gather JournalEntry.handedReport ((w.run actions).history g) =
        Journal.gather JournalEntry.handedReport (w.history g) := by
  obtain ⟨next, hnext, hsteps⟩ := hw.inOrder.run_scene actions hsc
  refine ⟨next, hnext, Scene.told_of_steps hsteps htold, ?_⟩
  rw [← (hw.run actions).inOrder.history_eq hnext, ← hw.inOrder.history_eq hsc]
  exact Scene.handed_of_told hsteps htold

theorem handed_of_stopped (hw : Reachable w) (hsc : w.scene? g = some sc)
    (hstopped : sc.reporter.phase = .stopped) (actions : List Action) :
    Journal.gather JournalEntry.handedReport ((w.run actions).history g) =
      Journal.gather JournalEntry.handedReport (w.history g) := by
  obtain ⟨next, hnext, hsteps⟩ := hw.inOrder.run_scene actions hsc
  have hrest : Scene.Resting sc := ⟨(hw.course hsc).between_of_stopped hstopped, .inr hstopped⟩
  rw [← (hw.run actions).inOrder.history_eq hnext, ← hw.inOrder.history_eq hsc]
  exact (Scene.resting_of_steps hsteps hrest).2.2

/-- An outcome that is told to a reporter that has stopped counts as late, and is gone. -/
theorem late_of_stopped (hw : Reachable w) (hsc : w.scene? g = some sc)
    (hstopped : sc.reporter.isStopped = true) (p : SentPacket) (d : Delivery) :
    w.session.inform (.tracked g p) d =
        { w.session with
          env := (w.session.told p d).2.log (.resolved g (w.session.told p d).1 true) } ∧
      (w.session.inform (.tracked g p) d).env.journal.metrics =
        { w.session.env.journal.metrics with late := w.session.env.journal.metrics.late + 1 } := by
  obtain ⟨hr, -, -⟩ := scene?_eq_some hsc
  obtain ⟨hlt, hget⟩ := List.getElem?_eq_some_iff.mp hr
  have hnumber := hw.inOrder.session.registered.numbered g _ hr
  have hinform : w.session.inform (.tracked g p) d =
      { w.session with
        env := (w.session.told p d).2.log (.resolved g (w.session.told p d).1 true) } := by
    rw [Session.inform_tracked hr, Reporter.enqueue_of_isStopped hstopped, hnumber]
    dsimp only
    rw [← hget, List.set_getElem_self hlt]
  refine ⟨hinform, ?_⟩
  rw [hinform, Environment.journal_log, Session.journal_told, metrics_late]

theorem question_of_unavailable (hw : Reachable w) (hsc : w.scene? g = some sc)
    (hstage : sc.stage = .reporting) (hbacklog : sc.reporter.backlog.isEmpty = false)
    (hanswer : (sc.reporter.measure sc.env).1 = none) (actions : List Action) :
    Journal.gather JournalEntry.question
        (((w.step (.proceed g)).run actions).history g) =
      Journal.gather JournalEntry.question (w.history g) ++ [()] := by
  obtain ⟨hrest, hasked⟩ := Scene.resting_of_unavailable hbacklog hanswer
  have hafter : Reachable (w.step (.proceed g)) := hw.run [.proceed g]
  have hscene := scene?_of_reporting hsc hstage
  obtain ⟨next, hnext, hsteps⟩ := hafter.inOrder.run_scene actions hscene
  rw [← (hafter.run actions).inOrder.history_eq hnext,
    (Scene.resting_of_steps hsteps hrest).2.1, hasked]
  exact congrArg (Journal.gather JournalEntry.question · ++ [()]) (hw.inOrder.history_eq hsc)

/-- A reporter goes from idle over running to stopped, and has been told before it stops, or its
horizon is closer than an interval: in its first two steps it stops just if one or the other is so.
Whatever tells it does so for good: it stays told, and no sink hears from it again. Once stopped it
has nothing in its queue, it hands nothing over, and an outcome that is told to it changes nothing
but the clock, if it is an ack, and the number of late ones. Telling it again to stop changes
nothing. A meter that was unavailable is not asked again. -/
theorem silent_once_told (hw : Reachable w) (hsc : w.scene? g = some sc) :
    (∀ a, ∃ next, (w.step a).scene? g = some next ∧
      Phase.Next sc.reporter.phase next.reporter.phase) ∧
    (sc.reporter.isStopped = true → sc.told = true ∨
      sc.reporter.horizon < w.session.timer + sc.reporter.options.interval) ∧
    (sc.reporter.phase = .idle → ∃ next,
      (w.run (List.replicate 2 (.proceed g))).scene? g = some next ∧ next.told = sc.told ∧
      (next.reporter.isStopped = true ↔ sc.told = true ∨
        sc.reporter.horizon < w.session.timer + sc.reporter.options.interval)) ∧
    (∀ a, TellsToStop w g a → ∃ next, (w.step a).scene? g = some next ∧ next.told = true) ∧
    (sc.told = true →
      (w.step (.proceed g)).session.env.sinks = w.session.env.sinks ∧
      ∀ actions, ∃ next, (w.run actions).scene? g = some next ∧ next.told = true ∧
        Journal.gather JournalEntry.handedReport ((w.run actions).history g) =
          Journal.gather JournalEntry.handedReport (w.history g)) ∧
    (sc.reporter.isStopped = true →
      sc.reporter.queue = [] ∧
      (∀ actions, Journal.gather JournalEntry.handedReport ((w.run actions).history g) =
        Journal.gather JournalEntry.handedReport (w.history g)) ∧
      ∀ p d, w.session.inform (.tracked g p) d =
          { w.session with
            env := (w.session.told p d).2.log (.resolved g (w.session.told p d).1 true) } ∧
        (w.session.inform (.tracked g p) d).env.journal.metrics =
          { w.session.env.journal.metrics with
            late := w.session.env.journal.metrics.late + 1 }) ∧
    (sc.told = true → w.session.latest? = some g →
      ∀ n, w.run (List.replicate n (.call .stopFeedback)) = w) ∧
    (sc.stage = .reporting → sc.reporter.backlog.isEmpty = false →
      (sc.reporter.measure sc.env).1 = none →
      ∀ actions, Journal.gather JournalEntry.question
          (((w.step (.proceed g)).run actions).history g) =
        Journal.gather JournalEntry.question (w.history g) ++ [()]) := by
  have hcourse := hw.course hsc
  refine ⟨?_, ?_, ?_, fun a h => told_of_tellsToStop hsc h, ?_, ?_, stop_again hsc,
    question_of_unavailable hw hsc⟩
  · intro a
    obtain ⟨next, hnext, -, hphase⟩ := hw.inOrder.step_scene a hsc
    exact ⟨next, hnext, hphase⟩
  · intro hstopped
    exact (hw.timed hsc).stopped (of_decide_eq_true hstopped)
  · intro hidle
    have hbetween := hcourse.between_of_idle hidle
    obtain ⟨r, st, env⟩ := sc
    subst hbetween
    obtain ⟨next, hrun, htold, hiff⟩ := run_of_idle hsc hidle
    exact ⟨next, hrun ▸ scene?_put hsc next, htold, decide_eq_true_iff.trans hiff⟩
  · intro htold
    exact ⟨sinks_of_told hsc htold, handed_of_told hw hsc htold⟩
  · intro hstopped
    exact ⟨hcourse.queued.closed hstopped,
      handed_of_stopped hw hsc (of_decide_eq_true hstopped), late_of_stopped hw hsc hstopped⟩

/-- A packet is on its way when the parent token of the reporter is cancelled. -/
def cancelled : World :=
  withReporter.run [.call (.addTransport { reportsDelivery := true }), .call (.bindRtp 0),
    writing 1 ⟨0⟩, .proceed 0, .call (.cancelToken "call"), .proceed 0]

/-- The reporter has stopped, as it was told to. The ack of the packet counts as late, and is not
reported whatever happens. -/
theorem late_after_stop :
    (∃ sc, cancelled.scene? 0 = some sc ∧ sc.told = true ∧ sc.reporter.queue = []) ∧
      (∀ p, (cancelled.session.inform (.tracked 0 p) .acked).env.journal.metrics.late = 1) ∧
      let after := cancelled.step (.call (.resolve 0 0 .acked))
      after.session.env.journal.metrics.late = 1 ∧
        ∀ actions,
          Journal.gather JournalEntry.handedReport ((after.run actions).history 0) = [] := by
  have hcancelled : Reachable cancelled := reachable_withReporter.run _
  obtain ⟨-, hends, -, -, -, hstopped, -⟩ := silent_once_told (g := 0) hcancelled rfl
  obtain ⟨hqueue, hsilent, hlate⟩ := hstopped rfl
  refine ⟨⟨_, rfl, (hends rfl).resolve_right (by decide +kernel), hqueue⟩, fun p => ?_, rfl,
    fun actions => hsilent (.call (.resolve 0 0 .acked) :: actions)⟩
  rw [(hlate p .acked).2]
  rfl

/-- A reporter has stopped that was not told to. -/
theorem stopped_untold :
    let w := ({ session := {} } : World).run (lateStart ++ List.replicate 2 (.proceed 0))
    Reachable w ∧ ∃ sc, w.scene? 0 = some sc ∧ sc.reporter.isStopped = true ∧
      sc.told = false := by
  intro w
  obtain ⟨sc, hsc, hends⟩ := Option.map_eq_some_iff.mp (show
      (w.scene? 0).map (fun sc => (sc.reporter.isStopped, sc.told)) = some (true, false) by
    decide +kernel)
  exact ⟨initial_empty.reachable.run _, sc, hsc, Prod.mk.inj hends⟩

end World

end MediaMux
