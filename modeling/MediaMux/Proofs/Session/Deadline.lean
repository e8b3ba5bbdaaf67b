import MediaMux.Proofs.Feedback.Deadline
import MediaMux.Proofs.Session.Offers
import MediaMux.Proofs.Session.Timers

/-!
# Deadlines in a session

At any time a reporter comes to wait after finitely many steps, with its next tick within an
interval, unless it stops as its horizon is closer. A reporter that waits after a tick was due has
handed all that it took in before to its sink, or let it make way (`World.cleared_in_time`).
-/

namespace MediaMux

open Feedback

namespace World

variable {w : World} {g due : Nat} {sc next : Scene}

/-! ### Waiting -/

theorem exists_waits (hsc : w.scene? g = some sc) :
    ∃ n ≤ sc.labour w.session.timer, ∃ next,
      w.run (List.replicate n (.proceed g)) = w.put g next ∧
        next.proceed? w.session.timer = none := by
  induction hlabour : sc.labour w.session.timer using Nat.strong_induction_on generalizing w sc with
  | _ labour ih =>
    cases hp : sc.proceed? w.session.timer with
    | none => exact ⟨0, Nat.zero_le _, sc, (put_scene hsc).symm, hp⟩
    | some mid =>
      have hlt : mid.labour w.session.timer < labour :=
        hlabour ▸ Scene.Move.labour_lt (Scene.Proceeds.move hp)
      have hstep : w.step (.proceed g) = w.put g mid := step_of_proceeds hsc hp
      obtain ⟨n, hn, next, hrun, hwaits⟩ := ih _ hlt (scene?_put hsc mid) rfl
      refine ⟨n + 1, by have : n ≤ mid.labour w.session.timer := hn; omega, next, ?_, hwaits⟩
      rw [List.replicate_succ, run, List.foldl_cons, hstep]
      exact hrun.trans (w.put_put g mid next)

/-! ### Until the tick that is due -/

theorem InOrder.course (hw : InOrder w) (hsc : w.scene? g = some sc) : Scene.Course sc := by
  obtain ⟨hr, -, -⟩ := scene?_eq_some hsc
  exact scene_eq hsc ▸ hw.coursed.course g _ hr

theorem InOrder.awaits_step (hw : InOrder w) (hsc : w.scene? g = some sc)
    (h : Scene.Awaits due sc) (a : Action) :
    ∃ next, (w.step a).scene? g = some next ∧
      (Scene.Awaits due next ∨ Scene.Emptied next) := by
  obtain ⟨next, hnext, ⟨hphase, hstage, hsteps⟩ | hp⟩ := hw.scene_cases a hsc
  · refine ⟨next, hnext, .inl ?_⟩
    exact h.imp hphase.trans
      (Or.imp (hstage ▸ id) (Or.imp (Scene.told_of_steps hsteps) hphase.trans))
  · exact ⟨next, hnext, h.move (hw.course hsc).reported hp.move⟩

/-- Along a run a reporter awaits the end of a round until it has cleared what it took in, or it is
told to stop or stops. -/
theorem Reachable.awaits_run (hw : Reachable w) (hsc : w.scene? g = some sc)
    (h : Scene.Awaits due sc) (actions : List Action) :
    ∃ next, (w.run actions).scene? g = some next ∧
      (Scene.Awaits due next ∨ (next.told = false → ∃ before after, actions = before ++ after ∧
        ((w.run before).history g).ClearedBy
          (Journal.gather JournalEntry.handedReport ((w.run before).history g)))) := by
  induction actions using List.reverseRecOn with
  | nil => exact ⟨sc, hsc, .inl h⟩
  | append_singleton actions a ih =>
    obtain ⟨mid, hmid, hawaits⟩ := ih
    have hrun := (hw.run actions).inOrder
    rw [run_concat]
    rcases hawaits with hawaits | hcleared
    · obtain ⟨next, hnext, hnow⟩ := hrun.awaits_step hmid hawaits a
      refine ⟨next, hnext, hnow.imp id ?_⟩
      intro hempty htold
      have hlast : InOrder ((w.run actions).step a) := hrun.step a
      refine ⟨actions ++ [a], [], by simp, ?_⟩
      rw [run_concat, ← hlast.history_eq hnext]
      exact (hlast.course hnext).cleared hempty htold
    · obtain ⟨next, hnext, hsteps, -⟩ := hrun.step_scene a hmid
      refine ⟨next, hnext, .inr ?_⟩
      intro htold
      have hbefore : mid.told = false := by
        cases ht : mid.told with
        | false => rfl
        | true => exact (Scene.told_of_steps hsteps ht).symm.trans htold
      obtain ⟨before, after, rfl, hdone⟩ := hcleared hbefore
      exact ⟨before, after ++ [a], by simp, hdone⟩

/-- All that the reporter `g` has taken in by the end of a run was handed to the sink at `place`, in
reports each of which reached it, or has made way. -/
structure Cleared (origin : World) (actions : List Action) (g place : Nat) : Prop where
  reports : ((origin.run actions).history g).ClearedBy (origin.handedBy g actions)
  reaches : ∀ (k : Nat) (a : Action) (h : Handover), actions[k]? = some a →
    (origin.before actions k).handover? a = some h → h.reporter = g →
    Reaches (origin.before actions k) (origin.before actions (k + 1)) place h

theorem Initial.cleared {origin : World} (horigin : Initial origin) {actions later : List Action}
    (hsc : (origin.run actions).scene? g = some sc)
    (h : ((origin.run (actions ++ later)).history g).ClearedBy
      (Journal.gather JournalEntry.handedReport ((origin.run (actions ++ later)).history g))) :
    Cleared origin (actions ++ later) g sc.reporter.sink := by
  have hr : (origin.before (actions ++ later) actions.length).session.reporters[g]? =
      some sc.reporter := by
    unfold before
    rw [List.take_left]
    exact (scene?_eq_some hsc).1
  refine ⟨horigin.handedBy_eq g _ ▸ h, fun k a h ha hhanded hg => ?_⟩
  exact horigin.reachable.reaches_run hr ha hhanded hg

/-- At any time a reporter comes to wait after finitely many steps, whatever is in its queue and in
its backlog. Unless it was told to stop, its queue is then empty, its backlog short of a batch, and
its next tick due later and within an interval, or it has stopped as its horizon is closer than an
interval. It stops so if it starts at such a time, and what is in its queue is discarded. When it
waits at the time that a tick is due or later, all that it has taken in by now has been handed to
its sink or has made way, unless it was told to stop or has stopped for its horizon. -/
theorem cleared_in_time (hsc : w.scene? g = some sc) :
    (∃ n ≤ sc.labour w.session.timer, ∃ next,
      w.run (List.replicate n (.proceed g)) = w.put g next ∧
      next.proceed? w.session.timer = none ∧
      (Reachable w → next.told = false →
        (next.reporter.queue = [] ∧
          next.reporter.backlog.waiting < next.reporter.options.batch ∧
          ∃ due, next.reporter.phase = .running due ∧ w.session.timer < due ∧
            due ≤ w.session.timer + next.reporter.options.interval) ∨
        next.reporter.phase = .stopped ∧
          next.reporter.horizon < w.session.timer + next.reporter.options.interval)) ∧
    (sc.stage = .between → sc.reporter.phase = .idle →
      sc.reporter.horizon < w.session.timer + sc.reporter.options.interval →
      ∃ next, w.run (List.replicate 2 (.proceed g)) = w.put g next ∧
        next.proceed? w.session.timer = none ∧ next.reporter.phase = .stopped ∧
        next.told = sc.told ∧ next.reporter.queue = [] ∧
        next.env.journal = .discarded sc.reporter.number sc.reporter.queue :: sc.env.journal) ∧
    ∀ origin actions, Initial origin → origin.run actions = w →
      ∀ due, sc.reporter.phase = .running due → ∀ later next,
        (w.run later).scene? g = some next → due ≤ (w.run later).session.timer →
        next.proceed? (w.run later).session.timer = none → next.told = false →
        (∃ before after, later = before ++ after ∧
          (∃ newer, (w.run before).history g = newer ++ w.history g) ∧
          Cleared origin (actions ++ before) g sc.reporter.sink) ∨
        next.reporter.phase = .stopped ∧ next.reporter.horizon <
          (w.run later).session.timer + next.reporter.options.interval := by
  refine ⟨?_, ?_, ?_⟩
  · obtain ⟨n, hn, next, hrun, hnone⟩ := exists_waits hsc
    refine ⟨n, hn, next, hrun, hnone, ?_⟩
    intro hw htold
    have hafter : Reachable (w.put g next) := hrun ▸ hw.run _
    have hnext : (w.put g next).scene? g = some next := scene?_put hsc next
    have htimed := hafter.timed hnext
    obtain ⟨hstage, hstopped | ⟨-, hqueue, due, hphase, hlt, -⟩⟩ := Scene.waits hnone
    · exact .inr ⟨hstopped, (htimed.stopped hstopped).resolve_left (Bool.eq_false_iff.mp htold)⟩
    · exact .inl ⟨hqueue, (hafter.course hnext).batched.between hstage htold, due, hphase, hlt,
        htimed.due due hphase⟩
  · intro hstage hphase hover
    obtain ⟨r, st, env⟩ := sc
    subst hstage
    exact ⟨_, run_of_overrun hsc hphase hover, rfl, rfl, rfl, rfl, rfl⟩
  · rintro origin actions horigin rfl due hphase later next hnext hdue hnone htold
    have hw := horigin.reachable.run actions
    obtain ⟨last, hlast, hawaits | hcleared⟩ := hw.awaits_run hsc (.inl hphase) later
    all_goals cases hnext.symm.trans hlast
    · -- at that time a reporter with the tick at `due` before it would not wait
      obtain ⟨hstage, hstopped | ⟨-, -, due', hphase', hlt, -⟩⟩ := Scene.waits hnone
      · have htimed := (hw.run later).timed hnext
        exact .inr ⟨hstopped, (htimed.stopped hstopped).resolve_left (Bool.eq_false_iff.mp htold)⟩
      · rcases hawaits with hsame | hround | htold' | hstopped
        · cases hphase'.symm.trans hsame
          omega
        · exact absurd hstage hround
        · cases htold.symm.trans htold'
        · cases hphase'.symm.trans hstopped
    · obtain ⟨before, after, rfl, hdone⟩ := hcleared htold
      obtain ⟨newer, hnewer, -⟩ := (hw.inOrder.journal_run before).of g
      rw [← run_append] at hdone
      exact .inl ⟨before, after, rfl, ⟨newer, hnewer⟩, horigin.cleared hsc hdone⟩

def ackTakenIn : List Action :=
  [.call (.addSink (.takingFirst none)),
    .call (.startFeedback 1 { interval := some 10 } .shared 0 none),
    .call (.addTransport { reportsDelivery := true }),
    .call (.bindRtp 0),
    writing 1 ⟨3⟩, writing 1 ⟨4⟩,
    .call (.resolve 0 1 .acked), .call (.resolve 0 0 .lost)] ++ List.replicate 3 (.proceed 0)

/-- The interval passes, and the reporter does what is to be done at its tick. -/
def firstTick : List Action := .call (.pass 10) :: List.replicate 4 (.proceed 0)

/-- The reporter waits with an empty queue, and hands the ack and the loss to its sink at its tick,
where they wait in the one report that was handed to it. -/
theorem cleared_after_tick :
    let origin : World := { session := {} }
    let w := origin.run ackTakenIn
    (∃ n next, w.run (List.replicate n (.proceed 0)) = w.put 0 next ∧
      next.proceed? w.session.timer = none) ∧
    Journal.gather JournalEntry.takenAck (w.history 0) ≠ [] ∧
    (∃ before after newer, firstTick = before ++ after ∧
      (w.run before).history 0 = newer ++ w.history 0 ∧
      Cleared origin (ackTakenIn ++ before) 0 0) ∧
    ((w.run firstTick).session.env.sinks.map fun s =>
      (s.attempts, s.waiting.map fun report => (report.ackedTotal, report.lostTotal))) =
        [(1, [(1, 1)])] := by
  intro origin w
  have hbefore : (w.scene? 0).map (fun sc => (sc.reporter.phase, sc.reporter.sink)) =
      some (.running 10, 0) := by
    decide +kernel
  have hafter : ((w.run firstTick).scene? 0).map (fun sc =>
      ((sc.proceed? (w.run firstTick).session.timer).isNone, sc.told,
        decide (sc.reporter.phase = .stopped))) = some (true, false, false) := by
    decide +kernel
  obtain ⟨sc, hsc, hterms⟩ := Option.map_eq_some_iff.mp hbefore
  obtain ⟨last, hlast, hends⟩ := Option.map_eq_some_iff.mp hafter
  obtain ⟨hphase, hsink⟩ := Prod.mk.inj hterms
  simp only [Prod.mk.injEq, Option.isNone_iff_eq_none, decide_eq_false_iff_not] at hends
  obtain ⟨hnone, htold, hruns⟩ := hends
  obtain ⟨⟨n, -, next, hrun, hwaits, -⟩, -, hclear⟩ := cleared_in_time hsc
  obtain ⟨before, after, hsplit, ⟨newer, hnewer⟩, hdone⟩ :=
    (hclear origin ackTakenIn initial_empty rfl 10 hphase firstTick last hlast
      (by decide +kernel) hnone htold).resolve_right fun h => hruns h.1
  rw [hsink] at hdone
  exact ⟨⟨n, next, hrun, hwaits⟩, by decide +kernel,
    ⟨before, after, newer, hsplit, hnewer, hdone⟩, by decide +kernel⟩

/-- An ack waits for a reporter whose first tick would be due past the horizon. The reporter comes
to wait for nothing: it has stopped though it was not told to, and has not taken the ack in. -/
theorem no_tick_to_come :
    let w := ({ session := {} } : World).run (lateStart ++
      [.call (.addTransport { reportsDelivery := true }), .call (.bindRtp 0), writing 1 ⟨0⟩,
        .call (.resolve 0 0 .acked)])
    let after := w.run (List.replicate 2 (.proceed 0))
    Reachable after ∧ ∃ sc, after.scene? 0 = some sc ∧
      sc.proceed? after.session.timer = none ∧ sc.told = false ∧
      (∀ due, sc.reporter.phase ≠ .running due) ∧
      Journal.gather JournalEntry.takenAck (after.history 0) = [] ∧
      (Journal.gather JournalEntry.discardedOutcomes (after.history 0)).length = 1 := by
  intro w after
  obtain ⟨sc, hsc, hends⟩ := Option.map_eq_some_iff.mp (show (after.scene? 0).map (fun sc =>
      ((sc.proceed? after.session.timer).isNone, sc.told, sc.reporter.phase)) =
        some (true, false, .stopped) by
    decide +kernel)
  simp only [Prod.mk.injEq, Option.isNone_iff_eq_none] at hends
  obtain ⟨hnone, htold, hstopped⟩ := hends
  refine ⟨(initial_empty.reachable.run _).run _, sc, hsc, hnone, htold, ?_, by decide +kernel,
    by decide +kernel⟩
  intro due hdue
  cases hdue.symm.trans hstopped

end World

end MediaMux
