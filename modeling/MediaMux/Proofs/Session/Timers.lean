import MediaMux.Proofs.Feedback.Deadline
import MediaMux.Proofs.Session.Projection

/-!
# Timers in a session

Time does not go back (`Session.timer_apply`). At any time of a run, every reporter has its next
tick within an interval, and one that has stopped was told to or has its horizon closer than an
interval (`World.Reachable.timed`). In its first two steps a reporter stops just if one or the other
is so (`World.run_of_idle`).
-/

namespace MediaMux

open Feedback

namespace Session

@[simp] theorem timer_inform (s : Session) (w : Watcher) (d : Delivery) :
    (s.inform w d).timer = s.timer := by
  obtain ⟨env, reporters, notes, hinform⟩ := s.exists_inform w d
  rw [hinform]

@[simp] theorem timer_writeFlow (s : Session) (f : Flow) (payload : Bytes) :
    (s.writeFlow f payload).1.timer = s.timer := by
  obtain ⟨env, transports, hwrite⟩ := s.exists_writeFlow f payload
  rw [hwrite]

@[simp] theorem timer_writeFlowWatched (s : Session) (f : Flow) (payload : Bytes) (w : Watcher) :
    (s.writeFlowWatched f payload w).1.timer = s.timer := by
  obtain ⟨env, transports, reporters, notes, hwrite⟩ := s.exists_writeFlowWatched f payload w
  rw [hwrite]

@[simp] theorem timer_stopFeedback (s : Session) : s.stopFeedback.timer = s.timer := by
  unfold stopFeedback
  split <;> rfl

theorem timer_writeRtp (s : Session) (header : RtpHeader) (payload : Bytes) :
    (s.writeRtp header payload).1.timer = s.timer := by
  have hrouted := s.routed_writeRtp header payload
  generalize s.writeRtp header payload = written at hrouted ⊢
  cases hrouted with
  | unbound | unserializable | unrouted => rfl
  | plain => exact timer_writeFlow _ _ _
  | watched => exact timer_writeFlowWatched _ _ _ _

/-- Time does not go back. -/
theorem timer_apply (s : Session) (c : Call) : s.timer ≤ (s.apply c).timer := by
  cases c with
  | pass time => exact Nat.le_add_right _ _
  | writeRtp header payload => exact (timer_writeRtp s header payload).ge
  | writeFlow f payload => exact (timer_writeFlow s f payload).ge
  | writeNoted f payload tag => exact (timer_writeFlowWatched s f payload _).ge
  | writeCompound f packets =>
    show s.timer ≤ (s.writeCompound f packets).1.timer
    unfold writeCompound
    split
    · exact Nat.le_refl _
    · next payload _ => exact (timer_writeFlow (s.log .compound) f payload).ge
  | resolve place i d =>
    show s.timer ≤ (s.resolve place i d).1.timer
    unfold resolve
    split
    · exact Nat.le_refl _
    · next w _ => exact (timer_inform (s.modifyTransport place (·.release i)) w d).ge
  | stopFeedback | dropRtp => exact (timer_stopFeedback s).ge
  | addRtpFlow p id place =>
    show s.timer ≤ (s.addRtpFlow p id place).1.timer
    unfold addRtpFlow
    split <;> exact Nat.le_refl _
  | startFeedback sender request meter sink parent =>
    show s.timer ≤ (s.startFeedback sender request meter sink parent).1.timer
    have hstarted := s.started_startFeedback sender request meter sink parent
    generalize s.startFeedback sender request meter sink parent = started at hstarted ⊢
    cases hstarted with
    | dropped | invalid | noRuntime => exact Nat.le_refl _
    | started => exact (timer_stopFeedback s).ge
  | addTransport | script | takeBuffers | takeNotes | bindRtp | setClassifier | claimHandle
  | cancelToken | setReading | setClock | addSink | modifySink => exact Nat.le_refl _

end Session

/-! ### Ticks and stops -/

namespace Crew

variable {c c' : Crew} {time : Nat}

/-- Every reporter is timed. -/
def Scheduled (time : Nat) (c : Crew) : Prop :=
  ∀ (g : Nat) (r : Reporter), c.reporters[g]? = some r → Scene.Timed time r c.env

theorem Deed.scheduled (h : Deed c c') (hreg : Registered c) (hc : Scheduled time c) :
    Scheduled time c' := by
  intro g r' hr'
  rcases Nat.lt_or_ge g c.reporters.length with hlt | hge
  · have hr := List.getElem?_eq_getElem hlt
    obtain ⟨r, hsome, hsame, hstep⟩ := h.follows hreg hr
    cases hsome.symm.trans hr'
    exact Scene.Timed.of_step (hc g _ hr) (hstep .between) hsame
  · exact Scene.timed_of_idle (h.born hreg hr' hge).phase

theorem scheduled_of_deeds (h : Relation.ReflTransGen Deed c c') (hreg : Registered c)
    (hc : Scheduled time c) : Scheduled time c' := by
  have hboth : Registered c' ∧ Scheduled time c' := by
    induction h with
    | refl => exact ⟨hreg, hc⟩
    | tail _ hlast ih => exact ⟨hlast.registered ih.1, hlast.scheduled ih.1 ih.2⟩
  exact hboth.2

end Crew

namespace World

variable {w : World} {g : Nat} {sc : Scene}

theorem InOrder.scheduled_step (hw : InOrder w)
    (h : w.session.crew.Scheduled w.session.timer) (a : Action) :
    (w.step a).session.crew.Scheduled (w.step a).session.timer := by
  cases a with
  | call c =>
    have hdeeds := (w.session.effect_apply c).deeds hw.session
    have hcrew := Crew.scheduled_of_deeds hdeeds hw.session.registered h
    exact fun g r hr => (hcrew g r hr).mono (w.session.timer_apply c)
  | proceed q =>
    rcases w.step_proceed q with hsame | ⟨sc, next, hsc, hp, hput⟩
    · rw [hsame]
      exact h
    · obtain ⟨hr, -, henv⟩ := scene?_eq_some hsc
      obtain ⟨hlt, -⟩ := List.getElem?_eq_some_iff.mp hr
      have hbefore := h q _ hr
      rw [hput]
      intro g r hg
      by_cases hq : g = q
      · subst hq
        obtain rfl : next.reporter = r := by simpa [World.put, Session.crew, hlt] using hg
        rw [Session.crew, ← henv] at hbefore
        exact hp.move.timed hbefore
      · have hr' : w.session.reporters[g]? = some r := by
          simpa [World.put, Session.crew, Ne.symm hq] using hg
        obtain ⟨-, hstep⟩ := elsewhere_of_put hw hsc hp hq hr'
        exact Scene.Timed.of_step (h g r hr') hstep rfl

/-- At any time of a run, every reporter is timed. -/
theorem Reachable.timed (hw : Reachable w) (hsc : w.scene? g = some sc) :
    Scene.Timed w.session.timer sc.reporter sc.env := by
  have hboth : InOrder w ∧ w.session.crew.Scheduled w.session.timer :=
    hw.induction (P := fun w => InOrder w ∧ w.session.crew.Scheduled w.session.timer)
      (fun w h => ⟨h.inOrder, fun g r hr => by simp [Session.crew, h.empty.1] at hr⟩)
      fun w a h => ⟨h.1.step a, h.1.scheduled_step h.2 a⟩
  obtain ⟨hr, -, henv⟩ := scene?_eq_some hsc
  rw [henv]
  exact hboth.2 g _ hr

end World

/-! ### The start -/

namespace Feedback.Reporter

/-- The reporter when it has begun to run, with its first tick an interval after `now`. -/
def begun (r : Reporter) (now : Nat) : Reporter :=
  { r with phase := .running (now + r.options.interval) }

@[simp] theorem phase_begun (r : Reporter) (now : Nat) :
    (r.begun now).phase = .running (now + r.options.interval) := rfl

@[simp] theorem toldToStop_begun (r : Reporter) (now : Nat) (env : Environment) :
    (r.begun now).toldToStop env = r.toldToStop env := rfl

theorem overruns_begun (r : Reporter) (now : Nat) :
    (r.begun now).overruns (now + r.options.interval) now =
      decide (r.horizon < now + r.options.interval) := by
  have hlate : ¬ now + r.options.interval ≤ now := by
    have := r.options.interval_pos
    omega
  simp [overruns, begun, hlate]

end Feedback.Reporter

namespace World

variable {w : World} {g : Nat} {r : Reporter} {env : Environment}

theorem step_of_idle (hsc : w.scene? g = some ⟨r, .between, env⟩) (hphase : r.phase = .idle) :
    w.step (.proceed g) = w.put g ⟨r.begun w.session.timer, .between, env⟩ := by
  refine step_of_proceeds hsc ?_
  show Scene.begin? _ _ _ = _
  simp only [Scene.begin?, hphase]
  rfl

theorem run_two_of_idle (hsc : w.scene? g = some ⟨r, .between, env⟩) (hphase : r.phase = .idle) :
    w.run (List.replicate 2 (.proceed g)) =
      (w.put g ⟨r.begun w.session.timer, .between, env⟩).step (.proceed g) := by
  rw [← step_of_idle hsc hphase]
  rfl

/-- In its second step a reporter stops just if it was told to or its horizon is closer than an
interval. -/
theorem run_of_idle (hsc : w.scene? g = some ⟨r, .between, env⟩) (hphase : r.phase = .idle) :
    ∃ next : Scene, w.run (List.replicate 2 (.proceed g)) = w.put g next ∧
      next.told = r.toldToStop env ∧
      (next.reporter.phase = .stopped ↔ r.toldToStop env = true ∨
        r.horizon < w.session.timer + r.options.interval) := by
  rw [run_two_of_idle hsc hphase]
  have hbegun : (w.put g ⟨r.begun w.session.timer, .between, env⟩).scene? g =
      some ⟨r.begun w.session.timer, .between, env⟩ := scene?_put hsc _
  have hover := r.overruns_begun w.session.timer
  rcases (w.put g ⟨r.begun w.session.timer, .between, env⟩).proceed_cases g with
    ⟨hwaits, hsame⟩ | ⟨sc, next, hsc', hp, hput⟩
  · rw [hbegun, Option.bind_some] at hwaits
    obtain ⟨-, hstopped | ⟨hopen, -, due, hdue, -, hfits⟩⟩ := Scene.waits hwaits
    · cases hstopped
    · cases hdue
      refine ⟨_, hsame, rfl, ?_⟩
      have hfar : ¬ r.horizon < w.session.timer + r.options.interval :=
        of_decide_eq_false (hover.symm.trans hfits)
      have hopen' : r.toldToStop env = false := hopen
      simp [hopen', hfar]
  · cases hbegun.symm.trans hsc'
    refine ⟨next, hput.trans (put_put _ _ _ _), hp.move.told_of_between rfl, ?_⟩
    have hiff : next.reporter.phase = .stopped ↔ (r.begun w.session.timer).toldToStop env = true ∨
        (r.begun w.session.timer).overruns (w.session.timer + r.options.interval)
          w.session.timer = true := hp.stopped_iff rfl (r.phase_begun _)
    rwa [hover, Reporter.toldToStop_begun, decide_eq_true_iff] at hiff

/-- A reporter that begins to run when its horizon is closer than an interval stops in its next
step, and what is in its queue is discarded. -/
theorem run_of_overrun (hsc : w.scene? g = some ⟨r, .between, env⟩) (hphase : r.phase = .idle)
    (hover : r.horizon < w.session.timer + r.options.interval) :
    w.run (List.replicate 2 (.proceed g)) =
      w.put g ⟨(r.close env).1, .between, (r.close env).2⟩ := by
  have hends : (r.begun w.session.timer).overruns (w.session.timer + r.options.interval)
      w.session.timer = true :=
    (r.overruns_begun w.session.timer).trans (decide_eq_true hover)
  have hclose : Scene.Proceeds w.session.timer ⟨r.begun w.session.timer, .between, env⟩
      ⟨(r.close env).1, .between, (r.close env).2⟩ :=
    Scene.begin?_of_ends (r.phase_begun _) (.inr hends)
  rw [run_two_of_idle hsc hphase]
  exact (step_of_proceeds (scene?_put hsc _) hclose).trans (put_put _ _ _ _)

/-- So much time has passed that an interval from now on ends past the horizon. -/
def lateStart : List Action :=
  [.call (.addSink (.takingFirst none)),
    .call (.pass 9_223_372_026_854_775_808_000_000_000),
    .call (.startFeedback 1 { interval := some 18_446_744_073_709_551_615 } .shared 0 none)]

end World

end MediaMux
