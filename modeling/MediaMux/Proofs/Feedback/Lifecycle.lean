import MediaMux.Proofs.Feedback.Course

/-!
# The life of a reporter

A reporter starts once and stops for good (`Step.phase_next`). What it has been told is never taken
back (`Step.told_mono`), and once told it hands nothing over (`handed_of_told`). It stops when it
has been told to, or else has to wait past its horizon, which is then less than an interval away
(`Move.timed`, `Proceeds.stopped_iff`). One that has stopped, or has been told between two rounds,
neither hands anything over nor asks its meter again (`resting_of_steps`).
-/

namespace MediaMux.Feedback

/-- How far a reporter can be one step later. -/
inductive Phase.Next : Phase → Phase → Prop
  | wait : Next .idle .idle
  | start (tick : Nat) : Next .idle (.running tick)
  | run (tick tick' : Nat) : Next (.running tick) (.running tick')
  | stop (tick : Nat) : Next (.running tick) .stopped
  | rest : Next .stopped .stopped

theorem Phase.Next.refl (p : Phase) : Next p p := by
  cases p with
  | idle => exact .wait
  | running tick => exact .run tick tick
  | stopped => exact .rest

theorem Phase.Next.eq_stopped {p q : Phase} (h : Next p q) (hp : p = .stopped) : q = .stopped := by
  cases h <;> first | rfl | cases hp

namespace Scene

open Journal JournalEntry

variable {now : Nat} {sc next : Scene}

/-! ### Phases -/

theorem Move.phase_next (h : Move now sc next) :
    Phase.Next sc.reporter.phase next.reporter.phase := by
  cases h with
  | start hphase => exact hphase ▸ .start _
  | close hphase => exact hphase ▸ .stop _
  | tick hphase => exact hphase ▸ .run _ _
  | add | displace | lose | skip | unavailable | answer | nothing | assemble | withdraw | hand =>
    exact .refl _

@[simp] theorem phase_enqueue (r : Reporter) (env : Environment) (outcome : Outcome) :
    (r.enqueue env outcome).1.phase = r.phase := by
  unfold Reporter.enqueue
  split <;> rfl

theorem Step.phase_next (h : Step sc next) :
    Phase.Next sc.reporter.phase next.reporter.phase := by
  cases h with
  | elsewhere | stop | track => exact .refl _
  | receive r st env outcome => exact phase_enqueue r env outcome ▸ .refl _
  | proceed hp => exact hp.move.phase_next

/-! ### Being told to stop -/

theorem Move.told_mono (h : Move now sc next) (ht : sc.told = true) : next.told = true := by
  cases h with
  | start | close | tick | add | displace | lose | skip | nothing | assemble | withdraw => exact ht
  | unavailable => exact Reporter.toldToStop_requestStop _ _
  | @answer r env => exact Reporter.toldToStop_mono (r.cancelled_measure env) ht
  | @hand r env report =>
    refine Reporter.toldToStop_mono ?_ ht
    intro token hm
    simpa using hm

theorem Step.told_mono (h : Step sc next) (ht : sc.told = true) : next.told = true := by
  cases h with
  | elsewhere hcancelled => exact Reporter.toldToStop_mono hcancelled ht
  | stop => exact Reporter.toldToStop_requestStop _ _
  | track => exact ht
  | receive r st env outcome =>
    unfold told Reporter.enqueue
    split <;> exact ht
  | proceed hp => exact hp.move.told_mono ht

theorem told_of_steps (h : Relation.ReflTransGen Step sc next) (ht : sc.told = true) :
    next.told = true := by
  induction h with
  | refl => exact ht
  | tail _ hlast ih => exact hlast.told_mono ih

/-! ### Stopping -/

/-- A tick is due later than the one before it, but not later than an interval after it fired. -/
theorem tickAfter_le {interval due now : Nat} (h : due ≤ now) :
    Reporter.tickAfter interval due now ≤ now + interval := by
  unfold Reporter.tickAfter
  split <;> omega

theorem horizon_lt_of_overruns {r : Reporter} {due : Nat} (h : r.overruns due now = true)
    (hdue : due ≤ now + r.options.interval) : r.horizon < now + r.options.interval := by
  have hlt := of_decide_eq_true h
  split at hlt
  · next hle => exact Nat.lt_of_lt_of_le hlt (tickAfter_le hle)
  · exact Nat.lt_of_lt_of_le hlt hdue

/-- At the time `now`, a tick is due within an interval, and a reporter has stopped only if it was
told to or its horizon is closer than an interval. -/
structure Timed (now : Nat) (r : Reporter) (env : Environment) : Prop where
  due : ∀ due, r.phase = .running due → due ≤ now + r.options.interval
  stopped : r.phase = .stopped →
    r.toldToStop env = true ∨ r.horizon < now + r.options.interval

theorem Timed.mono {r : Reporter} {env : Environment} (h : Timed now r env) {later : Nat}
    (hle : now ≤ later) : Timed later r env where
  due due hphase := Nat.le_trans (h.due due hphase) (Nat.add_le_add_right hle _)
  stopped hphase :=
    (h.stopped hphase).imp_right (Nat.lt_of_lt_of_le · (Nat.add_le_add_right hle _))

theorem timed_of_idle {r : Reporter} {env : Environment} (hphase : r.phase = .idle) :
    Timed now r env where
  due _ hrunning := by cases hphase.symm.trans hrunning
  stopped hstopped := by cases hphase.symm.trans hstopped

/-- What leaves the phase of a reporter alone leaves it timed. -/
theorem Timed.of_step (h : Timed now sc.reporter sc.env) (hstep : Step sc next)
    (hphase : next.reporter.phase = sc.reporter.phase) : Timed now next.reporter next.env := by
  have hterms := hstep.terms
  refine ⟨?_, ?_⟩
  · intro due hrunning
    rw [hterms.options]
    exact h.due due (hphase.symm.trans hrunning)
  · intro hstopped
    rw [hterms.options, hterms.horizon]
    exact (h.stopped (hphase.symm.trans hstopped)).imp_left hstep.told_mono

theorem Move.timed (h : Move now sc next) (hsc : Timed now sc.reporter sc.env) :
    Timed now next.reporter next.env := by
  have htold := h.told_mono
  cases h with
  | start =>
    refine ⟨?_, nofun⟩
    rintro due ⟨rfl⟩
    exact Nat.le_refl _
  | tick hphase _ hdue =>
    refine ⟨?_, nofun⟩
    rintro due ⟨rfl⟩
    exact tickAfter_le hdue
  | close hphase hends =>
    refine ⟨nofun, fun _ => ?_⟩
    exact hends.imp id fun hover => horizon_lt_of_overruns hover (hsc.due _ hphase)
  | add | displace | lose | skip | unavailable | answer | nothing | assemble | withdraw | hand =>
    exact ⟨hsc.due, fun hstopped => (hsc.stopped hstopped).imp_left htold⟩

/-- A step between two rounds does not tell the reporter to stop. -/
theorem Move.told_of_between (h : Move now sc next) (hstage : sc.stage = .between) :
    next.told = sc.told := by
  cases h with
  | start | close | tick | add | displace | lose => rfl
  | skip | unavailable | answer | nothing | assemble | withdraw | hand => cases hstage

/-- Between two rounds a reporter that runs stops just if it has been told to or would have to wait
past its horizon. -/
theorem Proceeds.stopped_iff (h : Proceeds now sc next) (hstage : sc.stage = .between) {due : Nat}
    (hphase : sc.reporter.phase = .running due) :
    next.reporter.phase = .stopped ↔
      sc.told = true ∨ sc.reporter.overruns due now = true := by
  cases h.move with
  | start hidle => cases hidle.symm.trans hphase
  | close hrunning hends =>
    cases hrunning.symm.trans hphase
    exact ⟨fun _ => hends, fun _ => rfl⟩
  | tick hrunning htold _ hfits =>
    cases hrunning.symm.trans hphase
    simp [told, htold, hfits]
  | add hrunning htold _ _ hfits | displace hrunning htold _ _ hfits
  | lose hrunning htold _ hfits =>
    cases hrunning.symm.trans hphase
    simp [told, hrunning, htold, hfits]
  | skip | unavailable | answer | nothing | assemble | withdraw | hand => cases hstage

/-- Only a reporter that runs is in a round. -/
theorem Course.running (h : Course sc) (hstage : sc.stage ≠ .between) :
    ∃ due, sc.reporter.phase = .running due := by
  refine h.induction (P := fun sc => sc.stage ≠ .between → ∃ due, sc.reporter.phase = .running due)
    ?_ ?_ hstage
  · intro sc hfresh hne
    exact absurd hfresh.stage hne
  · intro sc next ih hstep hne
    cases hstep with
    | elsewhere | stop | track => exact ih hne
    | receive r st env outcome =>
      rw [phase_enqueue]
      exact ih hne
    | proceed hp =>
      cases hp.move with
      | start | close | skip | unavailable | nothing | withdraw | hand => exact absurd rfl hne
      | tick => exact ⟨_, rfl⟩
      | add hphase | displace hphase | lose hphase => exact ⟨_, hphase⟩
      | answer | assemble => exact ih (by simp)

theorem Course.between_of_stopped (h : Course sc) (hstopped : sc.reporter.phase = .stopped) :
    sc.stage = .between := by
  refine Classical.byContradiction fun hne => ?_
  obtain ⟨due, hdue⟩ := h.running hne
  cases hstopped.symm.trans hdue

theorem Course.between_of_idle (h : Course sc) (hidle : sc.reporter.phase = .idle) :
    sc.stage = .between := by
  refine Classical.byContradiction fun hne => ?_
  obtain ⟨due, hdue⟩ := h.running hne
  cases hidle.symm.trans hdue

/-! ### Silence -/

/-- A step that is taken when the reporter has been told to stop hands nothing over. -/
theorem Step.handed_of_told (h : Step sc next) (ht : sc.told = true) :
    gather handedReport next.history = gather handedReport sc.history := by
  cases h with
  | elsewhere hcancelled hjournal => simp [history, hjournal]
  | stop => rfl
  | track => simp [history]
  | receive r st env outcome =>
    unfold Reporter.enqueue
    split <;> simp [history]
  | proceed hp =>
    cases hp.move with
    | start | tick | skip | nothing | assemble => rfl
    | close | add | displace | lose | unavailable | answer | withdraw =>
      simp [history, Reporter.close, Reporter.requestStop]
    | hand htold => exact absurd ht (by simp [told, htold])

theorem handed_of_told (h : Relation.ReflTransGen Step sc next) (ht : sc.told = true) :
    gather handedReport next.history = gather handedReport sc.history := by
  induction h with
  | refl => rfl
  | tail hsteps hlast ih => exact (hlast.handed_of_told (told_of_steps hsteps ht)).trans ih

theorem sinks_measure (r : Reporter) (env : Environment) :
    (r.measure env).2.sinks = env.sinks := by
  obtain ⟨cancelled, -, hmeasure⟩ := r.exists_measure env
  rw [hmeasure]

theorem Move.sinks_of_told (h : Move now sc next) (ht : sc.told = true) :
    next.env.sinks = sc.env.sinks := by
  cases h with
  | unavailable | answer => exact sinks_measure _ _
  | hand htold => exact absurd ht (by simp [told, htold])
  | _ => rfl

/-- A reporter that looks what is to be done, and has stopped or been told to. -/
structure Resting (sc : Scene) : Prop where
  stage : sc.stage = .between
  ends : sc.told = true ∨ sc.reporter.phase = .stopped

theorem Step.resting (h : Step sc next) (hr : Resting sc) :
    Resting next ∧ gather question next.history = gather question sc.history ∧
      gather handedReport next.history = gather handedReport sc.history := by
  have hends : next.told = true ∨ next.reporter.phase = .stopped :=
    hr.ends.imp h.told_mono h.phase_next.eq_stopped
  obtain ⟨hstage, hbefore⟩ := hr
  cases h with
  | elsewhere hcancelled hjournal => exact ⟨⟨hstage, hends⟩, by simp [history, hjournal]⟩
  | stop => exact ⟨⟨hstage, hends⟩, rfl, rfl⟩
  | track => exact ⟨⟨hstage, hends⟩, by simp [history]⟩
  | receive r st env outcome =>
    refine ⟨⟨hstage, hends⟩, ?_⟩
    unfold Reporter.enqueue
    split <;> simp [history]
  | proceed hp =>
    cases hp.move with
    | start => exact ⟨⟨rfl, hends⟩, rfl, rfl⟩
    | close => exact ⟨⟨rfl, hends⟩, by simp [history, Reporter.close]⟩
    | tick hphase hopen | add hphase hopen | displace hphase hopen | lose hphase hopen =>
      rcases hbefore with htold | hstopped
      · exact absurd htold (by simp [told, hopen])
      · cases hphase.symm.trans hstopped
    | skip | unavailable | answer | nothing | assemble | withdraw | hand => cases hstage

/-- A reporter that rests neither asks its meter nor hands anything over. -/
theorem resting_of_steps (h : Relation.ReflTransGen Step sc next) (hr : Resting sc) :
    Resting next ∧ gather question next.history = gather question sc.history ∧
      gather handedReport next.history = gather handedReport sc.history := by
  induction h with
  | refl => exact ⟨hr, rfl, rfl⟩
  | tail _ hlast ih =>
    obtain ⟨hrest, hasked, hhanded⟩ := hlast.resting ih.1
    exact ⟨hrest, hasked.trans ih.2.1, hhanded.trans ih.2.2⟩

/-- A reporter whose meter is unavailable has asked it once more, and is told to stop. -/
theorem ask_of_unavailable {r : Reporter} {env : Environment}
    (hbacklog : r.backlog.isEmpty = false) (hanswer : (r.measure env).1 = none) :
    ask r env = { reporter := r.requestStop, env := (r.measure env).2 } := by
  unfold ask
  cases hm : r.measure env with
  | mk answer env' =>
    rw [hm] at hanswer
    simp only at hanswer
    simp [hbacklog, hanswer]

theorem told_of_unavailable {r : Reporter} {env : Environment}
    (hbacklog : r.backlog.isEmpty = false) (hanswer : (r.measure env).1 = none) :
    (ask r env).told = true := by
  rw [ask_of_unavailable hbacklog hanswer]
  exact Reporter.toldToStop_requestStop _ _

theorem resting_of_unavailable {r : Reporter} {env : Environment}
    (hbacklog : r.backlog.isEmpty = false) (hanswer : (r.measure env).1 = none) :
    Resting (ask r env) ∧ gather question (ask r env).history =
      gather question (env.journal.of r.number) ++ [()] := by
  have htold := told_of_unavailable hbacklog hanswer
  rw [ask_of_unavailable hbacklog hanswer] at htold ⊢
  exact ⟨⟨rfl, .inl htold⟩, by simp [history, Reporter.requestStop]⟩

/-- A reporter has been told to stop when its parent token is cancelled while it asks its meter. -/
theorem told_of_sample {r : Reporter} {env : Environment} {token : Token}
    (hbacklog : r.backlog.isEmpty = false) (hparent : r.parent = some token)
    (hcancelled : token ∈ (r.measure env).2.cancelled) : (ask r env).told = true := by
  unfold ask
  cases hm : r.measure env with
  | mk answer env' =>
    rw [hm] at hcancelled
    cases answer with
    | none => simp [hbacklog, told, Reporter.toldToStop_requestStop]
    | some measurement => simp [hbacklog, told, Reporter.toldToStop, hparent, hcancelled]

end Scene

/-! ### Outcomes that come too late -/

theorem Reporter.enqueue_of_isStopped {r : Reporter} (h : r.isStopped = true) (env : Environment)
    (outcome : Outcome) :
    r.enqueue env outcome = (r, env.log (.resolved r.number outcome true)) := by
  simp [enqueue, h]

/-- An outcome that comes too late counts as late, and as nothing else. -/
theorem metrics_late (g : Nat) (outcome : Outcome) (j : Journal) :
    Journal.metrics (.resolved g outcome true :: j) =
      { j.metrics with late := j.metrics.late + 1 } := by
  simp [Journal.metrics, total]

end MediaMux.Feedback
