import MediaMux.Proofs.Feedback.Ledger

/-!
# Batches

A reporter that looks what is to be done, and was not told to stop, has less than a batch in its
backlog. So no report holds more than a batch, and if a batch fits into a lane, no ack makes way
(`Course.batched`).
-/

namespace MediaMux.Feedback.Scene

open Journal JournalEntry

variable {now : Nat} {sc next : Scene}

/-- The batch bounds what waits and what is reported. -/
structure Batched (sc : Scene) : Prop where
  waiting : sc.reporter.backlog.waiting ≤ sc.reporter.options.batch
  between : sc.stage = .between → sc.told = false →
    sc.reporter.backlog.waiting < sc.reporter.options.batch
  assembled : ∀ report, sc.stage = .assembled report →
    report.ackedTotal ≤ sc.reporter.options.batch ∧ sc.reporter.backlog.waiting = 0
  handed : ∀ report ∈ gather handedReport sc.history,
    report.ackedTotal ≤ sc.reporter.options.batch
  kept : sc.reporter.options.batch ≤ sc.reporter.options.capacity →
    gather evictedPacket sc.history = []

theorem Fresh.batched (h : Fresh sc) : Batched sc where
  waiting := by simp [h.backlog]
  between := fun _ _ => by simpa [h.backlog] using sc.reporter.options.batch_pos
  assembled := by simp [h.stage]
  handed := by simp [h.history]
  kept := by simp [h.history]

/-- A reporter that may take an outcome in has room for an ack, if a batch fits into a lane. -/
theorem Batched.room (h : Batched sc) (hst : Stocked sc) (hstage : sc.stage = .between)
    (htold : sc.told = false) (hfit : sc.reporter.options.batch ≤ sc.reporter.options.capacity)
    (ssrc : Ssrc) : (sc.reporter.backlog.lane ssrc).acked.length < sc.reporter.backlog.limit := by
  have hbetween := h.between hstage htold
  have hlane := hst.sound.length_lane_le_waiting ssrc
  have hlimit := hst.limit
  omega

theorem stageAfter_eq_between {options : Options} {backlog : Backlog}
    (h : stageAfter options backlog = .between) : backlog.waiting < options.batch := by
  unfold stageAfter at h
  split at h
  · cases h
  · omega

theorem stageAfter_ne_assembled {options : Options} {backlog : Backlog} (report : Report) :
    stageAfter options backlog ≠ .assembled report := by
  unfold stageAfter
  split <;> simp

/-- A step that hands nothing over and leaves a stage with nothing assembled. -/
theorem Batched.of_stage (h : Batched sc) (hoptions : next.reporter.options = sc.reporter.options)
    (hwaiting : next.reporter.backlog.waiting ≤ sc.reporter.options.batch)
    (hbetween : next.stage = .between → next.told = false →
      next.reporter.backlog.waiting < sc.reporter.options.batch)
    (hassembled : ∀ report, next.stage ≠ .assembled report)
    (hhanded : gather handedReport next.history = gather handedReport sc.history)
    (hkept : sc.reporter.options.batch ≤ sc.reporter.options.capacity →
      gather evictedPacket next.history = []) : Batched next where
  waiting := hoptions ▸ hwaiting
  between := hoptions ▸ hbetween
  assembled := fun report hr => absurd hr (hassembled report)
  handed := fun report hr => hoptions ▸ h.handed report (hhanded ▸ hr)
  kept := hoptions ▸ hkept

theorem Batched.move (h : Batched sc) (hst : Stocked sc) (hm : Move now sc next) :
    Batched next := by
  have hkept := h.kept
  simp only [history] at hkept
  cases hm with
  | start => exact ⟨h.waiting, h.between, h.assembled, h.handed, h.kept⟩
  | close =>
    exact h.of_stage rfl h.waiting (fun _ ht => h.between rfl ht) (by simp)
      (by simp [history, Reporter.close]) (by simpa [history, Reporter.close] using hkept)
  | tick => exact h.of_stage rfl h.waiting (by simp) (by simp) rfl hkept
  | @add r env due a rest hphase htold hqueue hadmission =>
    have hlt : r.backlog.waiting < r.options.batch := h.between rfl htold
    obtain ⟨-, -, hwaiting⟩ := hst.sound.takeAck_of_added hadmission
    refine h.of_stage rfl ?_ (fun hs _ => stageAfter_eq_between hs)
      stageAfter_ne_assembled (by simp [history]) (by simpa [history] using hkept)
    dsimp only at hwaiting ⊢
    omega
  | @displace r env due a rest oldest' hphase htold hqueue hadmission =>
    have hlt : r.backlog.waiting < r.options.batch := h.between rfl htold
    obtain ⟨oldest, -, hfull, -, -, hwaiting⟩ := hst.sound.takeAck_of_displacing hadmission
    refine h.of_stage rfl ?_ (fun hs _ => stageAfter_eq_between hs)
      stageAfter_ne_assembled (by simp [history]) ?_
    · dsimp only at hwaiting ⊢
      omega
    · intro hfit
      have hroom := h.room hst rfl htold hfit a.packet.ssrc
      exact absurd hfull (Nat.not_le.mpr hroom)
  | lose hphase htold =>
    have hlt := h.between rfl htold
    exact h.of_stage rfl (Nat.le_of_lt hlt) (fun hs _ => stageAfter_eq_between hs)
      stageAfter_ne_assembled (by simp [history]) (by simpa [history] using hkept)
  | skip hempty =>
    refine h.of_stage rfl h.waiting ?_ (by simp) rfl hkept
    intro _ _
    have hzero := hst.sound.counted
    rw [Backlog.acks_of_isEmpty hempty, List.length_nil] at hzero
    dsimp only at hzero ⊢
    exact hzero ▸ Options.batch_pos _
  | unavailable =>
    exact h.of_stage rfl h.waiting
      (fun _ ht => by simp [told, Reporter.toldToStop_requestStop] at ht) (by simp)
      (by simp [history, Reporter.requestStop])
      (by simpa [history, Reporter.requestStop] using hkept)
  | answer =>
    exact h.of_stage rfl h.waiting (by simp) (by simp) (by simp [history])
      (by simpa [history] using hkept)
  | nothing hdrain =>
    obtain ⟨rfl, -, -⟩ := hst.sound.of_drain_none hdrain
    exact h.of_stage rfl (Nat.zero_le _) (fun _ _ => Options.batch_pos _) (by simp)
      (by simp [history]) (by simpa [history] using hkept)
  | @assemble r env measurement backlog report hdrain =>
    obtain ⟨rfl, hperm, -⟩ := hst.sound.of_drain_some hdrain
    refine ⟨Nat.zero_le _, by simp, ?_, h.handed, h.kept⟩
    intro report' hr
    cases hr
    refine ⟨?_, rfl⟩
    rw [← report.length_acks, hperm.length_eq, ← hst.sound.counted]
    exact h.waiting
  | @withdraw r env report htold =>
    have hafter : r.toldToStop (env.log (.withdrawn r.number report)) = true := htold
    exact h.of_stage rfl h.waiting (fun _ ht => absurd hafter (by simpa [told] using ht)) (by simp)
      (by simp [history]) (by simpa [history] using hkept)
  | @hand r env report htold =>
    obtain ⟨hle, hzero⟩ := h.assembled report rfl
    refine ⟨h.waiting, ?_, by simp, ?_, by simpa [history] using hkept⟩
    · intro _ _
      dsimp only at hzero ⊢
      rw [hzero]
      exact r.options.batch_pos
    · intro report' hr
      simp only [history, Environment.journal_log, of_cons, reporter?, if_true, gather_cons,
        handedReport, Environment.journal_offer, List.mem_append, List.mem_singleton] at hr
      rcases hr with hr | rfl
      · exact h.handed report' hr
      · exact hle

theorem Batched.step (h : Batched sc) (hst : Stocked sc) (hs : Step sc next) : Batched next := by
  cases hs with
  | proceed hp => exact h.move hst hp.move
  | @elsewhere r st env env' hcancelled hjournal =>
    refine ⟨h.waiting, ?_, h.assembled, ?_, ?_⟩
    · intro hstage htold
      refine h.between hstage ?_
      by_contra ht
      have hafter := Reporter.toldToStop_mono hcancelled (by simpa [told] using ht)
      simp [told, hafter] at htold
    · simpa [history, hjournal] using h.handed
    · simpa [history, hjournal] using h.kept
  | stop =>
    exact ⟨h.waiting, fun _ ht => by simp [told, Reporter.toldToStop_requestStop] at ht,
      h.assembled, h.handed, h.kept⟩
  | track =>
    exact ⟨h.waiting, h.between, h.assembled, by simpa [history] using h.handed,
      by simpa [history] using h.kept⟩
  | receive r st env outcome =>
    unfold Reporter.enqueue
    split
    all_goals
      exact ⟨h.waiting, h.between, h.assembled, by simpa [history] using h.handed,
        by simpa [history] using h.kept⟩

theorem Course.batched (h : Course sc) : Batched sc := by
  have hboth : Stocked sc ∧ Batched sc :=
    h.induction (P := fun sc => Stocked sc ∧ Batched sc)
      (fun _ hf => ⟨hf.stocked, hf.batched⟩) fun _ _ hp hs => ⟨hp.1.step hs, hp.2.step hp.1 hs⟩
  exact hboth.2

end MediaMux.Feedback.Scene
