import MediaMux.Proofs.Feedback.Contents
import MediaMux.Proofs.Feedback.Course

/-!
# Where the outcomes of a reporter are

Every outcome that was told to a reporter in time was taken in, was discarded when it stopped, or
waits in its queue, in this order (`Course.queued`). Every ack that it took in was handed to the
sink in a report, made way in the backlog, was withdrawn with a report, is in the report that is
being handed over, or waits in the backlog; losses never make way (`Course.accounted`).
-/

namespace MediaMux.Feedback

/-- The acks in a report that is being handed over. -/
def Stage.acks : Stage → List Ack
  | between => []
  | reporting => []
  | measured _ => []
  | assembled report => report.acks

/-- The losses in a report that is being handed over. -/
def Stage.losses : Stage → Nat
  | between => 0
  | reporting => 0
  | measured _ => 0
  | assembled report => report.lostTotal

namespace Scene

open Journal JournalEntry

variable {now : Nat} {sc next : Scene}

/-! ### The backlog -/

/-- The backlog is sound, and as large as the options say. -/
structure Stocked (sc : Scene) : Prop where
  sound : sc.reporter.backlog.Sound
  limit : sc.reporter.backlog.limit = sc.reporter.options.capacity

theorem Fresh.stocked (h : Fresh sc) : Stocked sc where
  sound := h.backlog ▸ Backlog.sound_empty sc.reporter.options.capacity_pos
  limit := by rw [h.backlog]

theorem Stocked.move (h : Stocked sc) (hm : Move now sc next) : Stocked next := by
  cases hm with
  | start | close | tick | skip | unavailable | answer | withdraw | hand => exact ⟨h.sound, h.limit⟩
  | @add r env due a rest | @displace r env due a rest oldest =>
    exact ⟨(h.sound.takeAck_cases a).1, (Backlog.limit_takeAck r.backlog a).trans h.limit⟩
  | lose => exact ⟨(h.sound.takeLoss_cases _).1, h.limit⟩
  | nothing hdrain =>
    obtain ⟨rfl, -, -⟩ := h.sound.of_drain_none hdrain
    exact ⟨Backlog.sound_empty h.sound.limit_pos, h.limit⟩
  | assemble hdrain =>
    obtain ⟨rfl, -, -⟩ := h.sound.of_drain_some hdrain
    exact ⟨Backlog.sound_empty h.sound.limit_pos, h.limit⟩

theorem Stocked.step (h : Stocked sc) (hs : Step sc next) : Stocked next := by
  cases hs with
  | elsewhere | stop | track => exact ⟨h.sound, h.limit⟩
  | receive r st env outcome =>
    simp only [Reporter.enqueue]
    split <;> exact ⟨h.sound, h.limit⟩
  | proceed hp => exact h.move hp.move

theorem Course.stocked (h : Course sc) : Stocked sc :=
  h.induction (fun _ => Fresh.stocked) fun _ _ => Stocked.step

/-! ### The queue -/

/-- What was told in time was taken in, was discarded, or waits, first come, first served. Only a
reporter that has stopped has discarded anything, and it has nothing in its queue. -/
structure Queued (sc : Scene) : Prop where
  told : gather toldInTime sc.history =
    gather takenIn sc.history ++ gather discardedOutcomes sc.history ++ sc.reporter.queue
  kept : sc.reporter.isStopped = false → gather discardedOutcomes sc.history = []
  closed : sc.reporter.isStopped = true → sc.reporter.queue = []

theorem Fresh.queued (h : Fresh sc) : Queued sc where
  told := by simp [h.history, h.queue]
  kept := by simp [h.history]
  closed := fun _ => h.queue

theorem isStopped_of_phase {r : Reporter} {p : Phase} (h : r.phase = p) (hp : p ≠ .stopped) :
    r.isStopped = false := by
  simp [Reporter.isStopped, h, hp]

/-- Taking the first outcome of the queue in. -/
theorem Queued.take {r : Reporter} {env : Environment} {outcome : Outcome} {rest : List Outcome}
    (h : Queued ⟨r, .between, env⟩) (hopen : r.isStopped = false)
    (hqueue : r.queue = outcome :: rest) :
    gather toldInTime (env.journal.of r.number) =
        gather takenIn (env.journal.of r.number) ++ outcome :: rest ∧
      gather discardedOutcomes (env.journal.of r.number) = [] := by
  have hkept : gather discardedOutcomes (env.journal.of r.number) = [] := h.kept hopen
  have htold := h.told
  simp only [history, hkept, hqueue, List.append_nil] at htold
  exact ⟨htold, hkept⟩

theorem Queued.move (h : Queued sc) (hm : Move now sc next) : Queued next := by
  cases hm with
  | start hphase | tick hphase =>
    have hopen := isStopped_of_phase hphase (by simp)
    exact ⟨h.told, fun _ => h.kept hopen, fun hs => by simp [Reporter.isStopped] at hs⟩
  | @close r env due hphase =>
    have hopen := isStopped_of_phase hphase (by simp)
    have hkept : gather discardedOutcomes (env.journal.of r.number) = [] := h.kept hopen
    have htold := h.told
    simp only [history, hkept, List.append_nil] at htold
    refine ⟨?_, fun hs => by simp [Reporter.isStopped, Reporter.close] at hs, fun _ => rfl⟩
    simp [history, Reporter.close, hkept, htold]
  | add hphase htold hqueue | displace hphase htold hqueue | lose hphase htold hqueue =>
    have hopen := isStopped_of_phase hphase (by simp)
    obtain ⟨htold, hkept⟩ := h.take hopen hqueue
    refine ⟨?_, fun _ => ?_, fun hs => by simp [Reporter.isStopped, hphase] at hs⟩
    · simp [history, htold, hkept]
    · simp [history, hkept]
  | skip | nothing | assemble => exact ⟨h.told, h.kept, h.closed⟩
  | unavailable | answer | withdraw | hand =>
    have htold := h.told
    have hkept := h.kept
    simp only [history] at htold hkept
    exact ⟨by simpa [history, Reporter.requestStop] using htold,
      fun hs => by simpa [history, Reporter.requestStop] using hkept hs, h.closed⟩

theorem Queued.step (h : Queued sc) (hs : Step sc next) : Queued next := by
  have htold := h.told
  have hkept := h.kept
  cases hs with
  | elsewhere hcancelled hjournal =>
    simp only [history, ← hjournal] at htold hkept
    exact ⟨htold, hkept, h.closed⟩
  | stop => exact ⟨htold, hkept, h.closed⟩
  | track =>
    simp only [history] at htold hkept
    exact ⟨by simpa [history] using htold, fun hs => by simpa [history] using hkept hs, h.closed⟩
  | receive r st env outcome =>
    simp only [history] at htold hkept
    cases hstopped : r.isStopped with
    | true =>
      simp only [Reporter.enqueue, hstopped, if_true]
      exact ⟨by simpa [history] using htold, fun hs => by simp [hstopped] at hs, h.closed⟩
    | false =>
      have hopen : ({ r with queue := r.queue ++ [outcome] } : Reporter).isStopped = false :=
        hstopped
      simp only [Reporter.enqueue, hstopped, Bool.false_eq_true, if_false]
      refine ⟨?_, fun _ => ?_, fun hs => by simp [hopen] at hs⟩
      · simp [history, htold]
      · simpa [history] using hkept hstopped
  | proceed hp => exact h.move hp.move

theorem Course.queued (h : Course sc) : Queued sc :=
  h.induction (fun _ => Fresh.queued) fun _ _ => Queued.step

/-! ### The acks and losses -/

/-- Where the acks are that a reporter took in; `evicted` made way. -/
def ackPlaces (sc : Scene) (evicted : List Ack) : List Ack :=
  (gather handedReport sc.history).flatMap Report.acks ++ evicted ++
    (gather withdrawnReport sc.history).flatMap Report.acks ++ sc.stage.acks ++
    sc.reporter.backlog.acks

/-- Every ack and every loss that a reporter took in is in one place. -/
structure Accounted (sc : Scene) : Prop where
  acks : ∃ evicted : List Ack, gather evictedPacket sc.history = evicted.map (some ·.packet) ∧
    (gather takenAck sc.history).Perm (sc.ackPlaces evicted)
  losses : (gather takenLoss sc.history).length =
    total Report.lostTotal (gather handedReport sc.history) +
      total Report.lostTotal (gather withdrawnReport sc.history) + sc.stage.losses +
      sc.reporter.backlog.losses

theorem perm_ackPlaces_iff (sc : Scene) (evicted : List Ack) :
    (gather takenAck sc.history).Perm (sc.ackPlaces evicted) ↔
      ∀ x, (gather takenAck sc.history).count x =
        ((gather handedReport sc.history).flatMap Report.acks).count x + evicted.count x +
          ((gather withdrawnReport sc.history).flatMap Report.acks).count x +
          sc.stage.acks.count x + sc.reporter.backlog.acks.count x := by
  simp only [ackPlaces, List.perm_iff_count, List.count_append]

theorem Fresh.accounted (h : Fresh sc) : Accounted sc where
  acks := ⟨[], by simp [h.history], by simp [ackPlaces, h.history, h.stage, h.backlog, Stage.acks,
    Backlog.acks]⟩
  losses := by simp [h.history, h.stage, h.backlog, Stage.losses, Backlog.losses, total]

@[simp] theorem acks_stageAfter (options : Options) (backlog : Backlog) :
    (stageAfter options backlog).acks = [] := by
  unfold stageAfter
  split <;> rfl

@[simp] theorem losses_stageAfter (options : Options) (backlog : Backlog) :
    (stageAfter options backlog).losses = 0 := by
  unfold stageAfter
  split <;> rfl

theorem Accounted.move (h : Accounted sc) (hst : Stocked sc) (hm : Move now sc next) :
    Accounted next := by
  obtain ⟨⟨evicted, hevicted, hacks⟩, hlosses⟩ := h
  rw [perm_ackPlaces_iff] at hacks
  simp only [history] at hevicted hacks hlosses
  cases hm with
  | start | tick | skip => exact ⟨⟨evicted, hevicted, (perm_ackPlaces_iff _ _).mpr hacks⟩, hlosses⟩
  | close | unavailable | answer =>
    refine ⟨⟨evicted, ?_, (perm_ackPlaces_iff _ _).mpr ?_⟩, ?_⟩
    · simpa [history, Reporter.close, Reporter.requestStop] using hevicted
    · intro x
      simpa [history, Reporter.close, Reporter.requestStop, Stage.acks] using hacks x
    · simpa [history, Reporter.close, Reporter.requestStop, Stage.losses] using hlosses
  | @add r env due a rest hphase htold hqueue hadmission =>
    simp only [Stage.acks, Stage.losses, List.count_nil] at hacks hlosses
    obtain ⟨hperm, hlost, -⟩ := hst.sound.takeAck_of_added hadmission
    dsimp only at hlost
    refine ⟨⟨evicted, by simpa [history] using hevicted,
      (perm_ackPlaces_iff _ _).mpr ?_⟩, by simpa [history, hlost] using hlosses⟩
    intro x
    have hx := hacks x
    have hp := hperm.count_eq x
    simp only [List.count_append] at hp
    simp [history]
    omega
  | @displace r env due a rest oldest' hphase htold hqueue hadmission =>
    simp only [Stage.acks, Stage.losses, List.count_nil] at hacks hlosses
    obtain ⟨oldest, rfl, -, hperm, hlost, -⟩ := hst.sound.takeAck_of_displacing hadmission
    dsimp only at hlost
    refine ⟨⟨evicted ++ [oldest], by simpa [history] using hevicted,
      (perm_ackPlaces_iff _ _).mpr ?_⟩, by simpa [history, hlost] using hlosses⟩
    intro x
    have hx := hacks x
    have hp := hperm.count_eq x
    simp only [List.count_append] at hp
    simp [history]
    omega
  | @lose r env due ssrc sequenceNumber rest hphase htold hqueue =>
    simp only [Stage.acks, Stage.losses, List.count_nil] at hacks hlosses
    obtain ⟨-, hsame, hlost⟩ := hst.sound.takeLoss_cases ssrc
    refine ⟨⟨evicted, by simpa [history] using hevicted,
      (perm_ackPlaces_iff _ _).mpr ?_⟩, ?_⟩
    · intro x
      simpa [history, hsame] using hacks x
    · simp [history, hlost]
      omega
  | nothing hdrain =>
    obtain ⟨rfl, hnone, hzero⟩ := hst.sound.of_drain_none hdrain
    simp only [hnone, hzero] at hacks hlosses
    exact ⟨⟨evicted, hevicted, (perm_ackPlaces_iff _ _).mpr hacks⟩, hlosses⟩
  | @assemble r env measurement backlog report hdrain =>
    simp only [Stage.acks, Stage.losses, List.count_nil] at hacks hlosses
    obtain ⟨rfl, hperm, hlost⟩ := hst.sound.of_drain_some hdrain
    refine ⟨⟨evicted, hevicted, (perm_ackPlaces_iff _ _).mpr ?_⟩, ?_⟩
    · intro x
      have hx := hacks x
      have hp := hperm.count_eq x
      dsimp only at hp
      simp [history, Stage.acks, Backlog.acks]
      omega
    · simp [history, Stage.losses, Backlog.losses, total, hlost, hlosses]
  | withdraw | hand =>
    refine ⟨⟨evicted, by simpa [history] using hevicted,
      (perm_ackPlaces_iff _ _).mpr ?_⟩, ?_⟩
    · intro x
      have hx := hacks x
      simp only [Stage.acks] at hx
      simp [history, Stage.acks]
      omega
    · simp only [Stage.losses] at hlosses
      simp [history, total_append, total, Stage.losses]
      omega

theorem Accounted.step (h : Accounted sc) (hst : Stocked sc) (hs : Step sc next) :
    Accounted next := by
  cases hs with
  | proceed hp => exact h.move hst hp.move
  | stop => exact ⟨h.acks, h.losses⟩
  | elsewhere hcancelled hjournal =>
    obtain ⟨⟨evicted, hevicted, hacks⟩, hlosses⟩ := h
    simp only [history, ackPlaces, ← hjournal] at hevicted hacks hlosses
    exact ⟨⟨evicted, hevicted, hacks⟩, hlosses⟩
  | track =>
    obtain ⟨⟨evicted, hevicted, hacks⟩, hlosses⟩ := h
    simp only [history, ackPlaces] at hevicted hacks hlosses
    exact ⟨⟨evicted, by simpa [history] using hevicted, by simpa [history, ackPlaces] using hacks⟩,
      by simpa [history] using hlosses⟩
  | receive r st env outcome =>
    obtain ⟨⟨evicted, hevicted, hacks⟩, hlosses⟩ := h
    simp only [history, ackPlaces] at hevicted hacks hlosses
    unfold Reporter.enqueue
    split
    all_goals
      refine ⟨⟨evicted, ?_, ?_⟩, ?_⟩
      · simpa [history] using hevicted
      · simpa [history, ackPlaces] using hacks
      · simpa [history] using hlosses

theorem Course.accounted (h : Course sc) : Accounted sc := by
  have hboth : Stocked sc ∧ Accounted sc :=
    h.induction (P := fun sc => Stocked sc ∧ Accounted sc)
      (fun _ hf => ⟨hf.stocked, hf.accounted⟩) fun _ _ hp hs => ⟨hp.1.step hs, hp.2.step hp.1 hs⟩
  exact hboth.2

end Scene

end MediaMux.Feedback
