import MediaMux.Proofs.Feedback.Batch
import MediaMux.Proofs.Feedback.Lifecycle
import MediaMux.Proofs.Feedback.Reported

/-!
# Deadlines of a reporter

A reporter cannot go on for ever at one time: each step leaves it less to do
(`Move.labour_lt`). One that waits has an empty queue and a tick to come (`waits`). Until the tick
that it waits for it may keep outcomes in its backlog, and from then on it is in a round that ends
with an empty backlog (`Awaits.move`). When the backlog is empty, all that was taken in has gone
into reports or made way (`Course.cleared`).
-/

namespace MediaMux

open Feedback Journal JournalEntry

/-- The reports hold every ack that was taken in, but for those that made way, and count every loss
that was taken in. -/
structure Journal.ClearedBy (j : Journal) (reports : List Report) : Prop where
  acks : ∃ evicted : List Ack, gather evictedPacket j = evicted.map (some ·.packet) ∧
    (gather takenAck j).Perm (reports.flatMap Report.acks ++ evicted)
  losses : ∀ ssrc, (gather takenLoss j).count ssrc = total (Report.lostOn · ssrc) reports

namespace Feedback

/-- How many steps of a round are left at most. -/
def Stage.steps : Stage → Nat
  | between => 0
  | reporting => 3
  | measured _ => 2
  | assembled _ => 1

@[simp] theorem Stage.steps_stageAfter_le (options : Options) (backlog : Backlog) :
    (Scene.stageAfter options backlog).steps ≤ 3 := by
  unfold Scene.stageAfter
  split <;> decide

theorem Backlog.Holds.unreported_of_isEmpty {b : Backlog} {limit : Nat}
    {history : List Backlog.Event} (h : b.Holds limit history) (hlimit : 0 < limit)
    (hempty : b.isEmpty = true) : unreported history = [] :=
  (h.reports_eq_nil hlimit none).mp (reports_eq_nil_iff.mpr hempty)

theorem Backlog.Holds.acks_eq_nil {b : Backlog} {limit : Nat} {history : List Backlog.Event}
    (h : b.Holds limit history) (hnone : unreported history = []) : b.acks = [] := by
  refine List.flatMap_eq_nil_iff.mpr ?_
  intro e he
  rw [← h.mem_lanes he, h.acked, hnone]
  exact List.rtake_nil limit

namespace Scene

variable {now due : Nat} {sc next : Scene}

/-! ### Until a reporter waits -/

/-- A bound on the steps of a reporter at the time `now`. -/
def labour (now : Nat) (sc : Scene) : Nat := 4 * sc.reporter.work now + sc.stage.steps

theorem Move.labour_lt (h : Move now sc next) : next.labour now < sc.labour now := by
  cases h with
  | @start r env hphase =>
    have := r.options.interval_pos
    simp only [labour, Reporter.work, hphase]
    omega
  | close hphase =>
    simp only [labour, Reporter.work, hphase, Reporter.close, Stage.steps]
    omega
  | @tick r env due hphase htold hdue =>
    have := Reporter.lt_tickAfter r.options.interval_pos hdue
    simp only [labour, Reporter.work, hphase, Stage.steps]
    omega
  | add hphase htold hqueue | displace hphase htold hqueue | lose hphase htold hqueue =>
    refine Nat.lt_of_le_of_lt (Nat.add_le_add_left (Stage.steps_stageAfter_le _ _) _) ?_
    simp only [labour, Reporter.work, hphase, hqueue, List.length_cons]
    omega
  | skip | unavailable | answer | nothing | assemble | withdraw | hand =>
    simp [labour, Stage.steps, Reporter.work, Reporter.requestStop]

/-- A reporter that does nothing at the time `now` has stopped, or waits for an outcome and for a
tick that is not due yet, nor past its horizon. -/
theorem waits (h : sc.proceed? now = none) :
    sc.stage = .between ∧ (sc.reporter.phase = .stopped ∨
      sc.told = false ∧ sc.reporter.queue = [] ∧
        ∃ due, sc.reporter.phase = .running due ∧ now < due ∧
          sc.reporter.overruns due now = false) := by
  obtain ⟨r, st, env⟩ := sc
  cases st with
  | reporting | measured | assembled => cases h
  | between =>
    have hbegin : begin? now r env = none := h
    unfold begin? at hbegin
    refine ⟨rfl, ?_⟩
    cases hphase : r.phase with
    | idle => simp [hphase] at hbegin
    | stopped => exact .inl rfl
    | running due =>
      simp only [hphase] at hbegin
      split at hbegin
      · cases hbegin
      · next hgoes =>
        obtain ⟨htold, hfits⟩ := Bool.or_eq_false_iff.mp (Bool.eq_false_iff.mpr hgoes)
        split at hbegin
        · cases hbegin
        · next hdue =>
          split at hbegin
          · next hqueue => exact .inr ⟨htold, hqueue, due, rfl, Nat.lt_of_not_le hdue, hfits⟩
          · cases hbegin

/-! ### Withdrawn reports -/

theorem Step.withdrawn (h : Step sc next)
    (hsc : sc.told = false → gather withdrawnReport sc.history = []) (hnext : next.told = false) :
    gather withdrawnReport next.history = [] := by
  have htold : sc.told = false := by
    cases ht : sc.told with
    | false => rfl
    | true => exact (h.told_mono ht).symm.trans hnext
  have hnone := hsc htold
  cases h with
  | elsewhere hcancelled hjournal =>
    rw [history, hjournal]
    exact hnone
  | stop => exact hnone
  | track => simpa [history] using hnone
  | receive r st env outcome =>
    unfold Reporter.enqueue
    split <;> simpa [history] using hnone
  | proceed hp =>
    cases hp.move with
    | start | tick | skip | nothing | assemble => exact hnone
    | close | add | displace | lose | unavailable | answer | hand =>
      simpa [history, Reporter.close, Reporter.requestStop] using hnone
    | withdraw ht => exact absurd ht (by simpa [told] using htold)

theorem Course.withdrawn (h : Course sc) (htold : sc.told = false) :
    gather withdrawnReport sc.history = [] :=
  h.induction (P := fun sc => sc.told = false → gather withdrawnReport sc.history = [])
    (fun _ hf _ => by rw [hf.history]; rfl) (fun _ _ hp hs => hs.withdrawn hp) htold

/-! ### Until a backlog is empty -/

/-- Nothing that was taken in waits for a report, and no report waits to be handed over. -/
structure Emptied (sc : Scene) : Prop where
  stage : sc.stage = .between
  unreported : Backlog.unreported (gather backlogEvent sc.history) = []

theorem Course.cleared (h : Course sc) (hempty : Emptied sc) (htold : sc.told = false) :
    sc.history.ClearedBy (gather handedReport sc.history) := by
  have hnone := h.withdrawn htold
  have hreported := h.reported
  refine ⟨?_, ?_⟩
  · obtain ⟨⟨evicted, hevicted, hperm⟩, -⟩ := h.accounted
    refine ⟨evicted, hevicted, ?_⟩
    have hholds := hreported.holds
    rw [hempty.stage, Stage.backlogEvent, List.append_nil] at hholds
    have hacks := hholds.acks_eq_nil hempty.unreported
    simpa [ackPlaces, hnone, hempty.stage, Stage.acks, hacks] using hperm
  · intro ssrc
    have hlosses := (hreported.handed.losses ssrc).2 hnone
    rw [hempty.unreported] at hlosses
    exact hlosses.symm

/-- The tick at `due` has not come, or a round is not over, or the reporter was told to stop or has
stopped. -/
def Awaits (due : Nat) (sc : Scene) : Prop :=
  sc.reporter.phase = .running due ∨ sc.stage ≠ .between ∨ sc.told = true ∨
    sc.reporter.phase = .stopped

/-- A reporter still awaits the end of a round after the tick at `due`, or its backlog is empty. -/
theorem Awaits.move (h : Awaits due sc) (hr : Reported sc) (hm : Move now sc next) :
    Awaits due next ∨ Emptied next := by
  rcases h with hphase | hstage | htold | hstopped
  · cases hm with
    | start hidle => cases hidle.symm.trans hphase
    | close => exact .inl (.inr (.inr (.inr rfl)))
    | tick => exact .inl (.inr (.inl (by simp)))
    | add | displace | lose | skip | unavailable | answer | nothing | assemble | withdraw | hand =>
      exact .inl (.inl hphase)
  · cases hm with
    | start | close | tick | add | displace | lose => exact absurd rfl hstage
    | @skip r env hempty =>
      have hholds := hr.holds
      rw [Stage.backlogEvent, List.append_nil] at hholds
      exact .inr ⟨rfl, hholds.unreported_of_isEmpty r.options.capacity_pos hempty⟩
    | unavailable => exact .inl (.inr (.inr (.inl (Reporter.toldToStop_requestStop _ _))))
    | answer | assemble => exact .inl (.inr (.inl (by simp)))
    | @nothing r env measurement backlog hdrain =>
      have hholds := hr.holds
      rw [Stage.backlogEvent, List.append_nil] at hholds
      exact .inr ⟨rfl, (hholds.reports_eq_nil r.options.capacity_pos _).mp
        (Backlog.drain_eq_none hdrain).2⟩
    | withdraw htold => exact .inl (.inr (.inr (.inl htold)))
    | @hand r env report htold =>
      refine .inr ⟨rfl, ?_⟩
      rw [history, Environment.journal_log, Environment.journal_offer, of_cons_self rfl,
        gather_cons]
      exact Backlog.unreported_drain _ _ _ _
  · exact .inl (.inr (.inr (.inl (hm.told_mono htold))))
  · exact .inl (.inr (.inr (.inr (hm.phase_next.eq_stopped hstopped))))

end Scene

end Feedback

end MediaMux
