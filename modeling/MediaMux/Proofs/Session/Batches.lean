import MediaMux.Proofs.Feedback.Batch
import MediaMux.Proofs.Session.Projection

/-!
# Batches in a session

Whatever happens in a session, no reporter hands over more acks in one report than its batch, and no
ack makes way in the backlog of a reporter whose batch fits into a lane.
-/

namespace MediaMux

open Feedback

namespace World

variable {w : World} {g : Nat} {sc : Scene}

/-- A reporter that is about to look what is to be done, and was not told to stop, has less than a
batch in its backlog. No report that it handed over holds more. If the batch fits into a lane, no
ack made way, and none does when the next one is taken in. -/
theorem reports_within_batch (hw : Reachable w) (hsc : w.scene? g = some sc) :
    (sc.stage = .between → sc.told = false →
      sc.reporter.backlog.waiting < sc.reporter.options.batch) ∧
    (∀ report ∈ Journal.gather JournalEntry.handedReport (w.history g),
      report.ackedTotal ≤ sc.reporter.options.batch) ∧
    (sc.reporter.options.batch ≤ sc.reporter.options.capacity →
      Journal.gather JournalEntry.evictedPacket (w.history g) = [] ∧
      (sc.stage = .between → sc.told = false →
        ∀ a, (sc.reporter.backlog.takeAck a).2 = .added)) := by
  have hcourse := hw.course hsc
  have hbatched := hcourse.batched
  have hhistory := hw.inOrder.history_eq hsc
  rw [← hhistory]
  refine ⟨hbatched.between, hbatched.handed, fun hfit => ⟨hbatched.kept hfit, ?_⟩⟩
  intro hstage htold a
  have hroom := hbatched.room hcourse.stocked hstage htold hfit a.packet.ssrc
  rw [Backlog.takeAck_of_room hroom]

/-- A full batch of two was handed over, and the third ack waits. No ack makes way, nor will the
next one. -/
theorem full_batch_handed :
    let w := ({ session := {} } : World).run fourPackets
    ∃ sc, w.scene? 0 = some sc ∧ sc.reporter.backlog.waiting = 1 ∧
      (Journal.gather JournalEntry.handedReport (w.history 0)).map Report.ackedTotal = [2] ∧
      (∀ report ∈ Journal.gather JournalEntry.handedReport (w.history 0),
        report.ackedTotal ≤ sc.reporter.options.batch) ∧
      Journal.gather JournalEntry.evictedPacket (w.history 0) = [] ∧
      ∀ a, (sc.reporter.backlog.takeAck a).2 = .added := by
  intro w
  have hvalues : (w.scene? 0).map (fun sc => (sc.reporter.backlog.waiting, sc.told,
      decide (sc.reporter.options.batch ≤ sc.reporter.options.capacity))) = some (1, false, true) ∧
      (Journal.gather JournalEntry.handedReport (w.history 0)).map Report.ackedTotal = [2] := by
    decide +kernel
  obtain ⟨sc, hsc, hstate⟩ := Option.map_eq_some_iff.mp hvalues.1
  simp only [Prod.mk.injEq, decide_eq_true_eq] at hstate
  obtain ⟨hwaiting, htold, hfit⟩ := hstate
  obtain ⟨-, hbound, hkept⟩ := reports_within_batch (initial_empty.reachable.run fourPackets) hsc
  have hstage : sc.stage = .between := (scene?_eq_some hsc).2.1.trans rfl
  obtain ⟨hevicted, hadded⟩ := hkept hfit
  exact ⟨sc, hsc, hwaiting, hvalues.2, hbound, hevicted, hadded hstage htold⟩

end World

end MediaMux
