import MediaMux.Feedback.Reporter
import MediaMux.Proofs.Feedback.AckOrder
import MediaMux.Proofs.Feedback.Interleaving

/-!
# The counter of a backlog

A backlog counts the acks that wait as they come, and does not look at its lanes for it. The count
is right in every state that a history leads to, and so are the other answers that are given without
a report being made: they are what the lanes hold, and what a report that was made now would list
(`Backlog.counter_agrees`). A packet is counted as evicted when its lane was full, and then there
was one to make way (`Backlog.Sound.mem_admissionsFrom`). A report takes the lanes out of the
backlog; if it only emptied them, no answer would show it (`Backlog.tidy_keeping`).
-/

namespace MediaMux.Feedback

def Backlog.Event.isLoss : Event → Bool
  | ack _ => false
  | loss _ => true
  | drain .. => false

namespace Backlog

def admittedAt (b : Backlog) : Event → Option Admission
  | .ack a => some (b.takeAck a).2
  | .loss _ => none
  | .drain .. => none

def admissionsFrom (b : Backlog) : List Event → List Admission
  | [] => []
  | e :: rest => (b.admittedAt e).toList ++ (b.step e).admissionsFrom rest

/-- How the acks of a history were taken in by a backlog whose lanes hold `limit` acks. -/
def admissions (limit : Nat) (history : List Event) : List Admission :=
  admissionsFrom { limit := limit } history

variable {b : Backlog} {limit : Nat} {history : List Event}

/-! ### Evictions -/

/-- The packets that made way are those that the admissions tell of. -/
theorem evictedFrom_eq (b : Backlog) (events : List Event) :
    b.evictedFrom events = (b.admissionsFrom events).filterMap Admission.evicted? := by
  induction events generalizing b with
  | nil => rfl
  | cons e rest ih =>
    rw [evictedFrom, admissionsFrom, List.filterMap_append, ih]
    refine congrArg (· ++ _) ?_
    cases e with
    | ack a =>
      simp only [evictedAt, admittedAt]
      cases (b.takeAck a).2 with
      | added => rfl
      | displacing oldest => cases oldest <;> rfl
    | loss | drain => rfl

theorem Sound.takeAck_admission (h : b.Sound) (a : Ack) :
    (b.takeAck a).2.evicted?.isSome = decide ((b.takeAck a).2 ≠ .added) := by
  obtain ⟨-, -, ⟨hadded, -⟩ | ⟨oldest, hdisplacing, -⟩⟩ := h.takeAck_cases a
  · rw [hadded]
    rfl
  · rw [hdisplacing]
    rfl

/-- When the lane of an ack was full, there was a packet to make way. -/
theorem Sound.mem_admissionsFrom (h : b.Sound) {events : List Event} {x : Admission}
    (hx : x ∈ b.admissionsFrom events) : x.evicted?.isSome = decide (x ≠ .added) := by
  induction events generalizing b with
  | nil => cases hx
  | cons e rest ih =>
    rw [admissionsFrom, List.mem_append, Option.mem_toList] at hx
    rcases hx with hx | hx
    · cases e with
      | ack a =>
        cases hx
        exact h.takeAck_admission a
      | loss | drain => cases hx
    · exact ih (h.step e) hx

theorem countP_admissions (hlimit : 0 < limit) (history : List Event) :
    (admissions limit history).countP (· ≠ .added) = (evicted limit history).length := by
  rw [evicted, evictedFrom_eq, List.length_filterMap_eq_countP]
  refine List.countP_congr fun x hx => ?_
  rw [(sound_empty hlimit).mem_admissionsFrom hx]

theorem Sound.evicted_takeIn {r : Reporter} (h : r.backlog.Sound) (env : Environment) (a : Ack) :
    (r.takeIn env (.acked a)).2.journal.metrics.evicted = env.journal.metrics.evicted +
      if (r.backlog.takeAck a).2.evicted?.isSome then 1 else 0 := by
  rw [h.takeAck_admission]
  simp only [Reporter.takeIn]
  cases (r.backlog.takeAck a).2 with
  | added => simp [Environment.log, Journal.metrics]
  | displacing oldest => simp [Environment.log, Journal.metrics]

/-! ### The report that would be made now -/

theorem drain_eq_none_iff {sender : Ssrc} {now : Nat} {roundTrip : Option Nat} :
    (b.drain sender now roundTrip).2 = none ↔ b.isEmpty = true := by
  have hreports : b.reports roundTrip = [] ↔ b.isEmpty = true := reports_eq_nil_iff
  rw [← hreports, drain]
  cases b.reports roundTrip <;> simp

/-- A report counts the acks and the losses that wait. -/
theorem Sound.totals_drain (h : b.Sound) (sender : Ssrc) (now : Nat) (roundTrip : Option Nat) :
    (((b.drain sender now roundTrip).2).map Report.ackedTotal).getD 0 = b.waiting ∧
      (((b.drain sender now roundTrip).2).map Report.lostTotal).getD 0 = b.losses := by
  rw [h.counted]
  rcases hdrain : b.drain sender now roundTrip with ⟨rest, _ | report⟩
  · obtain ⟨-, hacks, hlosses⟩ := h.of_drain_none hdrain
    rw [hacks, hlosses]
    exact ⟨rfl, rfl⟩
  · obtain ⟨-, hacks, hlosses⟩ := h.of_drain_some hdrain
    exact ⟨report.length_acks.symm.trans hacks.length_eq, hlosses⟩

theorem length_acks (b : Backlog) : b.acks.length = total (·.2.acked.length) b.lanes := by
  unfold acks
  induction b.lanes with
  | nil => rfl
  | cons e rest ih => rw [List.flatMap_cons, List.length_append, ih, total]

/-- The losses that wait are those since the last report. -/
theorem losses_after (hlimit : 0 < limit) (history : List Event) :
    (after limit history).losses = (unreported history).countP Event.isLoss := by
  induction history using List.reverseRecOn with
  | nil => rfl
  | append_singleton history e ih =>
    have hsound := sound_after hlimit history
    rw [after_concat]
    cases e with
    | ack a =>
      rw [unreported_concat rfl, List.countP_append, ← ih]
      exact (hsound.takeAck_cases a).2.1
    | loss ssrc =>
      rw [unreported_concat rfl, List.countP_append, ← ih]
      exact (hsound.takeLoss_cases ssrc).2.2
    | drain => rw [unreported_drain]; rfl

theorem Lane.mem_numbers_report {l : Lane} {ssrc : Ssrc} {roundTrip : Option Nat}
    {n : SequenceNumber} :
    n ∈ (l.report ssrc roundTrip).numbers ↔ ∃ a ∈ l.acked, a.packet.sequenceNumber = n := by
  have hperm : (l.report ssrc roundTrip).packets.Perm
      (l.acked.map (Lane.reported (roundTrip.getD 0 / 2))) := Lane.sortFrom_perm _ _
  rw [StreamReport.numbers, (hperm.map _).mem_iff]
  simp [Lane.reported]

theorem contains_drain (hsorted : b.lanes.Sorted) {sender : Ssrc} {now : Nat}
    {roundTrip : Option Nat} {report : Report}
    (hreport : (b.drain sender now roundTrip).2 = some report) (ssrc : Ssrc) (n : SequenceNumber) :
    report.contains ssrc n = true ↔
      ∃ a ∈ (b.lane ssrc).acked, a.packet.sequenceNumber = n := by
  have hstream := stream?_drain hsorted sender now roundTrip ssrc
  rw [hreport, Option.bind_some] at hstream
  rw [Report.contains, hstream]
  by_cases hempty : (b.lane ssrc).isEmpty = true
  · simp [hempty, (Lane.eq_of_isEmpty hempty).1]
  · simp [hempty, Lane.mem_numbers_report]

/-! ### Lanes that stay after a report -/

/-- The backlog without the lanes that hold nothing. -/
def tidy (b : Backlog) : Backlog := { b with lanes := b.lanes.filter fun e => !e.2.isEmpty }

/-- Makes a report and keeps the lanes, which hold nothing then. -/
def drainInPlace (b : Backlog) (sender : Ssrc) (now : Nat) (roundTrip : Option Nat) :
    Backlog × Option Report :=
  ({ b with lanes := b.lanes.map fun e => (e.1, {}), waiting := 0 },
    (b.drain sender now roundTrip).2)

/-- The backlog after an event, if lanes are kept. -/
def stepInPlace (b : Backlog) : Event → Backlog
  | .ack a => (b.takeAck a).1
  | .loss ssrc => b.takeLoss ssrc
  | .drain sender now roundTrip => (b.drainInPlace sender now roundTrip).1

/-- A backlog whose lanes hold `limit` acks and are kept, after a history. -/
def keeping (limit : Nat) (history : List Event) : Backlog :=
  history.foldl stepInPlace { limit := limit }

theorem keeping_concat (limit : Nat) (history : List Event) (e : Event) :
    keeping limit (history ++ [e]) = (keeping limit history).stepInPlace e := by
  simp [keeping]

theorem lane_tidy (h : b.lanes.Sorted) (ssrc : Ssrc) : b.tidy.lane ssrc = b.lane ssrc := by
  have hget : b.tidy.lanes.get? ssrc = (b.lanes.get? ssrc).filter fun l => !l.isEmpty :=
    h.get?_filter (fun l => !l.isEmpty) ssrc
  rw [lane, hget, lane]
  cases b.lanes.get? ssrc with
  | none => rfl
  | some l =>
    by_cases hempty : l.isEmpty = true
    · obtain ⟨hacked, hlost⟩ := Lane.eq_of_isEmpty hempty
      obtain ⟨acked, lost⟩ := l
      cases hacked
      cases hlost
      rfl
    · rw [Option.filter_some_pos (by simpa using hempty)]

theorem tidy_takeAck (h : b.lanes.Sorted) (a : Ack) :
    b.tidy.takeAck a = ((b.takeAck a).1.tidy, (b.takeAck a).2) := by
  have hheld : (!((b.lane a.packet.ssrc).takeAck b.limit a).isEmpty) = true := by
    simp [Lane.takeAck, Lane.isEmpty]
  have hput := h.filter_put (fun l => !l.isEmpty) hheld a.packet.ssrc
  have hlane := lane_tidy h a.packet.ssrc
  simp only [tidy] at hlane
  cases hfull : (b.lane a.packet.ssrc).isFull b.limit with
  | false => simp only [takeAck, tidy, hlane, hput, hfull, Bool.false_eq_true, if_false]
  | true => simp only [takeAck, tidy, hlane, hput, hfull, if_true]

theorem tidy_takeLoss (h : b.lanes.Sorted) (ssrc : Ssrc) :
    b.tidy.takeLoss ssrc = (b.takeLoss ssrc).tidy := by
  have hheld : (!(b.lane ssrc).takeLoss.isEmpty) = true := by
    simp [Lane.takeLoss, Lane.isEmpty]
  have hput := h.filter_put (fun l => !l.isEmpty) hheld ssrc
  rw [takeLoss, takeLoss, lane_tidy h]
  simp only [tidy]
  rw [← hput]

theorem drain_tidy (b : Backlog) (sender : Ssrc) (now : Nat) (roundTrip : Option Nat) :
    b.tidy.drain sender now roundTrip = b.drain sender now roundTrip := by
  have htwice : b.tidy.reports roundTrip = b.reports roundTrip := by
    simp only [reports, tidy, List.filter_filter, Bool.and_self]
  rw [drain, drain, htwice]
  rfl

theorem tidy_drainInPlace (b : Backlog) (sender : Ssrc) (now : Nat) (roundTrip : Option Nat) :
    (b.drainInPlace sender now roundTrip).1.tidy = (b.drain sender now roundTrip).1 := by
  have hnone : (b.lanes.map fun e => (e.1, ({} : Lane))).filter (fun e => !e.2.isEmpty) = [] := by
    rw [List.filter_map]
    exact List.map_eq_nil_iff.mpr (List.filter_eq_nil_iff.mpr fun e _ => by simp [Lane.isEmpty])
  simp only [drainInPlace, tidy, hnone, drain]

theorem sorted_stepInPlace (h : b.lanes.Sorted) (e : Event) : (b.stepInPlace e).lanes.Sorted := by
  cases e with
  | ack a => exact sorted_step h (.ack a)
  | loss ssrc => exact sorted_step h (.loss ssrc)
  | drain => exact List.pairwise_map.mpr h

theorem sorted_keeping (limit : Nat) (history : List Event) :
    (keeping limit history).lanes.Sorted := by
  induction history using List.reverseRecOn with
  | nil => exact List.Pairwise.nil
  | append_singleton history e ih =>
    rw [keeping_concat]
    exact sorted_stepInPlace ih e

theorem tidy_stepInPlace (h : b.lanes.Sorted) (e : Event) :
    (b.stepInPlace e).tidy = b.tidy.step e := by
  cases e with
  | ack a => exact (congrArg Prod.fst (tidy_takeAck h a)).symm
  | loss ssrc => exact (tidy_takeLoss h ssrc).symm
  | drain sender now roundTrip =>
    rw [step, drain_tidy]
    exact tidy_drainInPlace b sender now roundTrip

/-- A backlog that keeps its lanes is the same but for lanes that hold nothing. -/
theorem tidy_keeping (limit : Nat) (history : List Event) :
    (keeping limit history).tidy = after limit history := by
  induction history using List.reverseRecOn with
  | nil => rfl
  | append_singleton history e ih =>
    rw [keeping_concat, after_concat, tidy_stepInPlace (sorted_keeping limit history), ih]

theorem total_tidy (b : Backlog) :
    total (·.2.acked.length) b.tidy.lanes = total (·.2.acked.length) b.lanes := by
  simp only [tidy]
  induction b.lanes with
  | nil => rfl
  | cons e rest ih =>
    by_cases hempty : e.2.isEmpty = true
    · simp [hempty, total, ih, (Lane.eq_of_isEmpty hempty).1]
    · simp [hempty, total, ih]

/-! ### The agreement -/

/-- After any history of acks, losses and reports, the count of acks that wait is the number of
those in the lanes, none of which holds more than its limit, and the number that a report made now
would list, which is none if there is no report. That report counts the losses since the last one,
contains a packet if its number waits in the lane of its source, and is missing just if the backlog
is empty. If the lanes of a report are kept, the backlog is the same but for lanes that hold
nothing, its count is the number of acks in its lanes, and it reports the same. As many packets were
counted as evicted, in all and at the next ack, as have made way. -/
theorem counter_agrees (hlimit : 0 < limit) (history : List Event) :
    let b := after limit history
    let kept := keeping limit history
    b.waiting = total (·.2.acked.length) b.lanes ∧
    (∀ e ∈ b.lanes, e.2.acked.length ≤ limit) ∧
    (∀ sender now roundTrip,
      let answer := (b.drain sender now roundTrip).2
      (answer.map Report.ackedTotal).getD 0 = b.waiting ∧
      (answer.map Report.lostTotal).getD 0 = (unreported history).countP Event.isLoss ∧
      (b.isEmpty = true ↔ answer = none) ∧
      ∀ report, answer = some report → ∀ ssrc n,
        report.contains ssrc n = true ↔
          ∃ a ∈ (b.lane ssrc).acked, a.packet.sequenceNumber = n) ∧
    (kept.tidy = b ∧ kept.waiting = total (·.2.acked.length) kept.lanes ∧
      ∀ sender now roundTrip,
        (kept.drainInPlace sender now roundTrip).2 = (b.drain sender now roundTrip).2) ∧
    (admissions limit history).countP (· ≠ .added) = (evicted limit history).length ∧
    ∀ (r : Reporter) (env : Environment) (a : Ack), r.backlog = b →
      (r.takeIn env (.acked a)).2.journal.metrics.evicted = env.journal.metrics.evicted +
        if (b.takeAck a).2.evicted?.isSome then 1 else 0 := by
  intro b kept
  have hsound : b.Sound := sound_after hlimit history
  have hcounted : b.waiting = total (·.2.acked.length) b.lanes := by
    rw [hsound.counted, length_acks]
  refine ⟨hcounted, ?_, ?_, ?_, countP_admissions hlimit history, ?_⟩
  · intro e he
    have hbounded := hsound.bounded e he
    rwa [limit_after] at hbounded
  · intro sender now roundTrip answer
    obtain ⟨hacked, hlost⟩ := hsound.totals_drain sender now roundTrip
    refine ⟨hacked, hlost.trans (losses_after hlimit history), drain_eq_none_iff.symm, ?_⟩
    intro report hreport
    exact contains_drain hsound.sorted hreport
  · have htidy : kept.tidy = b := tidy_keeping limit history
    refine ⟨htidy, ?_, ?_⟩
    · rw [← total_tidy, htidy, ← hcounted, ← htidy]
      rfl
    · intro sender now roundTrip
      rw [drainInPlace, ← drain_tidy, htidy]
  · intro r env a hbacklog
    have hr : r.backlog.Sound := hbacklog ▸ hsound
    rw [hr.evicted_takeIn, hbacklog]

/-- A loss, three acks of one source around the wrap of the sequence numbers, a report, the same
three acks again and one of another source. -/
def fullLane : List Event :=
  let acks : List Event :=
    [.ack ⟨⟨10, 5, 100, ⟨65535⟩⟩, 70⟩, .ack ⟨⟨20, 5, 100, ⟨0⟩⟩, 60⟩, .ack ⟨⟨30, 5, 100, ⟨1⟩⟩, 80⟩]
  .loss 7 :: acks ++ .drain 9 90 none :: acks ++ [.ack ⟨⟨35, 3, 80, ⟨9⟩⟩, 85⟩]

/-- If a lane holds two acks, one of the three makes way each time, and three wait in the end. -/
theorem counter_of_full_lane :
    (after 2 fullLane).waiting = 3 ∧
      (admissions 2 fullLane).countP (· ≠ .added) = 2 ∧
      ∃ report, ((after 2 fullLane).drain 9 95 none).2 = some report ∧ report.ackedTotal = 3 ∧
        report.lostTotal = 0 ∧ report.contains 5 ⟨0⟩ = true ∧
          ¬ report.contains 5 ⟨65535⟩ = true := by
  obtain ⟨hwaiting, -, hdrain, -, hevicted, -⟩ := counter_agrees Nat.two_pos fullLane
  obtain ⟨hacked, hlost, -, hcontains⟩ := hdrain 9 95 none
  refine ⟨hwaiting, hevicted, _, rfl, hacked, hlost, ?_, ?_⟩
  · rw [hcontains _ rfl]
    decide
  · rw [hcontains _ rfl]
    decide

/-- A lane that holds nothing takes an ack in all the same, uncounted. -/
example : let b := after 0 [.ack ⟨⟨10, 5, 100, ⟨1⟩⟩, 70⟩]
    b.waiting = 0 ∧ (b.lane 5).acked.length = 1 := by decide

end Backlog

end MediaMux.Feedback
