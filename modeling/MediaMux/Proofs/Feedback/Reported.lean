import MediaMux.Proofs.Feedback.Ledger
import MediaMux.Proofs.Feedback.Unreported

/-!
# What a report is on

The journal of a reporter is a history of its backlog: it takes outcomes in, and a report that was
handed over or withdrawn has emptied it (`JournalEntry.backlogEvent`). A step of the reporter keeps
the two in line (`Reported.step`). So a report is on the outcomes since the one before, whatever has
become of that (`Faithful.reported_after`).
-/

namespace MediaMux

open Feedback Feedback.Backlog

/-- What the entry says that happened to the backlog of its reporter. -/
def JournalEntry.backlogEvent : JournalEntry → List Event
  | acked _ a => [.ack a]
  | lost _ ssrc _ => [.loss ssrc]
  | reported _ report _ => [.drain report.sender report.madeAt report.roundTrip]
  | withdrawn _ report => [.drain report.sender report.madeAt report.roundTrip]
  | _ => []

namespace Feedback

/-! ### Histories of a backlog -/

namespace Backlog

variable {b : Backlog} {limit : Nat} {history : List Event}

theorem unreported_append_drain (before after : List Event) (sender : Ssrc) (now : Nat)
    (roundTrip : Option Nat) :
    unreported (before ++ .drain sender now roundTrip :: after) = unreported after := by
  induction after using List.reverseRecOn with
  | nil => exact unreported_drain before sender now roundTrip
  | append_singleton after e ih =>
    have hconcat : before ++ .drain sender now roundTrip :: (after ++ [e]) =
        before ++ .drain sender now roundTrip :: after ++ [e] := by simp
    rw [hconcat]
    cases he : e.isOutcome with
    | true => rw [unreported_concat he, unreported_concat he, ih]
    | false =>
      have hend : ¬ e.isOutcome = true := by simp [he]
      rw [unreported, List.rtakeWhile_concat_neg _ _ _ hend, unreported,
        List.rtakeWhile_concat_neg _ _ _ hend]

theorem Holds.of_unreported {history' : List Event} (h : Holds b limit history)
    (hsame : unreported history' = unreported history) : Holds b limit history' where
  limit_eq := h.limit_eq
  sorted := h.sorted
  acked := hsame ▸ h.acked
  lost := hsame ▸ h.lost

/-- A report on outcomes, of which there are some. -/
structure ReportsSome (r : Report) (limit : Nat) (events : List Event) : Prop where
  some : events ≠ []
  content : ReportsOn r limit events

theorem Holds.of_drain_none (h : Holds b limit history) (hlimit : 0 < limit) {sender : Ssrc}
    {now : Nat} {roundTrip : Option Nat} {rest : Backlog}
    (hdrain : b.drain sender now roundTrip = (rest, none)) : Holds rest limit history := by
  have hempty := h.drain sender now roundTrip
  obtain ⟨-, hnone⟩ := drain_eq_none hdrain
  rw [hdrain] at hempty
  refine hempty.of_unreported ?_
  rw [unreported_drain, (h.reports_eq_nil hlimit roundTrip).mp hnone]

theorem Holds.of_drain_some (h : Holds b limit history) (hlimit : 0 < limit) {sender : Ssrc}
    {now : Nat} {roundTrip : Option Nat} {rest : Backlog} {report : Report}
    (hdrain : b.drain sender now roundTrip = (rest, some report)) :
    Holds rest limit
        (history ++ [.drain report.sender report.madeAt report.roundTrip]) ∧
      ReportsSome report limit (unreported history) := by
  have hempty := h.drain sender now roundTrip
  obtain ⟨-, rfl, hsome⟩ := drain_eq_some hdrain
  rw [hdrain] at hempty
  refine ⟨hempty, ?_, h.reportsOn hlimit sender now roundTrip⟩
  exact fun hnil => hsome ((h.reports_eq_nil hlimit roundTrip).mpr hnil)

end Backlog

/-- The number of losses that a report counts on a source. -/
def Report.lostOn (r : Report) (ssrc : Ssrc) : Nat := ((r.stream? ssrc).map (·.lost)).getD 0

theorem Backlog.ReportsOn.lostOn {r : Report} {limit : Nat} {events : List Event}
    (h : ReportsOn r limit events) (ssrc : Ssrc) : r.lostOn ssrc = lossesOn ssrc events := by
  unfold Report.lostOn Report.stream?
  cases hs : r.streams.find? fun s => s.ssrc = ssrc with
  | some s =>
    have hssrc : s.ssrc = ssrc := by simpa using List.find?_some hs
    exact hssrc ▸ (h.streams s (List.mem_of_find?_eq_some hs)).lost
  | none =>
    -- a source that is not in the report has no outcomes
    refine (Nat.eq_zero_of_not_pos fun hpos => ?_).symm
    obtain ⟨s, hmem, hssrc⟩ := (h.sources ssrc).mpr ⟨_, lossesOn_pos.mp hpos, rfl⟩
    simpa [hssrc] using List.find?_eq_none.mp hs s hmem

/-- What a report that is being handed over has done to the backlog. -/
def Stage.backlogEvent : Stage → List Event
  | between => []
  | reporting => []
  | measured _ => []
  | assembled report => [.drain report.sender report.madeAt report.roundTrip]

@[simp] theorem Stage.backlogEvent_stageAfter (options : Options) (backlog : Backlog) :
    (Scene.stageAfter options backlog).backlogEvent = [] := by
  unfold Scene.stageAfter
  split <;> rfl

end Feedback

/-! ### Journals -/

namespace Journal

open JournalEntry

variable {limit : Nat} {j : Journal}

/-- Every report that was handed over is on the outcomes since the one before. -/
def Faithful (limit : Nat) (j : Journal) : Prop :=
  ∀ newer g report taken older, j = newer ++ .reported g report taken :: older →
    ReportsSome report limit (unreported (gather backlogEvent older))

theorem Faithful.cons (h : Faithful limit j) {e : JournalEntry}
    (he : ∀ g report taken, e = .reported g report taken →
      ReportsSome report limit (unreported (gather backlogEvent j))) : Faithful limit (e :: j) := by
  intro newer g report taken older hj
  cases newer with
  | nil =>
    obtain ⟨hhead, rfl⟩ := List.cons.inj hj
    exact he g report taken hhead
  | cons _ newer =>
    obtain ⟨-, htail⟩ := List.cons.inj hj
    exact h newer g report taken older htail

theorem Faithful.tail {e : JournalEntry} (h : Faithful limit (e :: j)) : Faithful limit j := by
  rintro newer g report taken older rfl
  exact h (e :: newer) g report taken older rfl

/-- Of the losses on a source that were taken in, the reports count those that do not wait any more,
if none was withdrawn with a report. -/
theorem Faithful.losses (h : Faithful limit j) (ssrc : Ssrc) :
    let told := total (Report.lostOn · ssrc) (gather handedReport j)
    let waiting := lossesOn ssrc (unreported (gather backlogEvent j))
    told + waiting ≤ (gather takenLoss j).count ssrc ∧
      (gather withdrawnReport j = [] → told + waiting = (gather takenLoss j).count ssrc) := by
  induction j with
  | nil => exact ⟨Nat.le_refl _, fun _ => rfl⟩
  | cons e j ih =>
    obtain ⟨hle, heq⟩ := ih h.tail
    cases e with
    | acked g a =>
      have hevents : gather backlogEvent (.acked g a :: j) = gather backlogEvent j ++ [.ack a] :=
        rfl
      rw [hevents, unreported_concat rfl, lossesOn_concat_ack]
      simpa using ⟨hle, heq⟩
    | lost g lost n =>
      have hevents : gather backlogEvent (.lost g lost n :: j) =
          gather backlogEvent j ++ [.loss lost] := rfl
      rw [hevents, unreported_concat rfl, lossesOn_concat_loss]
      simp only [gather_cons, handedReport, withdrawnReport, takenLoss, List.append_nil,
        List.count_append, List.count_singleton, beq_iff_eq]
      split
      · exact ⟨by omega, fun hnone => by have := heq hnone; omega⟩
      · exact ⟨hle, heq⟩
    | reported g report taken =>
      have hevents : gather backlogEvent (.reported g report taken :: j) =
          gather backlogEvent j ++ [.drain report.sender report.madeAt report.roundTrip] := rfl
      have hlost := (h [] g report taken j rfl).content.lostOn ssrc
      rw [hevents, unreported_drain]
      simp only [gather_cons, handedReport, withdrawnReport, takenLoss, List.append_nil,
        total_append, total, hlost]
      exact ⟨hle, heq⟩
    | withdrawn g report =>
      have hevents : gather backlogEvent (.withdrawn g report :: j) =
          gather backlogEvent j ++ [.drain report.sender report.madeAt report.roundTrip] := rfl
      rw [hevents, unreported_drain]
      simp only [gather_cons, handedReport, withdrawnReport, takenLoss, List.append_nil]
      exact ⟨Nat.le_trans (Nat.add_le_add_left (Nat.zero_le _) _) hle,
        fun hnone => by simp at hnone⟩
    | sent | refused | compound | tracked | resolved | evicted | sampled | discarded =>
      simpa [backlogEvent] using ⟨hle, heq⟩

/-- What is reported after a report has nothing to do with what was reported before. -/
theorem Faithful.reported_after (h : Faithful limit j) {newer between older : Journal}
    {g : Nat} {report later : Report} {taken takenLater : Bool}
    (hj : j = newer ++ .reported g later takenLater ::
      (between ++ .reported g report taken :: older)) :
    ReportsSome later limit (unreported (gather backlogEvent between)) := by
  have hlater := h newer g later takenLater _ hj
  rw [gather_append, gather_cons, List.append_assoc] at hlater
  rwa [backlogEvent, List.singleton_append, unreported_append_drain] at hlater

end Journal

namespace Feedback

open Journal JournalEntry

/-! ### A backlog and the journal of its reporter -/

/-- At a stage of a round the backlog holds what the journal left unreported, and every report was
on the outcomes since the one before. -/
structure Traced (limit : Nat) (b : Backlog) (st : Stage) (j : Journal) : Prop where
  holds : b.Holds limit (gather backlogEvent j ++ st.backlogEvent)
  assembled : ∀ report, st = .assembled report →
    ReportsSome report limit (unreported (gather backlogEvent j))
  handed : Faithful limit j

namespace Traced

variable {limit : Nat} {b rest : Backlog} {st : Stage} {j : Journal} {report : Report}
  {sender : Ssrc} {time : Nat} {roundTrip : Option Nat} {measurement : Measurement}

theorem fresh (hlimit : 0 < limit) : Traced limit { limit := limit } .between [] where
  holds := holds_after hlimit []
  assembled := fun _ hstage => Stage.noConfusion hstage
  handed := fun newer _ _ _ _ hj => by simp at hj

/-- No report is being handed over at either stage. -/
theorem restage (h : Traced limit b st j) (hst : st.backlogEvent = []) {st' : Stage}
    (hst' : st'.backlogEvent = []) : Traced limit b st' j where
  holds := by
    rw [hst', ← hst]
    exact h.holds
  assembled := by
    rintro report rfl
    cases hst'
  handed := h.handed

/-- An entry is added that is not about the backlog. -/
theorem log (h : Traced limit b st j) {e : JournalEntry} (he : e.backlogEvent = []) :
    Traced limit b st (e :: j) := by
  have hevents : gather backlogEvent (e :: j) = gather backlogEvent j := by
    rw [gather_cons, he, List.append_nil]
  refine ⟨?_, ?_, h.handed.cons ?_⟩
  · rw [hevents]
    exact h.holds
  · rw [hevents]
    exact h.assembled
  · rintro g report taken rfl
    cases he

/-- An outcome is taken in. -/
theorem take (h : Traced limit b .between j) (hlimit : 0 < limit) (e : JournalEntry)
    (event : Event) (he : e.backlogEvent = [event]) (hevent : event.isOutcome = true) :
    Traced limit (b.step event) .between (e :: j) where
  holds := by
    have hbefore := h.holds
    rw [Stage.backlogEvent, List.append_nil] at hbefore ⊢
    rw [gather_cons, he]
    exact hbefore.step hlimit event
  assembled := fun _ hstage => Stage.noConfusion hstage
  handed := by
    refine h.handed.cons ?_
    rintro g report taken rfl
    cases he
    cases hevent

theorem empty (h : Traced limit b (.measured measurement) j) (hlimit : 0 < limit)
    (hdrain : b.drain sender time roundTrip = (rest, none)) : Traced limit rest .between j where
  holds := h.holds.of_drain_none hlimit hdrain
  assembled := fun _ hstage => Stage.noConfusion hstage
  handed := h.handed

theorem assemble (h : Traced limit b (.measured measurement) j) (hlimit : 0 < limit)
    (hdrain : b.drain sender time roundTrip = (rest, some report)) :
    Traced limit rest (.assembled report) j := by
  have hbefore := h.holds
  rw [Stage.backlogEvent, List.append_nil] at hbefore
  obtain ⟨hrest, hreport⟩ := hbefore.of_drain_some hlimit hdrain
  refine ⟨hrest, ?_, h.handed⟩
  intro report' hstage
  cases hstage
  exact hreport

/-- A report is handed over or withdrawn. -/
theorem finish (h : Traced limit b (.assembled report) j) {e : JournalEntry}
    (he : e.backlogEvent = [.drain report.sender report.madeAt report.roundTrip])
    (hreport : ∀ g later taken, e = .reported g later taken → later = report) :
    Traced limit b .between (e :: j) where
  holds := by
    -- what the stage stood for is in the journal now
    rw [gather_cons, he, Stage.backlogEvent, List.append_nil]
    exact h.holds
  assembled := fun _ hstage => Stage.noConfusion hstage
  handed := h.handed.cons fun g later taken heq =>
    hreport g later taken heq ▸ h.assembled report rfl

end Traced

/-! ### The course of a reporter -/

namespace Scene

variable {now : Nat} {sc next : Scene}

/-- The backlog of the reporter and its journal, at its stage. -/
def Reported (sc : Scene) : Prop :=
  Traced sc.reporter.options.capacity sc.reporter.backlog sc.stage sc.history

theorem Fresh.reported (h : Fresh sc) : Reported sc := by
  rw [Reported, h.backlog, h.stage, h.history]
  exact .fresh sc.reporter.options.capacity_pos

theorem Reported.move (h : Reported sc) (hm : Move now sc next) : Reported next := by
  have hlimit := sc.reporter.options.capacity_pos
  unfold Reported at h ⊢
  cases hm with
  | start => exact h
  | tick | skip => exact h.restage rfl rfl
  | nothing hdrain => exact h.empty hlimit hdrain
  | assemble hdrain => exact h.assemble hlimit hdrain
  | @close r env =>
    show Traced _ _ _ (of r.number (.discarded r.number r.queue :: env.journal))
    rw [of_cons_self rfl]
    exact h.log rfl
  | @add r env due a rest hphase htold hqueue hadmission =>
    show Traced _ _ _ (of r.number (.acked r.number a :: env.journal))
    rw [of_cons_self rfl]
    exact (h.take hlimit _ (.ack a) rfl rfl).restage rfl (Stage.backlogEvent_stageAfter _ _)
  | @displace r env due a rest oldest hphase htold hqueue hadmission =>
    show Traced _ _ _ (of r.number (.evicted r.number oldest :: .acked r.number a :: env.journal))
    rw [of_cons_self rfl, of_cons_self rfl]
    have htaken := h.take hlimit (.acked r.number a) (.ack a) rfl rfl
    exact (htaken.restage rfl (Stage.backlogEvent_stageAfter _ _)).log rfl
  | @lose r env due ssrc sequenceNumber rest hphase htold hqueue =>
    show Traced _ _ _ (of r.number (.lost r.number ssrc sequenceNumber :: env.journal))
    rw [of_cons_self rfl]
    exact (h.take hlimit _ (.loss ssrc) rfl rfl).restage rfl (Stage.backlogEvent_stageAfter _ _)
  | unavailable | answer =>
    rw [history, Reporter.journal_measure, of_cons_self rfl]
    exact (h.restage rfl rfl).log rfl
  | @withdraw r env report htold =>
    show Traced _ _ _ (of r.number (.withdrawn r.number report :: env.journal))
    rw [of_cons_self rfl]
    exact h.finish rfl fun _ _ _ heq => by cases heq
  | hand =>
    rw [history, Environment.journal_log, Environment.journal_offer, of_cons_self rfl]
    exact h.finish rfl fun _ _ _ heq => by cases heq; rfl

theorem Reported.step (h : Reported sc) (hs : Step sc next) : Reported next := by
  cases hs with
  | @elsewhere r st env env' hcancelled hjournal =>
    rw [Reported, history, hjournal]
    exact h
  | stop => exact h
  | track r st env p =>
    rw [Reported, history, Environment.journal_log, of_cons_self rfl]
    exact h.log rfl
  | receive r st env outcome =>
    unfold Reporter.enqueue
    split
    all_goals
      rw [Reported, history, Environment.journal_log, of_cons_self rfl]
      exact h.log rfl
  | proceed hp => exact h.move hp.move

theorem Course.reported (h : Course sc) : Reported sc :=
  h.induction (fun _ => Fresh.reported) fun _ _ => Reported.step

end Scene

end Feedback

end MediaMux
