import MediaMux.Proofs.Feedback.Reported
import MediaMux.Proofs.Session.Deaf

/-!
# What sinks are handed

`World.handovers` lists the reports that the steps of a run hand to sinks, each with the answer of
its sink; the journal lists the same (`World.InOrder.handovers_run`). Runs that differ in their
sinks only hand over the same reports, and differ in the answers only
(`World.sinks_do_not_matter`).
-/

namespace MediaMux

open Feedback Feedback.Backlog

/-- A report that a reporter handed to its sink, and whether the sink took it. -/
structure Handover where
  reporter : Nat
  report : Report
  taken : Bool
deriving DecidableEq

/-- The report and its reporter, without the answer of the sink. -/
def Handover.content (h : Handover) : Nat × Report := (h.reporter, h.report)

def JournalEntry.handover : JournalEntry → List Handover
  | reported reporter report taken => [⟨reporter, report, taken⟩]
  | _ => []

theorem JournalEntry.handover_of_isOwn {e : JournalEntry} (h : e.isOwn = false) :
    e.handover = [] := by
  cases e <;> first | rfl | cases h

namespace Journal

open JournalEntry

theorem map_gather {α β : Type} (f : α → β) (select : JournalEntry → List α) (j : Journal) :
    (gather select j).map f = gather (fun e => (select e).map f) j := by
  induction j with
  | nil => rfl
  | cons e older ih => rw [gather_cons, gather_cons, List.map_append, ih]

theorem refusedReports_metrics (j : Journal) :
    j.metrics.refusedReports = (gather handover j).countP fun h => !h.taken := by
  induction j with
  | nil => rfl
  | cons e older ih =>
    rw [gather_cons, List.countP_append, ← ih]
    unfold metrics
    dsimp only
    rw [List.countP_cons]
    cases e with
    | reported g report taken => cases taken <;> rfl
    | _ => rfl

theorem content_handovers_deaf (j : Journal) :
    (gather handover (j.map deaf)).map Handover.content =
      (gather handover j).map Handover.content := by
  rw [map_gather, map_gather, gather_deaf]
  intro e
  cases e <;> rfl

end Journal

namespace Feedback.Scene

open Journal JournalEntry

variable {now : Nat} {sc next : Scene}

/-- What the next step of a reporter hands to its sink: the report that it has put together, unless
it has been told to stop. -/
def handover? (sc : Scene) : Option Handover :=
  match sc.stage with
  | .between => none
  | .reporting => none
  | .measured _ => none
  | .assembled report =>
    if sc.told then none
    else some ⟨sc.reporter.number, report, (sc.env.offer sc.reporter.sink report).2⟩

theorem handover?_of_waiting (h : sc.proceed? now = none) : sc.handover? = none := by
  obtain ⟨r, st, env⟩ := sc
  cases st with
  | between | reporting | measured => rfl
  | assembled => cases h

theorem Move.handover (h : Move now sc next) :
    gather handover next.env.journal =
      gather handover sc.env.journal ++ sc.handover?.toList := by
  cases h with
  | start | tick | skip | nothing | assemble | close | add | displace | lose =>
    simp [handover?, JournalEntry.handover, Reporter.close]
  | unavailable | answer =>
    simp [handover?, JournalEntry.handover]
  | withdraw htold => simp [handover?, told, JournalEntry.handover, htold]
  | hand htold => simp [handover?, told, JournalEntry.handover, htold]

end Feedback.Scene

namespace World

open Journal JournalEntry

variable {w w' : World}

def handover? (w : World) : Action → Option Handover
  | .call _ => none
  | .proceed g => (w.scene? g).bind Scene.handover?

/-- What a run hands to sinks, in the order of the run. -/
def handovers (w : World) : List Action → List Handover
  | [] => []
  | a :: rest => (w.handover? a).toList ++ (w.step a).handovers rest

theorem InOrder.handover_step (hw : InOrder w) (a : Action) :
    gather handover (w.step a).session.env.journal =
      gather handover w.session.env.journal ++ (w.handover? a).toList := by
  cases a with
  | call c =>
    rw [(hw.journal_call c).gather_eq fun _ he => handover_of_isOwn he]
    exact (List.append_nil _).symm
  | proceed g =>
    unfold World.step handover?
    dsimp only
    cases hsc : w.scene? g with
    | none => simp
    | some sc =>
      obtain ⟨-, -, henv⟩ := scene?_eq_some hsc
      cases hnext : sc.proceed? w.session.timer with
      | none =>
        -- a reporter that waits holds no report
        simp [hnext, Scene.handover?_of_waiting hnext]
      | some next =>
        simp only [Option.bind_some, hnext]
        rw [← henv]
        exact (Scene.Proceeds.move hnext).handover

/-- The journal lists what a run handed to sinks, with their answers. -/
theorem InOrder.handovers_run (hw : InOrder w) (actions : List Action) :
    gather handover (w.run actions).session.env.journal =
      gather handover w.session.env.journal ++ w.handovers actions := by
  induction actions generalizing w with
  | nil => exact (List.append_nil _).symm
  | cons a rest ih =>
    have hrest := ih (hw.step a)
    rw [hw.handover_step, List.append_assoc] at hrest
    exact hrest

theorem Initial.handovers_run (h : Initial w) (actions : List Action) :
    gather handover (w.run actions).session.env.journal = w.handovers actions := by
  obtain ⟨-, -, hjournal, -⟩ := h.empty
  rw [h.inOrder.handovers_run, hjournal, gather_nil, List.nil_append]

/-- The worlds are the same but for their sinks and what these answered. -/
structure SameButSinks (w w' : World) : Prop where
  reporters : w.session.reporters = w'.session.reporters
  stage : w.stage = w'.stage
  transports : w.session.transports = w'.session.transports
  rtp : w.session.rtp = w'.session.rtp
  clock : w.session.env.clock = w'.session.env.clock
  cancelled : w.session.env.cancelled = w'.session.env.cancelled
  meter : w.session.env.meter = w'.session.env.meter
  questions : ∀ g, gather question (w.history g) = gather question (w'.history g)
  metrics : w.session.env.journal.metrics =
    { w'.session.env.journal.metrics with
      refusedReports := w.session.env.journal.metrics.refusedReports }

theorem sameButSinks_of_deaf (h : w.deaf = w'.deaf) : SameButSinks w w' := by
  have hjournal : w.session.env.journal.map JournalEntry.deaf =
      w'.session.env.journal.map JournalEntry.deaf :=
    congrArg (·.session.env.journal) h
  refine ⟨congrArg (·.session.reporters) h, congrArg (·.stage) h, congrArg (·.session.transports) h,
    congrArg (·.session.rtp) h, congrArg (·.session.env.clock) h,
    congrArg (·.session.env.cancelled) h, congrArg (·.session.env.meter) h, ?_, ?_⟩
  · intro g
    have hhistory := congrArg (fun j => gather question (of g j)) hjournal
    simp only [of_deaf] at hhistory
    have hsame : ∀ e : JournalEntry, e.deaf.question = e.question := by
      intro e
      cases e <;> rfl
    rw [gather_deaf hsame, gather_deaf hsame] at hhistory
    exact hhistory
  · have hmetrics := congrArg Journal.metrics hjournal
    rw [metrics_deaf, metrics_deaf] at hmetrics
    exact congrArg (fun m : Metrics =>
      { m with refusedReports := w.session.env.journal.metrics.refusedReports }) hmetrics

/-- Whatever has become of the reports that were handed over before, a report is on outcomes that
its reporter has taken in since the last of them. -/
theorem Reachable.reported_after (hw : Reachable w) {g : Nat} {r : Reporter}
    (hr : w.session.reporters[g]? = some r) {newer between older : Journal}
    {report later : Report} {taken takenLater : Bool}
    (hhistory : w.history g = newer ++ .reported g later takenLater ::
      (between ++ .reported g report taken :: older)) :
    ReportsSome later r.options.capacity (unreported (gather backlogEvent between)) := by
  have hsc := scene?_of_reporter hr
  have hreported := (hw.course hsc).reported.handed
  rw [hw.inOrder.history_eq hsc] at hreported
  exact hreported.reported_after hhistory

/-- Two runs of a new session that differ in its sinks only are the same at every point, but for
the sinks and what these answered, and hand over the same reports in the same order. The journal
lists what a run handed over with the answers, of which the metrics count the refusals. A report
that comes after another of its reporter is on outcomes that were taken in since, of which there are
some, whether or not the other was taken. -/
theorem sinks_do_not_matter {origin : World} (horigin : Initial origin) (actions : List Action) :
    (∀ actions', List.Forall₂ Action.SameButSink actions actions' →
      (∀ k, SameButSinks (origin.run (actions.take k)) (origin.run (actions'.take k))) ∧
      (origin.handovers actions).map Handover.content =
        (origin.handovers actions').map Handover.content) ∧
    gather handover (origin.run actions).session.env.journal = origin.handovers actions ∧
    (origin.run actions).session.env.journal.metrics.refusedReports =
      ((origin.handovers actions).countP fun h => !h.taken) ∧
    ∀ g r newer later takenLater between report taken older,
      (origin.run actions).session.reporters[g]? = some r →
      (origin.run actions).history g = newer ++ .reported g later takenLater ::
        (between ++ .reported g report taken :: older) →
      ReportsSome later r.options.capacity (unreported (gather backlogEvent between)) := by
  have hjournal := horigin.handovers_run
  refine ⟨?_, hjournal actions, ?_, ?_⟩
  · intro actions' hsame
    -- runs that are cut short at the same point differ in the sinks only, too
    refine ⟨fun k => sameButSinks_of_deaf (deaf_run rfl (List.forall₂_take k hsame)), ?_⟩
    have hdeaf : (origin.run actions).deaf = (origin.run actions').deaf := deaf_run rfl hsame
    have hcontent := congrArg (fun w : World =>
      (gather handover w.session.env.journal).map Handover.content) hdeaf
    rw [← hjournal, ← hjournal, ← content_handovers_deaf (origin.run actions).session.env.journal,
      ← content_handovers_deaf (origin.run actions').session.env.journal]
    exact hcontent
  · rw [refusedReports_metrics, hjournal]
  · intro g r newer later takenLater between report taken older hr hhistory
    exact (horigin.reachable.run actions).reported_after hr hhistory

/-- Two packets are written and acked, each is reported at once, and the sink is `sink`. -/
def reportTwice (sink : Sink) : List Action :=
  .call (.addSink sink) :: ackedPacket.tail ++ List.replicate 5 (.proceed 0) ++
    [writing 1 ⟨1⟩, .call (.resolve 0 1 .acked)] ++
    List.replicate 4 (.proceed 0)

/-- A sink that refuses the first of two reports is handed the same two as one that takes both, and
the second is on the second ack alone. -/
theorem second_report_after_refusal :
    let refused := reportTwice (.refusingFirst 1)
    let taken := reportTwice (.takingFirst none)
    (∃ report later a,
      ({ session := {} } : World).handovers refused =
        [⟨0, report, false⟩, ⟨0, later, true⟩] ∧
      ReportsSome later 4096 [.ack a]) ∧
    (({ session := {} } : World).handovers refused).map Handover.content =
      (({ session := {} } : World).handovers taken).map Handover.content ∧
    (({ session := {} } : World).run refused).session.env.journal.metrics.refusedReports = 1 := by
  intro refused taken
  obtain ⟨htwo, -, hrefused, hlater⟩ := sinks_do_not_matter initial_empty refused
  have hsame : List.Forall₂ Action.SameButSink refused taken :=
    .cons (.inr ⟨rfl, rfl⟩) (List.forall₂_same.mpr fun _ _ => .inl rfl)
  refine ⟨?_, (htwo taken hsame).2, hrefused⟩
  obtain ⟨report, later, a, older, hboth, hhistory⟩ : ∃ report later a older,
      ({ session := {} } : World).handovers refused = [⟨0, report, false⟩, ⟨0, later, true⟩] ∧
      (({ session := {} } : World).run refused).history 0 = [] ++ .reported 0 later true ::
        ([.sampled 0, .acked 0 a, .resolved 0 (.acked a) false, .tracked 0 a.packet] ++
          .reported 0 report false :: older) :=
    ⟨_, _, _, _, rfl, rfl⟩
  exact ⟨report, later, a, hboth, hlater 0 _ _ _ _ _ _ _ _ rfl hhistory⟩

end World

end MediaMux
