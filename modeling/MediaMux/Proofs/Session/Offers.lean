import MediaMux.Proofs.Session.Handovers
import MediaMux.Proofs.Session.Resolutions

/-!
# Reports at their sinks

A step that hands a report over changes the sink of its reporter: the sink counts the attempt and
keeps the report if it takes it (`World.InOrder.reaches_step`). No other step of a reporter changes
a sink (`Feedback.Scene.Move.sinks`). Of the reports that a run hands over, those of one reporter
are the reports in its history (`World.Initial.handedBy_eq`).
-/

namespace MediaMux

open Feedback Journal JournalEntry

namespace Feedback

theorem Environment.sinks_offer (env : Environment) (place : Nat) (report : Report) :
    (env.offer place report).1.sinks = env.sinks.modify place fun s => (s.offer report).1 := by
  unfold offer
  cases hs : env.sinks[place]? with
  | none => exact (List.modify_eq_self (List.getElem?_eq_none_iff.mp hs)).symm
  | some s =>
    dsimp only
    rw [List.modify_eq_set_getElem?, hs]
    rfl

theorem Environment.taken_offer {env : Environment} {place : Nat} {s : Sink}
    (hs : env.sinks[place]? = some s) (report : Report) :
    (env.offer place report).2 = (s.verdict report).isOk := by
  unfold offer
  rw [hs]
  rfl

/-- Handing a report over counts as an attempt, and the report waits if it was taken. -/
theorem Sink.offer_eq (s : Sink) (report : Report) :
    (s.offer report).1 =
      { s with
        attempts := s.attempts + 1
        waiting := if (s.verdict report).isOk then s.waiting ++ [report] else s.waiting } := by
  unfold offer
  cases s.verdict report <;> rfl

/-- A step of a reporter hands its report to its sink, or leaves the sinks alone. -/
theorem Scene.Move.sinks {now : Nat} {sc next : Scene} (h : Move now sc next) :
    next.env.sinks = match sc.handover? with
      | none => sc.env.sinks
      | some h => sc.env.sinks.modify sc.reporter.sink fun s => (s.offer h.report).1 := by
  cases h with
  | unavailable | answer => exact sinks_measure _ _
  | withdraw htold => simp [handover?, told, htold, Environment.log]
  | hand htold =>
    simp only [handover?, told, htold]
    exact Environment.sinks_offer _ _ _
  | _ => rfl

end Feedback

/-- The reports of one reporter in a journal are those that it handed over. -/
theorem Journal.handedReport_of (j : Journal) (g : Nat) :
    gather handedReport (j.of g) =
      ((gather handover j).filter fun h => h.reporter = g).map Handover.report := by
  induction j with
  | nil => rfl
  | cons e older ih =>
    rw [of_cons, gather_cons, List.filter_append, List.map_append, ← ih]
    cases e with
    | reported q report taken => by_cases hq : q = g <;> simp [handover, hq]
    | _ =>
      simp only [handover, List.filter_nil, List.map_nil, List.append_nil]
      split <;> simp

namespace World

variable {w : World} {g : Nat} {sc next : Scene}

/-- From `w` to `after` a report is handed to the sink at `place`, which is that of the reporter.
The sink counts the attempt, and keeps the report until it is fetched if it takes it. -/
structure Reaches (w after : World) (place : Nat) (h : Handover) : Prop where
  reporter : ∃ r, w.session.reporters[h.reporter]? = some r ∧ r.sink = place
  sink : ∀ s, w.session.env.sinks[place]? = some s →
    h.taken = (s.verdict h.report).isOk ∧
      after.session.env.sinks = w.session.env.sinks.set place
        { s with
          attempts := s.attempts + 1
          waiting := if h.taken then s.waiting ++ [h.report] else s.waiting }

theorem InOrder.reaches_step (hw : InOrder w) {a : Action} {h : Handover}
    (hhanded : w.handover? a = some h) :
    ∃ r, w.session.reporters[h.reporter]? = some r ∧ Reaches w (w.step a) r.sink h := by
  cases a with
  | call c => cases hhanded
  | proceed g =>
    obtain ⟨sc, hsc, hsome⟩ := Option.bind_eq_some_iff.mp hhanded
    obtain ⟨hr, -, henv⟩ := scene?_eq_some hsc
    have hnumber := hw.session.registered.numbered g _ hr
    rcases w.proceed_cases g with ⟨hwaits, -⟩ | ⟨sc', next, hsc', hp, hput⟩
    · rw [hsc, Option.bind_some] at hwaits
      cases (Scene.handover?_of_waiting hwaits).symm.trans hsome
    · cases hsc.symm.trans hsc'
      have hsinks := hp.move.sinks
      rw [hsome] at hsinks
      dsimp only at hsinks
      obtain ⟨hreporter, htaken⟩ : h.reporter = sc.reporter.number ∧
          h.taken = (sc.env.offer sc.reporter.sink h.report).2 := by
        unfold Scene.handover? at hsome
        cases hst : sc.stage with
        | between | reporting | measured => simp [hst] at hsome
        | assembled report =>
          simp only [hst] at hsome
          split at hsome
          · cases hsome
          · cases hsome
            exact ⟨rfl, rfl⟩
      have hplace : w.session.reporters[h.reporter]? = some sc.reporter := by
        rw [hreporter, hnumber]
        exact hr
      refine ⟨sc.reporter, hplace, ⟨sc.reporter, hplace, rfl⟩, fun s hs => ?_⟩
      rw [← henv] at hs ⊢
      rw [htaken, Environment.taken_offer hs, hput]
      refine ⟨rfl, ?_⟩
      show next.env.sinks = _
      rw [hsinks, List.modify_eq_set_getElem?, hs, ← Sink.offer_eq]
      rfl

/-- The reports of the reporter `g` that a run hands over, in their order. -/
def handedBy (w : World) (g : Nat) (actions : List Action) : List Report :=
  ((w.handovers actions).filter fun h => h.reporter = g).map Handover.report

theorem Initial.handedBy_eq (h : Initial w) (g : Nat) (actions : List Action) :
    gather handedReport ((w.run actions).history g) = w.handedBy g actions := by
  unfold history handedBy
  rw [handedReport_of, h.handovers_run]

theorem sink_before (hw : Reachable w) {actions : List Action} {i j : Nat} {r r' : Reporter}
    (hi : (w.before actions i).session.reporters[g]? = some r)
    (hj : (w.before actions j).session.reporters[g]? = some r') : r.sink = r'.sink := by
  have hordered : ∀ {i j : Nat} {r r' : Reporter}, i ≤ j →
      (w.before actions i).session.reporters[g]? = some r →
      (w.before actions j).session.reporters[g]? = some r' → r'.sink = r.sink := by
    intro i j r r' hle hi hj
    obtain ⟨more, hmore⟩ := exists_run_before hle w actions
    rw [hmore] at hj
    exact ((hw.run _).inOrder.terms_run hi hj).sink
  rcases Nat.le_total i j with hle | hle
  · exact (hordered hle hi hj).symm
  · exact hordered hle hj hi

/-- Whatever a reporter hands over in a run reaches its sink. -/
theorem Reachable.reaches_run (hw : Reachable w) {actions : List Action} {r : Reporter} {n : Nat}
    (hr : (w.before actions n).session.reporters[g]? = some r) {k : Nat} {a : Action} {h : Handover}
    (ha : actions[k]? = some a) (hhanded : (w.before actions k).handover? a = some h)
    (hg : h.reporter = g) :
    Reaches (w.before actions k) (w.before actions (k + 1)) r.sink h := by
  subst hg
  obtain ⟨r', hr', hreaches⟩ := (hw.run (actions.take k)).inOrder.reaches_step hhanded
  rw [before_succ ha, ← sink_before hw hr' hr]
  exact hreaches

end World

end MediaMux
