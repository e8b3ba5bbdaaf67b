import MediaMux.Proofs.Session.Crew

/-!
# From runs of a session to courses of its reporters

Whatever happens in a session, each of its reporters only sees steps of a course
(`World.scene_step`). So what holds in the course of a reporter holds of every reporter in every
reachable world (`World.Reachable.course`).
-/

namespace MediaMux

open Feedback

/-! ### Deeds and courses -/

namespace Crew

variable {c c' : Crew} {stage : Nat → Stage}

/-- Every reporter is in its course, and those that are not there yet are between two rounds. -/
structure Coursed (c : Crew) (stage : Nat → Stage) : Prop where
  course : ∀ g (r : Reporter), c.reporters[g]? = some r → Scene.Course ⟨r, stage g, c.env⟩
  between : ∀ g, c.reporters.length ≤ g → stage g = .between

theorem Deed.coursed (h : Deed c c') (hreg : Registered c) (hc : Coursed c stage) :
    Coursed c' stage := by
  refine ⟨?_, fun g hg => hc.between g (Nat.le_trans h.length_le hg)⟩
  intro g r' hr'
  rcases Nat.lt_or_ge g c.reporters.length with hlt | hge
  · have hr := List.getElem?_eq_getElem hlt
    obtain ⟨r, hsome, -, hstep⟩ := h.follows hreg hr
    cases hsome.symm.trans hr'
    exact (hc.course g _ hr).tail (.single (hstep (stage g)))
  · have hfresh := h.born hreg hr' hge
    rw [hc.between g hge]
    exact ⟨_, hfresh, .refl⟩

theorem coursed_of_deeds (h : Relation.ReflTransGen Deed c c') (hreg : Registered c)
    (hc : Coursed c stage) : Coursed c' stage := by
  have hboth : Registered c' ∧ Coursed c' stage := by
    induction h with
    | refl => exact ⟨hreg, hc⟩
    | tail _ hlast ih => exact ⟨hlast.registered ih.1, hlast.coursed ih.1 ih.2⟩
  exact hboth.2

theorem journal_of_deeds (h : Relation.ReflTransGen Deed c c') :
    Journal.Extends (fun e => e.isOwn = false) c.env.journal c'.env.journal := by
  induction h with
  | refl => exact .refl _ _
  | tail _ hlast ih => exact ih.trans hlast.journal_extends

theorem follows_of_deeds (h : Relation.ReflTransGen Deed c c') (hreg : Registered c) {g : Nat}
    {r : Reporter} (hr : c.reporters[g]? = some r) :
    ∃ r', c'.reporters[g]? = some r' ∧ r'.phase = r.phase ∧
      ∀ st, Relation.ReflTransGen Scene.Step ⟨r, st, c.env⟩ ⟨r', st, c'.env⟩ := by
  have hboth : Registered c' ∧ ∃ r', c'.reporters[g]? = some r' ∧ r'.phase = r.phase ∧
      ∀ st, Relation.ReflTransGen Scene.Step ⟨r, st, c.env⟩ ⟨r', st, c'.env⟩ := by
    induction h with
    | refl => exact ⟨hreg, r, hr, rfl, fun _ => .refl⟩
    | tail _ hlast ih =>
      obtain ⟨hmid, r₁, hr₁, hphase₁, hsteps₁⟩ := ih
      obtain ⟨r₂, hr₂, hphase₂, hstep₂⟩ := hlast.follows hmid hr₁
      exact ⟨hlast.registered hmid, r₂, hr₂, hphase₂.trans hphase₁,
        fun st => (hsteps₁ st).tail (hstep₂ st)⟩
  exact hboth.2

end Crew

namespace Session

theorem start_empty {id : Option Nat} {clock : Clock} {hasRuntime : Bool} {horizon : Nat}
    {s : Session} (h : start id clock hasRuntime horizon = .ok s) :
    s.reporters = [] ∧ s.transports = [] ∧ s.env.journal = [] ∧ s.latest? = none := by
  unfold start at h
  cases id with
  | none =>
    cases h
    exact ⟨rfl, rfl, rfl, rfl⟩
  | some id =>
    cases hflow : Flow.identified id with
    | error e => simp [hflow, bind, Except.bind] at h
    | ok base =>
      simp only [hflow] at h
      cases h
      exact ⟨rfl, rfl, rfl, rfl⟩

end Session

namespace World

def history (w : World) (g : Nat) : Journal := w.session.env.journal.of g

/-- A world in order: so is the session, and every reporter is in its course. -/
structure InOrder (w : World) : Prop where
  session : w.session.InOrder
  coursed : w.session.crew.Coursed w.stage

variable {w : World} {g : Nat} {sc next : Scene}

theorem Initial.empty (h : Initial w) :
    w.session.reporters = [] ∧ w.session.transports = [] ∧ w.session.env.journal = [] ∧
      w.session.latest? = none := by
  obtain ⟨id, clock, hasRuntime, horizon, s, hs, rfl⟩ := h
  exact Session.start_empty hs

theorem Initial.between (h : Initial w) (g : Nat) : w.stage g = .between := by
  obtain ⟨id, clock, hasRuntime, horizon, s, -, rfl⟩ := h
  rfl

theorem Initial.inOrder (h : Initial w) : InOrder w := by
  obtain ⟨hreporters, htransports, hjournal, hlatest⟩ := h.empty
  refine ⟨⟨⟨fun g r hr => ?_, fun g _ => ?_⟩, fun place g p hmem => ?_, fun g hg => ?_⟩,
    fun g r hr => ?_, fun g _ => h.between g⟩
  · simp [Session.crew, hreporters] at hr
  · simp [Session.crew, hjournal, Journal.of]
  · simp [Session.slots, Session.held, htransports] at hmem
  · simp [hlatest] at hg
  · simp [Session.crew, hreporters] at hr

/-- A step of a reporter does nothing as the reporter waits, or the reporter proceeds. -/
theorem proceed_cases (w : World) (g : Nat) :
    ((w.scene? g).bind (Scene.proceed? w.session.timer) = none ∧ w.step (.proceed g) = w) ∨
      ∃ sc next, w.scene? g = some sc ∧ Scene.Proceeds w.session.timer sc next ∧
        w.step (.proceed g) = w.put g next := by
  cases hnext : (w.scene? g).bind (Scene.proceed? w.session.timer) with
  | none => exact .inl ⟨rfl, step_of_waiting hnext⟩
  | some next =>
    obtain ⟨sc, hsc, hp⟩ := Option.bind_eq_some_iff.mp hnext
    exact .inr ⟨sc, next, hsc, hp, step_of_proceeds hsc hp⟩

theorem step_proceed (w : World) (g : Nat) :
    w.step (.proceed g) = w ∨ ∃ sc next, w.scene? g = some sc ∧
      Scene.Proceeds w.session.timer sc next ∧ w.step (.proceed g) = w.put g next :=
  (w.proceed_cases g).imp_left And.right

theorem held_proceed (w : World) (g : Nat) :
    (w.step (.proceed g)).session.held = w.session.held := by
  rcases w.step_proceed g with hsame | ⟨sc, next, -, -, hput⟩
  · rw [hsame]
  · rw [hput]
    rfl

/-- A step of a reporter adds only entries of its own to the journal. -/
theorem journal_proceed (w : World) (g : Nat) :
    Journal.Extends (fun e => e.isOwn = true) w.session.env.journal
      (w.step (.proceed g)).session.env.journal := by
  rcases w.step_proceed g with hsame | ⟨sc, next, hsc, hp, hput⟩
  · rw [hsame]
    exact .refl _ _
  · obtain ⟨-, -, henv⟩ := scene?_eq_some hsc
    rw [hput, ← henv]
    exact hp.move.journal_extends.imp fun _ he => he.2

theorem scene_eq (h : w.scene? g = some sc) :
    (⟨sc.reporter, w.stage g, w.session.crew.env⟩ : Scene) = sc := by
  obtain ⟨-, hstage, henv⟩ := scene?_eq_some h
  rw [← hstage]
  exact congrArg _ henv.symm

/-- A step of a reporter leaves the histories of the others alone. -/
theorem InOrder.history_put (hw : InOrder w) (hsc : w.scene? g = some sc) {now : Nat}
    (hp : Scene.Proceeds now sc next) {q : Nat} (hq : q ≠ g) :
    (w.put g next).history q = w.history q := by
  obtain ⟨hg, -, henv⟩ := scene?_eq_some hsc
  have hnumber := hw.session.registered.numbered g _ hg
  unfold history
  rw [← henv]
  refine hp.move.journal_extends.of_eq fun e he h => hq ?_
  rw [← hnumber]
  exact Option.some.inj (h.symm.trans he.1)

/-- The other reporters see nothing of a step that a reporter takes. -/
theorem elsewhere_of_put (hw : InOrder w) (hsc : w.scene? g = some sc) {now : Nat}
    (hp : Scene.Proceeds now sc next) {q : Nat} {r : Reporter} (hq : q ≠ g)
    (hr : w.session.reporters[q]? = some r) :
    (w.put g next).scene? q = some ⟨r, w.stage q, next.env⟩ ∧
      Scene.Step ⟨r, w.stage q, w.session.env⟩ ⟨r, w.stage q, next.env⟩ := by
  obtain ⟨-, -, henv⟩ := scene?_eq_some hsc
  have hother := hw.session.registered.numbered q r hr
  refine ⟨?_, .elsewhere ?_ ?_⟩
  · simp [scene?, put, hr, hq, Ne.symm hq]
  · rw [← henv]
    exact hp.move.cancelled_subset
  · rw [hother]
    exact hw.history_put hsc hp hq

/-- A step of a reporter keeps the world in order. -/
theorem InOrder.put (hw : InOrder w) (hsc : w.scene? g = some sc) {now : Nat}
    (hp : Scene.Proceeds now sc next) : InOrder (w.put g next) := by
  obtain ⟨hg, hstage, henv⟩ := scene?_eq_some hsc
  obtain ⟨hlt, -⟩ := List.getElem?_eq_some_iff.mp hg
  have hlen : (w.put g next).session.reporters.length = w.session.reporters.length := by
    simp [World.put]
  have hnumber := hw.session.registered.numbered g _ hg
  have hself : ∀ r, (w.put g next).session.reporters[g]? = some r → r = next.reporter := by
    intro r hr
    simpa [World.put, hlt, eq_comm] using hr
  have hother : ∀ q r, q ≠ g → (w.put g next).session.reporters[q]? = some r →
      w.session.reporters[q]? = some r := by
    intro q r hq hr
    simpa [World.put, Ne.symm hq] using hr
  refine ⟨⟨⟨?_, ?_⟩, ?_, ?_⟩, ?_, ?_⟩
  · intro q r hr
    by_cases h : q = g
    · subst h
      rw [hself r hr, hp.move.number_eq, hnumber]
    · exact hw.session.registered.numbered q r (hother q r h hr)
  · intro q hq
    have hbefore := hw.session.registered.unborn q (hlen ▸ hq)
    have hne : q ≠ g := fun h => absurd hlt (Nat.not_lt.mpr (h ▸ hlen ▸ hq))
    exact (hw.history_put hsc hp hne).trans hbefore
  · intro place q p hmem
    exact hlen ▸ hw.session.waiting place q p hmem
  · intro q hq
    exact hlen ▸ hw.session.latest q hq
  · intro q r hr
    by_cases h : q = g
    · subst h
      rw [hself r hr]
      have hcourse := hw.coursed.course q _ hg
      rw [scene_eq hsc] at hcourse
      rw [scene_eq (scene?_put hsc next)]
      exact hcourse.tail (.single (.proceed hp))
    · have hbefore := hother q r h hr
      obtain ⟨-, hstep⟩ := elsewhere_of_put hw hsc hp h hbefore
      have hstage' : (w.put g next).stage q = w.stage q := by
        simp [World.put, h]
      rw [hstage']
      exact (hw.coursed.course q r hbefore).tail (.single hstep)
  · intro q hq
    have hne : q ≠ g := fun h => absurd hlt (Nat.not_lt.mpr (h ▸ hlen ▸ hq))
    have hstage' : (w.put g next).stage q = w.stage q := by
      simp [World.put, hne]
    exact hstage'.trans (hw.coursed.between q (hlen ▸ hq))

theorem InOrder.step (hw : InOrder w) (a : Action) : InOrder (w.step a) := by
  cases a with
  | call c =>
    have heffect := w.session.effect_apply c
    exact ⟨heffect.inOrder hw.session,
      Crew.coursed_of_deeds (heffect.deeds hw.session) hw.session.registered hw.coursed⟩
  | proceed g =>
    rcases w.step_proceed g with hsame | ⟨sc, next, hsc, hp, hput⟩
    · rw [hsame]
      exact hw
    · rw [hput]
      exact hw.put hsc hp

theorem Reachable.inOrder (h : Reachable w) : InOrder w :=
  h.induction (fun _ => Initial.inOrder) fun _ a hw => hw.step a

theorem Reachable.course (h : Reachable w) (hsc : w.scene? g = some sc) : Scene.Course sc := by
  obtain ⟨hr, -, -⟩ := scene?_eq_some hsc
  exact scene_eq hsc ▸ h.inOrder.coursed.course g _ hr

/-- The history of a reporter is what the journal of the session has on its number. -/
theorem InOrder.history_eq (hw : InOrder w) (hsc : w.scene? g = some sc) :
    sc.history = w.history g := by
  obtain ⟨hr, -, henv⟩ := scene?_eq_some hsc
  unfold Scene.history history
  rw [henv, hw.session.registered.numbered g _ hr]

/-- What happens around a reporter leaves its phase and its stage alone; else it takes a step of its
own. -/
theorem InOrder.scene_cases (hw : InOrder w) (a : Action) (hsc : w.scene? g = some sc) :
    ∃ next, (w.step a).scene? g = some next ∧
      ((next.reporter.phase = sc.reporter.phase ∧ next.stage = sc.stage ∧
          Relation.ReflTransGen Scene.Step sc next) ∨
        Scene.Proceeds w.session.timer sc next) := by
  obtain ⟨hr, hstage, henv⟩ := scene?_eq_some hsc
  cases a with
  | call c =>
    obtain ⟨r', hr', hphase, hsteps⟩ := Crew.follows_of_deeds
      ((w.session.effect_apply c).deeds hw.session) hw.session.registered hr
    have hfrom := hsteps (w.stage g)
    rw [scene_eq hsc] at hfrom
    exact ⟨_, scene?_of_reporter hr', .inl ⟨hphase, hstage.symm, hfrom⟩⟩
  | proceed q =>
    rcases w.step_proceed q with hsame | ⟨other, next, hother, hp, hput⟩
    · rw [hsame]
      exact ⟨sc, hsc, .inl ⟨rfl, rfl, .refl⟩⟩
    · rw [hput]
      by_cases hq : g = q
      · subst hq
        cases hsc.symm.trans hother
        exact ⟨next, scene?_put hsc next, .inr hp⟩
      · obtain ⟨hsame, hstep⟩ := elsewhere_of_put hw hother hp hq hr
        refine ⟨_, hsame, .inl ⟨rfl, hstage.symm, .single ?_⟩⟩
        rw [← hstage, ← henv] at hstep
        rwa [← hstage]

/-- Whatever happens, a reporter only sees steps of a course. -/
theorem InOrder.step_scene (hw : InOrder w) (a : Action) (hsc : w.scene? g = some sc) :
    ∃ next, (w.step a).scene? g = some next ∧ Relation.ReflTransGen Scene.Step sc next ∧
      Phase.Next sc.reporter.phase next.reporter.phase := by
  obtain ⟨next, hnext, ⟨hphase, -, hsteps⟩ | hp⟩ := hw.scene_cases a hsc
  · exact ⟨next, hnext, hsteps, hphase ▸ .refl _⟩
  · exact ⟨next, hnext, .single (.proceed hp), hp.move.phase_next⟩

theorem InOrder.run_scene (hw : InOrder w) (actions : List Action) (hsc : w.scene? g = some sc) :
    ∃ next, (w.run actions).scene? g = some next ∧ Relation.ReflTransGen Scene.Step sc next := by
  induction actions generalizing w sc with
  | nil => exact ⟨sc, hsc, .refl⟩
  | cons a rest ih =>
    obtain ⟨mid, hmid, hfirst, -⟩ := hw.step_scene a hsc
    obtain ⟨next, hnext, hrest⟩ := ih (hw.step a) hmid
    exact ⟨next, hnext, hfirst.trans hrest⟩

/-- In a run a reporter keeps the terms that it was started on. -/
theorem InOrder.terms_run (hw : InOrder w) {actions : List Action} {r r' : Reporter}
    (hr : w.session.reporters[g]? = some r)
    (hr' : (w.run actions).session.reporters[g]? = some r') : Scene.SameTerms r r' := by
  obtain ⟨next, hnext, hsteps⟩ := hw.run_scene actions (scene?_of_reporter hr)
  cases (scene?_eq_some hnext).1.symm.trans hr'
  exact Scene.terms_of_steps hsteps

/-! ### The journal -/

/-- A call adds no entries of the reporters' own to the journal. -/
theorem InOrder.journal_call (hw : InOrder w) (c : Call) :
    Journal.Extends (fun e => e.isOwn = false) w.session.env.journal
      (w.step (.call c)).session.env.journal :=
  Crew.journal_of_deeds ((w.session.effect_apply c).deeds hw.session)

theorem InOrder.journal_step (hw : InOrder w) (a : Action) :
    Journal.Extends (fun _ => True) w.session.env.journal (w.step a).session.env.journal := by
  cases a with
  | call c => exact (hw.journal_call c).imp fun _ _ => trivial
  | proceed q => exact (w.journal_proceed q).imp fun _ _ => trivial

/-- Entries are only added to the journal. -/
theorem InOrder.journal_run (hw : InOrder w) (actions : List Action) :
    Journal.Extends (fun _ => True) w.session.env.journal (w.run actions).session.env.journal := by
  induction actions generalizing w with
  | nil => exact .refl _ _
  | cons a rest ih => exact (hw.journal_step a).trans (ih (hw.step a))

end World

end MediaMux
