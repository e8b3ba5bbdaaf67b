import Mathlib.Logic.Relation
import MediaMux.Feedback.Reporter.Loop

/-!
# A round of a reporter, step by step

A round of the loop is not one step for those who share the session with the reporter: packets are
written, notifiers resolved and tokens cancelled while the reporter is about to ask its meter, has
its answer, or holds a report. `proceed?` does one such step at a time. Undisturbed steps make up
the rounds of `turn?` and the run of `settle` (`proceeds_of_turn?`, `proceeds_settle`).
-/

namespace MediaMux.Feedback

/-- How far a reporter is in a round of its loop. -/
inductive Stage
  | between
  | reporting
  /-- It has the answer of its meter. -/
  | measured (measurement : Measurement)
  /-- It has put a report together. -/
  | assembled (report : Report)

structure Scene where
  reporter : Reporter
  stage : Stage := .between
  env : Environment

namespace Scene

/-- Takes the first outcome of the queue in. A batch that it completes is to be reported. -/
def takeFirst (r : Reporter) (env : Environment) (outcome : Outcome) (rest : List Outcome) :
    Scene :=
  let next := { r with queue := rest }.takeIn env outcome
  { reporter := next.1
    stage := if next.1.options.batch ≤ next.1.backlog.waiting then .reporting else .between
    env := next.2 }

/-- Begins a round at the time `now`; none if the reporter waits or has stopped. -/
def begin? (now : Nat) (r : Reporter) (env : Environment) : Option Scene :=
  match r.phase with
  | .stopped => none
  | .idle =>
    some { reporter := { r with phase := .running (now + r.options.interval) }, env := env }
  | .running due =>
    if r.toldToStop env || r.overruns due now then
      some { reporter := (r.close env).1, env := (r.close env).2 }
    else if due ≤ now then
      let tick := Reporter.tickAfter r.options.interval due now
      some { reporter := { r with phase := .running tick }, stage := .reporting, env := env }
    else
      match r.queue with
      | [] => none
      | outcome :: rest => some (takeFirst r env outcome rest)

/-- Asks the meter, if there is something to report. -/
def ask (r : Reporter) (env : Environment) : Scene :=
  if r.backlog.isEmpty then { reporter := r, env := env }
  else
    match r.measure env with
    | (none, env) => { reporter := r.requestStop, env := env }
    | (some measurement, env) => { reporter := r, stage := .measured measurement, env := env }

/-- Empties the backlog into a report. -/
def assemble (r : Reporter) (env : Environment) (measurement : Measurement) : Scene :=
  match r.backlog.drain r.sender env.now.1
      (measurement.roundTrip.or r.estimate.smoothedTime?) with
  | (backlog, none) => { reporter := { r with backlog := backlog }, env := env.now.2 }
  | (backlog, some report) =>
    { reporter := { r with backlog := backlog }, stage := .assembled report, env := env.now.2 }

/-- One step of the reporter at the time `now`; none if it waits or has stopped. -/
def proceed? (now : Nat) : Scene → Option Scene
  | ⟨r, .between, env⟩ => begin? now r env
  | ⟨r, .reporting, env⟩ => some (ask r env)
  | ⟨r, .measured measurement, env⟩ => some (assemble r env measurement)
  | ⟨r, .assembled report, env⟩ => some { reporter := r, env := r.handOver env report }

def Proceeds (now : Nat) (sc next : Scene) : Prop := sc.proceed? now = some next

/-! ### Undisturbed rounds -/

theorem makeReport_phase (r : Reporter) (p : Phase) (env : Environment) :
    { r with phase := p }.makeReport env =
      ({ (r.makeReport env).1 with phase := p }, (r.makeReport env).2) := by
  unfold Reporter.makeReport
  split
  · rfl
  · cases hm : r.measure env with
    | mk answer env' =>
      have hm' : { r with phase := p }.measure env = (answer, env') := hm
      rw [hm']
      cases answer with
      | none => rfl
      | some measurement =>
        dsimp only
        cases r.backlog.drain r.sender env'.now.1
            (measurement.roundTrip.or r.estimate.smoothedTime?) with
        | mk backlog report => cases report <;> rfl

theorem proceeds_makeReport (now : Nat) (r : Reporter) (env : Environment) :
    Relation.ReflTransGen (Proceeds now) ⟨r, .reporting, env⟩
      ⟨(r.makeReport env).1, .between, (r.makeReport env).2⟩ := by
  have hask : Proceeds now ⟨r, .reporting, env⟩ (ask r env) := rfl
  refine Relation.ReflTransGen.head hask ?_
  unfold ask Reporter.makeReport
  split
  · exact Relation.ReflTransGen.refl
  · cases r.measure env with
    | mk answer env' =>
      cases answer with
      | none => exact Relation.ReflTransGen.refl
      | some measurement =>
        have hassemble : Proceeds now ⟨r, .measured measurement, env'⟩
            (assemble r env' measurement) := rfl
        refine Relation.ReflTransGen.head hassemble ?_
        unfold assemble
        dsimp only
        cases r.backlog.drain r.sender env'.now.1
            (measurement.roundTrip.or r.estimate.smoothedTime?) with
        | mk backlog report =>
          cases report with
          | none => exact Relation.ReflTransGen.refl
          | some report => exact Relation.ReflTransGen.single rfl

/-- Undisturbed, the steps of a reporter make up the rounds of its loop. -/
theorem proceeds_of_turn? {now : Nat} {r : Reporter} {env : Environment}
    {next : Reporter × Environment} (h : r.turn? now env = some next) :
    Relation.ReflTransGen (Proceeds now) ⟨r, .between, env⟩ ⟨next.1, .between, next.2⟩ := by
  have hbegin : ∀ sc, begin? now r env = some sc →
      Relation.ReflTransGen (Proceeds now) sc ⟨next.1, .between, next.2⟩ →
      Relation.ReflTransGen (Proceeds now) ⟨r, .between, env⟩ ⟨next.1, .between, next.2⟩ :=
    fun sc hsc hrest => Relation.ReflTransGen.head hsc hrest
  unfold Reporter.turn? at h
  unfold begin? at hbegin
  cases hp : r.phase with
  | stopped => simp [hp] at h
  | idle =>
    simp only [hp, Option.some.injEq] at h hbegin
    subst h
    exact hbegin _ rfl Relation.ReflTransGen.refl
  | running due =>
    simp only [hp] at h hbegin
    split at h
    · next hstop =>
      simp only [hstop, if_true, Option.some.injEq] at h hbegin
      subst h
      exact hbegin _ rfl Relation.ReflTransGen.refl
    · next hstop =>
      simp only [hstop, Bool.false_eq_true, if_false] at hbegin
      split at h
      · next hdue =>
        simp only [hdue, if_true, Option.some.injEq] at h hbegin
        subst h
        refine hbegin _ rfl ?_
        have hreport := proceeds_makeReport now
          { r with phase := .running (Reporter.tickAfter r.options.interval due now) } env
        rw [makeReport_phase] at hreport
        exact hreport
      · next hdue =>
        simp only [hdue, if_false] at hbegin
        cases hq : r.queue with
        | nil => simp [hq] at h
        | cons outcome rest =>
          simp only [hq, Option.some.injEq] at h hbegin
          subst h
          refine hbegin _ rfl ?_
          unfold takeFirst Reporter.takeNext Reporter.reportBatch
          dsimp only
          split
          · exact proceeds_makeReport now _ _
          · exact Relation.ReflTransGen.refl

theorem proceeds_settle (now : Nat) (r : Reporter) (env : Environment) :
    Relation.ReflTransGen (Proceeds now) ⟨r, .between, env⟩
      ⟨(r.settle now env).1, .between, (r.settle now env).2⟩ := by
  fun_induction Reporter.settle now r env with
  | case1 r env h => exact Relation.ReflTransGen.refl
  | case2 r env next h ih => exact (proceeds_of_turn? h).trans ih

end Scene

end MediaMux.Feedback
