import MediaMux.Feedback.Reporter

/-!
# The loop of a reporter

`turn?` is one round of the loop: stop if told to or if there is no next tick to wait for, else
report if a tick is due, else take one outcome in. `settle` goes round until nothing is left to do
at the present time. It ends because every round takes an outcome, moves the next tick on or stops
the reporter: `work` gets smaller.
-/

namespace MediaMux.Feedback.Reporter

/-- A report concerns the backlog, and may bring a request to stop. -/
theorem exists_makeReport (r : Reporter) (env : Environment) :
    ∃ backlog stop, (r.makeReport env).1 =
      { r with backlog := backlog, stopRequested := stop } := by
  unfold makeReport
  split
  · exact ⟨r.backlog, r.stopRequested, rfl⟩
  · split
    · exact ⟨r.backlog, true, rfl⟩
    · dsimp only
      split <;> exact ⟨_, r.stopRequested, rfl⟩

@[simp] theorem phase_makeReport (r : Reporter) (env : Environment) :
    (r.makeReport env).1.phase = r.phase := by
  obtain ⟨backlog, stop, hreport⟩ := r.exists_makeReport env
  rw [hreport]

@[simp] theorem queue_makeReport (r : Reporter) (env : Environment) :
    (r.makeReport env).1.queue = r.queue := by
  obtain ⟨backlog, stop, hreport⟩ := r.exists_makeReport env
  rw [hreport]

@[simp] theorem phase_takeIn (r : Reporter) (env : Environment) (e : Outcome) :
    (r.takeIn env e).1.phase = r.phase := by
  cases e <;> rfl

@[simp] theorem queue_takeIn (r : Reporter) (env : Environment) (e : Outcome) :
    (r.takeIn env e).1.queue = r.queue := by
  cases e <;> rfl

@[simp] theorem phase_reportBatch (r : Reporter) (env : Environment) :
    (r.reportBatch env).1.phase = r.phase := by
  unfold reportBatch
  split <;> simp

@[simp] theorem queue_reportBatch (r : Reporter) (env : Environment) :
    (r.reportBatch env).1.queue = r.queue := by
  unfold reportBatch
  split <;> simp

/-- Reports at the tick that is due, and sets the next one. -/
def tick (r : Reporter) (env : Environment) (due now : Nat) : Reporter × Environment :=
  let next := r.makeReport env
  ({ next.1 with phase := .running (tickAfter r.options.interval due now) }, next.2)

/-- Takes the first outcome of the queue in, `rest` being the others, and reports a full batch. -/
def takeNext (r : Reporter) (env : Environment) (outcome : Outcome)
    (rest : List Outcome) : Reporter × Environment :=
  let next := { r with queue := rest }.takeIn env outcome
  next.1.reportBatch next.2

@[simp] theorem phase_tick (r : Reporter) (env : Environment) (due now : Nat) :
    (r.tick env due now).1.phase = .running (tickAfter r.options.interval due now) := rfl

@[simp] theorem queue_tick (r : Reporter) (env : Environment) (due now : Nat) :
    (r.tick env due now).1.queue = r.queue := queue_makeReport r env

@[simp] theorem phase_takeNext (r : Reporter) (env : Environment) (outcome : Outcome)
    (rest : List Outcome) : (r.takeNext env outcome rest).1.phase = r.phase := by
  simp [takeNext]

@[simp] theorem queue_takeNext (r : Reporter) (env : Environment) (outcome : Outcome)
    (rest : List Outcome) : (r.takeNext env outcome rest).1.queue = rest := by
  simp [takeNext]

/-- One round of the loop at the time `now`; none if the reporter waits or has stopped. -/
def turn? (now : Nat) (r : Reporter) (env : Environment) : Option (Reporter × Environment) :=
  match r.phase with
  | .stopped => none
  | .idle => some ({ r with phase := .running (now + r.options.interval) }, env)
  | .running due =>
    if r.toldToStop env || r.overruns due now then some (r.close env)
    else if due ≤ now then some (r.tick env due now)
    else
      match r.queue with
      | [] => none
      | outcome :: rest => some (r.takeNext env outcome rest)

/-- What is left to do at the time `now`: rounds for the start, the stop, due ticks and outcomes. -/
def work (now : Nat) (r : Reporter) : Nat :=
  match r.phase with
  | .stopped => 0
  | .idle => r.queue.length + 2
  | .running due => r.queue.length + (now + 1 - due) + 1

theorem lt_tickAfter {interval due now : Nat} (h : 0 < interval) (hd : due ≤ now) :
    due < tickAfter interval due now := by
  unfold tickAfter
  split <;> omega

theorem work_lt_of_turn? {now : Nat} {r : Reporter} {env : Environment}
    {next : Reporter × Environment} (h : r.turn? now env = some next) :
    next.1.work now < r.work now := by
  unfold turn? at h
  split at h
  · cases h
  · next hp =>
    cases h
    have := r.options.interval_pos
    simp only [work, hp]
    omega
  · next due hp =>
    split at h
    · cases h
      simp only [work, hp, close]
      omega
    · split at h
      · next hd =>
        cases h
        have := lt_tickAfter r.options.interval_pos hd
        simp only [work, hp, phase_tick, queue_tick]
        omega
      · split at h
        · cases h
        · next outcome rest hq =>
          cases h
          simp only [work, phase_takeNext, queue_takeNext, hp, hq, List.length_cons]
          omega

/-- Goes round until the reporter waits or has stopped. -/
def settle (now : Nat) (r : Reporter) (env : Environment) : Reporter × Environment :=
  match _h : r.turn? now env with
  | none => (r, env)
  | some next => settle now next.1 next.2
termination_by r.work now
decreasing_by exact work_lt_of_turn? _h

/-- The time of the next tick of a reporter that runs. -/
def nextTick? (r : Reporter) : Option Nat :=
  match r.phase with
  | .running due => some due
  | _ => none

end MediaMux.Feedback.Reporter
