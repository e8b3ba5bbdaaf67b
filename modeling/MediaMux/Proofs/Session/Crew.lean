import MediaMux.Proofs.Feedback.Lifecycle
import MediaMux.Proofs.Session.Slots

/-!
# The crew of a session

The crew is the reporters of a session with what they share. Calls change it by few deeds
(`Effect.deeds`), none of which is more to a reporter than a disturbance (`Deed.follows`).
-/

namespace MediaMux

open Feedback

namespace Feedback.Reporter

theorem enqueue_env (r : Reporter) (env : Environment) (outcome : Outcome) :
    (r.enqueue env outcome).2 = env.log (.resolved r.number outcome r.isStopped) := by
  unfold enqueue
  cases r.isStopped <;> rfl

@[simp] theorem number_enqueue (r : Reporter) (env : Environment) (outcome : Outcome) :
    (r.enqueue env outcome).1.number = r.number := by
  unfold enqueue
  split <;> rfl

end Feedback.Reporter

/-- The reporters of a session, and what they share. -/
structure Crew where
  reporters : List Reporter
  env : Environment

namespace Crew

/-- Something that a call does to a crew. -/
inductive Deed : Crew → Crew → Prop
  | elsewhere {rs : List Reporter} {env env' : Environment}
      (hcancelled : env.cancelled ⊆ env'.cancelled)
      (hjournal : Journal.Extends (fun e => e.reporter? = none) env.journal env'.journal) :
      Deed ⟨rs, env⟩ ⟨rs, env'⟩
  | track {rs : List Reporter} {env : Environment} {g : Nat} (hg : g < rs.length)
      (p : SentPacket) : Deed ⟨rs, env⟩ ⟨rs, env.log (.tracked g p)⟩
  | receive {rs : List Reporter} {env : Environment} {g : Nat} {r : Reporter}
      (hr : rs[g]? = some r) (outcome : Outcome) :
      Deed ⟨rs, env⟩ ⟨rs.set g (r.enqueue env outcome).1, (r.enqueue env outcome).2⟩
  | stop (rs : List Reporter) (env : Environment) (g : Nat) :
      Deed ⟨rs, env⟩ ⟨rs.modify g (·.requestStop), env⟩
  | add (rs : List Reporter) (env : Environment) (sender : Ssrc) (options : Options)
      (meter : MeterKind) (sink : Nat) (parent : Option Token) (horizon : Nat) :
      Deed ⟨rs, env⟩ ⟨rs ++ [Reporter.new rs.length sender options meter sink parent horizon], env⟩

/-- Reporters go by their places, and the journal knows of no others. -/
structure Registered (c : Crew) : Prop where
  numbered : ∀ g (r : Reporter), c.reporters[g]? = some r → r.number = g
  unborn : ∀ g, c.reporters.length ≤ g → c.env.journal.of g = []

variable {c c' : Crew}

theorem Deed.length_le (h : Deed c c') : c.reporters.length ≤ c'.reporters.length := by
  cases h <;> simp

theorem Deed.registered (h : Deed c c') (hc : Registered c) : Registered c' := by
  obtain ⟨hnumbered, hunborn⟩ := hc
  cases h with
  | elsewhere hcancelled hjournal =>
    exact ⟨hnumbered, fun g hg => (hjournal.of_eq_of_none g).trans (hunborn g hg)⟩
  | @track rs env g hg p =>
    refine ⟨hnumbered, ?_⟩
    intro q hq
    have hne : g ≠ q := fun h => absurd hg (Nat.not_lt.mpr (h ▸ hq))
    simpa [hne] using hunborn q hq
  | @receive rs env g r hr outcome =>
    have hnumber := hnumbered g r hr
    obtain ⟨hlt, -⟩ := List.getElem?_eq_some_iff.mp hr
    refine ⟨?_, ?_⟩
    · intro q r' hr'
      rw [List.getElem?_set] at hr'
      split at hr'
      · next hq =>
        simp only [Option.some.injEq] at hr'
        rw [← hr', Reporter.number_enqueue, hnumber, hq]
      · exact hnumbered q r' hr'
    · intro q hq
      rw [List.length_set] at hq
      have hne : r.number ≠ q := by
        rw [hnumber]
        exact fun h => absurd hlt (Nat.not_lt.mpr (h ▸ hq))
      simpa [Reporter.enqueue_env, hne] using hunborn q hq
  | stop rs env g =>
    refine ⟨?_, fun q hq => hunborn q (by simpa using hq)⟩
    intro q r' hr'
    rw [List.getElem?_modify] at hr'
    obtain ⟨r, hr, rfl⟩ := Option.map_eq_some_iff.mp hr'
    split <;> exact hnumbered q r hr
  | add rs env sender options meter sink parent horizon =>
    refine ⟨?_, fun q hq => hunborn q ?_⟩
    · intro q r' hr'
      rw [List.getElem?_append] at hr'
      split at hr'
      · exact hnumbered q r' hr'
      · next hle =>
        have hzero : q - rs.length = 0 := by
          by_contra hpos
          rw [List.getElem?_singleton, if_neg hpos] at hr'
          cases hr'
        rw [hzero] at hr'
        cases hr'
        exact Nat.le_antisymm (Nat.not_lt.mp hle) (Nat.sub_eq_zero_iff_le.mp hzero)
    · simp only [List.length_append] at hq
      exact Nat.le_of_add_right_le hq

theorem Deed.journal_extends (h : Deed c c') :
    Journal.Extends (fun e => e.isOwn = false) c.env.journal c'.env.journal := by
  have hsame := Journal.Extends.refl (fun e => e.isOwn = false) c.env.journal
  cases h with
  | elsewhere hcancelled hjournal =>
    exact hjournal.imp fun _ he => JournalEntry.isOwn_of_reporter? he
  | track => exact hsame.log rfl
  | receive hr outcome =>
    rw [Reporter.enqueue_env]
    exact hsame.log rfl
  | stop | add => exact hsame

/-- To a reporter, a deed is a disturbance. -/
theorem Deed.follows (h : Deed c c') (hc : Registered c) {g : Nat} {r : Reporter}
    (hr : c.reporters[g]? = some r) :
    ∃ r', c'.reporters[g]? = some r' ∧ r'.phase = r.phase ∧
      ∀ st, Scene.Step ⟨r, st, c.env⟩ ⟨r', st, c'.env⟩ := by
  have hnumber := hc.numbered g r hr
  cases h with
  | elsewhere hcancelled hjournal =>
    exact ⟨r, hr, rfl, fun st => .elsewhere hcancelled (hjournal.of_eq_of_none r.number)⟩
  | @track rs env q hq p =>
    refine ⟨r, hr, rfl, ?_⟩
    intro st
    by_cases h : q = r.number
    · subst h
      exact .track r st env p
    · exact .elsewhere (List.Subset.refl _) (by simp [h])
  | @receive rs env q other hother outcome =>
    by_cases h : q = g
    · subst h
      cases hr.symm.trans hother
      obtain ⟨hlt, -⟩ := List.getElem?_eq_some_iff.mp hr
      exact ⟨_, by simp [hlt], Scene.phase_enqueue r env outcome,
        fun st => .receive r st env outcome⟩
    · refine ⟨r, by simpa [h] using hr, rfl, ?_⟩
      intro st
      have hne : other.number ≠ r.number := by
        rw [hc.numbered q other hother, hnumber]
        exact h
      rw [Reporter.enqueue_env]
      exact .elsewhere (List.Subset.refl _) (by simp [hne])
  | stop rs env q =>
    by_cases h : q = g
    · exact ⟨r.requestStop, by simp [h, hr], rfl, fun st => .stop r st env⟩
    · exact ⟨r, by simpa [h] using hr, rfl,
        fun st => .elsewhere (List.Subset.refl _) rfl⟩
  | add rs env sender options meter sink parent horizon =>
    obtain ⟨hlt, -⟩ := List.getElem?_eq_some_iff.mp hr
    refine ⟨r, ?_, rfl, fun st => .elsewhere (List.Subset.refl _) rfl⟩
    rw [List.getElem?_append_left hlt]
    exact hr

/-- A reporter that a deed adds is new. -/
theorem Deed.born (h : Deed c c') (hc : Registered c) {g : Nat} {r : Reporter}
    (hr : c'.reporters[g]? = some r) (hg : c.reporters.length ≤ g) :
    Scene.Fresh ⟨r, .between, c'.env⟩ := by
  have hnone : ∀ rs : List Reporter, rs.length ≤ g → rs[g]? ≠ some r := by
    intro rs hle
    rw [List.getElem?_eq_none hle]
    exact (Option.some_ne_none r).symm
  cases h with
  | elsewhere | track => exact absurd hr (hnone _ hg)
  | receive => exact absurd hr (hnone _ (by simpa using hg))
  | stop => exact absurd hr (hnone _ (by simpa using hg))
  | add rs env sender options meter sink parent horizon =>
    rw [List.getElem?_append_right hg, List.getElem?_singleton] at hr
    split at hr
    · next hzero =>
      cases hr
      exact ⟨rfl, rfl, rfl, rfl, rfl, hc.unborn rs.length (Nat.le_refl _)⟩
    · cases hr

end Crew

namespace Session

variable {s s' : Session}

/-- The crew of a session. -/
def crew (s : Session) : Crew := ⟨s.reporters, s.env⟩

/-- Reporters go by their places, and nothing goes by that of a reporter that is not there. -/
structure InOrder (s : Session) : Prop where
  registered : s.crew.Registered
  waiting : ∀ place g p, some (.tracked g p) ∈ s.slots place → g < s.reporters.length
  latest : ∀ g, s.latest? = some g → g < s.reporters.length

/-- What a reporter is told of a packet, and the environment when it is. -/
def told (s : Session) (p : SentPacket) : Delivery → Outcome × Environment
  | .acked => (.acked ⟨p, s.env.now.1⟩, s.env.now.2)
  | .lost => (.lost p.ssrc p.sequenceNumber, s.env)

@[simp] theorem journal_told (s : Session) (p : SentPacket) (d : Delivery) :
    (s.told p d).2.journal = s.env.journal := by
  cases d <;> rfl

@[simp] theorem cancelled_told (s : Session) (p : SentPacket) (d : Delivery) :
    (s.told p d).2.cancelled = s.env.cancelled := by
  cases d <;> rfl

theorem inform_tracked {g : Nat} {r : Reporter} (h : s.reporters[g]? = some r) (p : SentPacket)
    (d : Delivery) :
    s.inform (.tracked g p) d =
      { s with
        reporters := s.reporters.set g (r.enqueue (s.told p d).2 (s.told p d).1).1
        env := (r.enqueue (s.told p d).2 (s.told p d).1).2 } := by
  cases d <;> simp [inform, Session.enqueue, h, told]

/-- What telling a reporter adds to the journal. -/
theorem journal_inform {g : Nat} {p : SentPacket} (hs : s.crew.Registered)
    (hg : g < s.reporters.length) (d : Delivery) : ∃ late, (s.inform (.tracked g p) d).env.journal =
      .resolved g (s.told p d).1 late :: s.env.journal := by
  have hr := List.getElem?_eq_getElem hg
  refine ⟨(s.reporters[g]).isStopped, ?_⟩
  rw [inform_tracked hr, Reporter.enqueue_env, hs.numbered g _ hr]
  simp

theorem tracker?_eq_some {g : Nat} (h : s.tracker? = some g) :
    s.latest? = some g ∧ ∃ r, s.reporters[g]? = some r ∧ r.toldToStop s.env = false := by
  unfold tracker? at h
  simp only [Option.bind_eq_bind, Option.bind_eq_some_iff] at h
  obtain ⟨rtp, hrtp, handle, hhandle, r, hr, hopen⟩ := h
  cases ht : r.toldToStop s.env with
  | true => simp [ht] at hopen
  | false =>
    simp only [ht, Bool.false_eq_true, if_false, Option.some.injEq] at hopen
    subst hopen
    exact ⟨by simp [latest?, feedback?, hrtp, hhandle], r, hr, ht⟩

theorem tracker?_of_latest {g : Nat} {r : Reporter} (hlatest : s.latest? = some g)
    (hr : s.reporters[g]? = some r) :
    s.tracker? = if r.toldToStop s.env then none else some g := by
  unfold latest? feedback? at hlatest
  obtain ⟨handle, hhandle, rfl⟩ := Option.map_eq_some_iff.mp hlatest
  obtain ⟨rtp, hrtp, hfeedback⟩ := Option.bind_eq_some_iff.mp hhandle
  simp [tracker?, hrtp, hfeedback, hr]

theorem InOrder.lt_of_tracker? {g : Nat} (hs : InOrder s) (h : s.tracker? = some g) :
    g < s.reporters.length :=
  hs.latest g (tracker?_eq_some h).1

theorem InOrder.lt_of_waiting? {place i g : Nat} {p : SentPacket} (hs : InOrder s)
    (h : s.waiting? place i = some (.tracked g p)) : g < s.reporters.length := by
  rw [waiting?_eq] at h
  exact hs.waiting place g p (List.mem_of_getElem? (Option.join_eq_some_iff.mp h))

/-! ### Deeds -/

theorem Quiet.deed (h : Quiet s s') : Crew.Deed s.crew s'.crew := by
  unfold crew
  rw [h.reporters]
  exact .elsewhere h.cancelled h.journal

theorem deeds_inform {w : Watcher} (hw : ∀ g p, w = .tracked g p → g < s.reporters.length)
    (d : Delivery) : Relation.ReflTransGen Crew.Deed s.crew (s.inform w d).crew := by
  cases w with
  | noted tag => exact .refl
  | tracked g p =>
    have hr := List.getElem?_eq_getElem (hw g p rfl)
    have hread : Crew.Deed s.crew ⟨s.reporters, (s.told p d).2⟩ :=
      .elsewhere (by simp [List.Subset.refl]) (by rw [journal_told]; exact .refl _ _)
    rw [inform_tracked hr]
    exact .tail (.single hread) (.receive hr _)

theorem deeds_handOver {g : Nat} (hg : g < s.reporters.length) (p : SentPacket) :
    Relation.ReflTransGen Crew.Deed s.crew (s.handOver g p).crew := by
  have hread : Crew.Deed s.crew ⟨s.reporters, s.env.now.2⟩ :=
    .elsewhere (List.Subset.refl _) (.refl _ _)
  exact .tail (.single hread) (.track hg p)

theorem stopFeedback_cases (s : Session) :
    s.stopFeedback = s ∨
      ∃ g, s.stopFeedback = { s with reporters := s.reporters.modify g (·.requestStop) } := by
  unfold stopFeedback
  cases s.tracker? with
  | none => exact .inl rfl
  | some g => exact .inr ⟨g, rfl⟩

theorem deeds_startFeedback (s : Session) (sender : Ssrc) (options : Options) (meter : MeterKind)
    (sink : Nat) (parent : Option Token) :
    Relation.ReflTransGen Crew.Deed s.crew ⟨s.stopFeedback.reporters ++
      [Reporter.new s.reporters.length sender options meter sink parent s.horizon], s.env⟩ := by
  have hadd := fun rs => Crew.Deed.add rs s.env sender options meter sink parent s.horizon
  rcases s.stopFeedback_cases with hstop | ⟨g, hstop⟩
  · rw [hstop]
    exact .single (hadd s.reporters)
  · rw [hstop]
    have hlast := hadd (s.reporters.modify g (·.requestStop))
    rw [List.length_modify] at hlast
    exact .tail (.single (.stop s.reporters s.env g)) hlast

/-- What a call does to the crew is a list of deeds. -/
theorem Effect.deeds {c : Call} (h : Effect s c s') (hs : InOrder s) :
    Relation.ReflTransGen Crew.Deed s.crew s'.crew := by
  cases h with
  | quiet hw h => exact .single h.deed
  | note hplace h => exact .single h.deed
  | @track header payload g p place t _ hg hw ht h =>
    exact (deeds_handOver (hs.lt_of_tracker? hg) p).tail h.deed
  | @tell header payload g p d _ hg hw h =>
    have hlt := hs.lt_of_tracker? hg
    have htold : Relation.ReflTransGen Crew.Deed (s.handOver g p).crew
        ((s.handOver g p).inform (.tracked g p) d).crew :=
      deeds_inform (fun q p' h => by cases h; exact hlt) d
    exact ((deeds_handOver hlt p).trans htold).tail h.deed
  | @resolve place i d w hw =>
    exact deeds_inform (s := s.modifyTransport place (·.release i))
      (fun g p h => hs.lt_of_waiting? (h ▸ hw)) d
  | @stop c g _ hw hg h => exact .tail (.single (.stop s.reporters s.env g)) h.deed
  | @start sender request meter sink parent options _ hheld hreporters henv =>
    unfold crew
    rw [hreporters, henv]
    exact deeds_startFeedback s sender options meter sink parent

/-! ### Order -/

theorem length_le_of_deeds {c c' : Crew} (h : Relation.ReflTransGen Crew.Deed c c') :
    c.reporters.length ≤ c'.reporters.length := by
  induction h with
  | refl => exact Nat.le_refl _
  | tail _ hlast ih => exact Nat.le_trans ih hlast.length_le

theorem registered_of_deeds {c c' : Crew} (h : Relation.ReflTransGen Crew.Deed c c')
    (hc : c.Registered) : c'.Registered := by
  induction h with
  | refl => exact hc
  | tail _ hlast ih => exact hlast.registered ih

theorem latest?_inform (s : Session) (w : Watcher) (d : Delivery) :
    (s.inform w d).latest? = s.latest? := by
  simp [latest?, feedback?]

/-- A call leaves the handle where it is, or adds the reporter that it leads to. -/
theorem Effect.latest {c : Call} (h : Effect s c s') {g : Nat} (hg : s'.latest? = some g) :
    s.latest? = some g ∨ g < s'.reporters.length := by
  cases h with
  | quiet hw h => exact .inl (h.latest g hg)
  | note hplace h => exact .inl (h.latest g hg)
  | track hq hw ht h => exact .inl (h.latest g hg)
  | @tell header payload q p d _ hq hw h =>
    have hsame := latest?_inform (s.handOver q p) (.tracked q p) d
    exact .inl (hsame.symm.trans (h.latest g hg))
  | resolve hw =>
    rw [latest?_inform] at hg
    exact .inl hg
  | stop hw hq h => exact .inl (h.latest g hg)
  | start hheld hreporters henv hlatest =>
    cases hlatest.symm.trans hg
    refine .inr ?_
    rw [hreporters, List.length_append]
    rcases s.stopFeedback_cases with hstop | ⟨q, hstop⟩ <;> simp [hstop]

/-- A call keeps a session in order. -/
theorem Effect.inOrder {c : Call} (h : Effect s c s') (hs : InOrder s) : InOrder s' := by
  have hdeeds := h.deeds hs
  have hle : s.reporters.length ≤ s'.reporters.length := length_le_of_deeds hdeeds
  refine ⟨registered_of_deeds hdeeds hs.registered, ?_, ?_⟩
  · intro place g p hmem
    refine Nat.lt_of_lt_of_le ?_ hle
    have hslots := h.slots place
    generalize s'.slots place = slots at hslots hmem
    cases hslots with
    | same => exact hs.waiting place g p hmem
    | note =>
      rcases List.mem_append.mp hmem with hmem | hmem
      · exact hs.waiting place g p hmem
      · simp at hmem
    | track hw =>
      obtain ⟨-, -, -, -, -, hg, -⟩ := trackedWrite?_eq_some hw
      rcases List.mem_append.mp hmem with hmem | hmem
      · exact hs.waiting place g p hmem
      · simp only [List.mem_singleton, Option.some.injEq, Watcher.tracked.injEq] at hmem
        exact hmem.1 ▸ hs.lt_of_tracker? hg
    | release hc hw =>
      rcases List.mem_or_eq_of_mem_set hmem with hmem | hmem
      · exact hs.waiting place g p hmem
      · cases hmem
  · intro g hg
    rcases h.latest hg with hbefore | hafter
    · exact Nat.lt_of_lt_of_le (hs.latest g hbefore) hle
    · exact hafter

end Session

end MediaMux
