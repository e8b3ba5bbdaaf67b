import Mathlib.Data.Nat.Find
import MediaMux.Proofs.Session.Replacement
import MediaMux.Proofs.Session.Undisturbed

/-!
# Waiting for a reporter

A handle can be waited on once, and a call that is given up has used it up. So a call returns before
its reporter has stopped just in case another one on the same reporter was given up before it
(`World.join_returns_early_iff`).
-/

namespace MediaMux

open Feedback Journal

namespace Session

variable {s : Session} {handle : FeedbackHandle} {ms : Nat}

theorem latest?_of_feedback? (h : s.feedback? = some handle) :
    s.latest? = some handle.reporter := by
  rw [latest?, h, Option.map_some]

/-- Where the handle is from that is there after a call. -/
theorem handle_of_apply {c : Call} (h : (s.apply c).feedback? = some handle) :
    (c ≠ .claimHandle ∧ s.feedback? = some handle) ∨
    (c ≠ .claimHandle ∧ handle = { reporter := s.reporters.length }) ∨
    (c = .claimHandle ∧ s.latest? = some handle.reporter ∧ handle.joinable = false) := by
  rw [feedback?_apply] at h
  cases c with
  | startFeedback sender request meter sink parent =>
    dsimp only at h
    split at h
    · obtain ⟨rtp, -, rfl⟩ := Option.map_eq_some_iff.mp h
      exact .inr (.inl ⟨nofun, rfl⟩)
    · exact .inl ⟨nofun, h⟩
  | claimHandle =>
    obtain ⟨former, hformer, rfl⟩ := Option.map_eq_some_iff.mp h
    have hlatest : s.latest? = some former.reporter := latest?_of_feedback? hformer
    exact .inr (.inr ⟨rfl, hlatest, rfl⟩)
  | dropRtp => cases h
  | _ => exact .inl ⟨nofun, h⟩

theorem join_of_waiting (hfeedback : s.feedback? = some handle)
    (hwaits : (handle.joinable && !s.hasStopped handle.reporter) = true)
    (hjoined : (s.join ms).2 = .joined) : (s.join ms).1.hasStopped handle.reporter = true := by
  simp only [join, hfeedback, hwaits, if_true] at hjoined ⊢
  split at hjoined
  · next hstopped => exact (Bool.and_eq_true_iff.mp hstopped).1
  · cases hjoined

end Session

namespace World

variable {w : World} {actions : List Action} {g i j k : Nat} {handle : FeedbackHandle}

/-! ### Reporters that have stopped -/

/-- The reporter `g` has stopped. Whatever happens, it stays so and hands nothing over any more. -/
structure Exited (w : World) (g : Nat) : Prop where
  stopped : ∀ more, ∃ r, (w.run more).session.reporters[g]? = some r ∧ r.phase = .stopped
  silent : ∀ more, gather JournalEntry.handedReport ((w.run more).history g) =
    gather JournalEntry.handedReport (w.history g)

theorem Exited.run (h : Exited w g) (more : List Action) : Exited (w.run more) g := by
  refine ⟨fun later => ?_, fun later => ?_⟩
  · rw [← run_append]
    exact h.stopped _
  · rw [← run_append, h.silent, h.silent]

theorem Exited.hasStopped (h : Exited w g) : w.session.hasStopped g = true := by
  obtain ⟨r, hr, hphase⟩ := h.stopped []
  have hr' : w.session.reporters[g]? = some r := hr
  simp [Session.hasStopped, hr', Reporter.isStopped, hphase]

theorem InOrder.stopped_run (hw : InOrder w) {sc : Scene} (hsc : w.scene? g = some sc)
    (hstopped : sc.reporter.phase = .stopped) (more : List Action) :
    ∃ r, (w.run more).session.reporters[g]? = some r ∧ r.phase = .stopped := by
  induction more generalizing w sc with
  | nil => exact ⟨sc.reporter, (scene?_eq_some hsc).1, hstopped⟩
  | cons a rest ih =>
    obtain ⟨next, hnext, -, hphase⟩ := hw.step_scene a hsc
    exact ih (hw.step a) hnext (hphase.eq_stopped hstopped)

theorem InOrder.lt_run (hw : InOrder w) (hg : g < w.session.reporters.length)
    (more : List Action) : g < (w.run more).session.reporters.length := by
  obtain ⟨next, hnext, -⟩ := hw.run_scene more (scene?_of_reporter (List.getElem?_eq_getElem hg))
  exact (List.getElem?_eq_some_iff.mp (scene?_eq_some hnext).1).1

theorem Reachable.exited (hw : Reachable w) (hg : g < w.session.reporters.length)
    (hstopped : w.session.hasStopped g = true) : Exited w g := by
  have hr := List.getElem?_eq_getElem hg
  have hsc := scene?_of_reporter hr
  have hphase : (w.session.reporters[g]).phase = .stopped := by
    simpa [Session.hasStopped, hr, Reporter.isStopped] using hstopped
  exact ⟨hw.inOrder.stopped_run hsc hphase, handed_of_stopped hw hsc hphase⟩

theorem eq_of_between (h : ∀ q, w.stage q = .between) : w = { session := w.session } := by
  obtain ⟨session, stage⟩ := w
  obtain rfl : stage = fun _ => .between := funext h
  rfl

/-! ### Calls -/

/-- Step `i` of a run is a call that waits for the reporter `g`. -/
def JoinsAt (w : World) (actions : List Action) (i g : Nat) : Prop :=
  actions[i]? = some (.call .claimHandle) ∧ (w.before actions i).session.latest? = some g

/-- The call that is step `i` of a run has returned when step `k` comes, unless it was given up: it
waits if the handle can be waited on. -/
def ReturnedBy (w : World) (actions : List Action) (i k : Nat) : Prop :=
  i < k ∧ ∀ handle, (w.before actions i).session.feedback? = some handle →
    handle.joinable = true → (w.before actions k).session.hasStopped handle.reporter = true

/-- A call that waited for the reporter `g` has not returned when step `i` comes. As one call waits
at a time, it was given up if step `i` is another one. -/
def GivenUpBefore (w : World) (actions : List Action) (i g : Nat) : Prop :=
  ∃ j < i, JoinsAt w actions j g ∧ ¬ ReturnedBy w actions j i

theorem Initial.lt_of_latest (h : Initial w) (hg : (w.before actions j).session.latest? = some g)
    (hjk : j ≤ k) : g < (w.before actions k).session.reporters.length := by
  have hw : InOrder (w.before actions j) := (h.reachable.run _).inOrder
  obtain ⟨more, hmore⟩ := exists_run_before hjk w actions
  rw [hmore]
  exact hw.lt_run (hw.session.latest g hg) more

theorem Initial.exited_of_hasStopped (h : Initial w) (hjoin : JoinsAt w actions i g) (hik : i ≤ k)
    (hstopped : (w.before actions k).session.hasStopped g = true) :
    Exited (w.before actions k) g :=
  (h.reachable.run _).exited (h.lt_of_latest hjoin.2 hik) hstopped

theorem feedback?_proceed (w : World) (q : Nat) :
    (w.step (.proceed q)).session.feedback? = w.session.feedback? := by
  unfold Session.feedback?
  rw [(w.wire_proceed q).2]

/-- A handle can be waited on until it was. -/
theorem Initial.joinable_iff (h : Initial w)
    (hfeedback : (w.before actions i).session.feedback? = some handle) :
    handle.joinable = true ↔ ∀ j < i, ¬ JoinsAt w actions j handle.reporter := by
  induction i generalizing handle with
  | zero =>
    obtain ⟨-, -, -, hlatest⟩ := h.empty
    cases hlatest.symm.trans (Session.latest?_of_feedback? hfeedback)
  | succ i ih =>
    have hkept (hother : actions[i]? ≠ some (.call .claimHandle))
        (hbefore : (w.before actions i).session.feedback? = some handle) :
        handle.joinable = true ↔ ∀ j < i + 1, ¬ JoinsAt w actions j handle.reporter := by
      rw [ih hbefore, Nat.forall_lt_succ_right]
      exact (and_iff_left fun hjoin => hother hjoin.1).symm
    cases ha : actions[i]? with
    | none =>
      rw [before_succ_of_none ha] at hfeedback
      exact hkept (ha ▸ nofun) hfeedback
    | some a =>
      rw [before_succ ha] at hfeedback
      cases a with
      | proceed q =>
        rw [feedback?_proceed] at hfeedback
        exact hkept (ha ▸ nofun) hfeedback
      | call c =>
        rcases Session.handle_of_apply hfeedback with
          ⟨hc, hbefore⟩ | ⟨hc, rfl⟩ | ⟨rfl, hlatest, hused⟩
        · exact hkept (fun hclaim => hc (Action.call.inj (Option.some.inj (ha.symm.trans hclaim))))
            hbefore
        · -- nobody has waited for a reporter that is new
          refine iff_of_true rfl fun j hj hjoin => ?_
          exact absurd (h.lt_of_latest hjoin.2 (Nat.le_of_lt_succ hj)) (Nat.lt_irrefl _)
        · rw [hused]
          refine iff_of_false Bool.false_ne_true fun hnone => ?_
          exact hnone i (Nat.lt_succ_self i) ⟨ha, hlatest⟩

theorem JoinsAt.exists_handle (hjoin : JoinsAt w actions i g) :
    ∃ handle, (w.before actions i).session.feedback? = some handle ∧ handle.reporter = g :=
  Option.map_eq_some_iff.mp hjoin.2

theorem Initial.returnedBy_iff (h : Initial w) (hjoin : JoinsAt w actions i g) :
    ReturnedBy w actions i k ↔ i < k ∧ ((∃ j < i, JoinsAt w actions j g) ∨
      (w.before actions k).session.hasStopped g = true) := by
  obtain ⟨handle, hhandle, rfl⟩ := hjoin.exists_handle
  have hjoinable := h.joinable_iff hhandle
  refine and_congr_right fun _ => ⟨fun hwaits => ?_, ?_⟩
  · by_cases hearlier : ∃ j < i, JoinsAt w actions j handle.reporter
    · exact .inl hearlier
    · refine .inr (hwaits handle hhandle (hjoinable.mpr fun j hj hjoin' => ?_))
      exact hearlier ⟨j, hj, hjoin'⟩
  · rintro (⟨j, hj, hjoin'⟩ | hstopped) former hformer hfree
    · cases hhandle.symm.trans hformer
      exact absurd hjoin' (hjoinable.mp hfree j hj)
    · cases hhandle.symm.trans hformer
      exact hstopped

/-- Of the calls before one on a reporter that has not stopped, the first was given up. -/
theorem Initial.givenUpBefore_iff (h : Initial w) :
    GivenUpBefore w actions i g ↔ (∃ j < i, JoinsAt w actions j g) ∧
      (w.before actions i).session.hasStopped g = false := by
  constructor
  · rintro ⟨j, hj, hjoin, hwaits⟩
    refine ⟨⟨j, hj, hjoin⟩, Bool.eq_false_iff.mpr fun hstopped => hwaits ?_⟩
    exact (h.returnedBy_iff hjoin).mpr ⟨hj, .inr hstopped⟩
  · classical
    rintro ⟨hearlier, hruns⟩
    obtain ⟨hfirst, hjoin⟩ := Nat.find_spec hearlier
    refine ⟨Nat.find hearlier, hfirst, hjoin, fun hreturned => ?_⟩
    rcases ((h.returnedBy_iff hjoin).mp hreturned).2 with ⟨j, hj, hjoin'⟩ | hstopped
    · exact Nat.find_min hearlier hj ⟨Nat.lt_trans hj hfirst, hjoin'⟩
    · exact absurd hstopped (Bool.eq_false_iff.mp hruns)

/-- A call that is made with a bound and is not disturbed returns before its reporter has stopped
just in case another one was given up. -/
theorem Initial.join_early_iff (h : Initial w) (hjoin : JoinsAt w actions i g)
    (hrest : ∀ q, (w.before actions i).stage q = .between) (ms : Nat) :
    let s := (w.before actions i).session
    (s.join ms).2 = .joined ∧ ¬ Exited { session := (s.join ms).1 } g ↔
      GivenUpBefore w actions i g ∧ ¬ Exited { session := s.settle } g := by
  intro s
  obtain ⟨handle, hhandle, rfl⟩ := hjoin.exists_handle
  have hworld : w.before actions i = { session := s } := eq_of_between hrest
  have hreach : Reachable { session := s } := hworld ▸ h.reachable.run _
  have hlt : handle.reporter < s.reporters.length := h.lt_of_latest hjoin.2 (Nat.le_refl i)
  have hjoinable := h.joinable_iff hhandle
  rw [h.givenUpBefore_iff]
  cases hwaits : handle.joinable && !s.hasStopped handle.reporter with
  | true =>
    refine iff_of_false ?_ ?_
    · rintro ⟨hjoined, hruns⟩
      obtain ⟨more, hmore⟩ := s.leadsTo_join ms
      refine hruns (hmore ▸ (hreach.run more).exited (hreach.inOrder.lt_run hlt more) ?_)
      rw [hmore]
      exact Session.join_of_waiting hhandle hwaits hjoined
    · rintro ⟨⟨⟨j, hj, hjoin'⟩, -⟩, -⟩
      exact hjoinable.mp (Bool.and_eq_true_iff.mp hwaits).1 j hj hjoin'
  | false =>
    rw [Session.join_of_not_waiting hhandle hwaits]
    refine ⟨fun ⟨_, hruns⟩ => ⟨?_, hruns⟩, fun ⟨_, hruns⟩ => ⟨rfl, hruns⟩⟩
    have hopen : s.hasStopped handle.reporter = false := by
      refine Bool.eq_false_iff.mpr fun hstopped => hruns ?_
      obtain ⟨more, hmore⟩ := s.leadsTo_settle
      exact hmore ▸ (hreach.exited hlt hstopped).run more
    refine ⟨?_, hopen⟩
    by_contra hnone
    have hfree : handle.joinable = true :=
      hjoinable.mpr fun j hj hjoin' => hnone ⟨j, hj, hjoin'⟩
    simp [hfree, hopen] at hwaits

/-- The first call on a reporter that has not stopped waits: with a bound and not disturbed, it goes
on as a run from where it was made. -/
theorem Initial.exists_waiting (h : Initial w) (hjoin : JoinsAt w actions i g)
    (hrest : ∀ q, (w.before actions i).stage q = .between)
    (hfirst : ∀ j < i, ¬ JoinsAt w actions j g) (hruns : ¬ Exited (w.before actions i) g)
    (ms : Nat) :
    ∃ waiting, (w.before actions (i + 1)).run waiting =
      { session := ((w.before actions i).session.join ms).1 } := by
  obtain ⟨handle, hhandle, rfl⟩ := hjoin.exists_handle
  have hopen : (w.before actions i).session.hasStopped handle.reporter = false :=
    Bool.eq_false_iff.mpr fun hstopped =>
      hruns (h.exited_of_hasStopped hjoin (Nat.le_refl i) hstopped)
  have hwaits : (handle.joinable && !(w.before actions i).session.hasStopped handle.reporter) =
      true := by
    rw [(h.joinable_iff hhandle).mpr hfirst, hopen]
    rfl
  have hclaimed : w.before actions (i + 1) =
      { session := (w.before actions i).session.apply .claimHandle } := by
    rw [before_succ hjoin.1]
    exact eq_of_between hrest
  rw [hclaimed]
  exact Session.leadsTo_join_of_waiting hhandle hwaits ms

/-- A call returns once its reporter has stopped for good and hands nothing over any more. It
returns earlier just in case another call on the same reporter was given up before it. So does a
call that is made with a bound and is not disturbed, if the reporter does not stop at once; the
first one waits, as part of a run. -/
theorem join_returns_early_iff {origin : World} (h : Initial origin)
    (hjoin : JoinsAt origin actions i g) :
    ((∃ k, ReturnedBy origin actions i k ∧ ¬ Exited (origin.before actions k) g) ↔
      GivenUpBefore origin actions i g) ∧
    (∀ k > i, Exited (origin.before actions k) g → ReturnedBy origin actions i k) ∧
    ((∀ q, (origin.before actions i).stage q = .between) → ∀ ms,
      let s := (origin.before actions i).session
      ((s.join ms).2 = .joined ∧ ¬ Exited { session := (s.join ms).1 } g ↔
        GivenUpBefore origin actions i g ∧ ¬ Exited { session := s.settle } g) ∧
      ((∀ j < i, ¬ JoinsAt origin actions j g) → ¬ Exited (origin.before actions i) g →
        ∃ waiting, (origin.before actions (i + 1)).run waiting =
          { session := (s.join ms).1 })) := by
  refine ⟨⟨?_, fun hgivenUp => ?_⟩, fun k hk hexited => ?_, fun hrest ms => ?_⟩
  · rintro ⟨k, hreturned, hruns⟩
    obtain ⟨hk, hearlier | hstopped⟩ := (h.returnedBy_iff hjoin).mp hreturned
    · refine h.givenUpBefore_iff.mpr ⟨hearlier, Bool.eq_false_iff.mpr fun hstopped => hruns ?_⟩
      obtain ⟨more, hmore⟩ := exists_run_before (Nat.le_of_lt hk) origin actions
      rw [hmore]
      exact (h.exited_of_hasStopped hjoin (Nat.le_refl i) hstopped).run more
    · exact absurd (h.exited_of_hasStopped hjoin (Nat.le_of_lt hk) hstopped) hruns
  · obtain ⟨hearlier, hopen⟩ := h.givenUpBefore_iff.mp hgivenUp
    refine ⟨i + 1, (h.returnedBy_iff hjoin).mpr ⟨Nat.lt_succ_self i, .inl hearlier⟩, ?_⟩
    intro hexited
    have hstopped := hexited.hasStopped
    -- the call itself leaves the reporters alone
    rw [before_succ hjoin.1] at hstopped
    exact absurd hstopped (Bool.eq_false_iff.mp hopen)
  · exact (h.returnedBy_iff hjoin).mpr ⟨hk, .inr hexited.hasStopped⟩
  · exact ⟨h.join_early_iff hjoin hrest ms, fun hfirst hruns =>
      h.exists_waiting hjoin hrest hfirst hruns ms⟩

/-- A reporter is waited for until it has stopped. -/
theorem first_join_waits :
    let w : World := { session := {} }
    let actions : List Action := [.call (.addSink (.takingFirst none)),
      .call (.startFeedback 1 {} .shared 0 none), .call .claimHandle, .proceed 0,
      .call .stopFeedback, .proceed 0]
    ReturnedBy w actions 2 6 ∧ ∀ k, ReturnedBy w actions 2 k → Exited (w.before actions k) 0 := by
  intro w actions
  obtain ⟨hearly, hreturns, -⟩ :=
    join_returns_early_iff initial_empty (show JoinsAt w actions 2 0 from ⟨rfl, rfl⟩)
  have hnone : ¬ GivenUpBefore w actions 2 0 := by
    rintro ⟨j, hj, hjoin, -⟩
    obtain rfl | rfl : j = 0 ∨ j = 1 := by omega
    all_goals cases hjoin.1
  refine ⟨hreturns 6 (by decide) ?_, fun k hreturned => ?_⟩
  · exact ((initial_empty.reachable).run actions).exited (by decide) (by decide)
  · by_contra hruns
    exact hnone (hearly.mp ⟨k, hreturned, hruns⟩)

/-- A reporter reports every packet at once. A call waits a millisecond for it and is given up. The
next one returns at once, and the reporter goes on to report. -/
theorem second_join_does_not_wait :
    let s := (({ session := {} } : World).run (ackedPacket.take 4)).session
    let first := s.join 1
    let second := first.1.join 1
    let later := ackedPacket.drop 4 ++ List.replicate 4 (.proceed 0)
    let reports (w : World) := (gather JournalEntry.handedReport (w.history 0)).length
    first.2 = .timeout ∧ second.2 = .joined ∧ second.1.hasStopped 0 = false ∧
      reports { session := second.1 } = 0 ∧
      reports (({ session := second.1 } : World).run later) = 1 := by
  decide +kernel

end World

end MediaMux
