import MediaMux.Proofs.Session.Run

/-!
# Undisturbed runs

What a session does at once is a run in which nothing else happens meanwhile: to settle, to let time
pass, and to wait for a reporter (`leadsTo_settle`, `leadsTo_runUntil`, `leadsTo_join`). So what
holds of every run holds of them.
-/

namespace MediaMux

open Feedback

namespace World

variable {w : World} {g : Nat} {sc next : Scene}

/-- Undisturbed steps of a reporter are a run in which no other reporter does a step. -/
theorem exists_run_of_proceeds (hsc : w.scene? g = some sc)
    (h : Relation.ReflTransGen (Scene.Proceeds w.session.timer) sc next) :
    ∃ n, w.run (List.replicate n (.proceed g)) = w.put g next := by
  induction h with
  | refl => exact ⟨0, (put_scene hsc).symm⟩
  | @tail mid next _ hp ih =>
    obtain ⟨n, hn⟩ := ih
    have hmid : (w.put g mid).scene? g = some mid := scene?_put hsc mid
    have hlast : (w.put g mid).step (.proceed g) = (w.put g mid).put g next :=
      step_of_proceeds hmid hp
    refine ⟨n + 1, ?_⟩
    rw [List.replicate_succ', run_concat, hn, hlast, put_put]

end World

namespace Session

/-- There is a run from `s` to `s'`, before and after which no reporter is in a round. -/
def LeadsTo (s s' : Session) : Prop :=
  ∃ actions, ({ session := s } : World).run actions = { session := s' }

variable {s s' s'' : Session}

theorem LeadsTo.refl (s : Session) : LeadsTo s s := ⟨[], rfl⟩

theorem LeadsTo.trans (h : LeadsTo s s') (h' : LeadsTo s' s'') : LeadsTo s s'' := by
  obtain ⟨before, hbefore⟩ := h
  obtain ⟨after, hafter⟩ := h'
  exact ⟨before ++ after, by rw [World.run_append, hbefore, hafter]⟩

theorem LeadsTo.call (s : Session) (c : Call) : LeadsTo s (s.apply c) := ⟨[.call c], rfl⟩

/-! ### Time -/

/-- One reporter settles. -/
theorem leadsTo_settle_reporter {before rest : List Reporter} {r : Reporter}
    (hreporters : s.reporters = before ++ r :: rest) :
    LeadsTo s { s with
      reporters := before ++ (r.settle s.timer s.env).1 :: rest
      env := (r.settle s.timer s.env).2 } := by
  have hsc : ({ session := s } : World).scene? before.length = some ⟨r, .between, s.env⟩ :=
    World.scene?_of_reporter (by simp [hreporters])
  obtain ⟨n, hn⟩ := World.exists_run_of_proceeds hsc (Scene.proceeds_settle s.timer r s.env)
  refine ⟨_, hn.trans ?_⟩
  simp [World.put, hreporters]

theorem leadsTo_settleAll (before rest : List Reporter)
    (hreporters : s.reporters = before ++ rest) :
    LeadsTo s { s with
      reporters := before ++ (settleAll s.timer rest s.env).1
      env := (settleAll s.timer rest s.env).2 } := by
  induction rest generalizing s before with
  | nil =>
    rw [List.append_nil] at hreporters
    simp only [settleAll, List.append_nil, ← hreporters]
    exact .refl s
  | cons r rest ih =>
    refine (leadsTo_settle_reporter hreporters).trans ?_
    have hothers := ih (before ++ [(r.settle s.timer s.env).1]) (s := { s with
      reporters := before ++ (r.settle s.timer s.env).1 :: rest
      env := (r.settle s.timer s.env).2 }) (by simp)
    simpa [settleAll] using hothers

theorem leadsTo_settle (s : Session) : LeadsTo s s.settle :=
  leadsTo_settleAll [] s.reporters rfl

theorem leadsTo_timer {time : Nat} (h : s.timer ≤ time) : LeadsTo s { s with timer := time } := by
  have hcall := LeadsTo.call s (.pass (time - s.timer))
  simp only [apply, Nat.add_sub_of_le h] at hcall
  exact hcall

theorem leadsTo_runUntil (target : Nat) (done : Session → Bool) (s : Session) :
    LeadsTo s (s.runUntil target done) := by
  fun_induction runUntil target done s with
  | case1 s settled => exact leadsTo_settle s
  | case2 s settled =>
    exact ((leadsTo_settle s).trans (leadsTo_timer (Nat.le_max_left s.timer target))).trans
      (leadsTo_settle _)
  | case3 s settled _ wake _ hwake ih =>
    exact ((leadsTo_settle s).trans (leadsTo_timer (Nat.le_of_lt hwake.1))).trans ih
  | case4 s settled =>
    exact ((leadsTo_settle s).trans (leadsTo_timer (Nat.le_max_left s.timer target))).trans
      (leadsTo_settle _)

theorem join_of_not_waiting {handle : FeedbackHandle} (hfeedback : s.feedback? = some handle)
    (hwaits : (handle.joinable && !s.hasStopped handle.reporter) = false) (ms : Nat) :
    s.join ms = (s.settle, .joined) := by
  simp only [join, hfeedback, hwaits, Bool.false_eq_true, if_false]

/-- A wait for a reporter goes on from the call that claims the handle. -/
theorem leadsTo_join_of_waiting {handle : FeedbackHandle} (hfeedback : s.feedback? = some handle)
    (hwaits : (handle.joinable && !s.hasStopped handle.reporter) = true) (ms : Nat) :
    LeadsTo (s.apply .claimHandle) (s.join ms).1 := by
  obtain ⟨rtp, hrtp, hhandle⟩ := Option.bind_eq_some_iff.mp hfeedback
  simp only [join, hfeedback, hwaits, if_true, apply, modifyRtp, hrtp, Option.map_some, hhandle]
  exact leadsTo_runUntil _ _ _

theorem leadsTo_join (s : Session) (ms : Nat) : LeadsTo s (s.join ms).1 := by
  cases hfeedback : s.feedback? with
  | none =>
    simp only [join, hfeedback]
    exact leadsTo_settle s
  | some handle =>
    cases hwaits : handle.joinable && !s.hasStopped handle.reporter with
    | false =>
      rw [join_of_not_waiting hfeedback hwaits]
      exact leadsTo_settle s
    | true =>
      exact (LeadsTo.call s .claimHandle).trans (leadsTo_join_of_waiting hfeedback hwaits ms)

end Session

end MediaMux
