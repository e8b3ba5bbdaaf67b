import MediaMux.Proofs.Session.Lifecycle
import MediaMux.Proofs.Session.Resolutions
import MediaMux.Proofs.Session.Tables

/-!
# Replacing a reporter

Only the latest reporter may not have been told to stop (`World.Reachable.latest_of_open`), as a
reporter that is started takes the place of the one before it. From then on the two have nothing to
do with each other: notifiers that were left for the former one do not reach its successor
(`World.replacement_isolates`).
-/

namespace MediaMux

open Feedback Journal

namespace Session

variable {s : Session} {sender : Ssrc} {request : Request} {meter : MeterKind} {sink : Nat}
  {parent : Option Token}

/-- A reporter is not started with invalid options, nor without a runtime, and then nothing
changes. -/
theorem startFeedback_error (hrtp : s.rtp.isSome = true) :
    ((∃ e, (s.startFeedback sender request meter sink parent).2 = .error e) ↔
      (∃ e, request.toOptions = .error e) ∨ s.hasRuntime = false) := by
  have hstarted := s.started_startFeedback sender request meter sink parent
  generalize s.startFeedback sender request meter sink parent = started at hstarted ⊢
  cases hstarted with
  | dropped hnone => simp [hnone] at hrtp
  | invalid _ hoptions => simp [hoptions]
  | noRuntime _ hoptions hruntime => simp [hruntime]
  | started _ hoptions hruntime => simp [hoptions, hruntime]

theorem startFeedback_of_error {e : StartError}
    (h : (s.startFeedback sender request meter sink parent).2 = .error e) :
    (s.startFeedback sender request meter sink parent).1 = s := by
  have hstarted := s.started_startFeedback sender request meter sink parent
  generalize s.startFeedback sender request meter sink parent = started at hstarted h ⊢
  cases hstarted with
  | dropped | started => cases h
  | invalid | noRuntime => rfl

/-- The handle stays where it is, unless a reporter is started or the flows are dropped. -/
theorem latest?_apply {c : Call} (hdrop : c ≠ .dropRtp)
    (hstart : ∀ sender request meter sink parent,
      c ≠ .startFeedback sender request meter sink parent) :
    (s.apply c).latest? = s.latest? := by
  unfold latest?
  rw [feedback?_apply]
  cases c with
  | dropRtp => exact absurd rfl hdrop
  | startFeedback => exact absurd rfl (hstart _ _ _ _ _)
  | claimHandle => exact Option.map_map ..
  | _ => rfl

theorem length_reporters_inform (s : Session) (w : Watcher) (d : Delivery) :
    (s.inform w d).reporters.length = s.reporters.length := by
  cases w with
  | noted => rfl
  | tracked g p =>
    cases hr : s.reporters[g]? with
    | none => cases d <;> simp [inform, enqueue, hr]
    | some r => rw [inform_tracked hr, List.length_set]

theorem length_reporters_stopFeedback (s : Session) :
    s.stopFeedback.reporters.length = s.reporters.length := by
  rcases s.stopFeedback_cases with hstop | ⟨g, hstop⟩ <;> simp [hstop]

theorem startFeedback_ok (hrtp : s.rtp.isSome = true)
    (hok : (s.startFeedback sender request meter sink parent).2 = .ok ()) :
    (s.startFeedback sender request meter sink parent).1.latest? = some s.reporters.length ∧
      (∃ options, request.toOptions = .ok options ∧
        (s.startFeedback sender request meter sink parent).1.reporters[s.reporters.length]? =
          some (Reporter.new s.reporters.length sender options meter sink parent s.horizon)) ∧
      (s.startFeedback sender request meter sink parent).1.env = s.env := by
  have hstarted := s.started_startFeedback sender request meter sink parent
  generalize s.startFeedback sender request meter sink parent = started at hstarted hok ⊢
  cases hstarted with
  | dropped hnone => simp [hnone] at hrtp
  | invalid | noRuntime => cases hok
  | @started rtp options _ hoptions =>
    refine ⟨rfl, ⟨options, hoptions, ?_⟩, ?_⟩
    · dsimp only
      rw [← length_reporters_stopFeedback]
      exact List.getElem?_concat_length
    · rcases s.stopFeedback_cases with hstop | ⟨g, hstop⟩ <;> rw [hstop]

theorem resolve_elsewhere (hs : s.InOrder) {place i n : Nat} (d : Delivery)
    (h : s.waiting? place i = none ∨ ∃ g p, s.waiting? place i = some (.tracked g p) ∧ g ≠ n) :
    (s.resolve place i d).1.reporters[n]? = s.reporters[n]? ∧
      (s.resolve place i d).1.env.journal.of n = s.env.journal.of n := by
  unfold resolve
  rcases h with hnone | ⟨g, p, hwaits, hne⟩
  · have hempty : (s.transports[place]?).bind (·.heldAt? i) = none := hnone
    rw [hempty]
    exact ⟨rfl, rfl⟩
  · have hheld : (s.transports[place]?).bind (·.heldAt? i) = some (.tracked g p) := hwaits
    have hlt : g < (s.modifyTransport place (·.release i)).reporters.length :=
      hs.lt_of_waiting? hwaits
    obtain ⟨late, hjournal⟩ := journal_inform (s := s.modifyTransport place (·.release i)) (p := p)
      hs.registered hlt d
    rw [hheld]
    dsimp only
    refine ⟨?_, ?_⟩
    · rw [inform_tracked (List.getElem?_eq_getElem hlt)]
      exact List.getElem?_set_ne hne
    · rw [hjournal, of_cons, if_neg]
      · rfl
      · exact fun h => hne (Option.some.inj h)

end Session

namespace World

variable {w : World} {g : Nat} {sc : Scene}

/-! ### One reporter at a time -/

/-- A reporter that was not told to stop is the latest. -/
def Manned (w : World) : Prop :=
  ∀ g sc, w.scene? g = some sc → sc.told = false → w.session.latest? = some g

/-- A call that keeps a reporter from being told leaves it the latest. -/
theorem latest?_of_open (hsc : w.scene? g = some sc) (hlatest : w.session.latest? = some g)
    {c : Call} {next : Scene} (hnext : (w.step (.call c)).scene? g = some next)
    (hopen : next.told = false) : (w.session.apply c).latest? = some g := by
  have hnot : ¬ TellsToStop w g (.call c) := by
    intro htells
    obtain ⟨told, htold, hstop⟩ := told_of_tellsToStop hsc htells
    cases htold.symm.trans hnext
    rw [hstop] at hopen
    cases hopen
  by_cases hdrop : c = .dropRtp
  · subst hdrop
    exact absurd (.drop hlatest) hnot
  · by_cases hstart : ∃ sender request meter sink parent,
      c = .startFeedback sender request meter sink parent
    · obtain ⟨sender, request, meter, sink, parent, rfl⟩ := hstart
      cases hanswer : (w.session.startFeedback sender request meter sink parent).2 with
      | ok => exact absurd (.replace hlatest hanswer) hnot
      | error e =>
        show (w.session.startFeedback sender request meter sink parent).1.latest? = some g
        rw [Session.startFeedback_of_error hanswer]
        exact hlatest
    · rw [Session.latest?_apply hdrop fun sender request meter sink parent h =>
        hstart ⟨sender, request, meter, sink, parent, h⟩]
      exact hlatest

theorem latest?_of_born {c : Call} (hlt : g < (w.session.apply c).reporters.length)
    (hge : w.session.reporters.length ≤ g) : (w.session.apply c).latest? = some g := by
  have heffect := w.session.effect_apply c
  generalize w.session.apply c = s at heffect hlt ⊢
  have hkept : s.reporters.length = w.session.reporters.length → s.latest? = some g := by omega
  cases heffect with
  | quiet _ h | note _ h | track _ _ _ h => exact hkept (congrArg List.length h.reporters)
  | tell _ _ h =>
    have hsame := congrArg List.length h.reporters
    rw [Session.length_reporters_inform] at hsame
    exact hkept hsame
  | resolve => exact hkept (Session.length_reporters_inform _ _ _)
  | stop _ _ h =>
    have hsame := congrArg List.length h.reporters
    rw [List.length_modify] at hsame
    exact hkept hsame
  | start _ hreporters _ hlatest =>
    rw [hreporters, List.length_append, Session.length_reporters_stopFeedback,
      List.length_singleton] at hlt
    have hg : g = w.session.reporters.length := by omega
    rw [hlatest, hg]

theorem Manned.step (h : w.Manned) (hw : InOrder w) (a : Action) : (w.step a).Manned := by
  intro g next hnext hopen
  rcases Nat.lt_or_ge g w.session.reporters.length with hlt | hge
  · have hsc := scene?_of_reporter (w := w) (List.getElem?_eq_getElem hlt)
    obtain ⟨next', hnext', hsteps, -⟩ := hw.step_scene a hsc
    cases hnext.symm.trans hnext'
    have hbefore := Bool.eq_false_iff.mpr fun htold =>
      Bool.eq_false_iff.mp hopen (Scene.told_of_steps hsteps htold)
    have hlatest := h g _ hsc hbefore
    cases a with
    | call c => exact latest?_of_open hsc hlatest hnext hopen
    | proceed q =>
      obtain ⟨-, hrtp⟩ := w.wire_proceed q
      unfold Session.latest? Session.feedback?
      rw [hrtp]
      exact hlatest
  · obtain ⟨hr, -, -⟩ := scene?_eq_some hnext
    obtain ⟨hlt, -⟩ := List.getElem?_eq_some_iff.mp hr
    cases a with
    | call c => exact latest?_of_born hlt hge
    | proceed q =>
      rcases w.step_proceed q with hsame | ⟨sc, next', -, -, hput⟩
      · rw [hsame] at hlt
        omega
      · rw [hput] at hlt
        simp only [put, List.length_set] at hlt
        omega

theorem Reachable.manned (h : Reachable w) : w.Manned := by
  refine (h.induction (P := fun w => InOrder w ∧ w.Manned) ?_ ?_).2
  · intro w hinitial
    refine ⟨hinitial.inOrder, fun g sc hsc _ => ?_⟩
    obtain ⟨hreporters, -, -, -⟩ := hinitial.empty
    simp [scene?, hreporters] at hsc
  · intro w a hboth
    exact ⟨hboth.1.step a, hboth.2.step hboth.1 a⟩

/-! ### Successors -/

/-- The reporter `n` is the same in both worlds, with its stage and its history. -/
structure Untouched (n : Nat) (w w' : World) : Prop where
  reporter : w'.session.reporters[n]? = w.session.reporters[n]?
  stage : w'.stage n = w.stage n
  history : w'.history n = w.history n

variable {sender : Ssrc} {request : Request} {meter : MeterKind} {sink : Nat}
  {parent : Option Token}

/-- When a reporter is started, all before it have been told to stop. -/
theorem told_of_started (hw : Reachable w)
    (hok : (w.session.startFeedback sender request meter sink parent).2 = .ok ())
    (hsc : w.scene? g = some sc) :
    ∃ next, (w.step (.call (.startFeedback sender request meter sink parent))).scene? g =
      some next ∧ next.told = true := by
  cases htold : sc.told with
  | true =>
    obtain ⟨next, hnext, hsteps, -⟩ :=
      hw.inOrder.step_scene (.call (.startFeedback sender request meter sink parent)) hsc
    exact ⟨next, hnext, Scene.told_of_steps hsteps htold⟩
  | false => exact told_of_tellsToStop hsc (.replace (hw.manned g sc hsc htold) hok)

theorem untouched_proceed (hw : InOrder w) {n : Nat} (hne : g ≠ n) :
    Untouched n w (w.step (.proceed g)) := by
  rcases w.step_proceed g with hsame | ⟨sc, next, hsc, hp, hput⟩
  · rw [hsame]
    exact ⟨rfl, rfl, rfl⟩
  · obtain ⟨hr, -, henv⟩ := scene?_eq_some hsc
    have hnumber := hw.session.registered.numbered g _ hr
    rw [hput]
    refine ⟨List.getElem?_set_ne hne, Function.update_of_ne (Ne.symm hne) _ _, ?_⟩
    show next.env.journal.of n = w.session.env.journal.of n
    rw [← henv]
    refine hp.move.journal_extends.of_eq fun e he h => hne ?_
    rw [← hnumber]
    exact Option.some.inj (he.1.symm.trans h)

/-- A notifier that waited before a run tells nobody but its own reporter when it is resolved
after it. -/
theorem untouched_resolve (hw : Reachable w) {place i n : Nat} {p : SentPacket}
    (hwaits : w.session.waiting? place i = some (.tracked g p)) (hne : g ≠ n)
    (actions : List Action) (d : Delivery) :
    Untouched n (w.run actions) ((w.run actions).step (.call (.resolve place i d))) := by
  have hstill : (w.run actions).session.waiting? place i = none ∨
      ∃ g p, (w.run actions).session.waiting? place i = some (.tracked g p) ∧ g ≠ n := by
    rw [Session.waiting?_eq] at hwaits
    obtain ⟨hlt, -⟩ := List.getElem?_eq_some_iff.mp (Option.join_eq_some_iff.mp hwaits)
    rw [Session.waiting?_eq]
    rcases (slots_run w actions place).kept i hlt with hsame | hnone
    · exact .inr ⟨g, p, hsame.trans hwaits, hne⟩
    · exact .inl hnone
  obtain ⟨hreporter, hhistory⟩ :=
    Session.resolve_elsewhere (hw.run actions).inOrder.session d hstill
  exact ⟨hreporter, rfl, hhistory⟩

/-- A reporter that cannot be started changes nothing. In a session that came about by any run, at
most one reporter has not been told to stop. One that is started has all before it told: none of
them hands over a report any more or does anything to the new one, and neither does a notifier that
waits for one of them, whenever it is resolved. -/
theorem replacement_isolates (w : World) (sender : Ssrc) (request : Request) (meter : MeterKind)
    (sink : Nat) (parent : Option Token) :
    let answer := (w.session.startFeedback sender request meter sink parent).2
    let next := w.step (.call (.startFeedback sender request meter sink parent))
    (∀ e, answer = .error e → next = w) ∧
    (w.session.rtp.isSome = true →
      ((∃ e, answer = .error e) ↔
        (∃ e, request.toOptions = .error e) ∨ w.session.hasRuntime = false)) ∧
    (Reachable w →
      (∀ g q sc other, w.scene? g = some sc → w.scene? q = some other →
        sc.told = false → other.told = false → g = q) ∧
      (w.session.rtp.isSome = true → answer = .ok () →
        let n := w.session.reporters.length
        next.session.latest? = some n ∧
        (∃ options, request.toOptions = .ok options ∧ next.session.reporters[n]? =
          some (Reporter.new n sender options meter sink parent w.session.horizon)) ∧
        (∀ g < n, (∃ sc, next.scene? g = some sc ∧ sc.told = true) ∧
          ∀ actions,
            gather JournalEntry.handedReport ((next.run actions).history g) =
              gather JournalEntry.handedReport (w.history g) ∧
            Untouched n (next.run actions) ((next.run actions).step (.proceed g))) ∧
        ∀ place i g p, w.session.waiting? place i = some (.tracked g p) → ∀ actions d,
          Untouched n (next.run actions)
            ((next.run actions).step (.call (.resolve place i d))))) := by
  intro answer next
  refine ⟨fun e he => ?_, Session.startFeedback_error, fun hw => ⟨?_, fun hrtp hok => ?_⟩⟩
  · show { w with session := (w.session.startFeedback sender request meter sink parent).1 } = w
    rw [Session.startFeedback_of_error he]
  · intro g q sc other hsc hother hopen hopen'
    have hg := hw.manned g sc hsc hopen
    have hq := hw.manned q other hother hopen'
    exact Option.some.inj (hg.symm.trans hq)
  · have hnext : Reachable next := hw.run [.call _]
    obtain ⟨hlatest, hnew, henv⟩ := Session.startFeedback_ok hrtp hok
    refine ⟨hlatest, hnew, fun g hg => ?_, fun place i g p hwaits actions d => ?_⟩
    · have hsc := scene?_of_reporter (w := w) (List.getElem?_eq_getElem hg)
      obtain ⟨sc, hscene, htold⟩ := told_of_started hw hok hsc
      refine ⟨⟨sc, hscene, htold⟩, fun actions => ?_⟩
      obtain ⟨-, -, -, hhanded⟩ := handed_of_told hnext hscene htold actions
      have hhistory : next.history g = w.history g := congrArg (·.journal.of g) henv
      rw [hhanded, hhistory]
      exact ⟨rfl, untouched_proceed (hnext.run actions).inOrder (Nat.ne_of_lt hg)⟩
    · have hlt := hw.inOrder.session.lt_of_waiting? hwaits
      exact untouched_resolve hw hwaits (Nat.ne_of_lt hlt)
        (.call (.startFeedback sender request meter sink parent) :: actions) d

/-- A reporter goes by the terms that it was started on, whatever happens afterwards, and is told to
stop when its parent token is cancelled. -/
theorem started_on_terms (hw : Reachable w) {sender : Ssrc} {request : Request} {meter : MeterKind}
    {sink : Nat} {parent : Option Token} (hrtp : w.session.rtp.isSome = true)
    (hok : (w.session.startFeedback sender request meter sink parent).2 = .ok ())
    (actions : List Action) :
    ∃ sc options,
      ((w.step (.call (.startFeedback sender request meter sink parent))).run actions).scene?
        w.session.reporters.length = some sc ∧
      request.toOptions = .ok options ∧ sc.reporter.sender = sender ∧
      sc.reporter.options = options ∧ sc.reporter.meter = meter ∧ sc.reporter.sink = sink ∧
      sc.reporter.parent = parent ∧ sc.reporter.horizon = w.session.horizon ∧
      ∀ token ∈ sc.env.cancelled, parent = some token → sc.told = true := by
  have hnext : Reachable (w.step (.call (.startFeedback sender request meter sink parent))) :=
    hw.run [.call _]
  obtain ⟨-, ⟨options, hoptions, hnew⟩, -⟩ := Session.startFeedback_ok hrtp hok
  obtain ⟨sc, hsc, hsteps⟩ := hnext.inOrder.run_scene actions (scene?_of_reporter hnew)
  obtain ⟨hsender, hopt, hmeter, hsink, hparent, hhorizon⟩ := Scene.terms_of_steps hsteps
  refine ⟨sc, options, hsc, hoptions, hsender, hopt, hmeter, hsink, hparent, hhorizon, ?_⟩
  rintro token htoken rfl
  have hparent' : sc.reporter.parent = some token := hparent
  simp [Scene.told, Reporter.toldToStop, hparent', htoken]

/-- A reporter that was started, with a packet on its way. -/
def awaiting : World :=
  withReporter.run [.call (.addTransport { reportsDelivery := true }), .call (.bindRtp 0),
    writing 1 ⟨0⟩]

/-- A start without an interval is in vain. After one that succeeds, the ack of the packet does
nothing to the new reporter. -/
theorem ack_after_replacement :
    let next := awaiting.step (.call (.startFeedback 1 {} .shared 0 none))
    awaiting.step (.call (.startFeedback 1 { interval := some 0 } .shared 0 none)) = awaiting ∧
      (∃ sc, next.scene? 0 = some sc ∧ sc.told = true) ∧
      Untouched 1 (next.run [.proceed 1])
        ((next.run [.proceed 1]).step (.call (.resolve 0 0 .acked))) := by
  intro next
  have hreachable : Reachable awaiting := reachable_withReporter.run _
  have hrefused :=
    (replacement_isolates awaiting 1 { interval := some 0 } .shared 0 none).1 _ rfl
  obtain ⟨-, hstarted⟩ :=
    (replacement_isolates awaiting 1 {} .shared 0 none).2.2 hreachable
  obtain ⟨-, -, htold, huntouched⟩ := hstarted rfl rfl
  exact ⟨hrefused, (htold 0 (by decide)).1, huntouched 0 0 0 _ rfl [.proceed 1] .acked⟩

end World

end MediaMux
