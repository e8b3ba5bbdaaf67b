import Mathlib.Tactic.Choose
import MediaMux.Proofs.Session.Resolutions

/-!
# Outcomes that are told

A call tells a reporter at most one outcome, and does so by resolving the notifier of a write
(`Session.Effect.toldOutcomes`). So every outcome that was told comes from a write of its own
(`World.exists_writes`).
-/

namespace MediaMux

open Feedback Journal

/-- What is told of a packet that was resolved with `d` at the time `now`. -/
def Feedback.SentPacket.outcome (p : SentPacket) (now : Nat) : Delivery → Outcome
  | .acked => .acked ⟨p, now⟩
  | .lost => .lost p.ssrc p.sequenceNumber

namespace JournalEntry

def toldOutcome : JournalEntry → List (Nat × Outcome)
  | resolved g outcome _ => [(g, outcome)]
  | _ => []

theorem toldOutcome_of_reporter?_none {e : JournalEntry} (h : e.reporter? = none) :
    e.toldOutcome = [] := by
  cases e <;> first | rfl | cases h

theorem toldOutcome_of_isOwn {e : JournalEntry} (h : e.isOwn = true) : e.toldOutcome = [] := by
  cases e <;> first | rfl | cases h

end JournalEntry

/-- What came in time for a reporter was told to it. -/
theorem countP_toldInTime_le (j : Journal) (g : Nat) (p : Outcome → Bool) :
    (gather JournalEntry.toldInTime (j.of g)).countP p ≤
      (gather JournalEntry.toldOutcome j).countP fun e => e.1 = g && p e.2 := by
  induction j with
  | nil => exact Nat.le_refl _
  | cons e j ih =>
    rw [gather_cons, List.countP_append]
    refine Nat.le_trans ?_ (Nat.add_le_add_right ih _)
    cases e with
    | resolved q outcome late =>
      by_cases h : q = g
      · cases late <;> simp [h, JournalEntry.toldOutcome, List.countP_cons]
      · simp [h]
    | _ =>
      simp only [of_cons]
      split <;> simp

namespace Session

def toldOutcomes (s : Session) : List (Nat × Outcome) :=
  gather JournalEntry.toldOutcome s.env.journal

variable {s s' : Session}

/-- The outcome that a call tells, if it tells one. -/
inductive Tells (s : Session) (c : Call) : Option (Nat × Outcome) → Prop
  | nothing : Tells s c none
  | atOnce {g : Nat} {p : SentPacket} {d : Delivery}
      (hw : s.trackedWrite? c = some ⟨g, p, .told d⟩) :
      Tells s c (some (g, p.outcome s.env.now.2.now.1 d))
  | later {place i g : Nat} {p : SentPacket} {d : Delivery} (hc : c = .resolve place i d)
      (hw : s.waiting? place i = some (.tracked g p)) :
      Tells s c (some (g, p.outcome s.env.now.1 d))

theorem Quiet.toldOutcomes (h : Quiet s s') : s'.toldOutcomes = s.toldOutcomes :=
  h.journal.gather_eq fun _ he => JournalEntry.toldOutcome_of_reporter?_none he

theorem toldOutcomes_inform {g : Nat} {p : SentPacket} (hs : s.crew.Registered)
    (hg : g < s.reporters.length) (d : Delivery) :
    (s.inform (.tracked g p) d).toldOutcomes =
      s.toldOutcomes ++ [(g, p.outcome s.env.now.1 d)] := by
  obtain ⟨late, hjournal⟩ := journal_inform (p := p) hs hg d
  unfold toldOutcomes
  rw [hjournal, gather_cons]
  cases d <;> rfl

theorem Effect.toldOutcomes {c : Call} (h : Effect s c s') (hs : InOrder s) :
    ∃ new, Tells s c new ∧ s'.toldOutcomes = s.toldOutcomes ++ new.toList := by
  have hnone : ∀ {s' : Session}, s'.toldOutcomes = s.toldOutcomes →
      ∃ new, Tells s c new ∧ s'.toldOutcomes = s.toldOutcomes ++ new.toList :=
    fun hsame => ⟨none, .nothing, hsame.trans (List.append_nil _).symm⟩
  cases h with
  | quiet hw h => exact hnone h.toldOutcomes
  | note hplace h => exact hnone h.toldOutcomes
  | track hg hw ht h => exact hnone (h.toldOutcomes.trans (List.append_nil _))
  | @tell header payload g p d _ hg hw h =>
    have hlt := hs.lt_of_tracker? hg
    have htold := toldOutcomes_inform (p := p)
      (registered_of_deeds (deeds_handOver hlt p) hs.registered) hlt d
    have hsame : (s.handOver g p).toldOutcomes = s.toldOutcomes := List.append_nil _
    refine ⟨_, .atOnce hw, ?_⟩
    rw [h.toldOutcomes, htold, hsame]
    rfl
  | @resolve place i d w hw =>
    cases w with
    | noted tag => exact hnone rfl
    | tracked g p =>
      exact ⟨_, .later rfl hw, toldOutcomes_inform (s := s.modifyTransport place (·.release i))
        hs.registered (hs.lt_of_waiting? hw) d⟩
  | stop hw hg h => exact hnone h.toldOutcomes
  | start hheld hreporters henv =>
    have hjournal : s'.env.journal = s.env.journal := congrArg Environment.journal henv
    exact hnone (congrArg (gather JournalEntry.toldOutcome) hjournal)

end Session

namespace World

variable {w : World} {actions : List Action}

/-- The outcome `told` of a reporter is that of the write that is step `i` of a run. It was told by
the resolution of the write, which is step `m`. -/
def OutcomeFrom (w : World) (actions : List Action) (told : Nat × Outcome) (i m : Nat) : Prop :=
  ∃ p notice d now, TracksAt w actions i ⟨told.1, p, notice⟩ ∧ Resolved w actions i m d now ∧
    told.2 = p.outcome now d

theorem exists_outcomeFrom_of_tells (hw : Initial w) {j : Nat} {told : Nat × Outcome} {c : Call}
    (hc : actions[j]? = some (.call c))
    (h : (w.before actions j).session.Tells c (some told)) :
    ∃ i, OutcomeFrom w actions told i j := by
  cases h with
  | atOnce ht =>
    have htracks : TracksAt w actions j ⟨_, _, .told _⟩ := ⟨c, hc, ht⟩
    exact ⟨j, _, _, _, _, htracks, .atOnce htracks, rfl⟩
  | later hresolve hwaits =>
    obtain ⟨i, -, htracks⟩ := World.exists_write hw hwaits
    refine ⟨i, _, _, _, _, htracks, .later htracks (hresolve ▸ hc) ?_, rfl⟩
    rw [Session.resolve_snd, hwaits]
    rfl

/-- Every outcome that was told was told by the resolution of a write. It was told after those that
had been told before the resolution. -/
theorem exists_outcomeFrom (hw : Initial w) {j q : Nat} {told : Nat × Outcome}
    (hq : (w.before actions j).session.toldOutcomes[q]? = some told) :
    ∃ i m, m < j ∧ (w.before actions m).session.toldOutcomes.length = q ∧
      OutcomeFrom w actions told i m := by
  induction j with
  | zero =>
    obtain ⟨-, -, hjournal, -⟩ := hw.empty
    simp [before, run, Session.toldOutcomes, hjournal] at hq
  | succ j ih =>
    have hearlier : (w.before actions j).session.toldOutcomes[q]? = some told →
        ∃ i m, m < j + 1 ∧ (w.before actions m).session.toldOutcomes.length = q ∧
          OutcomeFrom w actions told i m := by
      intro hbefore
      obtain ⟨i, m, hm, hfrom⟩ := ih hbefore
      exact ⟨i, m, Nat.lt_succ_of_lt hm, hfrom⟩
    cases ha : actions[j]? with
    | none =>
      rw [before_succ_of_none ha] at hq
      exact hearlier hq
    | some action =>
      rw [before_succ ha] at hq
      cases action with
      | proceed r =>
        have hsame := ((w.before actions j).journal_proceed r).gather_eq
          fun _ he => JournalEntry.toldOutcome_of_isOwn he
        rw [Session.toldOutcomes, hsame] at hq
        exact hearlier hq
      | call c =>
        have horder := (hw.reachable.run (actions.take j)).inOrder.session
        obtain ⟨new, htells, hnew⟩ :=
          ((w.before actions j).session.effect_apply c).toldOutcomes horder
        change ((w.before actions j).session.apply c).toldOutcomes[q]? = some told at hq
        rw [hnew] at hq
        cases new with
        | none =>
          rw [Option.toList_none, List.append_nil] at hq
          exact hearlier hq
        | some outcome =>
          rcases Session.getElem?_concat_cases hq with hbefore | ⟨rfl, rfl⟩
          · exact hearlier hbefore
          · obtain ⟨i, hfrom⟩ := exists_outcomeFrom_of_tells hw ha htells
            exact ⟨i, j, Nat.lt_succ_self j, rfl, hfrom⟩

/-- Each outcome that was told comes from a write of its own. -/
theorem exists_writes (hw : Initial w) (actions : List Action) :
    ∃ write : Fin (w.run actions).session.toldOutcomes.length → Nat, Function.Injective write ∧
      ∀ k, ∃ m, OutcomeFrom w actions ((w.run actions).session.toldOutcomes.get k) (write k) m := by
  have hend : w.before actions actions.length = w.run actions := by
    unfold before
    rw [List.take_length]
  have horigin : ∀ k : Fin (w.run actions).session.toldOutcomes.length, ∃ i m,
      (w.before actions m).session.toldOutcomes.length = k ∧
        OutcomeFrom w actions ((w.run actions).session.toldOutcomes.get k) i m := by
    intro k
    have hk : (w.before actions actions.length).session.toldOutcomes[(k : Nat)]? =
        some ((w.run actions).session.toldOutcomes.get k) := by
      rw [hend]
      exact List.getElem?_eq_getElem k.isLt
    obtain ⟨i, m, -, hplace, hfrom⟩ := exists_outcomeFrom hw hk
    exact ⟨i, m, hplace, hfrom⟩
  choose write resolution hplace hfrom using horigin
  refine ⟨write, ?_, fun k => ⟨resolution k, hfrom k⟩⟩
  intro k k' hk
  obtain ⟨_, _, _, _, -, hresolved, -⟩ := hfrom k
  obtain ⟨_, _, _, _, -, hresolved', -⟩ := hfrom k'
  have hsame := (hresolved.unique (hk ▸ hresolved')).1
  exact Fin.ext ((hplace k).symm.trans (hsame ▸ hplace k'))

end World

end MediaMux
