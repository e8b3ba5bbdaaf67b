import Mathlib.Data.List.Nodup
import MediaMux.Proofs.Feedback.Unreported

/-!
# Interleaved sources

What a backlog holds of a source, and which of its packets make way, depends on the outcomes on that
source only (`sameOn_after`, `filter_evicted`). So histories that interleave the same outcomes in
different ways lead to the same backlog, and to the same report in whatever order the lanes are
gone through (`sources_do_not_interfere`).
-/

namespace MediaMux.Feedback.Backlog

/-- The events on a source, in their order. -/
def eventsOn (ssrc : Ssrc) (events : List Event) : List Event :=
  events.filter fun e => e.ssrc? = some ssrc

def evictedAt (b : Backlog) : Event → Option SentPacket
  | .ack a => (b.takeAck a).2.evicted?
  | .loss _ => none
  | .drain .. => none

/-- The packets that make way in a backlog, in the order of the events. -/
def evictedFrom (b : Backlog) : List Event → List SentPacket
  | [] => []
  | e :: rest => (b.evictedAt e).toList ++ (b.step e).evictedFrom rest

/-- The packets that make way in a history of a backlog whose lanes hold `limit` acks. -/
def evicted (limit : Nat) (history : List Event) : List SentPacket :=
  evictedFrom { limit := limit } history

theorem eventsOn_concat (ssrc : Ssrc) (events : List Event) (e : Event) :
    eventsOn ssrc (events ++ [e]) =
      if e.ssrc? = some ssrc then eventsOn ssrc events ++ [e] else eventsOn ssrc events := by
  unfold eventsOn
  rw [List.filter_append]
  by_cases h : e.ssrc? = some ssrc <;> simp [h]

theorem evictedFrom_concat (b : Backlog) (events : List Event) (e : Event) :
    b.evictedFrom (events ++ [e]) =
      b.evictedFrom events ++ ((events.foldl step b).evictedAt e).toList := by
  induction events generalizing b with
  | nil => simp [evictedFrom]
  | cons f rest ih => simp [evictedFrom, ih]

theorem evicted_concat (limit : Nat) (history : List Event) (e : Event) :
    evicted limit (history ++ [e]) =
      evicted limit history ++ ((after limit history).evictedAt e).toList :=
  evictedFrom_concat _ history e

theorem evictedAt_ack (b : Backlog) (a : Ack) :
    b.evictedAt (.ack a) =
      if (b.lane a.packet.ssrc).isFull b.limit then
        (b.lane a.packet.ssrc).acked.head?.map (·.packet)
      else none := by
  simp only [evictedAt, takeAck]
  split <;> rfl

/-! ### One source -/

structure SameOn (ssrc : Ssrc) (b b' : Backlog) : Prop where
  limit : b.limit = b'.limit
  lanes : b.lanes.get? ssrc = b'.lanes.get? ssrc

variable {b b' : Backlog} {ssrc : Ssrc} {e : Event} {limit : Nat} {xs ys : List Event}

theorem SameOn.lane (h : SameOn ssrc b b') : b.lane ssrc = b'.lane ssrc :=
  congrArg (·.getD {}) h.lanes

theorem SameOn.step (h : SameOn ssrc b b') (he : e.ssrc? = some ssrc) :
    SameOn ssrc (b.step e) (b'.step e) := by
  refine ⟨by rw [limit_step, limit_step, h.limit], ?_⟩
  cases e with
  | ack a =>
    have ha : a.packet.ssrc = ssrc := Option.some.inj he
    simp only [Backlog.step, get?_takeAck, if_pos ha, h.lane, h.limit]
  | loss lost =>
    have hlost : lost = ssrc := Option.some.inj he
    simp only [Backlog.step, get?_takeLoss, if_pos hlost, h.lane]
  | drain => cases he

theorem SameOn.evictedAt (h : SameOn ssrc b b') (he : e.ssrc? = some ssrc) :
    b.evictedAt e = b'.evictedAt e := by
  cases e with
  | ack a =>
    cases he
    rw [evictedAt_ack, evictedAt_ack, h.lane, h.limit]
  | loss | drain => rfl

/-- An outcome on another source leaves what there is of this one alone. -/
theorem sameOn_step (b : Backlog) (he : e.isOutcome = true) (hother : e.ssrc? ≠ some ssrc) :
    SameOn ssrc (b.step e) b := by
  refine ⟨limit_step b e, ?_⟩
  cases e with
  | ack a =>
    have ha : a.packet.ssrc ≠ ssrc := fun h => hother (congrArg some h)
    simp only [Backlog.step, get?_takeAck, if_neg ha]
  | loss lost =>
    have hlost : lost ≠ ssrc := fun h => hother (congrArg some h)
    simp only [Backlog.step, get?_takeLoss, if_neg hlost]
  | drain => cases he

/-- What a backlog holds of a source depends on the outcomes on that source only. -/
theorem sameOn_after (hxs : ∀ e ∈ xs, e.isOutcome = true) (ssrc : Ssrc) :
    SameOn ssrc (after limit xs) (after limit (eventsOn ssrc xs)) := by
  induction xs using List.reverseRecOn with
  | nil => exact ⟨rfl, rfl⟩
  | append_singleton xs e ih =>
    have hbefore := ih fun f hf => hxs f (List.mem_append_left _ hf)
    have he := hxs e (List.mem_append_right _ (List.mem_singleton_self e))
    rw [after_concat, eventsOn_concat]
    split
    · next hsource =>
      rw [after_concat]
      exact hbefore.step hsource
    · next hother =>
      have hleft := sameOn_step (after limit xs) he hother
      exact ⟨hleft.limit.trans hbefore.limit, hleft.lanes.trans hbefore.lanes⟩

/-- The packet that makes way is of the source of the event. -/
theorem Holds.ssrc_of_evictedAt {history : List Event} (h : Holds b limit history)
    {p : SentPacket} (hp : b.evictedAt e = some p) : e.ssrc? = some p.ssrc := by
  cases e with
  | ack a =>
    rw [evictedAt_ack] at hp
    split at hp
    · obtain ⟨oldest, holdest, rfl⟩ := Option.map_eq_some_iff.mp hp
      exact congrArg some (h.ssrc_of_mem (List.mem_of_mem_head? holdest)).symm
    · cases hp
  | loss | drain => cases hp

/-- Which packets of a source make way depends on the outcomes on that source only. -/
theorem filter_evicted (hlimit : 0 < limit) (hxs : ∀ e ∈ xs, e.isOutcome = true) (ssrc : Ssrc) :
    (evicted limit xs).filter (·.ssrc = ssrc) = evicted limit (eventsOn ssrc xs) := by
  induction xs using List.reverseRecOn with
  | nil => rfl
  | append_singleton xs e ih =>
    have hbefore : ∀ f ∈ xs, f.isOutcome = true := fun f hf => hxs f (List.mem_append_left _ hf)
    have hevicted : ∀ p, (after limit xs).evictedAt e = some p → e.ssrc? = some p.ssrc :=
      fun _ hp => (holds_after hlimit xs).ssrc_of_evictedAt hp
    rw [evicted_concat, List.filter_append, ih hbefore, eventsOn_concat]
    split
    · next hsource =>
      rw [evicted_concat, ← (sameOn_after hbefore ssrc).evictedAt hsource]
      refine congrArg (evicted limit (eventsOn ssrc xs) ++ ·) (List.filter_eq_self.mpr ?_)
      intro p hp
      have hssrc := hevicted p (Option.mem_toList.mp hp)
      rw [hsource] at hssrc
      exact decide_eq_true (Option.some.inj hssrc).symm
    · next hother =>
      have hnone : ((after limit xs).evictedAt e).toList.filter (·.ssrc = ssrc) = [] := by
        refine List.filter_eq_nil_iff.mpr fun p hp => ?_
        have hssrc := hevicted p (Option.mem_toList.mp hp)
        simp only [decide_eq_true_eq]
        exact fun h => hother (h ▸ hssrc)
      rw [hnone, List.append_nil]

/-! ### All sources -/

theorem Sound.step (h : b.Sound) (e : Event) : (b.step e).Sound := by
  cases e with
  | ack a => exact (h.takeAck_cases a).1
  | loss ssrc => exact (h.takeLoss_cases ssrc).1
  | drain => exact sound_empty h.limit_pos

theorem sound_after (hlimit : 0 < limit) (history : List Event) : (after limit history).Sound := by
  induction history using List.reverseRecOn with
  | nil => exact sound_empty hlimit
  | append_singleton history e ih =>
    rw [after_concat]
    exact ih.step e

/-- Histories that have the same outcomes on each source lead to the same backlog. -/
theorem after_eq_of_eventsOn (hlimit : 0 < limit) (hxs : ∀ e ∈ xs, e.isOutcome = true)
    (hys : ∀ e ∈ ys, e.isOutcome = true) (hsame : ∀ ssrc, eventsOn ssrc xs = eventsOn ssrc ys) :
    after limit xs = after limit ys := by
  have hx := holds_after hlimit xs
  have hy := holds_after hlimit ys
  have hlanes : (after limit xs).lanes = (after limit ys).lanes := by
    refine hx.sorted.ext hy.sorted fun ssrc => ?_
    rw [(sameOn_after hxs ssrc).lanes, hsame, ← (sameOn_after hys ssrc).lanes]
  have hlimits : (after limit xs).limit = (after limit ys).limit :=
    hx.limit_eq.trans hy.limit_eq.symm
  -- the counter follows from what it counts
  have hwaiting : (after limit xs).waiting = (after limit ys).waiting := by
    rw [(sound_after hlimit xs).counted, (sound_after hlimit ys).counted, acks, acks, hlanes]
  generalize after limit xs = b at hlanes hlimits hwaiting
  generalize after limit ys = b' at hlanes hlimits hwaiting
  cases b
  cases b'
  cases hlanes
  cases hlimits
  cases hwaiting
  rfl

/-- However the lanes are gone through, their reports in the order of the sources are the same. -/
theorem Holds.reports_of_perm {history : List Event} (h : Holds b limit history)
    (hlimit : 0 < limit) (hlanes : b'.lanes.Perm b.lanes) (roundTrip : Option Nat)
    {streams : List StreamReport} (hstreams : streams.Perm (b'.reports roundTrip))
    (hsorted : streams.Pairwise fun s t => s.ssrc ≤ t.ssrc) : streams = b.reports roundTrip := by
  have hperm : streams.Perm (b.reports roundTrip) :=
    hstreams.trans ((hlanes.filter _).map _)
  have hordered : ((b.reports roundTrip).map (·.ssrc)).Pairwise (· < ·) :=
    (h.reportsOn hlimit 0 0 roundTrip).ordered
  have hincreasing : (b.reports roundTrip).Pairwise fun s t => s.ssrc < t.ssrc :=
    List.pairwise_map.mp hordered
  have hdistinct : ((b.reports roundTrip).map (·.ssrc)).Nodup := by
    refine hordered.imp ?_
    rintro x y hlt rfl
    exact Std.lt_irrefl hlt
  refine hperm.eq_of_pairwise ?_ hsorted (hincreasing.imp Std.le_of_lt)
  intro s t hs ht hst hts
  exact List.inj_on_of_nodup_map hdistinct (hperm.mem_iff.mp hs) ht (Std.le_antisymm hst hts)

/-- Of two histories of outcomes that agree on every source, and so differ only in how the sources
are interleaved, the counts of waiting packets agree, and whether there is anything to report, the
packets of each source that made way, in their order, and the reports. The report is the same in
whatever order the lanes are gone through and the reports on them sorted. -/
theorem sources_do_not_interfere (hlimit : 0 < limit) (hxs : ∀ e ∈ xs, e.isOutcome = true)
    (hys : ∀ e ∈ ys, e.isOutcome = true) (hsame : ∀ ssrc, eventsOn ssrc xs = eventsOn ssrc ys) :
    (after limit xs).waiting = (after limit ys).waiting ∧
    (after limit xs).isEmpty = (after limit ys).isEmpty ∧
    (∀ ssrc, (evicted limit xs).filter (·.ssrc = ssrc) =
      (evicted limit ys).filter (·.ssrc = ssrc)) ∧
    (∀ sender now roundTrip, ((after limit xs).drain sender now roundTrip).2 =
      ((after limit ys).drain sender now roundTrip).2) ∧
    ∀ b : Backlog, b.lanes.Perm (after limit xs).lanes →
      b.isEmpty = (after limit ys).isEmpty ∧
      ∀ roundTrip streams, streams.Perm (b.reports roundTrip) →
        (streams.Pairwise fun s t => s.ssrc ≤ t.ssrc) →
        streams = (after limit ys).reports roundTrip := by
  have hbacklog := after_eq_of_eventsOn hlimit hxs hys hsame
  rw [hbacklog]
  refine ⟨rfl, rfl, ?_, fun _ _ _ => rfl, ?_⟩
  · intro ssrc
    rw [filter_evicted hlimit hxs, filter_evicted hlimit hys, hsame]
  · intro b hlanes
    exact ⟨hlanes.all_eq, fun roundTrip streams hstreams hsorted =>
      (holds_after hlimit ys).reports_of_perm hlimit hlanes roundTrip hstreams hsorted⟩

/-- Two acks of one source, a loss and an ack of another, one source after the other. -/
def oneByOne : List Event :=
  [.ack ⟨⟨20, 5, 100, ⟨0⟩⟩, 60⟩, .ack ⟨⟨10, 5, 100, ⟨65535⟩⟩, 70⟩, .loss 3,
    .ack ⟨⟨15, 3, 80, ⟨9⟩⟩, 40⟩]

/-- The same outcomes, the sources in turns. -/
def inTurns : List Event :=
  [.loss 3, .ack ⟨⟨20, 5, 100, ⟨0⟩⟩, 60⟩, .ack ⟨⟨15, 3, 80, ⟨9⟩⟩, 40⟩,
    .ack ⟨⟨10, 5, 100, ⟨65535⟩⟩, 70⟩]

/-- If a lane holds one ack, the first ack of source 5 makes way in either order, and the reports
are the same. -/
theorem sources_in_turns :
    oneByOne ≠ inTurns ∧
    (evicted 1 inTurns).filter (·.ssrc = 5) = [⟨20, 5, 100, ⟨0⟩⟩] ∧
    ((after 1 oneByOne).drain 9 90 none).2 = ((after 1 inTurns).drain 9 90 none).2 := by
  have hsame : ∀ ssrc, eventsOn ssrc oneByOne = eventsOn ssrc inTurns := by
    intro ssrc
    by_cases hfive : 5 = ssrc
    · subst hfive
      rfl
    · by_cases hthree : 3 = ssrc
      · subst hthree
        rfl
      · simp [eventsOn, oneByOne, inTurns, Event.ssrc?, hfive, hthree]
  obtain ⟨-, -, hevicted, hreports, -⟩ := sources_do_not_interfere Nat.one_pos (by decide)
    (by decide) hsame
  refine ⟨by decide, ?_, hreports 9 90 none⟩
  rw [← hevicted]
  rfl

end MediaMux.Feedback.Backlog
