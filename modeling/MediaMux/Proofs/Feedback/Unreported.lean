import Mathlib.Data.List.DropRight
import MediaMux.Proofs.Feedback.StreamOrder

/-!
# What a backlog has to report

What waits in a backlog is settled by the outcomes since the last report: of each source the latest
acks, as many as a lane holds, and the number of losses (`Holds.step`). So are all answers of a
backlog, whatever came before (`answers_by_history`).
-/

namespace MediaMux.Feedback

namespace Backlog

/-! ### Histories -/

/-- Something that a backlog takes in or is asked for. -/
inductive Event
  | ack (a : Ack)
  | loss (ssrc : Ssrc)
  | drain (sender : Ssrc) (now : Nat) (roundTrip : Option Nat)
deriving DecidableEq

namespace Event

/-- The source of an outcome. -/
def ssrc? : Event → Option Ssrc
  | ack a => some a.packet.ssrc
  | loss ssrc => some ssrc
  | drain .. => none

/-- Whether the event is an outcome. -/
def isOutcome (e : Event) : Bool := e.ssrc?.isSome

end Event

/-- The backlog after an event. -/
def step (b : Backlog) : Event → Backlog
  | .ack a => (b.takeAck a).1
  | .loss ssrc => b.takeLoss ssrc
  | .drain sender now roundTrip => (b.drain sender now roundTrip).1

/-- A backlog whose lanes hold `limit` acks, after a history. -/
def after (limit : Nat) (history : List Event) : Backlog := history.foldl step { limit := limit }

/-- The outcomes since the last report. -/
def unreported (history : List Event) : List Event := history.rtakeWhile Event.isOutcome

/-- The acks on a source, in the order they came. -/
def acksOn (ssrc : Ssrc) (events : List Event) : List Ack :=
  events.filterMap fun
    | .ack a => if a.packet.ssrc = ssrc then some a else none
    | _ => none

/-- How many losses there are on a source. -/
def lossesOn (ssrc : Ssrc) (events : List Event) : Nat :=
  events.countP fun
    | .loss lost => lost = ssrc
    | _ => false

theorem after_concat (limit : Nat) (history : List Event) (e : Event) :
    after limit (history ++ [e]) = (after limit history).step e := by
  simp [after]

theorem limit_step (b : Backlog) (e : Event) : (b.step e).limit = b.limit := by
  cases e with
  | ack a => exact limit_takeAck b a
  | loss | drain => rfl

theorem limit_after (limit : Nat) (history : List Event) : (after limit history).limit = limit := by
  induction history using List.reverseRecOn with
  | nil => rfl
  | append_singleton history e ih => rw [after_concat, limit_step, ih]

theorem sorted_step {b : Backlog} (h : b.lanes.Sorted) (e : Event) : (b.step e).lanes.Sorted := by
  cases e with
  | ack a =>
    simp only [step, takeAck]
    split <;> exact h.put _ _
  | loss ssrc => exact h.put _ _
  | drain => exact List.Pairwise.nil

theorem sorted_after (limit : Nat) (history : List Event) :
    (after limit history).lanes.Sorted := by
  induction history using List.reverseRecOn with
  | nil => exact List.Pairwise.nil
  | append_singleton history e ih =>
    rw [after_concat]
    exact sorted_step ih e

theorem unreported_concat {e : Event} (h : e.isOutcome = true) (history : List Event) :
    unreported (history ++ [e]) = unreported history ++ [e] :=
  List.rtakeWhile_concat_pos _ _ _ h

theorem unreported_drain (history : List Event) (sender : Ssrc) (now : Nat)
    (roundTrip : Option Nat) : unreported (history ++ [.drain sender now roundTrip]) = [] :=
  List.rtakeWhile_concat_neg _ _ _ (by simp [Event.isOutcome, Event.ssrc?])

theorem acksOn_concat_ack (ssrc : Ssrc) (events : List Event) (a : Ack) :
    acksOn ssrc (events ++ [.ack a]) =
      if a.packet.ssrc = ssrc then acksOn ssrc events ++ [a] else acksOn ssrc events := by
  unfold acksOn
  rw [List.filterMap_append]
  by_cases h : a.packet.ssrc = ssrc <;> simp [h]

theorem acksOn_concat_loss (ssrc : Ssrc) (events : List Event) (lost : Ssrc) :
    acksOn ssrc (events ++ [.loss lost]) = acksOn ssrc events := by
  simp [acksOn]

theorem lossesOn_concat_ack (ssrc : Ssrc) (events : List Event) (a : Ack) :
    lossesOn ssrc (events ++ [.ack a]) = lossesOn ssrc events := by
  simp [lossesOn]

theorem lossesOn_concat_loss (ssrc : Ssrc) (events : List Event) (lost : Ssrc) :
    lossesOn ssrc (events ++ [.loss lost]) =
      if lost = ssrc then lossesOn ssrc events + 1 else lossesOn ssrc events := by
  unfold lossesOn
  rw [List.countP_append]
  by_cases h : lost = ssrc <;> simp [h]

theorem mem_acksOn {ssrc : Ssrc} {events : List Event} {a : Ack} :
    a ∈ acksOn ssrc events ↔ .ack a ∈ events ∧ a.packet.ssrc = ssrc := by
  unfold acksOn
  rw [List.mem_filterMap]
  constructor
  · rintro ⟨e, he, hea⟩
    cases e with
    | ack b =>
      dsimp only at hea
      split at hea
      · next hb =>
        cases hea
        exact ⟨he, hb⟩
      · cases hea
    | loss | drain => cases hea
  · rintro ⟨he, rfl⟩
    exact ⟨.ack a, he, by simp⟩

theorem lossesOn_pos {ssrc : Ssrc} {events : List Event} :
    0 < lossesOn ssrc events ↔ .loss ssrc ∈ events := by
  unfold lossesOn
  rw [List.countP_pos_iff]
  constructor
  · rintro ⟨e, he, hlost⟩
    cases e with
    | loss lost =>
      have hsame : lost = ssrc := of_decide_eq_true hlost
      exact hsame ▸ he
    | ack | drain => cases hlost
  · intro h
    exact ⟨_, h, by simp⟩

/-! ### What waits after a history -/

/-- What waits in `b` is what a history left unreported. Of a source with nothing to report there
may be an empty lane or none. -/
structure Holds (b : Backlog) (limit : Nat) (history : List Event) : Prop where
  limit_eq : b.limit = limit
  sorted : b.lanes.Sorted
  acked : ∀ ssrc, (b.lane ssrc).acked = (acksOn ssrc (unreported history)).rtake limit
  lost : ∀ ssrc, (b.lane ssrc).lost = lossesOn ssrc (unreported history)

variable {b : Backlog} {limit : Nat} {history : List Event}

/-- The latest elements of a list are those of its front, without the oldest if they are as many as
are kept, and the last. -/
theorem rtake_concat {α : Type} (hlimit : 0 < limit) (xs : List α) (x : α) :
    (xs ++ [x]).rtake limit =
      (if limit ≤ (xs.rtake limit).length then (xs.rtake limit).tail else xs.rtake limit) ++
        [x] := by
  obtain ⟨m, rfl⟩ := Nat.exists_eq_succ_of_ne_zero (Nat.ne_of_gt hlimit)
  rw [List.rtake_concat_succ]
  unfold List.rtake
  rw [List.length_drop]
  by_cases hfull : m + 1 ≤ xs.length
  · have hkept : m + 1 ≤ xs.length - (xs.length - (m + 1)) := by omega
    have hnext : xs.length - m = xs.length - (m + 1) + 1 := by omega
    rw [if_pos hkept, List.tail_drop, hnext]
  · have hkept : ¬ m + 1 ≤ xs.length - (xs.length - (m + 1)) := by omega
    have hall : xs.length - m = 0 ∧ xs.length - (m + 1) = 0 := by omega
    rw [if_neg hkept, hall.1, hall.2]

theorem Holds.of_empty (hlimit : b.limit = limit) (hsorted : b.lanes.Sorted)
    (hempty : ∀ ssrc, b.lane ssrc = {}) (h : unreported history = []) : Holds b limit history where
  limit_eq := hlimit
  sorted := hsorted
  acked := by
    intro ssrc
    rw [hempty, h]
    exact (List.rtake_nil _).symm
  lost := by
    intro ssrc
    rw [hempty, h]
    rfl

theorem Holds.takeAck (h : Holds b limit history) (hlimit : 0 < limit) (a : Ack) :
    Holds (b.takeAck a).1 limit (history ++ [.ack a]) := by
  have hevents := unreported_concat (e := .ack a) rfl history
  refine ⟨(limit_takeAck b a).trans h.limit_eq, sorted_step h.sorted (.ack a), ?_, ?_⟩
  · intro ssrc
    rw [lane_takeAck, hevents, acksOn_concat_ack]
    by_cases hssrc : a.packet.ssrc = ssrc
    · rw [if_pos hssrc, if_pos hssrc, rtake_concat hlimit, ← h.acked ssrc, ← h.limit_eq]
      simp only [Lane.takeAck, Lane.isFull, decide_eq_true_eq]
    · rw [if_neg hssrc, if_neg hssrc]
      exact h.acked ssrc
  · intro ssrc
    rw [lane_takeAck, hevents, lossesOn_concat_ack, ← h.lost ssrc]
    split <;> rfl

theorem Holds.takeLoss (h : Holds b limit history) (lost : Ssrc) :
    Holds (b.takeLoss lost) limit (history ++ [.loss lost]) := by
  have hevents := unreported_concat (e := .loss lost) rfl history
  refine ⟨h.limit_eq, h.sorted.put _ _, ?_, ?_⟩
  · intro ssrc
    rw [lane_takeLoss, hevents, acksOn_concat_loss, ← h.acked ssrc]
    split <;> rfl
  · intro ssrc
    rw [lane_takeLoss, hevents, lossesOn_concat_loss, ← h.lost ssrc]
    split <;> rfl

theorem Holds.drain (h : Holds b limit history) (sender : Ssrc) (now : Nat)
    (roundTrip : Option Nat) :
    Holds (b.drain sender now roundTrip).1 limit (history ++ [.drain sender now roundTrip]) :=
  .of_empty h.limit_eq List.Pairwise.nil (lane_drain b sender now roundTrip)
    (unreported_drain history sender now roundTrip)

theorem Holds.step (h : Holds b limit history) (hlimit : 0 < limit) (e : Event) :
    Holds (b.step e) limit (history ++ [e]) := by
  cases e with
  | ack a => exact h.takeAck hlimit a
  | loss ssrc => exact h.takeLoss ssrc
  | drain sender now roundTrip => exact h.drain sender now roundTrip

theorem holds_after (hlimit : 0 < limit) (history : List Event) :
    Holds (after limit history) limit history := by
  induction history using List.reverseRecOn with
  | nil => exact .of_empty rfl List.Pairwise.nil (lane_empty limit) rfl
  | append_singleton history e ih =>
    rw [after_concat]
    exact ih.step hlimit e

/-! ### Answers -/

theorem Holds.ssrc_of_mem (h : Holds b limit history) {ssrc : Ssrc} {a : Ack}
    (ha : a ∈ (b.lane ssrc).acked) : a.packet.ssrc = ssrc := by
  rw [h.acked] at ha
  exact (mem_acksOn.mp (List.mem_of_mem_drop ha)).2

/-- The packet that makes way is the one that was acked as many acks earlier as a lane holds. -/
theorem Holds.evicted?_takeAck (h : Holds b limit history) (a : Ack) (p : SentPacket) :
    (b.takeAck a).2.evicted? = some p ↔
      limit ≤ (acksOn a.packet.ssrc (unreported history)).length ∧
        ((acksOn a.packet.ssrc (unreported history))[
          (acksOn a.packet.ssrc (unreported history)).length - limit]?).map (·.packet) =
            some p := by
  have hacked := h.acked a.packet.ssrc
  generalize acksOn a.packet.ssrc (unreported history) = past at hacked ⊢
  have hlength : (b.lane a.packet.ssrc).acked.length = past.length - (past.length - limit) := by
    rw [hacked, List.rtake, List.length_drop]
  have hhead : (b.lane a.packet.ssrc).acked.head? = past[past.length - limit]? := by
    rw [hacked, List.rtake, List.head?_drop]
  simp only [Backlog.takeAck, Lane.isFull, h.limit_eq, hlength]
  by_cases hfull : limit ≤ past.length
  · have hlane : limit ≤ past.length - (past.length - limit) := by omega
    simp [hlane, hfull, Admission.evicted?, hhead]
  · have hlane : ¬ limit ≤ past.length - (past.length - limit) := by omega
    simp [hlane, hfull, Admission.evicted?]

/-- A source has something to report if there was an outcome on it. -/
theorem Holds.isEmpty_lane (h : Holds b limit history) (hlimit : 0 < limit) (ssrc : Ssrc) :
    (b.lane ssrc).isEmpty = false ↔ ∃ e ∈ unreported history, e.ssrc? = some ssrc := by
  have hacked : (b.lane ssrc).acked = [] ↔ acksOn ssrc (unreported history) = [] := by
    rw [h.acked, List.rtake, List.drop_eq_nil_iff]
    constructor
    · intro hle
      exact List.length_eq_zero_iff.mp (by omega)
    · intro hnil
      simp [hnil]
  have hlane : (b.lane ssrc).isEmpty = false ↔
      ¬ ((b.lane ssrc).acked = [] ∧ (b.lane ssrc).lost = 0) := by
    simp [Lane.isEmpty]
  rw [hlane, hacked, h.lost]
  constructor
  · intro hsome
    by_cases hnil : acksOn ssrc (unreported history) = []
    · have hpos : 0 < lossesOn ssrc (unreported history) :=
        Nat.pos_of_ne_zero fun hzero => hsome ⟨hnil, hzero⟩
      exact ⟨_, lossesOn_pos.mp hpos, rfl⟩
    · obtain ⟨a, ha⟩ := List.exists_mem_of_ne_nil _ hnil
      obtain ⟨he, hssrc⟩ := mem_acksOn.mp ha
      exact ⟨_, he, congrArg some hssrc⟩
  · rintro ⟨e, he, hssrc⟩ ⟨hnil, hzero⟩
    cases e with
    | ack a =>
      have ha : a ∈ acksOn ssrc (unreported history) := mem_acksOn.mpr ⟨he, Option.some.inj hssrc⟩
      simp [hnil] at ha
    | loss lost =>
      cases hssrc
      have := lossesOn_pos.mpr he
      omega
    | drain => cases hssrc

theorem Holds.mem_lanes (h : Holds b limit history) {e : Ssrc × Lane} (he : e ∈ b.lanes) :
    b.lane e.1 = e.2 := by
  rw [lane, h.sorted.get?_of_mem he]
  rfl

theorem Holds.mem_reports (h : Holds b limit history) (roundTrip : Option Nat)
    {s : StreamReport} :
    s ∈ b.reports roundTrip ↔
      ∃ ssrc, (b.lane ssrc).isEmpty = false ∧ s = (b.lane ssrc).report ssrc roundTrip := by
  simp only [reports, List.mem_map, List.mem_filter, Bool.not_eq_true']
  constructor
  · rintro ⟨e, ⟨he, hempty⟩, rfl⟩
    rw [← h.mem_lanes he] at hempty
    exact ⟨e.1, hempty, by rw [h.mem_lanes he]⟩
  · rintro ⟨ssrc, hempty, rfl⟩
    cases hl : b.lanes.get? ssrc with
    | none => simp [lane, hl, Lane.isEmpty] at hempty
    | some l =>
      have hlane : b.lane ssrc = l := by simp [lane, hl]
      exact ⟨(ssrc, l), ⟨get?_mem hl, hlane ▸ hempty⟩, by rw [hlane]⟩

/-- A report on outcomes, with at most `limit` acks of a source. -/
structure ReportsOn (r : Report) (limit : Nat) (events : List Event) : Prop where
  ordered : (r.streams.map (·.ssrc)).Pairwise (· < ·)
  sources : ∀ ssrc, (∃ s ∈ r.streams, s.ssrc = ssrc) ↔ ∃ e ∈ events, e.ssrc? = some ssrc
  streams : ∀ s ∈ r.streams,
    s.Covers ((acksOn s.ssrc events).rtake limit) (lossesOn s.ssrc events)

theorem Holds.reportsOn (h : Holds b limit history) (hlimit : 0 < limit) (sender : Ssrc)
    (now : Nat) (roundTrip : Option Nat) :
    ReportsOn ⟨sender, now, roundTrip, b.reports roundTrip⟩ limit (unreported history) where
  ordered := by
    have hkeys : (b.reports roundTrip).map (·.ssrc) =
        (b.lanes.filter fun e => !e.2.isEmpty).map (·.1) := by
      rw [reports, List.map_map]
      rfl
    rw [hkeys, List.pairwise_map]
    exact h.sorted.sublist List.filter_sublist
  sources := by
    intro ssrc
    rw [← h.isEmpty_lane hlimit]
    constructor
    · rintro ⟨s, hs, rfl⟩
      obtain ⟨ssrc, hempty, rfl⟩ := (h.mem_reports roundTrip).mp hs
      exact hempty
    · intro hempty
      exact ⟨_, (h.mem_reports roundTrip).mpr ⟨ssrc, hempty, rfl⟩, rfl⟩
  streams := by
    intro s hs
    obtain ⟨ssrc, -, rfl⟩ := (h.mem_reports roundTrip).mp hs
    have hkeyed : ∀ a ∈ (b.lane ssrc).acked, a.packet.ssrc = ssrc := fun a ha => h.ssrc_of_mem ha
    have hcovers := Lane.covers_report roundTrip hkeyed
    rw [h.acked, h.lost] at hcovers
    exact hcovers

theorem Holds.reports_eq_nil (h : Holds b limit history) (hlimit : 0 < limit)
    (roundTrip : Option Nat) : b.reports roundTrip = [] ↔ unreported history = [] := by
  constructor
  · intro hnil
    refine List.eq_nil_iff_forall_not_mem.mpr ?_
    intro e he
    have houtcome : e.isOutcome = true := List.mem_rtakeWhile_imp he
    obtain ⟨ssrc, hssrc⟩ := Option.isSome_iff_exists.mp houtcome
    have hempty := (h.isEmpty_lane hlimit ssrc).mpr ⟨e, he, hssrc⟩
    have hmem := (h.mem_reports roundTrip).mpr ⟨ssrc, hempty, rfl⟩
    rw [hnil] at hmem
    cases hmem
  · intro hnil
    refine List.eq_nil_iff_forall_not_mem.mpr ?_
    intro s hs
    obtain ⟨ssrc, hempty, -⟩ := (h.mem_reports roundTrip).mp hs
    obtain ⟨e, he, -⟩ := (h.isEmpty_lane hlimit ssrc).mp hempty
    rw [hnil] at he
    cases he

/-- What a backlog answers depends on the outcomes since the last report only. When an ack comes, a
packet makes way if its source has had as many acks as a lane holds, and it is the packet that was
acked that many acks earlier. There is no report if there was no outcome. Otherwise the report is
on the sources of the outcomes, in their order, each with its latest acks, as many as a lane holds,
and its losses. -/
theorem answers_by_history (hlimit : 0 < limit) (history : List Event) :
    (∀ (a : Ack) (p : SentPacket),
      ((after limit history).takeAck a).2.evicted? = some p ↔
        limit ≤ (acksOn a.packet.ssrc (unreported history)).length ∧
          ((acksOn a.packet.ssrc (unreported history))[
            (acksOn a.packet.ssrc (unreported history)).length - limit]?).map (·.packet) =
              some p) ∧
    ∀ (sender : Ssrc) (now : Nat) (roundTrip : Option Nat),
      (((after limit history).drain sender now roundTrip).2 = none ↔
        unreported history = []) ∧
      ∀ report, ((after limit history).drain sender now roundTrip).2 = some report →
        report.sender = sender ∧ report.madeAt = now ∧ report.roundTrip = roundTrip ∧
          ReportsOn report limit (unreported history) := by
  have h := holds_after hlimit history
  refine ⟨h.evicted?_takeAck, ?_⟩
  intro sender now roundTrip
  have hnil := h.reports_eq_nil hlimit roundTrip
  have hreport := h.reportsOn hlimit sender now roundTrip
  simp only [Backlog.drain]
  generalize (after limit history).reports roundTrip = streams at hnil hreport
  cases streams with
  | nil => exact ⟨by simpa using hnil, by simp⟩
  | cons s rest =>
    refine ⟨by simpa using hnil, ?_⟩
    intro report hr
    simp only [List.isEmpty_cons, Bool.false_eq_true, if_false, Option.some.injEq] at hr
    subst hr
    exact ⟨rfl, rfl, rfl, hreport⟩

/-- Two acks of one source, around the wrap of the sequence numbers, and a loss of another. -/
def aroundWrap : List Event :=
  [.ack ⟨⟨20, 5, 100, ⟨0⟩⟩, 60⟩, .ack ⟨⟨10, 5, 100, ⟨65535⟩⟩, 70⟩, .loss 7]

/-- If a lane holds two acks, both are reported, and the older one makes way for a third. -/
theorem report_around_wrap :
    ((after 2 aroundWrap).takeAck ⟨⟨30, 5, 100, ⟨1⟩⟩, 80⟩).2.evicted? =
        some ⟨20, 5, 100, ⟨0⟩⟩ ∧
      ∃ report, ((after 2 aroundWrap).drain 9 90 none).2 = some report ∧
        ReportsOn report 2 aroundWrap := by
  obtain ⟨hack, hdrain⟩ := answers_by_history Nat.two_pos aroundWrap
  refine ⟨(hack _ _).mpr (by decide), _, rfl, ?_⟩
  exact ((hdrain 9 90 none).2 _ rfl).2.2.2

end Backlog

end MediaMux.Feedback
