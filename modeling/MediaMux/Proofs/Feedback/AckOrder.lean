import Mathlib.Data.List.Nodup
import MediaMux.Proofs.Feedback.Unreported

/-!
# The order of acks

As long as the acks of a source fit into its lane, the lane holds them in the order they came
(`Backlog.lane_after`). If no two are of one number or were sent at one time, the report on them has
a single starting point and a single order (`Lane.report_of_perm`), so it says the same on the
source whichever of its acks came first (`Backlog.reported_in_any_ack_order`).
-/

namespace MediaMux.Feedback

namespace Lane

variable {l l' : Lane}

theorem sortFrom_of_perm {packets packets' : List ReportedPacket} (hperm : packets.Perm packets')
    (hnumbers : (packets.map (·.sequenceNumber)).Nodup) (origin : SequenceNumber) :
    sortFrom origin packets = sortFrom origin packets' := by
  have hentries : (sortFrom origin packets).Perm packets := sortFrom_perm origin packets
  have hentries' : (sortFrom origin packets').Perm packets :=
    (sortFrom_perm origin packets').trans hperm.symm
  refine (hentries.trans hentries'.symm).eq_of_pairwise ?_ (sortFrom_pairwise origin packets)
    (sortFrom_pairwise origin packets')
  intro p q hp hq hpq hqp
  have hsame : p.sequenceNumber = q.sequenceNumber :=
    SequenceNumber.stepsAfter_inj.mp (Nat.le_antisymm hpq hqp)
  exact List.inj_on_of_nodup_map hnumbers (hentries.mem_iff.mp hp) (hentries'.mem_iff.mp hq) hsame

/-- Of packets that were sent at different times, one was sent first. -/
theorem origin_of_perm (hperm : l.acked.Perm l'.acked)
    (htimes : (l.acked.map (·.packet.sentAt)).Nodup) : l.origin = l'.origin := by
  rcases l.origin_cases with ⟨hnil, horigin⟩ | ⟨a, ha, horigin⟩
  · rcases l'.origin_cases with ⟨-, horigin'⟩ | ⟨b, hb, -⟩
    · rw [horigin, horigin']
    · have hmem := hperm.mem_iff.mpr hb.mem
      rw [hnil] at hmem
      cases hmem
  · rcases l'.origin_cases with ⟨hnil', -⟩ | ⟨b, hb, horigin'⟩
    · have hmem := hperm.mem_iff.mp ha.mem
      rw [hnil'] at hmem
      cases hmem
    · have hb' : b ∈ l.acked := hperm.mem_iff.mpr hb.mem
      have htime : a.packet.sentAt = b.packet.sentAt :=
        Nat.le_antisymm (ha.le hb') (hb.le (hperm.mem_iff.mp ha.mem))
      rw [horigin, horigin', List.inj_on_of_nodup_map htimes ha.mem hb' htime]

/-- Lanes that hold the same acks in different orders are reported in the same way, but for their
losses. -/
theorem report_of_perm (hperm : l.acked.Perm l'.acked)
    (hnumbers : (l.acked.map (·.packet.sequenceNumber)).Nodup)
    (htimes : (l.acked.map (·.packet.sentAt)).Nodup) (ssrc : Ssrc) (roundTrip : Option Nat) :
    l.report ssrc roundTrip = { l'.report ssrc roundTrip with lost := l.lost } := by
  have hentries := hperm.map (reported (roundTrip.getD 0 / 2))
  have hdistinct :
      ((l.acked.map (reported (roundTrip.getD 0 / 2))).map (·.sequenceNumber)).Nodup := by
    rw [List.map_map]
    exact hnumbers
  simp only [report]
  rw [origin_of_perm hperm htimes, sortFrom_of_perm hentries hdistinct]

end Lane

namespace Backlog

theorem stream?_drain {b : Backlog} (hsorted : b.lanes.Sorted) (sender : Ssrc) (now : Nat)
    (roundTrip : Option Nat) (ssrc : Ssrc) :
    (b.drain sender now roundTrip).2.bind (·.stream? ssrc) =
      if (b.lane ssrc).isEmpty then none else some ((b.lane ssrc).report ssrc roundTrip) := by
  have hdrain : (b.drain sender now roundTrip).2.bind (·.stream? ssrc) =
      (b.reports roundTrip).find? (·.ssrc = ssrc) := by
    simp only [drain]
    cases b.reports roundTrip <;> rfl
  have hfind := hsorted.find?_filter (fun l => !l.isEmpty) ssrc
  rw [hdrain, reports, List.find?_map]
  show ((b.lanes.filter fun e => !e.2.isEmpty).find? fun e => e.1 = ssrc).map _ = _
  rw [hfind, lane]
  cases b.lanes.get? ssrc with
  | none => rfl
  | some l => by_cases hl : l.isEmpty = true <;> simp [hl]

variable {limit : Nat} {ssrc : Ssrc}

/-- As long as the acks of a source fit into its lane, none makes way. -/
theorem lane_after {history : List Event}
    (hfits : (acksOn ssrc (unreported history)).length ≤ limit) :
    (after limit history).lane ssrc =
      ⟨acksOn ssrc (unreported history), lossesOn ssrc (unreported history)⟩ := by
  induction history using List.reverseRecOn with
  | nil => rfl
  | append_singleton history e ih =>
    rw [after_concat]
    cases e with
    | ack a =>
      rw [unreported_concat rfl, acksOn_concat_ack] at hfits ⊢
      rw [lossesOn_concat_ack, step, lane_takeAck, limit_after]
      split at hfits
      · next hssrc =>
        rw [List.length_append, List.length_singleton] at hfits
        have hroom : ¬ limit ≤ (acksOn ssrc (unreported history)).length := by omega
        rw [if_pos hssrc, if_pos hssrc, ih (by omega)]
        simp [Lane.takeAck, Lane.isFull, hroom]
      · next hssrc => rw [if_neg hssrc, if_neg hssrc, ih hfits]
    | loss lost =>
      rw [unreported_concat rfl, acksOn_concat_loss] at hfits ⊢
      rw [lossesOn_concat_loss, step, lane_takeLoss, ih hfits]
      split <;> rfl
    | drain sender now roundTrip =>
      rw [unreported_drain, step, lane_drain]
      rfl

/-- Take acks of one source that its lane can hold, no two of one number or sent at one time.
Whatever the order in which they come, with whatever losses, outcomes on other sources and earlier
reports in between, the next report says the same on the source: the same packets in the same order,
from the same number on. Only the losses are those of the history. -/
theorem reported_in_any_ack_order {pending : List Ack} (hfits : pending.length ≤ limit)
    (hsource : ∀ a ∈ pending, a.packet.ssrc = ssrc)
    (hnumbers : pending.Pairwise fun a b => a.packet.sequenceNumber ≠ b.packet.sequenceNumber)
    (htimes : pending.Pairwise fun a b => a.packet.sentAt ≠ b.packet.sentAt)
    (roundTrip : Option Nat) :
    ∃ s : StreamReport, s.ssrc = ssrc ∧ s.Covers pending 0 ∧
      ∀ history, (acksOn ssrc (unreported history)).Perm pending → ∀ sender now,
        ((after limit history).drain sender now roundTrip).2.bind (·.stream? ssrc) =
          if pending = [] ∧ lossesOn ssrc (unreported history) = 0 then none
          else some { s with lost := lossesOn ssrc (unreported history) } := by
  refine ⟨(⟨pending, 0⟩ : Lane).report ssrc roundTrip, rfl, Lane.covers_report roundTrip hsource,
    ?_⟩
  intro history hperm sender now
  have hlane := lane_after (hperm.length_eq.trans_le hfits)
  have hreport : (⟨pending, lossesOn ssrc (unreported history)⟩ : Lane).report ssrc roundTrip =
      ((after limit history).lane ssrc).report ssrc roundTrip := by
    rw [hlane]
    exact Lane.report_of_perm hperm.symm (List.pairwise_map.mpr hnumbers)
      (List.pairwise_map.mpr htimes) ssrc roundTrip
  have hnil : acksOn ssrc (unreported history) = [] ↔ pending = [] := by
    rw [← List.length_eq_zero_iff, hperm.length_eq, List.length_eq_zero_iff]
  have hempty : ((after limit history).lane ssrc).isEmpty = true ↔
      pending = [] ∧ lossesOn ssrc (unreported history) = 0 := by
    simp [hlane, Lane.isEmpty, hnil]
  rw [stream?_drain (sorted_after limit history), ← hreport]
  simp only [hempty]
  rfl

/-- Three packets around the wrap of the sequence numbers, in the order they were sent. -/
def sentAroundWrap : List Ack :=
  [⟨⟨10, 5, 100, ⟨65535⟩⟩, 80⟩, ⟨⟨20, 5, 100, ⟨0⟩⟩, 60⟩, ⟨⟨30, 5, 100, ⟨1⟩⟩, 70⟩]

/-- Their acks in this order, after a loss. -/
def ackedAsSent : List Event := .loss 5 :: sentAroundWrap.map .ack

/-- Their acks in the order of time, with a loss and another source in between. -/
def ackedInTime : List Event :=
  [.ack ⟨⟨20, 5, 100, ⟨0⟩⟩, 60⟩, .loss 5, .ack ⟨⟨30, 5, 100, ⟨1⟩⟩, 70⟩, .ack ⟨⟨15, 3, 80, ⟨0⟩⟩, 75⟩,
    .ack ⟨⟨10, 5, 100, ⟨65535⟩⟩, 80⟩]

/-- The reports after both say the same on the source. -/
theorem reported_in_either_ack_order :
    ∃ s : StreamReport, s.Covers sentAroundWrap 0 ∧
      ((after 3 ackedAsSent).drain 9 90 (some 40)).2.bind (·.stream? 5) =
        some { s with lost := 1 } ∧
      ((after 3 ackedInTime).drain 9 90 (some 40)).2.bind (·.stream? 5) =
        some { s with lost := 1 } := by
  have hfits : sentAroundWrap.length ≤ 3 := by decide
  have hsource : ∀ a ∈ sentAroundWrap, a.packet.ssrc = 5 := by decide
  obtain ⟨s, -, hcovers, hsame⟩ :=
    reported_in_any_ack_order hfits hsource (by decide) (by decide) (some 40)
  exact ⟨s, hcovers, hsame ackedAsSent (by decide) 9 90, hsame ackedInTime (by decide) 9 90⟩

end Backlog

end MediaMux.Feedback
