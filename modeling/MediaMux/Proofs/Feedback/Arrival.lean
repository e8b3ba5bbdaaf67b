import Mathlib.Data.List.Forall2
import MediaMux.Proofs.Feedback.Contents

/-!
# Estimated arrivals

A packet is thought to have arrived half a round trip before its ack, but not before it was sent
(`Lane.clamped_arrival`). The longer the round trip, the earlier the estimate (`Lane.arrival_anti`),
so a report on the same acks with a longer round trip is the same but for earlier arrivals
(`Backlog.arrival_estimates`).
-/

namespace MediaMux.Feedback

/-- The arrival of an entry is estimated with half a round trip `halfTrip`. -/
structure ReportedPacket.Estimated (p : ReportedPacket) (halfTrip : Nat) : Prop where
  sent_le : p.sentAt ≤ p.arrival
  arrival_le : p.arrival ≤ max p.sentAt p.ackedAt
  /-- Over the integers, where the difference may lie before the base of time. -/
  clamped : (p.arrival : Int) = max ((p.ackedAt : Int) - halfTrip) p.sentAt
  transit : p.transitTime = p.ackedAt - p.sentAt - halfTrip
  /-- The time on the way is a difference that is not negative. -/
  exact : (p.transitTime : Int) = p.arrival - p.sentAt

/-- The entry is `p` but for its arrival, which is not later. -/
structure ReportedPacket.ArrivesBy (p' p : ReportedPacket) : Prop where
  same : p' = { p with arrival := p'.arrival }
  arrival_le : p'.arrival ≤ p.arrival

/-- The report on a source is `s` but for the arrivals, none of which is later. -/
structure StreamReport.ArrivesBy (s' s : StreamReport) : Prop where
  same : s' = { s with packets := s'.packets }
  packets : List.Forall₂ ReportedPacket.ArrivesBy s'.packets s.packets

namespace Lane

/-- A point before the base of time is no later than any send time, so the estimate is the same
whether or not the difference can be formed. -/
theorem clamped_arrival (halfTrip : Nat) (a : Ack) :
    (arrival halfTrip a : Int) = max ((a.ackedAt : Int) - halfTrip) a.packet.sentAt := by
  unfold arrival earlier?
  split
  · next hle =>
    rw [Option.getD_some]
    omega
  · next hlt =>
    have hbefore : (a.ackedAt : Int) - halfTrip ≤ a.packet.sentAt := by omega
    rw [Option.getD_none]
    omega

theorem estimated_reported (halfTrip : Nat) (a : Ack) :
    (reported halfTrip a).Estimated halfTrip := by
  have hclamped := clamped_arrival halfTrip a
  have hsent : a.packet.sentAt ≤ arrival halfTrip a := Nat.le_max_right _ _
  refine ⟨hsent, ?_, hclamped, ?_, Int.ofNat_sub hsent⟩
  · show arrival halfTrip a ≤ max a.packet.sentAt a.ackedAt
    omega
  · show arrival halfTrip a - a.packet.sentAt = a.ackedAt - a.packet.sentAt - halfTrip
    omega

theorem arrival_anti {halfTrip longer : Nat} (h : halfTrip ≤ longer) (a : Ack) :
    arrival longer a ≤ arrival halfTrip a := by
  have hshort := clamped_arrival halfTrip a
  have hlong := clamped_arrival longer a
  omega

theorem packets_report (l : Lane) (ssrc : Ssrc) (roundTrip : Option Nat) :
    (l.report ssrc roundTrip).packets =
      (l.acked.mergeSort fun a b => decide (a.packet.sequenceNumber.stepsAfter l.origin ≤
        b.packet.sequenceNumber.stepsAfter l.origin)).map (reported (roundTrip.getD 0 / 2)) := by
  symm
  exact List.map_mergeSort fun _ _ _ _ => rfl

theorem report_arrivesBy (l : Lane) (ssrc : Ssrc) {roundTrip longer : Option Nat}
    (h : roundTrip.getD 0 ≤ longer.getD 0) :
    (l.report ssrc longer).ArrivesBy (l.report ssrc roundTrip) := by
  refine ⟨rfl, ?_⟩
  rw [packets_report, packets_report, List.forall₂_map_left_iff, List.forall₂_map_right_iff,
    List.forall₂_same]
  intro a _
  exact ⟨rfl, arrival_anti (Nat.div_le_div_right h) a⟩

end Lane

namespace Backlog

variable {b : Backlog} {sender : Ssrc} {now : Nat} {roundTrip : Option Nat} {report : Report}

theorem mem_packets_reports {s : StreamReport} {p : ReportedPacket}
    (hs : s ∈ b.reports roundTrip) (hp : p ∈ s.packets) :
    ∃ a, p = Lane.reported (roundTrip.getD 0 / 2) a := by
  obtain ⟨e, -, rfl⟩ := List.mem_map.mp hs
  rw [Lane.packets_report] at hp
  obtain ⟨a, -, rfl⟩ := List.mem_map.mp hp
  exact ⟨a, rfl⟩

/-- In a report with a round-trip time, or without one, which counts as zero, every packet arrived
between its send time and the later of that and its ack, half a round trip before the ack unless
that is before it was sent. Its time on the way is what the ack took less half a round trip, and
zero if that is less. With the same contents and a longer round trip there is the same report, but
for the arrivals, and none of these is later. -/
theorem arrival_estimates (hreport : (b.drain sender now roundTrip).2 = some report) :
    (∀ s ∈ report.streams, ∀ p ∈ s.packets, p.Estimated (roundTrip.getD 0 / 2)) ∧
    ∀ longer, roundTrip.getD 0 ≤ longer.getD 0 →
      ∃ later, (b.drain sender now longer).2 = some later ∧
        List.Forall₂ StreamReport.ArrivesBy later.streams report.streams := by
  obtain ⟨-, rfl, hsome⟩ := drain_eq_some (Prod.ext rfl hreport)
  refine ⟨?_, ?_⟩
  · intro s hs p hp
    obtain ⟨a, rfl⟩ := mem_packets_reports hs hp
    exact Lane.estimated_reported _ a
  · intro longer hle
    have hstreams : List.Forall₂ StreamReport.ArrivesBy (b.reports longer)
        (b.reports roundTrip) := by
      unfold reports
      rw [List.forall₂_map_left_iff, List.forall₂_map_right_iff, List.forall₂_same]
      intro e _
      exact e.2.report_arrivesBy e.1 hle
    have hfull : b.reports longer ≠ [] := by
      intro hnil
      rw [hnil, List.forall₂_nil_left_iff] at hstreams
      exact hsome hstreams
    refine ⟨⟨sender, now, longer, b.reports longer⟩, ?_, hstreams⟩
    simp [drain, hfull]

/-- One packet was acked before it was sent, by the clock, and one soon after. A round trip beyond
the base of time makes no arrival later. -/
theorem arrival_of_early_ack :
    let b := ((({ limit := 16 } : Backlog).takeAck ⟨⟨50, 5, 100, ⟨7⟩⟩, 20⟩).1.takeAck
      ⟨⟨60, 5, 100, ⟨8⟩⟩, 65⟩).1
    ∃ report later, (b.drain 9 90 none).2 = some report ∧
      (b.drain 9 90 (some 1000)).2 = some later ∧
      (∀ s ∈ report.streams, ∀ p ∈ s.packets, p.Estimated 0) ∧
      List.Forall₂ StreamReport.ArrivesBy later.streams report.streams := by
  intro b
  obtain ⟨report, hreport⟩ : ∃ report, (b.drain 9 90 none).2 = some report := ⟨_, rfl⟩
  obtain ⟨hestimated, hlater⟩ := arrival_estimates hreport
  obtain ⟨later, hlonger, harrives⟩ := hlater (some 1000) (Nat.zero_le _)
  exact ⟨report, later, hreport, hlonger, hestimated, harrives⟩

end Backlog

end MediaMux.Feedback
