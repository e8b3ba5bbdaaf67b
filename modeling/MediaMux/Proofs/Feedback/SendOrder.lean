import Mathlib.Data.Finset.Max
import MediaMux.Proofs.Feedback.Unreported

/-!
# Packets sent in sequence

The packets of a source were sent in sequence if each has an offset of its own from some sequence
number, and none was sent before one of a smaller offset (`SentInSequence`); several may have been
sent at one time. The report on them starts from the packet that was sent first, of several the one
that was acked first. So they are listed in sequence exactly if this is the packet of the smallest
offset (`reported_in_sequence_iff`). It is if no two were sent at one time
(`reported_in_sequence`), and need not be otherwise (`reported_out_of_sequence`).
-/

namespace MediaMux

namespace SequenceNumber

theorem stepsAfter_advance_advance (start : SequenceNumber) {m n : Nat} (hle : m ≤ n)
    (hn : n < UInt16.size) : (start.advance n).stepsAfter (start.advance m) = n - m := by
  have hsteps : n - m < UInt16.size := Nat.lt_of_le_of_lt (Nat.sub_le n m) hn
  have hsum : start.advance n = (start.advance m).advance (n - m) := by
    simp only [advance, UInt16.add_assoc, ← UInt16.ofNat_add, Nat.add_sub_cancel' hle]
  rw [hsum, stepsAfter_advance hsteps]

theorem advance_inj {start : SequenceNumber} {m n : Nat} (hm : m < UInt16.size)
    (hn : n < UInt16.size) (h : start.advance m = start.advance n) : m = n := by
  rw [← @stepsAfter_advance start m hm, h, stepsAfter_advance hn]

end SequenceNumber

namespace Feedback

theorem SentFirst.unique {acks : List Ack} {a b : Ack} (ha : SentFirst acks a)
    (hb : SentFirst acks b) : a = b := by
  have hab := ha.le hb.mem
  have hba := hb.le ha.mem
  obtain ⟨before, after, hacks, hbefore, -⟩ := ha
  obtain ⟨before', after', hacks', hbefore', -⟩ := hb
  -- the one further to the right would have been sent before the other
  rw [hacks] at hacks'
  rcases List.append_eq_append_iff.mp hacks' with ⟨middle, hfront, hback⟩ | ⟨middle, hfront, hback⟩
  · cases middle with
    | nil => exact (List.cons.inj hback).1
    | cons x middle =>
      obtain ⟨rfl, -⟩ := List.cons.inj hback
      have := hbefore' a (hfront ▸ List.mem_append_right _ List.mem_cons_self)
      omega
  · cases middle with
    | nil => exact (List.cons.inj hback).1.symm
    | cons x middle =>
      obtain ⟨rfl, -⟩ := List.cons.inj hback
      have := hbefore b (hfront ▸ List.mem_append_right _ List.mem_cons_self)
      omega

/-! ### Sequences -/

/-- The packets of `acks` were sent in sequence: each is numbered by an offset of its own from
`start`, and none was sent before one of a smaller offset. -/
structure SentInSequence (start : SequenceNumber) (offset : Ack → Nat) (acks : List Ack) :
    Prop where
  lt : ∀ a ∈ acks, offset a < UInt16.size
  number : ∀ a ∈ acks, a.packet.sequenceNumber = start.advance (offset a)
  distinct : (acks.map offset).Nodup
  sent : ∀ a ∈ acks, ∀ b ∈ acks, offset a ≤ offset b → a.packet.sentAt ≤ b.packet.sentAt

/-- The report on a source lists its packets by their offsets, and starts from the number of the
smallest. -/
structure StreamReport.InSequence (s : StreamReport) (offset : Ack → Nat) : Prop where
  increasing : s.acks.Pairwise fun a b => offset a < offset b
  origin : ∀ a ∈ s.acks, (∀ b ∈ s.acks, offset a ≤ offset b) →
    s.origin = a.packet.sequenceNumber

theorem exists_smallest (offset : Ack → Nat) {acks : List Ack} (h : acks ≠ []) :
    ∃ a ∈ acks, ∀ b ∈ acks, offset a ≤ offset b := by
  simpa using acks.toFinset.exists_min_image offset (List.toFinset_nonempty_iff acks |>.mpr h)

namespace SentInSequence

variable {start : SequenceNumber} {offset : Ack → Nat} {acks : List Ack}

theorem eq_of_offset (h : SentInSequence start offset acks) {a b : Ack} (ha : a ∈ acks)
    (hb : b ∈ acks) (hoffset : offset a = offset b) : a = b :=
  List.inj_on_of_nodup_map h.distinct ha hb hoffset

theorem eq_of_number (h : SentInSequence start offset acks) {a b : Ack} (ha : a ∈ acks)
    (hb : b ∈ acks) (hnumber : a.packet.sequenceNumber = b.packet.sequenceNumber) : a = b := by
  rw [h.number a ha, h.number b hb] at hnumber
  exact h.eq_of_offset ha hb (SequenceNumber.advance_inj (h.lt a ha) (h.lt b hb) hnumber)

theorem stepsAfter (h : SentInSequence start offset acks) {a b : Ack} (ha : a ∈ acks)
    (hb : b ∈ acks) (hle : offset a ≤ offset b) :
    b.packet.sequenceNumber.stepsAfter a.packet.sequenceNumber = offset b - offset a := by
  rw [h.number a ha, h.number b hb]
  exact SequenceNumber.stepsAfter_advance_advance start hle (h.lt b hb)

/-- Of packets that were sent at different times, the one of the smallest offset was sent first. -/
theorem sentFirst (h : SentInSequence start offset acks)
    (hsent : acks.Pairwise fun a b => a.packet.sentAt ≠ b.packet.sentAt) {a : Ack} (ha : a ∈ acks)
    (hleast : ∀ b ∈ acks, offset a ≤ offset b) : SentFirst acks a := by
  obtain ⟨before, after, rfl⟩ := List.append_of_mem ha
  refine ⟨before, after, rfl, ?_, ?_⟩
  · intro b hb
    have hmem : b ∈ before ++ a :: after := List.mem_append_left _ hb
    have hle := h.sent a ha b hmem (hleast b hmem)
    have hne := (List.pairwise_append.mp hsent).2.2 b hb a List.mem_cons_self
    omega
  · intro b hb
    have hmem : b ∈ before ++ a :: after := List.mem_append_right _ (List.mem_cons_of_mem _ hb)
    exact h.sent a ha b hmem (hleast b hmem)

end SentInSequence

/-- The report lists packets that were sent in sequence in this order if the one of the smallest
offset was sent first, of those sent with it also acked first, and only then. -/
theorem StreamReport.Covers.inSequence_iff {s : StreamReport} {acks : List Ack} {lost : Nat}
    (hs : s.Covers acks lost) {start : SequenceNumber} {offset : Ack → Nat}
    (h : SentInSequence start offset acks) :
    s.InSequence offset ↔
      ∀ a ∈ acks, (∀ b ∈ acks, offset a ≤ offset b) → SentFirst acks a := by
  have hmem : ∀ {a}, a ∈ s.acks ↔ a ∈ acks := hs.acks.mem_iff
  constructor
  · intro hin a ha hleast
    have horigin := hin.origin a (hmem.mpr ha) fun b hb => hleast b (hmem.mp hb)
    rcases hs.origin with ⟨rfl, -⟩ | ⟨first, hfirst, hnumber⟩
    · cases ha
    · rwa [h.eq_of_number ha hfirst.mem (horigin.symm.trans hnumber)]
  · intro hsmallest
    rcases hs.origin with ⟨rfl, -⟩ | ⟨first, hfirst, hnumber⟩
    · have hnone : s.acks = [] := hs.acks.eq_nil
      exact ⟨by simp [hnone], by simp [hnone]⟩
    have hfront : ∀ a ∈ acks, (∀ b ∈ acks, offset a ≤ offset b) → a = first :=
      fun a ha hleast => (hsmallest a ha hleast).unique hfirst
    obtain ⟨a, ha, hleast⟩ := exists_smallest offset (List.ne_nil_of_mem hfirst.mem)
    obtain rfl := hfront a ha hleast
    refine ⟨?_, ?_⟩
    · have hordered : s.acks.Pairwise fun b c =>
          b.packet.sequenceNumber.stepsAfter s.origin ≤
            c.packet.sequenceNumber.stepsAfter s.origin :=
        List.pairwise_map.mpr hs.ordered
      have hdistinct : s.acks.Pairwise fun b c => offset b ≠ offset c :=
        List.pairwise_map.mp ((hs.acks.map offset).nodup_iff.mpr h.distinct)
      refine (hordered.and hdistinct).imp_of_mem ?_
      rintro b c hb hc ⟨hsteps, hne⟩
      rw [hnumber, h.stepsAfter ha (hmem.mp hb) (hleast b (hmem.mp hb)),
        h.stepsAfter ha (hmem.mp hc) (hleast c (hmem.mp hc))] at hsteps
      have := hleast b (hmem.mp hb)
      have := hleast c (hmem.mp hc)
      omega
    · intro b hb hleast'
      rw [hnumber, hfront b (hmem.mp hb) fun c hc => hleast' c (hmem.mpr hc)]

/-! ### Reports after a history -/

namespace Backlog

variable {limit : Nat} {history : List Event} {sender : Ssrc} {now : Nat} {roundTrip : Option Nat}
  {report : Report} {s : StreamReport}

theorem covers_after (hlimit : 0 < limit)
    (hreport : ((after limit history).drain sender now roundTrip).2 = some report)
    (hs : s ∈ report.streams) :
    s.Covers ((acksOn s.ssrc (unreported history)).rtake limit)
      (lossesOn s.ssrc (unreported history)) := by
  obtain ⟨-, rfl, -⟩ := drain_eq_some (Prod.ext rfl hreport)
  exact ((holds_after hlimit history).reportsOn hlimit sender now roundTrip).streams s hs

/-- The packets of a source that were sent in sequence and wait for a report are all in it. It
lists them in sequence, from the number of the first of them, if that packet was sent before the
others, or with some of them and acked before those, and only then. -/
theorem reported_in_sequence_iff (hlimit : 0 < limit)
    (hreport : ((after limit history).drain sender now roundTrip).2 = some report)
    (hs : s ∈ report.streams) {start : SequenceNumber} {offset : Ack → Nat} {pending : List Ack}
    (hpending : pending = (acksOn s.ssrc (unreported history)).rtake limit)
    (hsent : SentInSequence start offset pending) :
    s.acks.Perm pending ∧
      (s.InSequence offset ↔
        ∀ a ∈ pending, (∀ b ∈ pending, offset a ≤ offset b) → SentFirst pending a) := by
  subst hpending
  have hcovers := covers_after hlimit hreport hs
  exact ⟨hcovers.acks, hcovers.inSequence_iff hsent⟩

theorem reported_in_sequence (hlimit : 0 < limit)
    (hreport : ((after limit history).drain sender now roundTrip).2 = some report)
    (hs : s ∈ report.streams) {start : SequenceNumber} {offset : Ack → Nat} {pending : List Ack}
    (hpending : pending = (acksOn s.ssrc (unreported history)).rtake limit)
    (hsent : SentInSequence start offset pending)
    (htimes : pending.Pairwise fun a b => a.packet.sentAt ≠ b.packet.sentAt) :
    s.InSequence offset := by
  subst hpending
  refine ((covers_after hlimit hreport hs).inSequence_iff hsent).mpr ?_
  exact fun a ha hleast => hsent.sentFirst htimes ha hleast

/-- The packets 65535, 0 and 1 of a source were sent in this order, the first two at one time, and 1
was acked before 0. -/
def ackedAcrossWrap : List Event :=
  [.ack ⟨⟨10, 5, 100, ⟨65535⟩⟩, 50⟩, .ack ⟨⟨20, 5, 100, ⟨1⟩⟩, 60⟩, .ack ⟨⟨10, 5, 100, ⟨0⟩⟩, 70⟩]

theorem reported_in_sequence_across_wrap :
    SentInSequence ⟨65535⟩ (·.packet.sequenceNumber.stepsAfter ⟨65535⟩)
        ((acksOn 5 (unreported ackedAcrossWrap)).rtake 16) ∧
      ∃ report s, ((after 16 ackedAcrossWrap).drain 9 90 none).2 = some report ∧
        s ∈ report.streams ∧ s.ssrc = 5 ∧ s.acks.length = 3 ∧
        s.InSequence (·.packet.sequenceNumber.stepsAfter ⟨65535⟩) := by
  have hpending : [⟨⟨10, 5, 100, ⟨65535⟩⟩, 50⟩, ⟨⟨20, 5, 100, ⟨1⟩⟩, 60⟩, ⟨⟨10, 5, 100, ⟨0⟩⟩, 70⟩] =
      (acksOn 5 (unreported ackedAcrossWrap)).rtake 16 := by decide
  have hsent : SentInSequence ⟨65535⟩ (·.packet.sequenceNumber.stepsAfter ⟨65535⟩)
      [⟨⟨10, 5, 100, ⟨65535⟩⟩, 50⟩, ⟨⟨20, 5, 100, ⟨1⟩⟩, 60⟩, ⟨⟨10, 5, 100, ⟨0⟩⟩, 70⟩] :=
    ⟨by decide, by decide, by decide, by decide⟩
  have hreport : ((after 16 ackedAcrossWrap).drain 9 90 none).2 =
      some ⟨9, 90, none, [((after 16 ackedAcrossWrap).lane 5).report 5 none]⟩ := rfl
  obtain ⟨hacks, hin⟩ := reported_in_sequence_iff (by decide) hreport List.mem_cons_self hpending
    hsent
  refine ⟨hpending ▸ hsent, _, _, hreport, List.mem_cons_self, rfl, hacks.length_eq, hin.mpr ?_⟩
  intro a ha hleast
  have hle := hleast ⟨⟨10, 5, 100, ⟨65535⟩⟩, 50⟩ List.mem_cons_self
  obtain rfl := hsent.eq_of_offset ha List.mem_cons_self (Nat.le_zero.mp hle)
  exact ⟨[], _, rfl, by decide, by decide⟩

/-- The packets 7 and 8 of a source were sent at one time, and 8 was acked before 7. -/
def ackedBackwards : List Event :=
  [.ack ⟨⟨10, 5, 100, ⟨8⟩⟩, 50⟩, .ack ⟨⟨10, 5, 100, ⟨7⟩⟩, 60⟩]

/-- The report on packets 7 and 8 lists 8 before 7. -/
def reportedBackwards : StreamReport :=
  ⟨5, ⟨8⟩, [⟨⟨8⟩, 100, 10, 50, 50⟩, ⟨⟨7⟩, 100, 10, 60, 60⟩], 0⟩

/-- Two packets that were sent in sequence are reported in the order of their acks. -/
theorem reported_out_of_sequence :
    SentInSequence ⟨7⟩ (·.packet.sequenceNumber.stepsAfter ⟨7⟩)
        ((acksOn 5 (unreported ackedBackwards)).rtake 16) ∧
      ((after 16 ackedBackwards).drain 9 100 none).2 =
        some ⟨9, 100, none, [reportedBackwards]⟩ ∧
      ¬ reportedBackwards.InSequence (·.packet.sequenceNumber.stepsAfter ⟨7⟩) := by
  have hacks : (acksOn 5 (unreported ackedBackwards)).rtake 16 =
      [⟨⟨10, 5, 100, ⟨8⟩⟩, 50⟩, ⟨⟨10, 5, 100, ⟨7⟩⟩, 60⟩] := by decide
  refine ⟨?_, ?_, ?_⟩
  · rw [hacks]
    exact ⟨by decide, by decide, by decide, by decide⟩
  · have hsorted : Lane.sortFrom ⟨8⟩ reportedBackwards.packets = reportedBackwards.packets :=
      List.mergeSort_of_pairwise (by decide)
    show some (Report.mk 9 100 none
      [⟨5, ⟨8⟩, Lane.sortFrom ⟨8⟩ reportedBackwards.packets, 0⟩]) = _
    rw [hsorted]
    rfl
  · intro h
    exact absurd h.increasing (by decide)

end Backlog

end Feedback

end MediaMux
