import MediaMux.Proofs.Feedback.Contents

/-!
# The order of a stream in a report

The entries on a source are the acks of its lane. They start from the packet that was sent first
and go by how far each lies after it, acks of the same number in the order they came
(`Lane.covers_report`).
-/

namespace MediaMux.Feedback

/-- The packet of `a` was sent first, and of several sent at that time it was acked first. -/
def SentFirst (acks : List Ack) (a : Ack) : Prop :=
  ∃ before after, acks = before ++ a :: after ∧
    (∀ b ∈ before, a.packet.sentAt < b.packet.sentAt) ∧
    ∀ b ∈ after, a.packet.sentAt ≤ b.packet.sentAt

theorem SentFirst.mem {acks : List Ack} {a : Ack} (h : SentFirst acks a) : a ∈ acks := by
  obtain ⟨before, after, rfl, -, -⟩ := h
  exact List.mem_append_right _ List.mem_cons_self

theorem SentFirst.le {acks : List Ack} {a b : Ack} (h : SentFirst acks a) (hb : b ∈ acks) :
    a.packet.sentAt ≤ b.packet.sentAt := by
  obtain ⟨before, after, rfl, hbefore, hafter⟩ := h
  rcases List.mem_append.mp hb with hb | hb
  · exact Nat.le_of_lt (hbefore b hb)
  · rcases List.mem_cons.mp hb with rfl | hb
    · exact Nat.le_refl _
    · exact hafter b hb

namespace Lane

theorem earliest_eq_none {acks : List Ack} (h : earliest acks = none) : acks = [] := by
  cases acks with
  | nil => rfl
  | cons a rest =>
    simp only [earliest] at h
    split at h
    · cases h
    · split at h <;> cases h

theorem sentFirst_of_earliest {acks : List Ack} {a : Ack} (h : earliest acks = some a) :
    SentFirst acks a := by
  induction acks generalizing a with
  | nil => cases h
  | cons x rest ih =>
    simp only [earliest] at h
    cases hrest : earliest rest with
    | none =>
      rw [hrest] at h
      cases h
      exact ⟨[], rest, rfl, by simp, by simp [earliest_eq_none hrest]⟩
    | some b =>
      have hfirst := ih hrest
      rw [hrest] at h
      by_cases hlt : b.packet.sentAt < x.packet.sentAt
      · obtain ⟨before, after, rfl, hbefore, hafter⟩ := hfirst
        simp only [hlt, if_true, Option.some.injEq] at h
        subst h
        refine ⟨x :: before, after, rfl, ?_, hafter⟩
        intro c hc
        rcases List.mem_cons.mp hc with rfl | hc
        · exact hlt
        · exact hbefore c hc
      · simp only [hlt, if_false, Option.some.injEq] at h
        subst h
        refine ⟨[], rest, rfl, by simp, ?_⟩
        intro c hc
        have := hfirst.le hc
        omega

/-! ### Sorting from an origin -/

section Sorting

variable (origin : SequenceNumber) (packets : List ReportedPacket)

theorem sortFrom_perm : (sortFrom origin packets).Perm packets := List.mergeSort_perm _ _

theorem stepsAfter_trans (origin : SequenceNumber) (p q r : ReportedPacket)
    (hpq : decide (p.sequenceNumber.stepsAfter origin ≤ q.sequenceNumber.stepsAfter origin) = true)
    (hqr : decide (q.sequenceNumber.stepsAfter origin ≤ r.sequenceNumber.stepsAfter origin) =
      true) :
    decide (p.sequenceNumber.stepsAfter origin ≤ r.sequenceNumber.stepsAfter origin) = true := by
  simp only [decide_eq_true_eq] at hpq hqr ⊢
  exact Nat.le_trans hpq hqr

theorem stepsAfter_total (origin : SequenceNumber) (p q : ReportedPacket) :
    (decide (p.sequenceNumber.stepsAfter origin ≤ q.sequenceNumber.stepsAfter origin) ||
      decide (q.sequenceNumber.stepsAfter origin ≤ p.sequenceNumber.stepsAfter origin)) = true := by
  simp only [Bool.or_eq_true, decide_eq_true_eq]
  exact Nat.le_total _ _

theorem sortFrom_pairwise : (sortFrom origin packets).Pairwise fun p q =>
    p.sequenceNumber.stepsAfter origin ≤ q.sequenceNumber.stepsAfter origin := by
  have hsorted := List.pairwise_mergeSort (stepsAfter_trans origin) (stepsAfter_total origin)
    packets
  simp only [decide_eq_true_eq] at hsorted
  exact hsorted

/-- Entries of one number stay in their order. -/
theorem filter_sortFrom (n : SequenceNumber) :
    (sortFrom origin packets).filter (·.sequenceNumber = n) =
      packets.filter (·.sequenceNumber = n) := by
  have hlevel : (packets.filter (·.sequenceNumber = n)).Pairwise fun p q =>
      decide (p.sequenceNumber.stepsAfter origin ≤ q.sequenceNumber.stepsAfter origin) := by
    refine List.pairwise_of_forall_mem_list ?_
    intro p hp q hq
    have hpn : p.sequenceNumber = n := by simpa using (List.mem_filter.mp hp).2
    have hqn : q.sequenceNumber = n := by simpa using (List.mem_filter.mp hq).2
    simp [hpn, hqn]
  -- sorting keeps a sublist that is in order already
  have hkept := List.sublist_mergeSort (stepsAfter_trans origin) (stepsAfter_total origin) hlevel
    List.filter_sublist
  have hsub := hkept.filter (·.sequenceNumber = n)
  rw [List.filter_filter] at hsub
  simp only [Bool.and_self] at hsub
  have hlength := ((sortFrom_perm origin packets).filter (·.sequenceNumber = n)).length_eq
  exact (hsub.eq_of_length hlength.symm).symm

/-- An entry at the origin comes first. -/
theorem head_sortFrom {p q : ReportedPacket} (hp : p ∈ packets) (hat : p.sequenceNumber = origin)
    (hq : (sortFrom origin packets).head? = some q) : q.sequenceNumber = origin := by
  have hsorted := sortFrom_pairwise origin packets
  have hmem : p ∈ sortFrom origin packets := (sortFrom_perm origin packets).mem_iff.mpr hp
  generalize sortFrom origin packets = sorted at hsorted hmem hq
  cases sorted with
  | nil => cases hq
  | cons x rest =>
    cases hq
    rcases List.mem_cons.mp hmem with rfl | hmem
    · exact hat
    · have hle := (List.pairwise_cons.mp hsorted).1 p hmem
      rw [hat, SequenceNumber.stepsAfter_self] at hle
      exact SequenceNumber.stepsAfter_eq_zero_iff.mp (Nat.le_zero.mp hle)

end Sorting

end Lane

/-! ### What a report says on a source -/

/-- The report on a source lists the acks `kept`, which came in this order, and counts `lost`
losses. -/
structure StreamReport.Covers (s : StreamReport) (kept : List Ack) (lost : Nat) : Prop where
  acks : s.acks.Perm kept
  lost : s.lost = lost
  ordered : s.packets.Pairwise fun p q =>
    p.sequenceNumber.stepsAfter s.origin ≤ q.sequenceNumber.stepsAfter s.origin
  stable : ∀ n, s.acks.filter (·.packet.sequenceNumber = n) =
    kept.filter (·.packet.sequenceNumber = n)
  origin : kept = [] ∧ s.origin = ⟨0⟩ ∨
    ∃ a, SentFirst kept a ∧ s.origin = a.packet.sequenceNumber
  first : ∀ p, s.packets.head? = some p → p.sequenceNumber = s.origin

namespace Lane

theorem origin_cases (l : Lane) : l.acked = [] ∧ l.origin = ⟨0⟩ ∨
    ∃ a, SentFirst l.acked a ∧ l.origin = a.packet.sequenceNumber := by
  unfold origin
  cases h : earliest l.acked with
  | none => exact Or.inl ⟨earliest_eq_none h, rfl⟩
  | some a => exact Or.inr ⟨a, sentFirst_of_earliest h, rfl⟩

theorem filter_acks_report {l : Lane} {ssrc : Ssrc} (roundTrip : Option Nat)
    (h : ∀ a ∈ l.acked, a.packet.ssrc = ssrc) (n : SequenceNumber) :
    (l.report ssrc roundTrip).acks.filter (·.packet.sequenceNumber = n) =
      l.acked.filter (·.packet.sequenceNumber = n) := by
  have hback : ∀ a ∈ l.acked.filter (·.packet.sequenceNumber = n),
      (reported (roundTrip.getD 0 / 2) a).ack ssrc = a := by
    intro a ha
    exact ack_reported _ (h a (List.mem_filter.mp ha).1)
  show ((sortFrom l.origin (l.acked.map (reported (roundTrip.getD 0 / 2)))).map
    (·.ack ssrc)).filter (·.packet.sequenceNumber = n) = _
  rw [List.filter_map]
  show ((sortFrom l.origin (l.acked.map (reported (roundTrip.getD 0 / 2)))).filter
    (·.sequenceNumber = n)).map (·.ack ssrc) = _
  rw [filter_sortFrom, List.filter_map, List.map_map]
  exact (List.map_congr_left hback).trans (List.map_id' _)

theorem covers_report {l : Lane} {ssrc : Ssrc} (roundTrip : Option Nat)
    (h : ∀ a ∈ l.acked, a.packet.ssrc = ssrc) :
    (l.report ssrc roundTrip).Covers l.acked l.lost where
  acks := acks_report roundTrip h
  lost := rfl
  ordered := sortFrom_pairwise _ _
  stable := filter_acks_report roundTrip h
  origin := l.origin_cases
  first := by
    intro p hp
    have hp' : (sortFrom l.origin (l.acked.map (reported (roundTrip.getD 0 / 2)))).head? =
        some p := hp
    rcases l.origin_cases with ⟨hnil, -⟩ | ⟨a, ha, horigin⟩
    · simp [hnil, sortFrom] at hp'
    · exact head_sortFrom _ _ (List.mem_map_of_mem ha.mem) horigin.symm hp'

end Lane

end MediaMux.Feedback
