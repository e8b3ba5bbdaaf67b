import Mathlib.Data.List.Perm.Basic
import MediaMux.Feedback.Backlog
import MediaMux.Proofs.Keyed.Sorted

/-!
# What a backlog and a report hold

`acks` lists the acks that wait in a backlog, and the acks that the entries of a report were made
from. A sound backlog counts what it holds. Taking an ack in adds it and takes out at most the
oldest of its lane (`Sound.takeAck_cases`), and draining moves everything into the report
(`Sound.of_drain_some`).
-/

namespace MediaMux.Feedback

/-! ### Reports -/

/-- The ack that an entry on the source `ssrc` was made from. -/
def ReportedPacket.ack (p : ReportedPacket) (ssrc : Ssrc) : Ack :=
  ⟨⟨p.sentAt, ssrc, p.size, p.sequenceNumber⟩, p.ackedAt⟩

/-- The acks that the entries on one source were made from. -/
def StreamReport.acks (s : StreamReport) : List Ack := s.packets.map (·.ack s.ssrc)

/-- The acks that the entries of a report were made from. -/
def Report.acks (r : Report) : List Ack := r.streams.flatMap StreamReport.acks

theorem Report.length_acks (r : Report) : r.acks.length = r.ackedTotal := by
  obtain ⟨sender, madeAt, roundTrip, streams⟩ := r
  induction streams with
  | nil => rfl
  | cons s rest ih =>
    simp only [acks, ackedTotal, List.flatMap_cons, List.length_append, total] at ih ⊢
    rw [ih, StreamReport.acks, List.length_map]

theorem Lane.ack_reported {a : Ack} {ssrc : Ssrc} (halfTrip : Nat) (h : a.packet.ssrc = ssrc) :
    (reported halfTrip a).ack ssrc = a := by
  subst h
  rfl

/-- A report on a lane has one entry for each ack, whatever their order. -/
theorem Lane.acks_report {l : Lane} {ssrc : Ssrc} (roundTrip : Option Nat)
    (h : ∀ a ∈ l.acked, a.packet.ssrc = ssrc) : (l.report ssrc roundTrip).acks.Perm l.acked := by
  have hback : ∀ a ∈ l.acked, ((reported (roundTrip.getD 0 / 2) a).ack ssrc) = a := by
    intro a ha
    exact ack_reported _ (h a ha)
  have hperm : (l.report ssrc roundTrip).packets.Perm
      (l.acked.map (reported (roundTrip.getD 0 / 2))) := List.mergeSort_perm _ _
  have hacks := hperm.map (·.ack ssrc)
  rw [List.map_map, List.map_congr_left (f := _ ∘ _) (g := id) hback, List.map_id] at hacks
  exact hacks

theorem Lane.eq_of_isEmpty {l : Lane} (h : l.isEmpty = true) : l.acked = [] ∧ l.lost = 0 := by
  simpa [isEmpty] using h

/-! ### Backlogs -/

namespace Backlog

/-- The acks that wait in a backlog. -/
def acks (b : Backlog) : List Ack := b.lanes.flatMap (·.2.acked)

/-- The losses that wait in a backlog. -/
def losses (b : Backlog) : Nat := total (·.2.lost) b.lanes

/-- A backlog whose lanes are in order, hold acks of their own source within the limit, and are
counted. -/
structure Sound (b : Backlog) : Prop where
  limit_pos : 0 < b.limit
  sorted : b.lanes.Sorted
  keyed : ∀ e ∈ b.lanes, ∀ a ∈ e.2.acked, a.packet.ssrc = e.1
  bounded : ∀ e ∈ b.lanes, e.2.acked.length ≤ b.limit
  counted : b.waiting = b.acks.length

theorem sound_empty {limit : Nat} (h : 0 < limit) : Sound { limit := limit } where
  limit_pos := h
  sorted := List.Pairwise.nil
  keyed := by simp
  bounded := by simp
  counted := rfl

theorem get?_mem {lanes : Keyed Ssrc Lane} {ssrc : Ssrc} {l : Lane}
    (h : lanes.get? ssrc = some l) : (ssrc, l) ∈ lanes := by
  induction lanes with
  | nil => simp at h
  | cons e rest ih =>
    obtain ⟨k, m⟩ := e
    rw [Keyed.get?_cons] at h
    split at h
    · next hk =>
      cases h
      exact hk ▸ List.mem_cons_self
    · exact List.mem_cons_of_mem _ (ih h)

variable {b : Backlog}

theorem Sound.ssrc_of_mem_lane (h : b.Sound) {ssrc : Ssrc} {a : Ack}
    (ha : a ∈ (b.lane ssrc).acked) : a.packet.ssrc = ssrc := by
  unfold lane at ha
  cases hl : b.lanes.get? ssrc with
  | none => simp [hl] at ha
  | some l => exact h.keyed _ (get?_mem hl) a (by simpa [hl] using ha)

theorem Sound.length_lane_le (h : b.Sound) (ssrc : Ssrc) :
    (b.lane ssrc).acked.length ≤ b.limit := by
  unfold lane
  cases hl : b.lanes.get? ssrc with
  | none => exact Nat.zero_le _
  | some l => exact h.bounded _ (get?_mem hl)

/-- The contents of a backlog around one of its lanes, which `put` may replace. -/
theorem Sound.exists_split (h : b.Sound) (ssrc : Ssrc) (l : Lane) :
    ∃ before after : List Ack, ∃ losses : Nat,
      b.acks = before ++ (b.lane ssrc).acked ++ after ∧
      b.losses = (b.lane ssrc).lost + losses ∧
      (b.lanes.put ssrc l).flatMap (·.2.acked) = before ++ l.acked ++ after ∧
      total (·.2.lost) (b.lanes.put ssrc l) = l.lost + losses := by
  obtain ⟨before, after, hput, hlanes⟩ := h.sorted.exists_split ssrc l
  refine ⟨before.flatMap (·.2.acked), after.flatMap (·.2.acked),
    total (·.2.lost) before + total (·.2.lost) after, ?_, ?_, ?_, ?_⟩
  · rw [acks, lane]
    conv_lhs => rw [hlanes]
    cases b.lanes.get? ssrc <;> simp
  · rw [losses, lane]
    conv_lhs => rw [hlanes]
    cases b.lanes.get? ssrc <;> simp [total_append, total, Nat.add_left_comm]
  · simp [hput]
  · simp [hput, total_append, total, Nat.add_left_comm]

theorem Sound.length_lane_le_waiting (h : b.Sound) (ssrc : Ssrc) :
    (b.lane ssrc).acked.length ≤ b.waiting := by
  obtain ⟨before, after, losses, hacks, -⟩ := h.exists_split ssrc (b.lane ssrc)
  rw [h.counted, hacks]
  simp only [List.length_append]
  omega

theorem acks_of_isEmpty (h : b.isEmpty = true) : b.acks = [] := by
  simp only [isEmpty, List.all_eq_true] at h
  exact List.flatMap_eq_nil_iff.mpr fun e he => (Lane.eq_of_isEmpty (h e he)).1

/-- A sound backlog with another lane for `ssrc` that fits it, and its acks counted. -/
theorem Sound.put (h : b.Sound) {ssrc : Ssrc} {l : Lane} {waiting : Nat}
    (hkeyed : ∀ a ∈ l.acked, a.packet.ssrc = ssrc) (hbounded : l.acked.length ≤ b.limit)
    (hcounted : waiting = ((b.lanes.put ssrc l).flatMap (·.2.acked)).length) :
    Sound { b with lanes := b.lanes.put ssrc l, waiting := waiting } where
  limit_pos := h.limit_pos
  sorted := h.sorted.put ssrc l
  keyed := by
    intro e he
    rcases Keyed.mem_put he with rfl | he
    · exact hkeyed
    · exact h.keyed e he
  bounded := by
    intro e he
    rcases Keyed.mem_put he with rfl | he
    · exact hbounded
    · exact h.bounded e he
  counted := hcounted

/-! ### Taking acks and losses in -/

/-- The lane of `a` after `kept` of its acks stayed and `a` came. -/
theorem Sound.put_concat (h : b.Sound) {a : Ack} {kept : List Ack} {lost waiting : Nat}
    (hkept : kept ⊆ (b.lane a.packet.ssrc).acked) (hroom : kept.length < b.limit)
    (hcounted : waiting =
      ((b.lanes.put a.packet.ssrc ⟨kept ++ [a], lost⟩).flatMap (·.2.acked)).length) :
    Sound { b with
      lanes := b.lanes.put a.packet.ssrc ⟨kept ++ [a], lost⟩
      waiting := waiting } := by
  refine h.put ?_ ?_ hcounted
  · intro x hx
    rcases List.mem_append.mp hx with hx | hx
    · exact h.ssrc_of_mem_lane (hkept hx)
    · rw [List.mem_singleton.mp hx]
  · rw [List.length_append, List.length_singleton]
    exact hroom

theorem takeAck_of_full {a oldest : Ack} {rest : List Ack}
    (hl : (b.lane a.packet.ssrc).acked = oldest :: rest)
    (hfull : b.limit ≤ (b.lane a.packet.ssrc).acked.length) :
    b.takeAck a =
      ({ b with lanes := b.lanes.put a.packet.ssrc ⟨rest ++ [a], (b.lane a.packet.ssrc).lost⟩ },
        .displacing (some oldest.packet)) := by
  have hfull' : (b.lane a.packet.ssrc).isFull b.limit = true := by simpa [Lane.isFull] using hfull
  simp [takeAck, Lane.takeAck, hfull', hl]

theorem takeAck_of_room {a : Ack} (hroom : (b.lane a.packet.ssrc).acked.length < b.limit) :
    b.takeAck a =
      ({ b with
          lanes := b.lanes.put a.packet.ssrc
            ⟨(b.lane a.packet.ssrc).acked ++ [a], (b.lane a.packet.ssrc).lost⟩
          waiting := b.waiting + 1 },
        .added) := by
  have hroom' : (b.lane a.packet.ssrc).isFull b.limit = false := by
    simpa [Lane.isFull] using hroom
  simp [takeAck, Lane.takeAck, hroom']

/-- An ack goes into its lane. Either it is one more, or the lane was full and its oldest ack, of
which the packet is told, made way. -/
theorem Sound.takeAck_cases (h : b.Sound) (a : Ack) :
    (b.takeAck a).1.Sound ∧ (b.takeAck a).1.losses = b.losses ∧
      (((b.takeAck a).2 = .added ∧ (b.lane a.packet.ssrc).acked.length < b.limit ∧
          (b.takeAck a).1.acks.Perm (b.acks ++ [a])) ∨
        ∃ oldest, (b.takeAck a).2 = .displacing (some oldest.packet) ∧
          b.limit ≤ (b.lane a.packet.ssrc).acked.length ∧
          ((b.takeAck a).1.acks ++ [oldest]).Perm (b.acks ++ [a])) := by
  have hpos := h.limit_pos
  rcases Nat.lt_or_ge (b.lane a.packet.ssrc).acked.length b.limit with hroom | hfull
  · obtain ⟨before, after, losses, hacks, hlosses, hputAcks, hputLosses⟩ :=
      h.exists_split a.packet.ssrc
        ⟨(b.lane a.packet.ssrc).acked ++ [a], (b.lane a.packet.ssrc).lost⟩
    rw [takeAck_of_room hroom]
    refine ⟨h.put_concat (List.Subset.refl _) hroom ?_, ?_, Or.inl ⟨rfl, hroom, ?_⟩⟩
    · rw [hputAcks, h.counted, hacks]
      simp only [List.length_append, List.length_singleton]
      omega
    · rw [hlosses]
      exact hputLosses
    · rw [acks, hputAcks, hacks, List.perm_iff_count]
      intro x
      simp only [List.count_append]
      omega
  · cases hl : (b.lane a.packet.ssrc).acked with
    | nil =>
      rw [hl, List.length_nil] at hfull
      omega
    | cons oldest rest =>
      have hlen : rest.length < b.limit := by
        have := h.length_lane_le a.packet.ssrc
        rw [hl, List.length_cons] at this
        omega
      obtain ⟨before, after, losses, hacks, hlosses, hputAcks, hputLosses⟩ :=
        h.exists_split a.packet.ssrc ⟨rest ++ [a], (b.lane a.packet.ssrc).lost⟩
      rw [takeAck_of_full hl hfull]
      rw [hl] at hacks
      refine ⟨h.put_concat (fun x hx => hl ▸ List.mem_cons_of_mem _ hx) hlen ?_, ?_,
        Or.inr ⟨oldest, rfl, hl ▸ hfull, ?_⟩⟩
      · rw [hputAcks, h.counted, hacks]
        simp only [List.length_append, List.length_cons, List.length_nil]
      · rw [hlosses]
        exact hputLosses
      · rw [acks, hputAcks, hacks, List.perm_iff_count]
        intro x
        simp only [List.count_append, List.count_cons, List.count_nil]
        omega

theorem Sound.takeAck_of_added (h : b.Sound) {a : Ack} (hadmission : (b.takeAck a).2 = .added) :
    (b.takeAck a).1.acks.Perm (b.acks ++ [a]) ∧ (b.takeAck a).1.losses = b.losses ∧
      (b.takeAck a).1.waiting = b.waiting + 1 := by
  obtain ⟨hsound, hlost, ⟨-, -, hperm⟩ | ⟨oldest, hother, -, -⟩⟩ := h.takeAck_cases a
  · refine ⟨hperm, hlost, ?_⟩
    rw [hsound.counted, h.counted, hperm.length_eq, List.length_append]
    rfl
  · rw [hadmission] at hother
    cases hother

theorem Sound.takeAck_of_displacing (h : b.Sound) {a : Ack} {p : Option SentPacket}
    (hadmission : (b.takeAck a).2 = .displacing p) :
    ∃ oldest, p = some oldest.packet ∧ b.limit ≤ (b.lane a.packet.ssrc).acked.length ∧
      ((b.takeAck a).1.acks ++ [oldest]).Perm (b.acks ++ [a]) ∧
      (b.takeAck a).1.losses = b.losses ∧ (b.takeAck a).1.waiting = b.waiting := by
  obtain ⟨hsound, hlost, ⟨hother, -, -⟩ | ⟨oldest, hadm, hfull, hperm⟩⟩ := h.takeAck_cases a
  · rw [hadmission] at hother
    cases hother
  · rw [hadmission] at hadm
    cases hadm
    refine ⟨oldest, rfl, hfull, hperm, hlost, ?_⟩
    have hlength := hperm.length_eq
    simp only [List.length_append, List.length_singleton] at hlength
    rw [hsound.counted, h.counted]
    exact Nat.add_right_cancel hlength

theorem Sound.takeLoss_cases (h : b.Sound) (ssrc : Ssrc) :
    (b.takeLoss ssrc).Sound ∧ (b.takeLoss ssrc).acks = b.acks ∧
      (b.takeLoss ssrc).losses = b.losses + 1 := by
  obtain ⟨before, after, losses, hacks, hlosses, hputAcks, hputLosses⟩ :=
    h.exists_split ssrc (b.lane ssrc).takeLoss
  have hsame : (b.lanes.put ssrc (b.lane ssrc).takeLoss).flatMap (·.2.acked) = b.acks :=
    hputAcks.trans hacks.symm
  refine ⟨h.put (fun a ha => h.ssrc_of_mem_lane ha) (h.length_lane_le ssrc) ?_, hsame, ?_⟩
  · rw [hsame, h.counted]
  · have hlost : (b.lane ssrc).takeLoss.lost = (b.lane ssrc).lost + 1 := rfl
    rw [Backlog.losses, takeLoss, hputLosses, hlosses, hlost]
    omega

/-! ### Draining -/

/-- The reports on the lanes hold what the lanes hold. -/
theorem acks_reports {lanes : Keyed Ssrc Lane} (roundTrip : Option Nat)
    (h : ∀ e ∈ lanes, ∀ a ∈ e.2.acked, a.packet.ssrc = e.1) :
    (((lanes.filter fun e => !e.2.isEmpty).map fun e => e.2.report e.1 roundTrip).flatMap
        StreamReport.acks).Perm (lanes.flatMap (·.2.acked)) ∧
      total (·.lost) ((lanes.filter fun e => !e.2.isEmpty).map fun e => e.2.report e.1 roundTrip)
        = total (·.2.lost) lanes := by
  induction lanes with
  | nil => exact ⟨List.Perm.refl _, rfl⟩
  | cons e rest ih =>
    obtain ⟨hperm, hlost⟩ := ih fun f hf => h f (List.mem_cons_of_mem _ hf)
    by_cases hempty : e.2.isEmpty = true
    · obtain ⟨hacked, hzero⟩ := Lane.eq_of_isEmpty hempty
      simpa [hempty, total, hacked, hzero] using ⟨hperm, hlost⟩
    · have hlane := Lane.acks_report roundTrip (h e List.mem_cons_self)
      have hreport : (e.2.report e.1 roundTrip).lost = e.2.lost := rfl
      rw [List.filter_cons_of_pos (by simpa using hempty), List.map_cons, List.flatMap_cons,
        List.flatMap_cons, total, total, hlost, hreport]
      exact ⟨hlane.append hperm, rfl⟩

theorem reports_eq_nil_iff {roundTrip : Option Nat} :
    b.reports roundTrip = [] ↔ b.isEmpty = true := by
  simp [reports, isEmpty, List.filter_eq_nil_iff]

theorem drain_eq_none {b' : Backlog} {sender : Ssrc} {now : Nat} {roundTrip : Option Nat}
    (hd : b.drain sender now roundTrip = (b', none)) :
    b' = { limit := b.limit } ∧ b.reports roundTrip = [] := by
  simp only [drain, Prod.mk.injEq] at hd
  refine ⟨hd.1.symm, ?_⟩
  cases hs : b.reports roundTrip with
  | nil => rfl
  | cons s rest => simp [hs] at hd

theorem drain_eq_some {b' : Backlog} {sender : Ssrc} {now : Nat} {roundTrip : Option Nat}
    {report : Report} (hd : b.drain sender now roundTrip = (b', some report)) :
    b' = { limit := b.limit } ∧ report = ⟨sender, now, roundTrip, b.reports roundTrip⟩ ∧
      b.reports roundTrip ≠ [] := by
  simp only [drain, Prod.mk.injEq] at hd
  refine ⟨hd.1.symm, ?_⟩
  cases hs : b.reports roundTrip with
  | nil => simp [hs] at hd
  | cons s rest => exact ⟨by simpa [hs, eq_comm] using hd.2, List.cons_ne_nil s rest⟩

/-- There is no report only if nothing waits. -/
theorem Sound.of_drain_none {b' : Backlog} {sender : Ssrc} {now : Nat} {roundTrip : Option Nat}
    (h : b.Sound) (hd : b.drain sender now roundTrip = (b', none)) :
    b' = { limit := b.limit } ∧ b.acks = [] ∧ b.losses = 0 := by
  obtain ⟨hperm, hlost⟩ := acks_reports roundTrip h.keyed
  obtain ⟨hrest, hnone⟩ := drain_eq_none hd
  rw [reports] at hnone
  rw [hnone] at hperm hlost
  exact ⟨hrest, hperm.symm.eq_nil, hlost.symm⟩

/-- A report holds what waited, and nothing waits any more. -/
theorem Sound.of_drain_some {b' : Backlog} {sender : Ssrc} {now : Nat} {roundTrip : Option Nat}
    {report : Report} (h : b.Sound) (hd : b.drain sender now roundTrip = (b', some report)) :
    b' = { limit := b.limit } ∧ report.acks.Perm b.acks ∧ report.lostTotal = b.losses := by
  obtain ⟨hperm, hlost⟩ := acks_reports roundTrip h.keyed
  obtain ⟨hrest, rfl, -⟩ := drain_eq_some hd
  exact ⟨hrest, hperm, hlost⟩

end Backlog

end MediaMux.Feedback
