import Mathlib.Data.List.Count
import MediaMux.Proofs.Feedback.Ledger
import MediaMux.Proofs.Session.Outcomes

/-!
# Where reported packets come from

Every packet in a report that was handed over comes from a write of its own, which was accepted,
tracked for the reporter and resolved as acked, all before the report
(`World.reported_packets_come_from_writes`). Acks are told by resolutions only
(`World.exists_toldFrom`), and no ack is reported more often than it was told
(`World.count_reported_le`).
-/

namespace MediaMux

open Feedback Journal

/-! ### Acks in the journal -/

/-- The packets in a report, each with its source. -/
def Feedback.Report.packets (r : Report) : List (Ssrc × ReportedPacket) :=
  r.streams.flatMap fun s => s.packets.map (s.ssrc, ·)

theorem Feedback.Report.map_packets (r : Report) :
    r.packets.map (fun e => e.2.ack e.1) = r.acks := by
  unfold packets acks
  rw [List.map_flatMap]
  simp only [List.map_map, Function.comp_def]
  rfl

namespace JournalEntry

def toldAck : JournalEntry → List (Nat × Ack)
  | resolved g (.acked a) _ => [(g, a)]
  | _ => []

/-- The packets that a reporter handed over in a report. -/
def reportedPackets : JournalEntry → List (Nat × Ssrc × ReportedPacket)
  | reported g report _ => report.packets.map (g, ·)
  | _ => []

end JournalEntry

def ackOf (e : Nat × Ssrc × ReportedPacket) : Nat × Ack := (e.1, e.2.2.ack e.2.1)

theorem map_ackOf (g : Nat) (r : Report) :
    (r.packets.map (g, ·)).map ackOf = r.acks.map (g, ·) := by
  rw [← r.map_packets, List.map_map, List.map_map]
  rfl

theorem count_map_mk (g q : Nat) (a : Ack) (acks : List Ack) :
    (acks.map (q, ·)).count (g, a) = if q = g then acks.count a else 0 := by
  split
  · next h =>
    subst h
    exact List.count_map_of_injective acks _ (fun _ _ h => (Prod.mk.inj h).2) a
  · next h =>
    refine List.count_eq_zero.mpr fun hmem => h ?_
    obtain ⟨b, -, hb⟩ := List.mem_map.mp hmem
    exact (Prod.mk.inj hb).1

theorem count_reported (j : Journal) (g : Nat) (a : Ack) :
    ((gather JournalEntry.reportedPackets j).map ackOf).count (g, a) =
      ((gather JournalEntry.handedReport (j.of g)).flatMap Report.acks).count a := by
  induction j with
  | nil => rfl
  | cons e j ih =>
    cases e with
    | reported q report taken =>
      rw [gather_cons, List.map_append, List.count_append, ih, JournalEntry.reportedPackets,
        map_ackOf, count_map_mk]
      by_cases h : q = g
      · simp [h]
      · simp [h]
    | _ =>
      rw [gather_cons, List.map_append, List.count_append, ih]
      simp only [of_cons, JournalEntry.reportedPackets, List.map_nil, List.count_nil, Nat.add_zero]
      split <;> simp

/-- The ack that an outcome is, with its reporter. -/
def ackTold (e : Nat × Outcome) : Option (Nat × Ack) :=
  match e.2 with
  | .acked a => some (e.1, a)
  | .lost .. => none

theorem ackTold_eq_some {e : Nat × Outcome} {g : Nat} {a : Ack} :
    ackTold e = some (g, a) ↔ e = (g, .acked a) := by
  obtain ⟨q, outcome⟩ := e
  cases outcome <;> simp [ackTold]

theorem toldAck_eq_filterMap (j : Journal) :
    gather JournalEntry.toldAck j = (gather JournalEntry.toldOutcome j).filterMap ackTold := by
  induction j with
  | nil => rfl
  | cons e j ih =>
    rw [gather_cons, gather_cons, List.filterMap_append, ih]
    cases e with
    | resolved g outcome late => cases outcome <;> rfl
    | _ => rfl

theorem count_told (j : Journal) (g : Nat) (a : Ack) :
    (gather JournalEntry.toldInTime (j.of g)).count (.acked a) ≤
      (gather JournalEntry.toldAck j).count (g, a) := by
  rw [toldAck_eq_filterMap, List.count_filterMap]
  refine Nat.le_trans (countP_toldInTime_le j g (· == .acked a)) (List.countP_mono_left ?_)
  rintro ⟨q, outcome⟩ - h
  simpa [ackTold_eq_some, beq_iff_eq] using h

theorem count_takenIn (j : Journal) (a : Ack) :
    (gather JournalEntry.takenIn j).count (.acked a) =
      (gather JournalEntry.takenAck j).count a := by
  induction j with
  | nil => rfl
  | cons e j ih =>
    cases e <;> simp [ih, List.count_singleton]

/-! ### Acks that are told -/

namespace Session

def toldAcks (s : Session) : List (Nat × Ack) := gather JournalEntry.toldAck s.env.journal

theorem toldAcks_eq (s : Session) : s.toldAcks = s.toldOutcomes.filterMap ackTold :=
  toldAck_eq_filterMap s.env.journal

end Session

namespace World

variable {w : World} {actions : List Action}

/-- The ack `a` was told to the reporter `g` after `q` others. It comes from the write that is step
`i` of a run, and from the resolution that is step `m`. -/
structure ToldFrom (w : World) (actions : List Action) (q g : Nat) (a : Ack) (i m : Nat) :
    Prop where
  place : (w.before actions m).session.toldAcks.length = q
  write : ∃ notice, TracksAt w actions i ⟨g, a.packet, notice⟩
  resolved : Resolved w actions i m .acked a.ackedAt

/-- An element that a list is filtered for, at the place that it has before. -/
theorem exists_getElem?_of_filterMap {α β : Type} {f : α → Option β} {xs : List α} {q : Nat} {y : β}
    (h : (xs.filterMap f)[q]? = some y) :
    ∃ n x, xs[n]? = some x ∧ f x = some y ∧ ((xs.take n).filterMap f).length = q := by
  induction xs generalizing q with
  | nil => simp at h
  | cons x xs ih =>
    cases hx : f x with
    | none =>
      rw [List.filterMap_cons_none hx] at h
      obtain ⟨n, x', hn, hf, hlength⟩ := ih h
      exact ⟨n + 1, x', hn, hf, by simp [hx, hlength]⟩
    | some y' =>
      rw [List.filterMap_cons_some hx] at h
      cases q with
      | zero =>
        cases h
        exact ⟨0, x, rfl, hx, rfl⟩
      | succ q =>
        obtain ⟨n, x', hn, hf, hlength⟩ := ih h
        exact ⟨n + 1, x', hn, hf, by simp [hx, hlength]⟩

/-- Every ack that was told was told by the resolution of a write. -/
theorem exists_toldFrom (hw : Initial w) {j q g : Nat} {a : Ack}
    (hq : (w.before actions j).session.toldAcks[q]? = some (g, a)) :
    ∃ i m, ToldFrom w actions q g a i m := by
  rw [Session.toldAcks_eq] at hq
  obtain ⟨n, told, hn, hack, hplace⟩ := exists_getElem?_of_filterMap hq
  obtain rfl := ackTold_eq_some.mp hack
  obtain ⟨i, m, hm, hlength, p, notice, d, now, htracks, hresolved, hsame⟩ :=
    exists_outcomeFrom hw hn
  obtain ⟨more, hmore⟩ := exists_run_before (Nat.le_of_lt hm) w actions
  have hjournal := (hw.reachable.run (actions.take m)).inOrder.journal_run more
  obtain ⟨later, hlater⟩ := hjournal.gather_prefix JournalEntry.toldOutcome
  have hbefore : (w.before actions j).session.toldOutcomes =
      (w.before actions m).session.toldOutcomes ++ later := hmore ▸ hlater
  cases d with
  | lost => cases hsame
  | acked =>
    cases hsame
    refine ⟨i, m, ?_, ⟨notice, htracks⟩, hresolved⟩
    rw [hbefore, List.take_left' hlength] at hplace
    rw [Session.toldAcks_eq, hplace]

def reportedPackets (w : World) : List (Nat × Ssrc × ReportedPacket) :=
  gather JournalEntry.reportedPackets w.session.env.journal

/-- No ack is reported more often than it was told. -/
theorem count_reported_le (hw : Reachable w) (x : Nat × Ack) :
    (w.reportedPackets.map ackOf).count x ≤ w.session.toldAcks.count x := by
  obtain ⟨g, a⟩ := x
  refine Nat.le_trans ?_ (count_told w.session.env.journal g a)
  unfold reportedPackets
  rw [count_reported]
  rcases Nat.lt_or_ge g w.session.reporters.length with hlt | hge
  · have hsc := scene?_of_reporter (w := w) (List.getElem?_eq_getElem hlt)
    have hhistory := hw.inOrder.history_eq hsc
    obtain ⟨⟨evicted, -, hperm⟩, -⟩ := (hw.course hsc).accounted
    have htold := congrArg (List.count (.acked a)) (hw.course hsc).queued.told
    have hacks := hperm.count_eq a
    simp only [Scene.ackPlaces, List.count_append, hhistory, count_takenIn] at htold hacks
    unfold history at htold hacks
    omega
  · have hnone : w.session.env.journal.of g = [] := hw.inOrder.session.registered.unborn g hge
    rw [hnone]
    exact Nat.zero_le _

/-! ### Reported packets -/

theorem idxOfNth_append_lt {α : Type} [BEq α] {xs : List α} {x : α} {n : Nat}
    (h : n < xs.count x) (ys : List α) : (xs ++ ys).idxOfNth x n < xs.length := by
  refine Nat.lt_of_not_le ?_
  intro hle
  have hn : n < (xs ++ ys).count x := by
    rw [List.count_append]
    exact Nat.lt_add_right _ h
  have hcount := List.countBefore_idxOfNth_of_lt_count hn
  rw [List.countBefore_eq_count_take, List.take_append, List.take_of_length_le hle,
    List.count_append] at hcount
  omega

/-- If every value occurs among `ys` as often as among the images of `xs`, each element of `xs` has
a place of its own in `ys`. It is in a prefix of `ys` that has as many as a prefix of `xs` with the
element. -/
theorem exists_places {α β : Type} [BEq β] [LawfulBEq β] {f : α → β} {xs : List α} {ys : List β}
    (h : List.Subperm (xs.map f) ys) :
    ∃ place : Fin xs.length → Nat, Function.Injective place ∧
      (∀ k, ys[place k]? = some (f xs[k])) ∧
      ∀ (k : Fin xs.length) (n n' : Nat), (k : Nat) < n →
        (∀ y, ((xs.map f).take n).count y ≤ (ys.take n').count y) → place k < n' := by
  let image (k : Fin xs.length) : Fin (xs.map f).length := k.cast (List.length_map f).symm
  refine ⟨fun k => h.idxInj (image k), ?_, ?_, ?_⟩
  · intro k k' hk
    have himage : image k = image k' := h.idxInj_injective (Fin.ext hk)
    exact Fin.ext (congrArg (fun k : Fin (xs.map f).length => (k : Nat)) himage)
  · intro k
    have hget := h.getElem_idxInj_eq_getElem (i := image k)
    rw [List.getElem?_eq_getElem (h.idxInj (image k)).isLt, hget]
    simp [image]
  · intro k n n' hk hle
    have hlt : (k : Nat) < ((xs.map f).take n).length := by
      rw [List.length_take, List.length_map]
      exact Nat.lt_min.mpr ⟨hk, k.isLt⟩
    have hget : ((xs.map f).take n)[(k : Nat)] = (xs.map f)[image k] := by simp [image]
    have hbefore : (xs.map f).countBefore (xs.map f)[image k] (image k) =
        ((xs.map f).take n).countBefore ((xs.map f).take n)[(k : Nat)] k := by
      rw [hget, List.countBefore_eq_count_take, List.countBefore_eq_count_take, List.take_take,
        Nat.min_eq_left (Nat.le_of_lt hk)]
      rfl
    have hcount : ((xs.map f).take n).countBefore ((xs.map f).take n)[(k : Nat)] k <
        (ys.take n').count ((xs.map f).take n)[(k : Nat)] :=
      Nat.lt_of_lt_of_le List.countBefore_lt_count_getElem (hle _)
    have hplace := idxOfNth_append_lt hcount (ys.drop n')
    rw [List.take_append_drop, ← hbefore, hget] at hplace
    exact Nat.lt_of_lt_of_le hplace (List.length_take_le n' ys)

/-- The reported packet `e` comes from the write of `payload` under `header` that is step `i` of a
run, and from the resolution that is step `m`. -/
structure ComesFrom (w : World) (actions : List Action) (e : Nat × Ssrc × ReportedPacket)
    (header : RtpHeader) (bytes payload : Bytes) (i m : Nat) : Prop where
  write : actions[i]? = some (.call (.writeRtp header payload))
  accepted : ∃ n, ((w.before actions i).session.writeRtp header payload).2 = .ok n
  tracker : (w.before actions i).session.tracker? = some e.1
  serialized : header.serialized.result = .ok bytes
  ssrc : e.2.1 = header.ssrc
  sequenceNumber : e.2.2.sequenceNumber = header.sequenceNumber
  sentAt : e.2.2.sentAt = (w.before actions i).session.env.now.1
  size : e.2.2.size = (bytes ++ payload).length
  acked : Resolved w actions i m .acked e.2.2.ackedAt
  once : ∀ m' d now, Resolved w actions i m' d now → m' = m ∧ d = .acked

theorem comesFrom_of_tracksAt {e : Nat × Ssrc × ReportedPacket} {i m : Nat} {notice : Notice}
    (ht : TracksAt w actions i ⟨e.1, (e.2.2.ack e.2.1).packet, notice⟩)
    (hacked : Resolved w actions i m .acked e.2.2.ackedAt) :
    ∃ header bytes payload, ComesFrom w actions e header bytes payload i m := by
  obtain ⟨c, hc, hw⟩ := ht
  obtain ⟨header, payload, bytes, n, rfl, hg, hbytes, hpacket, hn⟩ :=
    Session.trackedWrite?_eq_some hw
  simp only [ReportedPacket.ack, Session.sentPacket, SentPacket.mk.injEq] at hpacket
  obtain ⟨hsentAt, hssrc, hsize, hnumber⟩ := hpacket
  refine ⟨header, bytes, payload, hc, ⟨n, hn⟩, hg, hbytes, hssrc, hnumber, hsentAt, hsize, hacked,
    ?_⟩
  intro m' d now h
  obtain ⟨hm, hd, -⟩ := hacked.unique h
  exact ⟨hm, hd⟩

/-- What was reported and told before step `j` was reported and told first. -/
theorem prefix_before (hw : Reachable w) (actions : List Action) (j : Nat) :
    (∃ more, (w.run actions).reportedPackets = (w.before actions j).reportedPackets ++ more) ∧
      ∃ more, (w.run actions).session.toldAcks =
        (w.before actions j).session.toldAcks ++ more := by
  have hrun : w.run actions = (w.before actions j).run (actions.drop j) := by
    unfold before
    rw [← run_append, List.take_append_drop]
  have hjournal := (hw.run (actions.take j)).inOrder.journal_run (actions.drop j)
  rw [hrun]
  exact ⟨hjournal.gather_prefix _, hjournal.gather_prefix _⟩

theorem lt_of_length_toldAcks (hw : Reachable w) {j m q : Nat}
    (hm : (w.before actions m).session.toldAcks.length = q)
    (hq : q < (w.before actions j).session.toldAcks.length) : m < j := by
  refine Nat.lt_of_not_le ?_
  intro hle
  obtain ⟨more, hmore⟩ := exists_run_before hle w actions
  have hjournal := (hw.run (actions.take j)).inOrder.journal_run more
  obtain ⟨new, hnew⟩ := hjournal.gather_prefix JournalEntry.toldAck
  have hlength := congrArg List.length hnew
  rw [List.length_append] at hlength
  rw [hmore] at hm
  unfold Session.toldAcks at hm hq
  unfold before at hm hq
  omega

/-- Every packet in a report that was handed over comes from a write of its own that was accepted
while packets were tracked for the reporter, and whose notifier was resolved as acked, once and for
all. The report has the data of the packet, and the times of the write and of the resolution. Both
were before the report. -/
theorem reported_packets_come_from_writes (hw : Initial w) (actions : List Action) :
    ∃ write resolution : Fin (w.run actions).reportedPackets.length → Nat,
      Function.Injective write ∧
      ∀ k, (∃ header bytes payload, ComesFrom w actions (w.run actions).reportedPackets[k]
          header bytes payload (write k) (resolution k)) ∧
        write k ≤ resolution k ∧
        ∀ j, k < (w.before actions j).reportedPackets.length → resolution k < j := by
  have hreach : Reachable (w.run actions) := hw.reachable.run actions
  have hend : w.before actions actions.length = w.run actions := by
    unfold before
    rw [List.take_length]
  have hsub : List.Subperm ((w.run actions).reportedPackets.map ackOf)
      (w.run actions).session.toldAcks :=
    List.subperm_ext_iff.mpr fun x _ => count_reported_le hreach x
  obtain ⟨place, hinjective, hplace, hwithin⟩ := exists_places hsub
  have horigin : ∀ k, ∃ i m, (w.before actions m).session.toldAcks.length = place k ∧
      ∃ header bytes payload,
        ComesFrom w actions (w.run actions).reportedPackets[k] header bytes payload i m := by
    intro k
    have hk : (w.before actions actions.length).session.toldAcks[place k]? =
        some (ackOf (w.run actions).reportedPackets[k]) := by
      rw [hend]
      exact hplace k
    obtain ⟨i, m, hfrom⟩ := exists_toldFrom hw hk
    obtain ⟨notice, htracks⟩ := hfrom.write
    exact ⟨i, m, hfrom.place, comesFrom_of_tracksAt htracks hfrom.resolved⟩
  choose write resolution hlength hcomes using horigin
  refine ⟨write, resolution, fun k k' hk => hinjective ?_, fun k => ⟨hcomes k, ?_, ?_⟩⟩
  · -- one write has one resolution, and one resolution tells one ack
    obtain ⟨header, bytes, payload, hfrom⟩ := hcomes k
    obtain ⟨header', bytes', payload', hfrom'⟩ := hcomes k'
    have hsame := (hfrom.once _ _ _ (hk ▸ hfrom'.acked)).1
    rw [← hlength k, ← hlength k', hsame]
  · obtain ⟨header, bytes, payload, hfrom⟩ := hcomes k
    exact hfrom.acked.le
  · intro j hj
    obtain ⟨⟨more, hmore⟩, ⟨new, hnew⟩⟩ := prefix_before hw.reachable actions j
    refine lt_of_length_toldAcks hw.reachable (hlength k) (hwithin k _ _ hj ?_)
    intro y
    have hcount := count_reported_le (hw.reachable.run (actions.take j)) y
    rw [hmore, hnew, List.map_append, List.take_left', List.take_left']
    · exact hcount
    · rfl
    · exact List.length_map _

/-- Of four packets two are reported in the first report, in the order of their streams, each from a
write of its own. -/
theorem reported_batch_comes_from_writes :
    ∃ e e', (run { session := {} } fourPackets).reportedPackets = [e, e'] ∧
      (e.2.1, e.2.2.sequenceNumber) = (1, ⟨8⟩) ∧ (e'.2.1, e'.2.2.sequenceNumber) = (2, ⟨7⟩) ∧
      ∃ i i' m m', i ≠ i' ∧
        (∃ header bytes payload,
          ComesFrom { session := {} } fourPackets e header bytes payload i m) ∧
        ∃ header bytes payload,
          ComesFrom { session := {} } fourPackets e' header bytes payload i' m' := by
  obtain ⟨write, resolution, hinjective, hcomes⟩ :=
    reported_packets_come_from_writes initial_empty fourPackets
  have hreported : ((run { session := {} } fourPackets).reportedPackets.map
      fun e => (e.2.1, e.2.2.sequenceNumber)) = [(1, ⟨8⟩), (2, ⟨7⟩)] := by
    decide +kernel
  obtain ⟨e, e', hboth⟩ := List.length_eq_two.mp
    ((List.length_map _).symm.trans (congrArg List.length hreported))
  rw [hboth] at hreported
  simp only [List.map_cons, List.map_nil, List.cons.injEq, and_true] at hreported
  have hlength : (run { session := {} } fourPackets).reportedPackets.length = 2 := by
    rw [hboth]
    rfl
  obtain ⟨hfrom, -⟩ := hcomes ⟨0, by omega⟩
  obtain ⟨hfrom', -⟩ := hcomes ⟨1, by omega⟩
  rw [Fin.getElem_fin, List.getElem_of_eq hboth] at hfrom hfrom'
  refine ⟨e, e', hboth, hreported.1, hreported.2, _, _, _, _, fun hsame => ?_, hfrom, hfrom'⟩
  cases congrArg Fin.val (hinjective hsame)

end World

end MediaMux
