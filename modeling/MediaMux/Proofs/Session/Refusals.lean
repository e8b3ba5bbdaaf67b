import MediaMux.Proofs.Feedback.Reported
import MediaMux.Proofs.Session.Provenance
import MediaMux.Proofs.Session.Tables

/-!
# Writes that fail

A write can fail at five points: the packet cannot be serialized, its class has no flow, the flow is
not bound, the transport does not report delivery although packets are tracked, or the transport
refuses. At none of them is anything left but the step of the classifier and a refusal that was
counted (`Session.NoTrace`). So nothing is ever told of a packet that was not accepted, and nothing
reported (`World.failed_write_leaves_no_trace`).
-/

namespace MediaMux

open Feedback Journal

/-- Whether a transport refused the write. -/
def FlowError.isRefusal : FlowError → Bool
  | refused _ => true
  | _ => false

/-- Whether the outcome is a loss on a source. -/
def Feedback.Outcome.isLossOn (ssrc : Ssrc) : Outcome → Bool
  | .acked _ => false
  | .lost source _ => source = ssrc

theorem Serialized.result_eq_error {x : Serialized} {e : FlowError} (h : x.result = .error e) :
    ∃ cause, e = .unserializable cause := by
  unfold result at h
  split at h <;> cases h
  exact ⟨_, rfl⟩

/-! ### Transports -/

/-- The transport without the refusals that it has in store. -/
def Transport.unscripted {ω : Type} (t : Transport ω) : Transport ω := { t with refusals := [] }

section Unscripted

variable {ω : Type} {f : Flow} {ts : List (Transport ω)} {payload : Bytes} {w : ω}

theorem Transport.unscripted_write {t : Transport ω} {e : TransportError}
    (h : (t.write payload).2 = .error e) : (t.write payload).1.unscripted = t.unscripted := by
  unfold write at h ⊢
  split at h
  · split at h
    · simp [unscripted, *]
    · cases h
  · cases h

theorem Transport.unscripted_writeWatched {t : Transport ω} {e : TransportError}
    (h : (t.writeWatched payload w).2 = .error e) :
    (t.writeWatched payload w).1.unscripted = t.unscripted := by
  unfold writeWatched at h ⊢
  split at h
  · rfl
  · split at h <;> cases h

/-- A write that fails takes at most a refusal from the store of its transport. -/
theorem Flow.unscripted_write {e : FlowError} (h : (f.write ts payload).2 = .error e) :
    (f.write ts payload).1.map Transport.unscripted = ts.map Transport.unscripted := by
  unfold Flow.write at h ⊢
  cases htarget : f.target? ts with
  | none => rfl
  | some target =>
    obtain ⟨place, t⟩ := target
    simp only [htarget] at h
    refine map_set_same (Flow.target?_eq_some_iff.mp htarget).2 ?_
    cases houtcome : (t.write (f.frame payload)).2 with
    | ok n =>
      rw [houtcome] at h
      cases h
    | error cause => exact Transport.unscripted_write houtcome

theorem Flow.unscripted_writeWatched {e : FlowError}
    (h : (f.writeWatched ts payload w).2 = .error e) :
    (f.writeWatched ts payload w).1.map Transport.unscripted = ts.map Transport.unscripted := by
  unfold Flow.writeWatched at h ⊢
  cases htarget : f.target? ts with
  | none => rfl
  | some target =>
    obtain ⟨place, t⟩ := target
    simp only [htarget] at h ⊢
    split at h
    · next haware =>
      rw [if_pos haware]
      refine map_set_same (Flow.target?_eq_some_iff.mp htarget).2 ?_
      cases houtcome : (t.writeWatched (f.frame payload) w).2 with
      | ok accepted =>
        rw [houtcome] at h
        cases h
      | error cause => exact Transport.unscripted_writeWatched houtcome
    · next haware => rw [if_neg haware]

end Unscripted

/-! ### Sessions -/

namespace Session

/-- What a write of a packet that failed with `e` can have changed: the transport has refused, which
was counted, the classifier was asked, if the packet could be serialized, and the clock was read. -/
structure NoTrace (s s' : Session) (header : RtpHeader) (payload : Bytes) (e : FlowError) :
    Prop where
  transports : s'.transports.map Transport.unscripted = s.transports.map Transport.unscripted
  rtp : s'.rtp =
    match header.serialized.result with
    | .ok _ =>
      s.rtp.map fun rtp => { rtp with classifier := (rtp.classifier.classify header payload).2 }
    | .error _ => s.rtp
  env : s'.env =
    { s.env with
      clock := s'.env.clock
      journal := if e.isRefusal then .refused :: s.env.journal else s.env.journal }
  others : s' = { s with transports := s'.transports, rtp := s'.rtp, env := s'.env }

variable {s s' : Session} {header : RtpHeader} {payload : Bytes} {e : FlowError}

theorem NoTrace.reporters (h : NoTrace s s' header payload e) : s'.reporters = s.reporters :=
  (congrArg Session.reporters h.others :)

theorem NoTrace.held (h : NoTrace s s' header payload e) : s'.held = s.held := by
  have hheld := congrArg (List.map Transport.held) h.transports
  rwa [List.map_map, List.map_map] at hheld

theorem NoTrace.recorded (h : NoTrace s s' header payload e) (q : Nat) :
    s'.recorded q = s.recorded q := by
  have hbuffers := congrArg (fun ts => (ts[q]?.map Transport.buffers).getD []) h.transports
  simp only [List.getElem?_map, Option.map_map] at hbuffers
  exact hbuffers

theorem NoTrace.table? (h : NoTrace s s' header payload e) : s'.table? = s.table? := by
  unfold Session.table?
  rw [h.rtp]
  split
  · rw [Option.map_map]
    rfl
  · rfl

theorem NoTrace.feedback? (h : NoTrace s s' header payload e) : s'.feedback? = s.feedback? := by
  unfold Session.feedback?
  rw [h.rtp]
  split
  · rw [Option.bind_map]
    rfl
  · rfl

/-- Of what is measured, a refusal changes the number of refusals. -/
theorem NoTrace.metrics (h : NoTrace s s' header payload e) :
    s'.env.journal.metrics =
      { s.env.journal.metrics with
        refusedWrites := s.env.journal.metrics.refusedWrites + if e.isRefusal then 1 else 0 } := by
  rw [h.env]
  cases e.isRefusal with
  | false => rfl
  | true => simp [Journal.metrics, total]

/-- The session after a write failed with `e`. -/
def refuse (s : Session) (ts : List (Transport Watcher)) (e : FlowError) : Session :=
  { s with
    transports := ts
    env := { s.env with
      journal := if e.isRefusal then .refused :: s.env.journal else s.env.journal } }

theorem writeFlow_error {f : Flow} {packet : Bytes} (h : (s.writeFlow f packet).2 = .error e) :
    ∃ ts, ts.map Transport.unscripted = s.transports.map Transport.unscripted ∧
      (s.writeFlow f packet).1 = s.refuse ts e := by
  have htransports : (f.write s.transports packet).2 = .error e → _ := Flow.unscripted_write
  unfold writeFlow at h ⊢
  generalize f.write s.transports packet = written at h htransports ⊢
  obtain ⟨ts, outcome⟩ := written
  cases outcome with
  | ok n => cases h
  | error e' =>
    cases e' <;> cases h <;> exact ⟨ts, htransports rfl, rfl⟩

theorem writeFlowWatched_error {f : Flow} {packet : Bytes} {w : Watcher}
    (h : (s.writeFlowWatched f packet w).2 = .error e) :
    ∃ ts, ts.map Transport.unscripted = s.transports.map Transport.unscripted ∧
      (s.writeFlowWatched f packet w).1 = s.refuse ts e := by
  have htransports : (f.writeWatched s.transports packet w).2 = .error e → _ :=
    Flow.unscripted_writeWatched
  unfold writeFlowWatched at h ⊢
  generalize f.writeWatched s.transports packet w = written at h htransports ⊢
  obtain ⟨ts, outcome⟩ := written
  cases outcome with
  | ok answer => cases h
  | error e' =>
    cases e' <;> cases h <;> exact ⟨ts, htransports rfl, rfl⟩

/-- A write that fails leaves no trace. -/
theorem noTrace_writeRtp (h : (s.writeRtp header payload).2 = .error e) :
    NoTrace s (s.writeRtp header payload).1 header payload e := by
  have hrtp := s.rtp_writeRtp header payload
  have hrouted := s.routed_writeRtp header payload
  generalize s.writeRtp header payload = written at h hrtp hrouted ⊢
  -- in the last two cases the flow is not bound, does not report delivery, or is refused
  cases hrouted with
  | unbound =>
    cases h
    exact ⟨rfl, hrtp, rfl, rfl⟩
  | unserializable hbytes =>
    cases h
    obtain ⟨cause, rfl⟩ := Serialized.result_eq_error hbytes
    exact ⟨rfl, hrtp, rfl, rfl⟩
  | unrouted =>
    cases h
    exact ⟨rfl, hrtp, rfl, rfl⟩
  | plain =>
    obtain ⟨ts, hts, hsession⟩ := writeFlow_error h
    rw [hsession] at hrtp ⊢
    exact ⟨hts, hrtp, rfl, rfl⟩
  | watched =>
    obtain ⟨ts, hts, hsession⟩ := writeFlowWatched_error h
    rw [hsession] at hrtp ⊢
    exact ⟨hts, hrtp, rfl, rfl⟩

end Session

/-! ### Runs -/

theorem count_takenLoss (j : Journal) (ssrc : Ssrc) :
    (gather JournalEntry.takenLoss j).count ssrc =
      (gather JournalEntry.takenIn j).countP (Outcome.isLossOn ssrc) := by
  induction j with
  | nil => rfl
  | cons e j ih =>
    cases e <;> simp [ih, List.count_singleton, List.countP_cons, Outcome.isLossOn]

namespace World

variable {w : World} {actions : List Action} {i : Nat} {header : RtpHeader} {payload : Bytes}
  {e : FlowError}

theorem TracksAt.accepted {t : TrackedWrite} (h : TracksAt w actions i t) :
    ∃ header payload n, actions[i]? = some (.call (.writeRtp header payload)) ∧
      ((w.before actions i).session.writeRtp header payload).2 = .ok n := by
  obtain ⟨c, hc, ht⟩ := h
  obtain ⟨header, payload, -, n, rfl, -, -, -, hn⟩ := Session.trackedWrite?_eq_some ht
  exact ⟨header, payload, n, hc, hn⟩

theorem Resolved.exists_tracksAt {m now : Nat} {d : Delivery} (h : Resolved w actions i m d now) :
    ∃ t, TracksAt w actions i t := by
  cases h with
  | atOnce ht | later ht => exact ⟨_, ht⟩

/-- A step is not both a write that failed and a write of which something was told. -/
theorem not_tracksAt_of_error (hwrite : actions[i]? = some (.call (.writeRtp header payload)))
    (hfailed : ((w.before actions i).session.writeRtp header payload).2 = .error e)
    (t : TrackedWrite) : ¬ TracksAt w actions i t := by
  intro ht
  obtain ⟨header', payload', n, hwrite', hok⟩ := ht.accepted
  cases hwrite.symm.trans hwrite'
  cases hfailed.symm.trans hok

/-- No ack is in more reports than it was told. -/
theorem count_handed_le (hw : Reachable w) (g : Nat) (a : Ack) :
    ((gather JournalEntry.handedReport (w.history g)).flatMap Report.acks).count a ≤
      w.session.toldOutcomes.count (g, .acked a) := by
  have hcount := count_reported_le hw (g, a)
  rw [reportedPackets, count_reported, Session.toldAcks_eq, List.count_filterMap] at hcount
  refine Nat.le_trans hcount (List.countP_mono_left ?_)
  rintro told - h
  simpa [ackTold_eq_some] using h

/-- No more losses are reported on a source than were told. -/
theorem lost_handed_le (hw : Reachable w) (g : Nat) (ssrc : Ssrc) :
    total (Report.lostOn · ssrc) (gather JournalEntry.handedReport (w.history g)) ≤
      w.session.toldOutcomes.countP fun e => e.1 = g && e.2.isLossOn ssrc := by
  refine Nat.le_trans ?_ (countP_toldInTime_le w.session.env.journal g (Outcome.isLossOn ssrc))
  rcases Nat.lt_or_ge g w.session.reporters.length with hlt | hge
  · have hsc := scene?_of_reporter (w := w) (List.getElem?_eq_getElem hlt)
    have hhistory := hw.inOrder.history_eq hsc
    have hlosses := ((hw.course hsc).reported.handed.losses ssrc).1
    have htold := congrArg (List.countP (Outcome.isLossOn ssrc)) (hw.course hsc).queued.told
    rw [hhistory] at hlosses htold
    rw [List.countP_append, List.countP_append, ← count_takenLoss] at htold
    show _ ≤ (gather JournalEntry.toldInTime (w.history g)).countP _
    omega
  · have hnone : w.session.env.journal.of g = [] := hw.inOrder.session.registered.unborn g hge
    rw [history, hnone]
    exact Nat.zero_le _

/-- A write that fails changes nothing but what `NoTrace` names: no transport records a buffer or
keeps a notifier, flows and feedback stay as they are, no reporter is told anything, and of what is
measured only the refusals change, if it was one. Nor is it heard of later, whatever happens: it is
never resolved, every outcome that is told comes from another write of its own, which was accepted,
and no more acks and losses are reported than were told. -/
theorem failed_write_leaves_no_trace (hw : Initial w)
    (hwrite : actions[i]? = some (.call (.writeRtp header payload)))
    (hfailed : ((w.before actions i).session.writeRtp header payload).2 = .error e) :
    let s := (w.before actions i).session
    let s' := (w.before actions (i + 1)).session
    let told := (w.run actions).session.toldOutcomes
    s.NoTrace s' header payload e ∧
    (∀ q, s'.recorded q = s.recorded q) ∧ s'.held = s.held ∧ s'.table? = s.table? ∧
    s'.feedback? = s.feedback? ∧ s'.reporters = s.reporters ∧
    s'.env.journal.metrics =
      { s.env.journal.metrics with
        refusedWrites := s.env.journal.metrics.refusedWrites + if e.isRefusal then 1 else 0 } ∧
    (∀ m d now, ¬ Resolved w actions i m d now) ∧
    (∃ write : Fin told.length → Nat, Function.Injective write ∧
      ∀ k, write k ≠ i ∧ ∃ m, OutcomeFrom w actions told[k] (write k) m) ∧
    ∀ g,
      (∀ a, ((gather JournalEntry.handedReport ((w.run actions).history g)).flatMap
        Report.acks).count a ≤ told.count (g, .acked a)) ∧
      ∀ ssrc, total (Report.lostOn · ssrc)
        (gather JournalEntry.handedReport ((w.run actions).history g)) ≤
          told.countP fun e => e.1 = g && e.2.isLossOn ssrc := by
  intro s s' told
  have hafter : s' = (s.writeRtp header payload).1 :=
    congrArg World.session (before_succ hwrite)
  have htrace : s.NoTrace s' header payload e := hafter ▸ Session.noTrace_writeRtp hfailed
  have hnever := not_tracksAt_of_error hwrite hfailed
  refine ⟨htrace, htrace.recorded, htrace.held, htrace.table?, htrace.feedback?, htrace.reporters,
    htrace.metrics, ?_, ?_, ?_⟩
  · intro m d now hresolved
    obtain ⟨t, ht⟩ := hresolved.exists_tracksAt
    exact hnever t ht
  · obtain ⟨write, hinjective, hfrom⟩ := exists_writes hw actions
    refine ⟨write, hinjective, fun k => ⟨?_, hfrom k⟩⟩
    rintro rfl
    obtain ⟨m, p, notice, d, now, htracks, -⟩ := hfrom k
    exact hnever _ htracks
  · intro g
    have hreachable := hw.reachable.run actions
    exact ⟨count_handed_le hreachable g, lost_handed_le hreachable g⟩

/-- The transport refuses the first of two packets that are tracked. The second is acked and
reported. -/
def refusedOnce : List Action :=
  [.call (.addSink (.takingFirst none)),
    .call (.startFeedback 1 { batch := some 1 } .shared 0 none), .proceed 0,
    .call (.addTransport { reportsDelivery := true }), .call (.bindRtp 0),
    .call (.script 0 { reportsDelivery := true } [⟨.wouldBlock, none⟩]),
    .call (.writeRtp (FixedHeader.toRtpHeader {}) [7]),
    .call (.writeRtp (FixedHeader.toRtpHeader {}) []), .call (.resolve 0 0 .acked)] ++
  List.replicate 4 (.proceed 0)

/-- The refusal is counted. What is told and reported is the ack of the other packet. -/
theorem refused_packet_unheard :
    let w : World := { session := {} }
    let told := (w.run refusedOnce).session.toldOutcomes
    let acks := (gather JournalEntry.handedReport ((w.run refusedOnce).history 0)).flatMap
      Report.acks
    (w.before refusedOnce 7).session.env.journal.metrics.refusedWrites = 1 ∧
      (w.before refusedOnce 7).session.held = [[]] ∧ told.length = 1 ∧
      (∀ k : Fin told.length, ∃ i m, i ≠ 6 ∧ OutcomeFrom w refusedOnce told[k] i m) ∧
      acks.length = 1 ∧ ∀ a, acks.count a ≤ told.count (0, .acked a) := by
  intro w told acks
  have hwrite : refusedOnce[6]? = some (.call (.writeRtp (FixedHeader.toRtpHeader {}) [7])) := rfl
  have hfailed : ((w.before refusedOnce 6).session.writeRtp (FixedHeader.toRtpHeader {}) [7]).2 =
      .error (.refused ⟨.wouldBlock, none⟩) := by decide
  obtain ⟨-, -, hheld, -, -, -, hmetrics, -, ⟨write, -, hfrom⟩, hreported⟩ :=
    failed_write_leaves_no_trace initial_empty hwrite hfailed
  have hcount : (w.before refusedOnce 7).session.env.journal.metrics.refusedWrites = 1 :=
    congrArg Metrics.refusedWrites hmetrics
  refine ⟨hcount, hheld, by decide, ?_, by decide +kernel, (hreported 0).1⟩
  intro k
  obtain ⟨hother, m, hm⟩ := hfrom k
  exact ⟨write k, m, hother, hm⟩

end World

end MediaMux
