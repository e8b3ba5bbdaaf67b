import MediaMux.Proofs.Session.Projection
import MediaMux.Proofs.Session.Tables

/-!
# A session without its feedback

`Session.bare` forgets all that is there for feedback: the notifiers that transports keep, the
reporters and what they share, and the journal entries on them. What is left is the session on the
wire. A write with a notifier leaves the same bare session as one without, if the transport treats
both alike (`Session.writeRtp_bare`).
-/

namespace MediaMux

open Feedback

/-! ### Transports -/

variable {ω : Type}

namespace Transport

/-- The transport without the notifiers that it keeps. -/
def bare (t : Transport ω) : Transport ω := { t with held := [] }

/-- The transport is aware of delivery, and accepts, refuses and counts a buffer with a notifier as
it does one without. -/
structure Alike (t : Transport ω) : Prop where
  aware : t.traits.reportsDelivery = true
  same : ∀ buffer watcher, (t.writeWatched buffer watcher).2.map Prod.fst = (t.write buffer).2

theorem write_bare (t : Transport ω) (buffer : Bytes) :
    t.bare.write buffer = ((t.write buffer).1.bare, (t.write buffer).2) := by
  obtain ⟨traits, refusals, buffers, held⟩ := t
  cases refusals with
  | nil => rfl
  | cons e rest =>
    unfold write bare
    dsimp only
    split <;> rfl

theorem writeWatched_bare (t : Transport ω) (buffer : Bytes) (watcher : ω) :
    (t.bare.writeWatched buffer watcher).1.bare = (t.writeWatched buffer watcher).1.bare ∧
      (t.bare.writeWatched buffer watcher).2 = (t.writeWatched buffer watcher).2 := by
  obtain ⟨traits, refusals, buffers, held⟩ := t
  cases refusals with
  | nil =>
    unfold writeWatched bare
    dsimp only
    split <;> exact ⟨rfl, rfl⟩
  | cons e rest => exact ⟨rfl, rfl⟩

theorem alike_bare {t : Transport ω} : t.bare.Alike ↔ t.Alike := by
  constructor
  · intro h
    refine ⟨h.aware, fun buffer watcher => ?_⟩
    have hsame := h.same buffer watcher
    rwa [(t.writeWatched_bare buffer watcher).2, write_bare] at hsame
  · intro h
    refine ⟨h.aware, fun buffer watcher => ?_⟩
    rw [(t.writeWatched_bare buffer watcher).2, write_bare]
    exact h.same buffer watcher

/-- A transport that treats both alike also keeps the same of both, but for the notifier. -/
theorem Alike.bare_writeWatched {t : Transport ω} (h : t.Alike) (buffer : Bytes) (watcher : ω) :
    (t.writeWatched buffer watcher).1.bare = (t.write buffer).1.bare := by
  have hsame := h.same buffer watcher
  unfold writeWatched write at hsame ⊢
  cases hrefusals : t.refusals with
  | nil => cases t.traits.disposition <;> rfl
  | cons e rest =>
    simp only [hrefusals] at hsame
    dsimp only
    by_cases hplain : t.traits.refusesPlain = true
    · rw [if_pos hplain]
    · -- it would have to accept the one buffer and refuse the other
      rw [if_neg hplain] at hsame
      cases hsame

/-- A transport whose scripted refusals count for every buffer treats both alike. -/
theorem alike_of_traits {t : Transport ω} (haware : t.traits.reportsDelivery = true)
    (hplain : t.traits.refusesPlain = true) : t.Alike := by
  refine ⟨haware, fun buffer watcher => ?_⟩
  unfold writeWatched write
  cases t.refusals with
  | nil => cases t.traits.disposition <;> rfl
  | cons e rest =>
    simp only [hplain, if_true]
    rfl

end Transport

/-! ### Flows -/

namespace Flow

variable {f : Flow} {ts : List (Transport ω)}

theorem target?_bare (f : Flow) (ts : List (Transport ω)) :
    f.target? (ts.map Transport.bare) = (f.target? ts).map fun x => (x.1, x.2.bare) := by
  unfold target?
  cases f.transport with
  | none => rfl
  | some place => cases h : ts[place]? <;> simp [h]

theorem write_bare (f : Flow) (ts : List (Transport ω)) (payload : Bytes) :
    f.write (ts.map Transport.bare) payload =
      ((f.write ts payload).1.map Transport.bare, (f.write ts payload).2) := by
  unfold write
  rw [target?_bare]
  cases f.target? ts with
  | none => rfl
  | some target => simp [Transport.write_bare, List.map_set]

theorem writeWatched_bare (f : Flow) (ts : List (Transport ω)) (payload : Bytes) (watcher : ω) :
    (f.writeWatched (ts.map Transport.bare) payload watcher).1.map Transport.bare =
        (f.writeWatched ts payload watcher).1.map Transport.bare ∧
      (f.writeWatched (ts.map Transport.bare) payload watcher).2 =
        (f.writeWatched ts payload watcher).2 := by
  have hbare : ∀ ts : List (Transport ω), (ts.map Transport.bare).map Transport.bare =
      ts.map Transport.bare := by
    intro ts
    rw [List.map_map]
    rfl
  unfold writeWatched
  rw [target?_bare]
  cases f.target? ts with
  | none => exact ⟨hbare ts, rfl⟩
  | some target =>
    obtain ⟨place, t⟩ := target
    obtain ⟨htransport, houtcome⟩ := t.writeWatched_bare (f.frame payload) watcher
    have htraits : t.bare.traits = t.traits := rfl
    simp only [Option.map_some, htraits]
    split
    · exact ⟨by simp [List.map_set, hbare, htransport], by rw [houtcome]⟩
    · exact ⟨hbare ts, rfl⟩

/-- With a notifier and without one, a flow writes the same to a transport that treats both
alike. -/
theorem writeWatched_of_alike (h : ∀ place t, f.target? ts = some (place, t) → t.Alike)
    (payload : Bytes) (watcher : ω) :
    (f.writeWatched ts payload watcher).1.map Transport.bare =
        (f.write ts payload).1.map Transport.bare ∧
      (f.writeWatched ts payload watcher).2.map Prod.fst = (f.write ts payload).2 := by
  unfold writeWatched write
  cases htarget : f.target? ts with
  | none => exact ⟨rfl, rfl⟩
  | some target =>
    obtain ⟨place, t⟩ := target
    have halike := h place t htarget
    have hbare := halike.bare_writeWatched (f.frame payload) watcher
    have hsame := halike.same (f.frame payload) watcher
    simp only [halike.aware, if_true]
    refine ⟨by rw [List.map_set, List.map_set, hbare], ?_⟩
    rw [← hsame]
    cases (t.writeWatched (f.frame payload) watcher).2 <;> rfl

end Flow

/-! ### Sessions -/

/-- The entries that are on no reporter. -/
def Journal.onWire (j : Journal) : Journal := j.filter fun e => e.reporter? = none

theorem Journal.onWire_cons (e : JournalEntry) (j : Journal) :
    onWire (e :: j) = if e.reporter? = none then e :: onWire j else onWire j := by
  unfold onWire
  rw [List.filter_cons]
  simp only [decide_eq_true_eq]

theorem Journal.Extends.onWire_eq {P : JournalEntry → Prop} {j j' : Journal}
    (h : Journal.Extends P j j') (hP : ∀ e, P e → e.reporter? ≠ none) : j'.onWire = j.onWire := by
  obtain ⟨added, rfl, hadded⟩ := h
  induction added with
  | nil => rfl
  | cons e rest ih =>
    rw [List.cons_append, onWire_cons, if_neg (hP e (hadded e List.mem_cons_self))]
    exact ih fun e' he' => hadded e' (List.mem_cons_of_mem e he')

/-- The flows of RTP packets without their feedback. -/
def RtpSender.bare (rtp : RtpSender) : RtpSender := { rtp with feedback := none }

namespace Session

/-- The session on the wire, with nothing that is there for feedback. -/
def bare (s : Session) : Session where
  env := { journal := s.env.journal.onWire }
  transports := s.transports.map Transport.bare
  rtp := s.rtp.map RtpSender.bare

variable {s s' : Session}

theorem bare_eq (hjournal : s.env.journal.onWire = s'.env.journal.onWire)
    (htransports : s.transports.map Transport.bare = s'.transports.map Transport.bare)
    (hrtp : s.rtp.map RtpSender.bare = s'.rtp.map RtpSender.bare) : s.bare = s'.bare := by
  unfold bare
  rw [hjournal, htransports, hrtp]

@[simp] theorem bare_bare (s : Session) : s.bare.bare = s.bare := by
  refine bare_eq ?_ ?_ ?_
  · show (s.env.journal.filter _).filter _ = _
    rw [List.filter_filter]
    simp [Journal.onWire]
  · show (s.transports.map _).map _ = _
    rw [List.map_map]
    rfl
  · show (s.rtp.map _).map _ = _
    rw [Option.map_map]
    rfl

theorem bare_log (s : Session) {e : JournalEntry} (he : e.reporter? = none) :
    (s.log e).bare = s.bare.log e := by
  unfold bare Session.log
  simp only [Environment.journal_log, Journal.onWire_cons, if_pos he]
  rfl

theorem tracker?_bare (s : Session) : s.bare.tracker? = none := by
  unfold tracker? bare
  cases s.rtp <;> rfl

/-! ### What is there for feedback only -/

theorem bare_enqueue (s : Session) (g : Nat) (o : Outcome) : (s.enqueue g o).bare = s.bare := by
  unfold enqueue
  split
  · rfl
  · next r hr =>
    refine bare_eq ?_ rfl rfl
    unfold Reporter.enqueue
    split <;> simp [Journal.onWire_cons]

theorem bare_inform (s : Session) (w : Watcher) (d : Delivery) : (s.inform w d).bare = s.bare := by
  cases w with
  | noted tag => rfl
  | tracked g p =>
    cases d with
    | acked => exact (bare_enqueue _ g _).trans (bare_eq rfl rfl rfl)
    | lost => exact bare_enqueue s g _

theorem bare_modifyTransport (s : Session) (place : Nat) {f : Transport Watcher → Transport Watcher}
    (h : ∀ t, (f t).bare = t.bare) : (s.modifyTransport place f).bare = s.bare := by
  refine bare_eq rfl ?_ rfl
  refine List.ext_getElem? fun i => ?_
  show ((s.transports.modify place f).map _)[i]? = _
  rw [List.getElem?_map, List.getElem?_map, List.getElem?_modify]
  split <;> simp [Function.comp_def, h]

theorem bare_resolve (s : Session) (place i : Nat) (d : Delivery) :
    (s.resolve place i d).1.bare = s.bare := by
  unfold resolve
  split
  · rfl
  · exact (bare_inform _ _ d).trans (bare_modifyTransport s place fun _ => rfl)

theorem bare_stopFeedback (s : Session) : s.stopFeedback.bare = s.bare := by
  unfold stopFeedback
  split <;> rfl

theorem bare_startFeedback (s : Session) (sender : Ssrc) (request : Request) (meter : MeterKind)
    (sink : Nat) (parent : Option Token) :
    (s.startFeedback sender request meter sink parent).1.bare = s.bare := by
  have hstarted := s.started_startFeedback sender request meter sink parent
  generalize s.startFeedback sender request meter sink parent = started at hstarted ⊢
  cases hstarted with
  | dropped | invalid | noRuntime => rfl
  | started hrtp =>
    have hstop := bare_stopFeedback s
    refine bare_eq (congrArg (·.env.journal) hstop) (congrArg (·.transports) hstop) ?_
    rw [hrtp]
    rfl

/-! ### Writes -/

/-- The session when the outcome of a write is counted. -/
def account (s : Session) (outcome : Except FlowError Nat) : Session :=
  match outcome with
  | .ok n => s.log (.sent n)
  | .error (.refused _) => s.log .refused
  | .error _ => s

theorem account_bare (s : Session) (outcome : Except FlowError Nat) :
    (s.account outcome).bare = s.bare.account outcome := by
  rcases outcome with e | n
  · cases e with
    | refused cause => exact bare_log s rfl
    | _ => rfl
  · exact bare_log s rfl

theorem writeFlow_eq (s : Session) (f : Flow) (payload : Bytes) :
    s.writeFlow f payload =
      ({ s with transports := (f.write s.transports payload).1 }.account
        (f.write s.transports payload).2, (f.write s.transports payload).2) := by
  unfold writeFlow
  rcases f.write s.transports payload with ⟨ts, e | n⟩
  · cases e <;> rfl
  · rfl

/-- But for what concerns feedback, a write with a notifier is counted as one without. -/
theorem bare_writeFlowWatched (s : Session) (f : Flow) (payload : Bytes) (w : Watcher) :
    (s.writeFlowWatched f payload w).1.bare =
        ({ s with transports := (f.writeWatched s.transports payload w).1 }.bare.account
          ((f.writeWatched s.transports payload w).2.map Prod.fst)) ∧
      (s.writeFlowWatched f payload w).2 =
        (f.writeWatched s.transports payload w).2.map Prod.fst := by
  unfold writeFlowWatched
  rcases f.writeWatched s.transports payload w with ⟨ts, e | ⟨n, resolution⟩⟩
  · refine ⟨?_, ?_⟩
    · rw [← account_bare]
      cases e <;> rfl
    · cases e <;> rfl
  · refine ⟨?_, rfl⟩
    have hlogged : ∀ s' : Session, s'.bare = { s with transports := ts }.bare →
        (s'.log (.sent n)).bare = { s with transports := ts }.bare.log (.sent n) := by
      intro s' hs'
      rw [bare_log s' rfl, hs']
    have htracked : ∀ s' : Session, ∀ g p, (s'.log (.tracked g p)).bare = s'.bare := by
      intro s' g p
      refine bare_eq ?_ rfl rfl
      simp [Session.log, Journal.onWire_cons]
    refine hlogged _ ?_
    cases w <;> cases resolution <;> simp [bare_inform, htracked]

theorem writeFlow_bare (s : Session) (f : Flow) (payload : Bytes) :
    s.bare.writeFlow f payload = ((s.writeFlow f payload).1.bare, (s.writeFlow f payload).2) := by
  have hwrite : f.write s.bare.transports payload = _ := f.write_bare s.transports payload
  rw [writeFlow_eq, writeFlow_eq, hwrite, account_bare]
  rfl

/-- Every transport that a flow of RTP packets is bound to treats buffers with a notifier and
without one alike. -/
def Watchable (s : Session) : Prop :=
  ∀ p f place t, s.flow? (.rtp p) = some f → f.target? s.transports = some (place, t) → t.Alike

theorem writeFlowWatched_of_alike {f : Flow}
    (h : ∀ place t, f.target? s.transports = some (place, t) → t.Alike) (payload : Bytes)
    (w : Watcher) :
    (s.writeFlowWatched f payload w).1.bare = (s.bare.writeFlow f payload).1 ∧
      (s.writeFlowWatched f payload w).2 = (s.bare.writeFlow f payload).2 := by
  obtain ⟨hbare, houtcome⟩ := s.bare_writeFlowWatched f payload w
  obtain ⟨htransports, hsame⟩ := Flow.writeWatched_of_alike h payload w
  rw [writeFlow_bare, writeFlow_eq, hbare, houtcome, hsame, account_bare]
  refine ⟨congrArg (account · _) ?_, rfl⟩
  exact bare_eq rfl htransports rfl

theorem writeRtp_bare (h : s.Watchable) (header : RtpHeader) (payload : Bytes) :
    (s.writeRtp header payload).1.bare = (s.bare.writeRtp header payload).1 ∧
      (s.writeRtp header payload).2 = (s.bare.writeRtp header payload).2 := by
  cases hrtp : s.rtp with
  | none =>
    have hnone : s.bare.rtp = none := by simp [bare, hrtp]
    simp [writeRtp, hrtp, hnone]
  | some rtp =>
    have hbare : s.bare.rtp = some rtp.bare := by simp [bare, hrtp]
    cases hbytes : header.serialized.result with
    | error e => simp [writeRtp, hrtp, hbare, hbytes]
    | ok bytes =>
      cases hflow : rtp.table.get? (rtp.classifier.classify header payload).1 with
      | none =>
        have hnone : rtp.bare.table.get? (rtp.bare.classifier.classify header payload).1 = none :=
          hflow
        simp only [writeRtp, hrtp, hbare, hbytes, hflow, hnone]
        exact ⟨rfl, rfl⟩
      | some f =>
        have hsome : rtp.bare.table.get? (rtp.bare.classifier.classify header payload).1 = some f :=
          hflow
        have hport : s.flow? (.rtp (rtp.classifier.classify header payload).1) = some f := by
          simp [flow?, hrtp, hflow]
        have hclassified : (s.classified rtp header payload).bare =
            s.bare.classified rtp.bare header payload := rfl
        rw [writeRtp_of_flow hrtp hbytes hflow, writeRtp_of_flow hbare hbytes hsome, tracker?_bare]
        cases s.tracker? with
        | none =>
          dsimp only
          rw [← hclassified, writeFlow_bare]
          exact ⟨rfl, rfl⟩
        | some g =>
          have halike : ∀ place t, f.target? s.transports = some (place, t) → t.Alike :=
            fun place t => h _ f place t hport
          exact writeFlowWatched_of_alike (s := { s.classified rtp header payload with
            env := s.env.now.2 }) halike _ _

end Session

end MediaMux
