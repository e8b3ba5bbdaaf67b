import MediaMux.Proofs.Feedback.Course
import MediaMux.Proofs.Session.Run

/-!
# Quiet calls and writes

Of all that a call can change, little concerns the reporters: the notifiers that transports keep,
the reporters with what they share, and the journal entries on them. A change of anything else is
quiet. A write is quiet unless it is accepted with a notifier, which the transport then keeps or
resolves at once (`Session.RtpWrite`).
-/

namespace MediaMux

open Feedback

theorem Flow.target?_eq_some_iff {ω : Type} {f : Flow} {ts : List (Transport ω)} {place : Nat}
    {t : Transport ω} :
    f.target? ts = some (place, t) ↔ f.transport = some place ∧ ts[place]? = some t := by
  unfold target?
  simp only [Option.bind_eq_bind, Option.bind_eq_some_iff, Option.pure_def, Option.some.injEq,
    Prod.mk.injEq]
  constructor
  · rintro ⟨_, hplace, _, ht, rfl, rfl⟩
    exact ⟨hplace, ht⟩
  · rintro ⟨hplace, ht⟩
    exact ⟨place, hplace, t, ht, rfl, rfl⟩

theorem Flow.target?_eq_none_iff {ω : Type} {f : Flow} {ts : List (Transport ω)} :
    f.target? ts = none ↔ ∀ place, f.transport = some place → ts[place]? = none := by
  simp only [Option.eq_none_iff_forall_ne_some, Prod.forall, ne_eq, target?_eq_some_iff, not_and]
  exact forall_congr' fun _ => forall_comm

theorem map_set_same {α β : Type} {f : α → β} {xs : List α} {i : Nat} {x y : α}
    (hx : xs[i]? = some x) (h : f y = f x) : (xs.set i y).map f = xs.map f := by
  obtain ⟨hlt, rfl⟩ := List.getElem?_eq_some_iff.mp hx
  have hlt' : i < (xs.map f).length := by rwa [List.length_map]
  have hsame : f xs[i] = (xs.map f)[i] := (List.getElem_map f).symm
  rw [List.map_set, h, hsame, List.set_getElem_self hlt']

/-! ### Notifiers -/

/-- What becomes of the notifier of a write. -/
inductive Notice
  /-- The transport at `place` keeps it for its buffer `slot`. -/
  | kept (place slot : Nat)
  /-- The transport resolves it at once. -/
  | told (delivery : Delivery)

/-- A write that was accepted with a notifier for a reporter. -/
structure TrackedWrite where
  reporter : Nat
  packet : SentPacket
  notice : Notice

/-- What becomes of the notifier of a write on a flow, if the write is accepted. -/
def Flow.notice? (f : Flow) (ts : List (Transport Watcher)) (payload : Bytes) (w : Watcher) :
    Option Notice :=
  match f.target? ts, (f.writeWatched ts payload w).2 with
  | some (place, t), .ok (_, none) => some (.kept place t.held.length)
  | some _, .ok (_, some d) => some (.told d)
  | none, _ => none
  | some _, .error _ => none

namespace Session

/-- What is remembered of an RTP packet of which `bytes` is the header. -/
def sentPacket (s : Session) (header : RtpHeader) (bytes payload : Bytes) : SentPacket :=
  ⟨s.env.now.1, header.ssrc, (bytes ++ payload).length, header.sequenceNumber⟩

/-- The tracked write that a call is, if it is one. -/
def trackedWrite? (s : Session) : Call → Option TrackedWrite
  | .writeRtp header payload => do
    let rtp ← s.rtp
    let bytes ← header.serialized.result.toOption
    let f ← rtp.table.get? (rtp.classifier.classify header payload).1
    let g ← s.tracker?
    (f.notice? s.transports (bytes ++ payload)
      (.tracked g (s.sentPacket header bytes payload))).map
      (⟨g, s.sentPacket header bytes payload, ·⟩)
  | _ => none

/-- The notifiers that the transports keep. -/
def held (s : Session) : List (List (Option Watcher)) := s.transports.map (·.held)

/-- The notifier that waits in a slot of a transport. -/
def waiting? (s : Session) (place slot : Nat) : Option Watcher :=
  (s.transports[place]?).bind (·.heldAt? slot)

def latest? (s : Session) : Option Nat := s.feedback?.map (·.reporter)

def keep (s : Session) (place : Nat) (w : Watcher) : Session :=
  s.modifyTransport place fun t => { t with held := t.held ++ [some w] }

/-- The session when the packet `p` is handed over with a notifier for the reporter `g`. -/
def handOver (s : Session) (g : Nat) (p : SentPacket) : Session :=
  { s with env := s.env.now.2.log (.tracked g p) }

/-! ### Quiet changes -/

/-- A change that does not concern the reporters. -/
structure Quiet (s s' : Session) : Prop where
  held : ∃ n, s'.held = s.held ++ List.replicate n []
  reporters : s'.reporters = s.reporters
  cancelled : s.env.cancelled ⊆ s'.env.cancelled
  journal : Journal.Extends (fun e => e.reporter? = none) s.env.journal s'.env.journal
  latest : ∀ g, s'.latest? = some g → s.latest? = some g

variable {s s' s'' : Session}

/-- A change that leaves what concerns the reporters as it is. -/
theorem Quiet.of_same (hheld : s'.held = s.held) (hreporters : s'.reporters = s.reporters)
    (hcancelled : s.env.cancelled ⊆ s'.env.cancelled)
    (hjournal : s'.env.journal = s.env.journal)
    (hlatest : ∀ g, s'.latest? = some g → s.latest? = some g) : Quiet s s' where
  held := ⟨0, by simp [hheld]⟩
  reporters := hreporters
  cancelled := hcancelled
  journal := hjournal ▸ Journal.Extends.refl _ _
  latest := hlatest

theorem Quiet.refl (s : Session) : Quiet s s :=
  .of_same rfl rfl (List.Subset.refl _) rfl fun _ => id

theorem Quiet.trans (h : Quiet s s') (h' : Quiet s' s'') : Quiet s s'' where
  held := by
    obtain ⟨n, hn⟩ := h.held
    obtain ⟨m, hm⟩ := h'.held
    exact ⟨n + m, by rw [hm, hn, List.append_assoc, List.replicate_append_replicate]⟩
  reporters := h'.reporters.trans h.reporters
  cancelled := List.Subset.trans h.cancelled h'.cancelled
  journal := h.journal.trans h'.journal
  latest := fun g hg => h.latest g (h'.latest g hg)

theorem Quiet.log (s : Session) {e : JournalEntry} (he : e.reporter? = none) :
    Quiet s (s.log e) where
  held := ⟨0, by simp [Session.held, Session.log]⟩
  reporters := rfl
  cancelled := List.Subset.refl _
  journal := (Journal.Extends.refl _ _).log he
  latest := fun _ => id

/-! ### What transports keep -/

theorem held_modify {f : Transport Watcher → Transport Watcher}
    {g : List (Option Watcher) → List (Option Watcher)} (h : ∀ t, (f t).held = g t.held)
    (ts : List (Transport Watcher)) (place : Nat) :
    (ts.modify place f).map (·.held) = (ts.map (·.held)).modify place g := by
  refine List.ext_getElem? ?_
  intro i
  simp only [List.getElem?_map, List.getElem?_modify]
  split <;> simp [Function.comp_def, h]

theorem held_set {ts : List (Transport Watcher)} {place : Nat} {t t' : Transport Watcher}
    {g : List (Option Watcher) → List (Option Watcher)} (ht : ts[place]? = some t)
    (h : t'.held = g t.held) :
    (ts.set place t').map (·.held) = (ts.map (·.held)).modify place g := by
  refine List.ext_getElem? ?_
  intro i
  rw [List.map_set, List.getElem?_set, List.getElem?_modify]
  by_cases hi : place = i
  · subst hi
    obtain ⟨hlt, hget⟩ := List.getElem?_eq_some_iff.mp ht
    simp [h, hlt, hget]
  · simp [hi]

theorem held_keep (s : Session) (place : Nat) (w : Watcher) :
    (s.keep place w).held = s.held.modify place (· ++ [some w]) :=
  held_modify (fun _ => rfl) s.transports place

theorem Quiet.modifyTransport (s : Session) (place : Nat)
    (f : Transport Watcher → Transport Watcher) (h : ∀ t, (f t).held = t.held) :
    Quiet s (s.modifyTransport place f) := by
  refine .of_same ?_ rfl (List.Subset.refl _) rfl fun _ => id
  have hsame := held_modify (g := id) h s.transports place
  rwa [List.modify_id] at hsame

theorem held_write (f : Flow) (ts : List (Transport Watcher)) (payload : Bytes) :
    (f.write ts payload).1.map (·.held) = ts.map (·.held) := by
  unfold Flow.write
  split
  · rfl
  · next place t ht =>
    have hheld : (t.write (f.frame payload)).1.held = t.held := by
      unfold Transport.write
      split
      · split <;> rfl
      · rfl
    exact map_set_same (Flow.target?_eq_some_iff.mp ht).2 hheld

/-- A write with a notifier fails, or the notifier is kept or resolved at once. -/
inductive Watched (f : Flow) (ts : List (Transport Watcher)) (payload : Bytes) (w : Watcher) :
    List (Transport Watcher) × Except FlowError (Nat × Option Delivery) → Prop
  | failed {ts' : List (Transport Watcher)} {e : FlowError}
      (hnotice : f.notice? ts payload w = none) (hheld : ts'.map (·.held) = ts.map (·.held)) :
      Watched f ts payload w (ts', .error e)
  | kept {ts' : List (Transport Watcher)} {place n : Nat} {t : Transport Watcher}
      (ht : ts[place]? = some t)
      (hnotice : f.notice? ts payload w = some (.kept place t.held.length))
      (hheld : ts'.map (·.held) = (ts.map (·.held)).modify place (· ++ [some w])) :
      Watched f ts payload w (ts', .ok (n, none))
  | told {ts' : List (Transport Watcher)} {n : Nat} {d : Delivery}
      (hnotice : f.notice? ts payload w = some (.told d))
      (hheld : ts'.map (·.held) = ts.map (·.held)) :
      Watched f ts payload w (ts', .ok (n, some d))

theorem watched_writeWatched (f : Flow) (ts : List (Transport Watcher)) (payload : Bytes)
    (w : Watcher) : Watched f ts payload w (f.writeWatched ts payload w) := by
  cases htarget : f.target? ts with
  | none =>
    have hwrite : f.writeWatched ts payload w = (ts, .error .unbound) := by
      simp [Flow.writeWatched, htarget]
    rw [hwrite]
    exact .failed (by simp [Flow.notice?, htarget]) rfl
  | some target =>
    obtain ⟨place, t⟩ := target
    have ht := (Flow.target?_eq_some_iff.mp htarget).2
    cases hreports : t.traits.reportsDelivery with
    | false =>
      have hwrite : f.writeWatched ts payload w = (ts, .error .deliveryUnobservable) := by
        simp [Flow.writeWatched, htarget, hreports]
      rw [hwrite]
      exact .failed (by simp [Flow.notice?, htarget, hwrite]) rfl
    | true =>
      cases hrefusals : t.refusals with
      | cons e rest =>
        have hwrite : f.writeWatched ts payload w =
            (ts.set place { t with refusals := rest }, .error (.refused e)) := by
          simp only [Flow.writeWatched, htarget, hreports, Transport.writeWatched, hrefusals]
          rfl
        rw [hwrite]
        exact .failed (by simp [Flow.notice?, htarget, hwrite]) (map_set_same ht rfl)
      | nil =>
        cases hdisposition : t.traits.disposition with
        | hold =>
          have hwrite : f.writeWatched ts payload w =
              (ts.set place { t.store (f.frame payload) with held := t.held ++ [some w] },
                .ok (t.accepted (f.frame payload), none)) := by
            simp only [Flow.writeWatched, htarget, hreports, Transport.writeWatched, hrefusals,
              hdisposition]
            rfl
          rw [hwrite]
          exact .kept ht (by simp [Flow.notice?, htarget, hwrite]) (held_set ht rfl)
        | resolve d =>
          have hwrite : f.writeWatched ts payload w =
              (ts.set place (t.store (f.frame payload)),
                .ok (t.accepted (f.frame payload), some d)) := by
            simp only [Flow.writeWatched, htarget, hreports, Transport.writeWatched, hrefusals,
              hdisposition]
            rfl
          rw [hwrite]
          exact .told (by simp [Flow.notice?, htarget, hwrite]) (map_set_same ht rfl)

/-! ### Writes -/

theorem Quiet.writeFlow (s : Session) (f : Flow) (payload : Bytes) :
    Quiet s (s.writeFlow f payload).1 := by
  have hquiet : Quiet s { s with transports := (f.write s.transports payload).1 } :=
    .of_same (held_write f s.transports payload) rfl (List.Subset.refl _) rfl fun _ => id
  unfold Session.writeFlow
  dsimp only
  split
  · exact hquiet.trans (.log _ rfl)
  · exact hquiet.trans (.log _ rfl)
  · exact hquiet

/-- Telling somebody does not concern the transports. -/
theorem inform_transports (s : Session) (ts : List (Transport Watcher)) (w : Watcher)
    (d : Delivery) :
    { s with transports := ts }.inform w d = { s.inform w d with transports := ts } := by
  unfold inform enqueue
  cases w with
  | noted tag => rfl
  | tracked g p => cases d <;> dsimp only <;> split <;> rfl

/-- Telling somebody does not concern the flows of RTP packets. -/
theorem inform_rtp (s : Session) (rtp : Option RtpSender) (w : Watcher) (d : Delivery) :
    { s with rtp := rtp }.inform w d = { s.inform w d with rtp := rtp } := by
  unfold inform enqueue
  cases w with
  | noted tag => rfl
  | tracked g p => cases d <;> dsimp only <;> split <;> rfl

@[simp] theorem transports_inform (s : Session) (w : Watcher) (d : Delivery) :
    (s.inform w d).transports = s.transports := by
  have h := congrArg Session.transports (inform_transports s s.transports w d)
  exact h

@[simp] theorem rtp_inform (s : Session) (w : Watcher) (d : Delivery) :
    (s.inform w d).rtp = s.rtp := by
  have h := congrArg Session.rtp (inform_rtp s s.rtp w d)
  exact h

/-- Telling somebody concerns the environment, the reporters and the notes. -/
theorem exists_inform (s : Session) (w : Watcher) (d : Delivery) :
    ∃ env reporters notes,
      s.inform w d = { s with env := env, reporters := reporters, notes := notes } := by
  unfold inform enqueue
  cases w with
  | noted tag => exact ⟨_, _, _, rfl⟩
  | tracked g p => cases d <;> dsimp only <;> split <;> exact ⟨_, _, _, rfl⟩

/-- Writing on a flow concerns the environment and the transports. -/
theorem exists_writeFlow (s : Session) (f : Flow) (payload : Bytes) :
    ∃ env transports,
      (s.writeFlow f payload).1 = { s with env := env, transports := transports } := by
  unfold writeFlow
  dsimp only
  split <;> exact ⟨_, _, rfl⟩

/-- Writing with a notifier also concerns whoever is told. -/
theorem exists_writeFlowWatched (s : Session) (f : Flow) (payload : Bytes) (w : Watcher) :
    ∃ env transports reporters notes, (s.writeFlowWatched f payload w).1 =
      { s with env := env, transports := transports, reporters := reporters, notes := notes } := by
  unfold writeFlowWatched
  rcases f.writeWatched s.transports payload w with ⟨ts, e | ⟨n, _ | d⟩⟩
  · cases e <;> exact ⟨_, _, _, _, rfl⟩
  · cases w <;> exact ⟨_, _, _, _, rfl⟩
  · cases w with
    | noted tag => exact ⟨_, _, _, _, rfl⟩
    | tracked g p =>
      obtain ⟨env, reporters, notes, hinform⟩ :=
        exists_inform ({ s with transports := ts }.log (.tracked g p)) (.tracked g p) d
      dsimp only
      rw [hinform]
      exact ⟨_, _, _, _, rfl⟩

theorem Quiet.inform_noted (s : Session) (tag : String) (d : Delivery) :
    Quiet s (s.inform (.noted tag) d) :=
  .of_same rfl rfl (List.Subset.refl _) rfl fun _ => id

/-- What a write with a notifier for the reporter `g` does. -/
inductive TrackedFlowWrite (s : Session) (f : Flow) (payload : Bytes) (g : Nat) (p : SentPacket) :
    Session × Except FlowError Nat → Prop
  | failed {s' : Session} {e : FlowError}
      (hnotice : f.notice? s.transports payload (.tracked g p) = none) (h : Quiet s s') :
      TrackedFlowWrite s f payload g p (s', .error e)
  | kept {s' : Session} {place n : Nat} {t : Transport Watcher}
      (ht : s.transports[place]? = some t)
      (hnotice : f.notice? s.transports payload (.tracked g p) =
        some (.kept place t.held.length))
      (h : Quiet ((s.log (.tracked g p)).keep place (.tracked g p)) s') :
      TrackedFlowWrite s f payload g p (s', .ok n)
  | told {s' : Session} {n : Nat} {d : Delivery}
      (hnotice : f.notice? s.transports payload (.tracked g p) = some (.told d))
      (h : Quiet ((s.log (.tracked g p)).inform (.tracked g p) d) s') :
      TrackedFlowWrite s f payload g p (s', .ok n)

theorem tracked_writeFlowWatched (s : Session) (f : Flow) (payload : Bytes) (g : Nat)
    (p : SentPacket) :
    TrackedFlowWrite s f payload g p (s.writeFlowWatched f payload (.tracked g p)) := by
  have hwatched := watched_writeWatched f s.transports payload (.tracked g p)
  unfold writeFlowWatched
  generalize f.writeWatched s.transports payload (.tracked g p) = written at hwatched ⊢
  cases hwatched with
  | @failed ts e hnotice hheld =>
    have hquiet : Quiet s { s with transports := ts } :=
      .of_same hheld rfl (List.Subset.refl _) rfl fun _ => id
    cases e with
    | refused cause => exact .failed hnotice (hquiet.trans (.log _ rfl))
    | deliveryUnobservable | unbound | idTooLarge | unserializable | malformedId | unknownId
    | noFlowFor => exact .failed hnotice hquiet
  | @kept ts place n t ht hnotice hheld =>
    refine .kept ht hnotice (.trans ?_ (.log _ rfl))
    have hkept := held_keep (s.log (.tracked g p)) place (.tracked g p)
    exact .of_same (hheld.trans hkept.symm) rfl (List.Subset.refl _) rfl fun _ => id
  | @told ts n d hnotice hheld =>
    refine .told hnotice (.trans ?_ (.log _ rfl))
    have htold := inform_transports (s.log (.tracked g p)) ts (.tracked g p) d
    have hquiet : Quiet ((s.log (.tracked g p)).inform (.tracked g p) d)
        ({ s.log (.tracked g p) with transports := ts }.inform (.tracked g p) d) := by
      rw [htold]
      refine .of_same ?_ rfl (List.Subset.refl _) rfl fun _ => id
      have hsame := transports_inform (s.log (.tracked g p)) (.tracked g p) d
      exact hheld.trans (congrArg (List.map (·.held)) hsame.symm)
    exact hquiet

theorem writeFlowWatched_noted (s : Session) (f : Flow) (payload : Bytes) (tag : String) :
    Quiet s (s.writeFlowWatched f payload (.noted tag)).1 ∨
    ∃ place, place < s.transports.length ∧
      Quiet (s.keep place (.noted tag)) (s.writeFlowWatched f payload (.noted tag)).1 := by
  have hwatched := watched_writeWatched f s.transports payload (.noted tag)
  unfold writeFlowWatched
  generalize f.writeWatched s.transports payload (.noted tag) = written at hwatched ⊢
  cases hwatched with
  | @failed ts e _ hheld =>
    have hquiet : Quiet s { s with transports := ts } :=
      .of_same hheld rfl (List.Subset.refl _) rfl fun _ => id
    refine .inl ?_
    cases e with
    | refused cause => exact hquiet.trans (.log _ rfl)
    | deliveryUnobservable | unbound | idTooLarge | unserializable | malformedId | unknownId
    | noFlowFor => exact hquiet
  | @kept ts place n t ht _ hheld =>
    obtain ⟨hlt, -⟩ := List.getElem?_eq_some_iff.mp ht
    refine .inr ⟨place, hlt, .trans ?_ (.log _ rfl)⟩
    have hkept := held_keep s place (.noted tag)
    exact .of_same (hheld.trans hkept.symm) rfl (List.Subset.refl _) rfl fun _ => id
  | @told ts n d _ hheld =>
    have hquiet : Quiet s { s with transports := ts } :=
      .of_same hheld rfl (List.Subset.refl _) rfl fun _ => id
    exact .inl ((hquiet.trans (.inform_noted _ tag d)).trans (.log _ rfl))

/-- The session when an RTP packet got its class. -/
def classified (s : Session) (rtp : RtpSender) (header : RtpHeader) (payload : Bytes) : Session :=
  { s with rtp := some { rtp with classifier := (rtp.classifier.classify header payload).2 } }

section Classified

variable {rtp : RtpSender} {header : RtpHeader} {payload bytes : Bytes} {f : Flow} {g : Nat}

theorem latest?_classified (hrtp : s.rtp = some rtp) :
    (s.classified rtp header payload).latest? = s.latest? := by
  simp [latest?, feedback?, classified, hrtp]

theorem tracker?_classified (hrtp : s.rtp = some rtp) :
    (s.classified rtp header payload).tracker? = s.tracker? := by
  unfold tracker?
  rw [hrtp]
  rfl

theorem Quiet.classified (hrtp : s.rtp = some rtp) :
    Quiet s (s.classified rtp header payload) :=
  .of_same rfl rfl (List.Subset.refl _) rfl fun g hg => by rwa [latest?_classified hrtp] at hg

theorem Quiet.inform_classified (hrtp : s.rtp = some rtp) (g : Nat) (p : SentPacket)
    (d : Delivery) :
    Quiet ((s.handOver g p).inform (.tracked g p) d)
      (({ s.classified rtp header payload with env := s.env.now.2 }.log (.tracked g p)).inform
        (.tracked g p) d) := by
  have htold := inform_rtp (s.handOver g p) (s.classified rtp header payload).rtp
    (.tracked g p) d
  have hsame := rtp_inform (s.handOver g p) (.tracked g p) d
  have hquiet : Quiet ((s.handOver g p).inform (.tracked g p) d)
      ({ s.handOver g p with rtp := (s.classified rtp header payload).rtp }.inform
        (.tracked g p) d) := by
    rw [htold]
    refine .of_same rfl rfl (List.Subset.refl _) rfl fun _ hg => ?_
    unfold latest? feedback?
    rw [hsame]
    exact (latest?_classified hrtp).symm.trans hg
  exact hquiet

theorem writeRtp_of_flow (hrtp : s.rtp = some rtp) (hbytes : header.serialized.result = .ok bytes)
    (hflow : rtp.table.get? (rtp.classifier.classify header payload).1 = some f) :
    s.writeRtp header payload =
      match s.tracker? with
      | none => (s.classified rtp header payload).writeFlow f (bytes ++ payload)
      | some g =>
        { s.classified rtp header payload with env := s.env.now.2 }.writeFlowWatched f
          (bytes ++ payload) (.tracked g (s.sentPacket header bytes payload)) := by
  have htracker : (s.classified rtp header payload).tracker? = s.tracker? :=
    tracker?_classified hrtp
  rw [← htracker]
  unfold writeRtp
  simp only [hrtp, hbytes, hflow]
  rfl

/-- What becomes of an RTP packet: it has no way out, or it goes through the flow of its class, with
a notifier for the reporter that writes are tracked for or without one. -/
inductive Routed (s : Session) (header : RtpHeader) (payload : Bytes) :
    Session × Except FlowError Nat → Prop
  | unbound (hrtp : s.rtp = none) : Routed s header payload (s, .error .unbound)
  | unserializable {e : FlowError} (hbytes : header.serialized.result = .error e) :
      Routed s header payload (s, .error e)
  | unrouted {rtp : RtpSender} {bytes : Bytes} (hrtp : s.rtp = some rtp)
      (hbytes : header.serialized.result = .ok bytes)
      (hflow : rtp.table.get? (rtp.classifier.classify header payload).1 = none) :
      Routed s header payload (s.classified rtp header payload,
        .error (.noFlowFor (rtp.classifier.classify header payload).1))
  | plain {rtp : RtpSender} {bytes : Bytes} {f : Flow} (hrtp : s.rtp = some rtp)
      (hbytes : header.serialized.result = .ok bytes)
      (hflow : rtp.table.get? (rtp.classifier.classify header payload).1 = some f)
      (htracker : s.tracker? = none) :
      Routed s header payload
        ((s.classified rtp header payload).writeFlow f (bytes ++ payload))
  | watched {rtp : RtpSender} {bytes : Bytes} {f : Flow} {g : Nat} (hrtp : s.rtp = some rtp)
      (hbytes : header.serialized.result = .ok bytes)
      (hflow : rtp.table.get? (rtp.classifier.classify header payload).1 = some f)
      (htracker : s.tracker? = some g) :
      Routed s header payload
        ({ s.classified rtp header payload with env := s.env.now.2 }.writeFlowWatched f
          (bytes ++ payload) (.tracked g (s.sentPacket header bytes payload)))

theorem routed_writeRtp (s : Session) (header : RtpHeader) (payload : Bytes) :
    Routed s header payload (s.writeRtp header payload) := by
  cases hrtp : s.rtp with
  | none =>
    have hwrite : s.writeRtp header payload = (s, .error .unbound) := by simp [writeRtp, hrtp]
    rw [hwrite]
    exact .unbound hrtp
  | some rtp =>
    cases hbytes : header.serialized.result with
    | error e =>
      have hwrite : s.writeRtp header payload = (s, .error e) := by simp [writeRtp, hrtp, hbytes]
      rw [hwrite]
      exact .unserializable hbytes
    | ok bytes =>
      cases hflow : rtp.table.get? (rtp.classifier.classify header payload).1 with
      | none =>
        have hwrite : s.writeRtp header payload = (s.classified rtp header payload,
            .error (.noFlowFor (rtp.classifier.classify header payload).1)) := by
          simp [writeRtp, hrtp, hbytes, hflow, classified]
        rw [hwrite]
        exact .unrouted hrtp hbytes hflow
      | some f =>
        rw [writeRtp_of_flow hrtp hbytes hflow]
        cases htracker : s.tracker? with
        | none => exact .plain hrtp hbytes hflow htracker
        | some g => exact .watched hrtp hbytes hflow htracker

theorem trackedWrite?_of_flow (hrtp : s.rtp = some rtp)
    (hbytes : header.serialized.result = .ok bytes)
    (hflow : rtp.table.get? (rtp.classifier.classify header payload).1 = some f) :
    s.trackedWrite? (.writeRtp header payload) = s.tracker?.bind fun g =>
      (f.notice? s.transports (bytes ++ payload)
        (.tracked g (s.sentPacket header bytes payload))).map
        (⟨g, s.sentPacket header bytes payload, ·⟩) := by
  unfold trackedWrite?
  simp only [hrtp, hbytes, hflow, Except.toOption, Option.bind_eq_bind, Option.bind_some]

/-- What writing an RTP packet does. -/
inductive RtpWrite (s : Session) (header : RtpHeader) (payload : Bytes) :
    Session × Except FlowError Nat → Prop
  /-- Nothing is tracked. -/
  | untracked {s' : Session} {outcome : Except FlowError Nat} (htracker : s.tracker? = none)
      (hw : s.trackedWrite? (.writeRtp header payload) = none) (h : Quiet s s') :
      RtpWrite s header payload (s', outcome)
  | failed {s' : Session} {e : FlowError}
      (hw : s.trackedWrite? (.writeRtp header payload) = none) (h : Quiet s s') :
      RtpWrite s header payload (s', .error e)
  | kept {s' : Session} {g place n : Nat} {bytes : Bytes} {t : Transport Watcher}
      (htracker : s.tracker? = some g) (hbytes : header.serialized.result = .ok bytes)
      (ht : s.transports[place]? = some t)
      (hw : s.trackedWrite? (.writeRtp header payload) =
        some ⟨g, s.sentPacket header bytes payload, .kept place t.held.length⟩)
      (h : Quiet ((s.handOver g (s.sentPacket header bytes payload)).keep place
        (.tracked g (s.sentPacket header bytes payload))) s') :
      RtpWrite s header payload (s', .ok n)
  | told {s' : Session} {g n : Nat} {bytes : Bytes} {d : Delivery}
      (htracker : s.tracker? = some g) (hbytes : header.serialized.result = .ok bytes)
      (hw : s.trackedWrite? (.writeRtp header payload) =
        some ⟨g, s.sentPacket header bytes payload, .told d⟩)
      (h : Quiet ((s.handOver g (s.sentPacket header bytes payload)).inform
        (.tracked g (s.sentPacket header bytes payload)) d) s') :
      RtpWrite s header payload (s', .ok n)

theorem rtpWrite_writeRtp (s : Session) (header : RtpHeader) (payload : Bytes) :
    RtpWrite s header payload (s.writeRtp header payload) := by
  have hrouted := s.routed_writeRtp header payload
  generalize s.writeRtp header payload = written at hrouted ⊢
  cases hrouted with
  | unbound hrtp => exact .failed (by simp [trackedWrite?, hrtp]) (.refl s)
  | unserializable hbytes =>
    exact .failed (by simp [trackedWrite?, hbytes, Except.toOption]) (.refl s)
  | unrouted hrtp _ hflow =>
    exact .failed (by simp [trackedWrite?, hrtp, hflow]) (.classified hrtp)
  | @plain rtp bytes f hrtp hbytes hflow htracker =>
    have htracked := trackedWrite?_of_flow hrtp hbytes hflow
    rw [htracker] at htracked
    exact .untracked htracker htracked ((Quiet.classified hrtp).trans (.writeFlow _ f _))
  | @watched rtp bytes f g hrtp hbytes hflow htracker =>
    have htracked := trackedWrite?_of_flow hrtp hbytes hflow
    have hlatest : (s.classified rtp header payload).latest? = s.latest? := latest?_classified hrtp
    rw [htracker, Option.bind_some] at htracked
    have hwrite := tracked_writeFlowWatched
      { s.classified rtp header payload with env := s.env.now.2 } f (bytes ++ payload) g
      (s.sentPacket header bytes payload)
    generalize { s.classified rtp header payload with
      env := s.env.now.2 }.writeFlowWatched f (bytes ++ payload)
      (.tracked g (s.sentPacket header bytes payload)) = written at hwrite ⊢
    cases hwrite with
    | failed hnotice h =>
      have hread : Quiet s { s.classified rtp header payload with env := s.env.now.2 } :=
        .of_same rfl rfl (List.Subset.refl _) rfl fun _ hg => hlatest.symm.trans hg
      exact .failed (htracked.trans (congrArg (Option.map _) hnotice)) (hread.trans h)
    | kept ht hnotice h =>
      refine .kept htracker hbytes ht (htracked.trans (congrArg (Option.map _) hnotice))
        (.trans ?_ h)
      exact .of_same rfl rfl (List.Subset.refl _) rfl fun _ hg => hlatest.symm.trans hg
    | told hnotice h =>
      exact .told htracker hbytes (htracked.trans (congrArg (Option.map _) hnotice))
        ((Quiet.inform_classified hrtp g _ _).trans h)

end Classified

/-- A tracked write is an accepted one, for the reporter that is the tracker. -/
theorem trackedWrite?_eq_some {c : Call} {w : TrackedWrite} (h : s.trackedWrite? c = some w) :
    ∃ header payload bytes n, c = .writeRtp header payload ∧ s.tracker? = some w.reporter ∧
      header.serialized.result = .ok bytes ∧ w.packet = s.sentPacket header bytes payload ∧
      (s.writeRtp header payload).2 = .ok n := by
  cases c with
  | writeRtp header payload =>
    have hwrite := s.rtpWrite_writeRtp header payload
    generalize hwritten : s.writeRtp header payload = written at hwrite
    cases hwrite with
    | untracked _ hw | failed hw =>
      rw [hw] at h
      cases h
    | kept htracker hbytes _ hw | told htracker hbytes hw =>
      cases hw.symm.trans h
      exact ⟨header, payload, _, _, rfl, htracker, hbytes, rfl, congrArg Prod.snd hwritten⟩
  | _ => cases h

end Session

end MediaMux
