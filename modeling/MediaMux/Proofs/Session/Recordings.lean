import MediaMux.Proofs.Session.Effect

/-!
# What transports record

A call offers at most one payload, on one flow (`Session.offer?`). If the write is accepted, the
transport of that flow takes the frame of the payload, and nothing else is ever recorded
(`Session.recorded_apply`).
-/

namespace MediaMux

open Feedback

/-! ### Transports and flows -/

/-- What a write leaves with the transport: the buffer, if it was accepted. -/
def taken {ε α : Type} (outcome : Except ε α) (buffer : Bytes) : List Bytes :=
  match outcome with
  | .ok _ => [buffer]
  | .error _ => []

section Taken

variable {ε δ α : Type} {outcome : Except ε α} {buffer : Bytes}

@[simp] theorem taken_ok (a : α) : taken (.ok a : Except ε α) buffer = [buffer] := rfl

@[simp] theorem taken_error (e : ε) : taken (.error e : Except ε α) buffer = [] := rfl

@[simp] theorem taken_mapError (g : ε → δ) :
    taken (outcome.mapError g) buffer = taken outcome buffer := by
  cases outcome <;> rfl

end Taken

variable {ω : Type}

namespace Transport

theorem buffers_write (t : Transport ω) (buffer : Bytes) :
    (t.write buffer).1.buffers = t.buffers ++ taken (t.write buffer).2 buffer := by
  unfold write
  split
  · split
    · exact (List.append_nil _).symm
    · rfl
  · rfl

theorem buffers_writeWatched (t : Transport ω) (buffer : Bytes) (watcher : ω) :
    (t.writeWatched buffer watcher).1.buffers =
      t.buffers ++ taken (t.writeWatched buffer watcher).2 buffer := by
  unfold writeWatched
  split
  · exact (List.append_nil _).symm
  · split <;> rfl

end Transport

/-- The buffers that the transport at `place` took. -/
def recordedAt (ts : List (Transport ω)) (place : Nat) : List Bytes :=
  ((ts[place]?).map (·.buffers)).getD []

section RecordedAt

variable {ts : List (Transport ω)} {place : Nat} {t t' : Transport ω}

theorem recordedAt_set (ht : ts[place]? = some t) {buffers : List Bytes}
    (h : t'.buffers = t.buffers ++ buffers) (q : Nat) :
    recordedAt (ts.set place t') q =
      recordedAt ts q ++ if place = q then buffers else [] := by
  unfold recordedAt
  by_cases hq : place = q
  · subst hq
    obtain ⟨hlt, -⟩ := List.getElem?_eq_some_iff.mp ht
    simp [List.getElem?_set_self hlt, ht, h]
  · simp [List.getElem?_set_ne hq, hq]

theorem recordedAt_modify {f : Transport ω → Transport ω} (q : Nat)
    (h : place = q → ∀ t, (f t).buffers = t.buffers) :
    recordedAt (ts.modify place f) q = recordedAt ts q := by
  unfold recordedAt
  rw [List.getElem?_modify]
  by_cases hq : place = q
  · cases ts[q]? <;> simp [hq, h hq]
  · simp [hq]

theorem recordedAt_concat (traits : TransportTraits) (q : Nat) :
    recordedAt (ts ++ [{ traits := traits }]) q = recordedAt ts q := by
  unfold recordedAt
  by_cases hlt : q < ts.length
  · rw [List.getElem?_append_left hlt]
  · rw [List.getElem?_eq_none (Nat.not_lt.mp hlt), List.getElem?_append_right (Nat.not_lt.mp hlt)]
    cases q - ts.length <;> rfl

end RecordedAt

namespace Flow

theorem recordedAt_write (f : Flow) (ts : List (Transport ω)) (payload : Bytes) (q : Nat) :
    recordedAt (f.write ts payload).1 q = recordedAt ts q ++
      if f.transport = some q then taken (f.write ts payload).2 (f.frame payload) else [] := by
  unfold write
  cases htarget : f.target? ts with
  | none => simp
  | some target =>
    obtain ⟨place, t⟩ := target
    obtain ⟨hplace, ht⟩ := target?_eq_some_iff.mp htarget
    have hset := recordedAt_set ht (t.buffers_write (f.frame payload)) q
    simpa [hplace] using hset

theorem recordedAt_writeWatched (f : Flow) (ts : List (Transport ω)) (payload : Bytes)
    (watcher : ω) (q : Nat) :
    recordedAt (f.writeWatched ts payload watcher).1 q = recordedAt ts q ++
      if f.transport = some q then taken (f.writeWatched ts payload watcher).2 (f.frame payload)
      else [] := by
  unfold writeWatched
  cases htarget : f.target? ts with
  | none => simp
  | some target =>
    obtain ⟨place, t⟩ := target
    obtain ⟨hplace, ht⟩ := target?_eq_some_iff.mp htarget
    have hset := recordedAt_set ht (t.buffers_writeWatched (f.frame payload) watcher) q
    dsimp only
    split
    · simpa [hplace] using hset
    · simp

end Flow

/-! ### Calls -/

/-- Where a payload comes from: the RTP packets of a class, or a flow of its own. -/
inductive Port
  | rtp (p : Priority)
  | own (f : Flow)
deriving DecidableEq

namespace Session

/-- The buffers that the transport at `place` took. -/
def recorded (s : Session) (place : Nat) : List Bytes := recordedAt s.transports place

/-- The flow of a port. -/
def flow? (s : Session) : Port → Option Flow
  | .rtp p => s.rtp.bind fun rtp => rtp.table.get? p
  | .own f => some f

/-- The payload that a call writes, and its port. -/
def offer? (s : Session) : Call → Option (Port × Bytes)
  | .writeRtp header payload => do
    let rtp ← s.rtp
    let bytes ← header.serialized.result.toOption
    return (.rtp (rtp.classifier.classify header payload).1, bytes ++ payload)
  | .writeFlow f payload | .writeNoted f payload _ => some (.own f, payload)
  | .writeCompound f packets => do
    let payload ← (Serialized.concat packets).toOption
    return (.own f, payload)
  | _ => none

/-- The outcome of a call that writes: the number of bytes accepted, or the failure. -/
def outcome? (s : Session) : Call → Option (Except FlowError Nat)
  | .writeRtp header payload => some (s.writeRtp header payload).2
  | .writeFlow f payload => some (s.writeFlow f payload).2
  | .writeNoted f payload tag => some (s.writeFlowWatched f payload (.noted tag)).2
  | .writeCompound f packets => some (s.writeCompound f packets).2
  | _ => none

/-- The payload of a write that is accepted, and its port. -/
def carried? (s : Session) (c : Call) : Option (Port × Bytes) := do
  let outcome ← s.outcome? c
  let _ ← outcome.toOption
  s.offer? c

/-- The buffer in which a port's payload comes to the transport at `place`, if it comes there. -/
def framed? (s : Session) (place : Nat) (x : Port × Bytes) : Option Bytes := do
  let f ← s.flow? x.1
  if f.transport = some place then some (f.frame x.2) else none

variable {s : Session} {f : Flow} {payload : Bytes}

theorem recorded_writeFlow (s : Session) (f : Flow) (payload : Bytes) (q : Nat) :
    (s.writeFlow f payload).1.recorded q = s.recorded q ++
      if f.transport = some q then taken (s.writeFlow f payload).2 (f.frame payload) else [] := by
  have hwrite := f.recordedAt_write s.transports payload q
  unfold recorded writeFlow
  rcases hout : (f.write s.transports payload).2 with e | n
  · cases e <;> simpa [hout, Session.log] using hwrite
  · simpa [hout, Session.log] using hwrite

theorem recorded_writeFlowWatched (s : Session) (f : Flow) (payload : Bytes) (w : Watcher)
    (q : Nat) :
    (s.writeFlowWatched f payload w).1.recorded q = s.recorded q ++
      if f.transport = some q then taken (s.writeFlowWatched f payload w).2 (f.frame payload)
      else [] := by
  have hwrite := f.recordedAt_writeWatched s.transports payload w q
  unfold recorded writeFlowWatched
  rcases hout : (f.writeWatched s.transports payload w).2 with e | ⟨n, resolution⟩
  · cases e <;> simpa [hout, Session.log] using hwrite
  · -- telling a watcher leaves the transports alone
    cases w <;> cases resolution <;> simpa [hout, Session.log] using hwrite

theorem recorded_modifyTransport {place q : Nat} {g : Transport Watcher → Transport Watcher}
    (h : place = q → ∀ t, (g t).buffers = t.buffers) :
    (s.modifyTransport place g).recorded q = s.recorded q := recordedAt_modify q h

theorem recorded_resolve (s : Session) (place i : Nat) (d : Delivery) (q : Nat) :
    (s.resolve place i d).1.recorded q = s.recorded q := by
  unfold resolve
  split
  · rfl
  · unfold recorded
    rw [transports_inform]
    exact recorded_modifyTransport fun _ _ => rfl

/-- What an accepted write adds to the buffers of the transport at `q`. -/
theorem toList_framed? (x : Port × Bytes) (q : Nat) (hflow : s.flow? x.1 = some f) :
    (s.framed? q x).toList = if f.transport = some q then [f.frame x.2] else [] := by
  unfold framed?
  simp only [hflow, Option.bind_eq_bind, Option.bind_some]
  split <;> rfl

theorem taken_of_carried {c : Call} {port : Port} (q : Nat) {outcome : Except FlowError Nat}
    (hflow : s.flow? port = some f) (houtcome : s.outcome? c = some outcome)
    (hoffer : s.offer? c = some (port, payload)) :
    (if f.transport = some q then taken outcome (f.frame payload) else []) =
      ((s.carried? c).bind (s.framed? q)).toList := by
  have hframed := toList_framed? (port, payload) q hflow
  unfold carried?
  simp only [houtcome, hoffer, Option.bind_eq_bind, Option.bind_some]
  cases outcome with
  | error e => simp [Except.toOption]
  | ok n => simpa [Except.toOption] using hframed.symm

theorem offer?_writeRtp {rtp : RtpSender} (hrtp : s.rtp = some rtp) {header : RtpHeader}
    {bytes : Bytes} (hbytes : header.serialized.result = .ok bytes) (payload : Bytes) :
    s.offer? (.writeRtp header payload) =
      some (.rtp (rtp.classifier.classify header payload).1, bytes ++ payload) := by
  simp [offer?, hrtp, hbytes, Except.toOption]

theorem recorded_writeRtp (s : Session) (header : RtpHeader) (payload : Bytes) (q : Nat) :
    (s.writeRtp header payload).1.recorded q = s.recorded q ++
      ((s.carried? (.writeRtp header payload)).bind (s.framed? q)).toList := by
  have hrouted := s.routed_writeRtp header payload
  generalize hwrite : s.writeRtp header payload = written at hrouted ⊢
  have houtcome : s.outcome? (.writeRtp header payload) = some written.2 :=
    congrArg (some ∘ Prod.snd) hwrite
  have hfailed : ∀ e, written.2 = .error e → s.carried? (.writeRtp header payload) = none := by
    intro e he
    simp [carried?, houtcome, he, Except.toOption]
  cases hrouted with
  | unbound | unserializable | unrouted =>
    rw [hfailed _ rfl]
    exact (List.append_nil _).symm
  | @plain rtp bytes f hrtp hbytes hflow =>
    have hport : s.flow? (.rtp (rtp.classifier.classify header payload).1) = some f := by
      simp [flow?, hrtp, hflow]
    rw [← taken_of_carried q hport houtcome (offer?_writeRtp hrtp hbytes payload)]
    exact recorded_writeFlow (s.classified rtp header payload) f _ q
  | @watched rtp bytes f g hrtp hbytes hflow =>
    have hport : s.flow? (.rtp (rtp.classifier.classify header payload).1) = some f := by
      simp [flow?, hrtp, hflow]
    rw [← taken_of_carried q hport houtcome (offer?_writeRtp hrtp hbytes payload)]
    exact recorded_writeFlowWatched
      { s.classified rtp header payload with env := s.env.now.2 } f _ _ q

theorem recorded_writeCompound (s : Session) (f : Flow) (packets : List Serialized) (q : Nat) :
    (s.writeCompound f packets).1.recorded q = s.recorded q ++
      ((s.carried? (.writeCompound f packets)).bind (s.framed? q)).toList := by
  cases hpayload : Serialized.concat packets with
  | error e =>
    have hwrite : s.writeCompound f packets = (s, .error e) := by simp [writeCompound, hpayload]
    have hnone : s.carried? (.writeCompound f packets) = none := by
      simp [carried?, outcome?, hwrite, Except.toOption]
    rw [hnone, hwrite]
    exact (List.append_nil _).symm
  | ok payload =>
    have hwrite : s.writeCompound f packets = (s.log .compound).writeFlow f payload := by
      simp [writeCompound, hpayload]
    have hoffer : s.offer? (.writeCompound f packets) = some (.own f, payload) := by
      simp [offer?, hpayload, Except.toOption]
    rw [← taken_of_carried q rfl rfl hoffer, hwrite]
    exact recorded_writeFlow (s.log .compound) f payload q

@[simp] theorem transports_stopFeedback (s : Session) :
    s.stopFeedback.transports = s.transports := by
  unfold stopFeedback
  split <;> rfl

@[simp] theorem transports_startFeedback (s : Session) (sender : Ssrc) (request : Request)
    (meter : MeterKind) (sink : Nat) (parent : Option Token) :
    (s.startFeedback sender request meter sink parent).1.transports = s.transports := by
  have hstarted := s.started_startFeedback sender request meter sink parent
  generalize s.startFeedback sender request meter sink parent = started at hstarted ⊢
  cases hstarted with
  | dropped | invalid | noRuntime => rfl
  | started => exact transports_stopFeedback s

@[simp] theorem transports_addRtpFlow (s : Session) (p : Priority) (id place : Nat) :
    (s.addRtpFlow p id place).1.transports = s.transports := by
  unfold addRtpFlow
  split <;> rfl

/-- An accepted write adds its frame to the buffers of the transport of its flow, and no call adds
anything else. -/
theorem recorded_apply (s : Session) {c : Call} (q : Nat) (hc : c ≠ .takeBuffers q) :
    (s.apply c).recorded q = s.recorded q ++ ((s.carried? c).bind (s.framed? q)).toList := by
  have hsame : ∀ {s' : Session}, s'.recorded q = s.recorded q →
      s'.recorded q = s.recorded q ++ (Option.bind none (s.framed? q)).toList :=
    fun h => h.trans (List.append_nil _).symm
  cases c with
  | writeRtp header payload => exact recorded_writeRtp s header payload q
  | writeCompound f packets => exact recorded_writeCompound s f packets q
  | writeFlow f payload =>
    have hcarried := taken_of_carried (s := s) (c := .writeFlow f payload) q rfl rfl rfl
    rw [← hcarried]
    exact recorded_writeFlow s f payload q
  | writeNoted f payload tag =>
    have hcarried := taken_of_carried (s := s) (c := .writeNoted f payload tag) q rfl rfl rfl
    rw [← hcarried]
    exact recorded_writeFlowWatched s f payload (.noted tag) q
  | addTransport traits => exact hsame (recordedAt_concat traits q)
  | script place traits refusals => exact hsame (recorded_modifyTransport fun _ _ => rfl)
  | takeBuffers place =>
    have hne : place ≠ q := fun h => hc (h ▸ rfl)
    exact hsame (recorded_modifyTransport fun h => absurd h hne)
  | resolve place i d => exact hsame (recorded_resolve s place i d q)
  | startFeedback sender request meter sink parent =>
    exact hsame (congrArg (recordedAt · q) (transports_startFeedback s sender request meter sink
      parent))
  | stopFeedback => exact hsame (congrArg (recordedAt · q) (transports_stopFeedback s))
  | dropRtp => exact hsame (congrArg (recordedAt · q) (transports_stopFeedback s))
  | addRtpFlow p id place =>
    exact hsame (congrArg (recordedAt · q) (transports_addRtpFlow s p id place))
  | takeNotes | bindRtp | setClassifier | claimHandle | cancelToken | setReading | setClock
  | addSink | modifySink | pass => exact hsame rfl

end Session

end MediaMux
