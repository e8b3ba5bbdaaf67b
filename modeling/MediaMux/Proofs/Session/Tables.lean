import MediaMux.Proofs.Session.Recordings

/-!
# The flows of RTP packets over a run

Binding class 0, adding a flow and dropping all of them change the table, and nothing else does
(`Session.table?_apply`, `World.wire_proceed`).
-/

namespace MediaMux

open Feedback

theorem FlowTable.get?_bind (t : FlowTable) (place : Nat) (p : Priority) :
    (t.bind place).get? p = if p = .default then some (t.base.bind place) else t.get? p := by
  unfold get? FlowTable.bind
  split <;> rfl

namespace Session

/-- The flows of RTP packets by class, if there are any. -/
def table? (s : Session) : Option FlowTable := s.rtp.map (·.table)

variable {s : Session}

theorem flow?_rtp (s : Session) (p : Priority) :
    s.flow? (.rtp p) = s.table?.bind (·.get? p) := by
  unfold flow? table?
  rw [Option.bind_map]
  rfl

theorem transports_writeFlow (s : Session) (f : Flow) (payload : Bytes) :
    ((s.writeFlow f payload).1.transports, (s.writeFlow f payload).2) =
      f.write s.transports payload := by
  unfold writeFlow
  rcases f.write s.transports payload with ⟨ts, e | n⟩
  · cases e <;> rfl
  · rfl

theorem transports_writeFlowWatched (s : Session) (f : Flow) (payload : Bytes) (w : Watcher) :
    ((s.writeFlowWatched f payload w).1.transports, (s.writeFlowWatched f payload w).2) =
      ((f.writeWatched s.transports payload w).1,
        (f.writeWatched s.transports payload w).2.map Prod.fst) := by
  unfold writeFlowWatched
  rcases f.writeWatched s.transports payload w with ⟨ts, e | ⟨n, resolution⟩⟩
  · cases e <;> rfl
  · cases w <;> cases resolution <;> simp [Session.log, Except.map]

@[simp] theorem rtp_writeFlow (s : Session) (f : Flow) (payload : Bytes) :
    (s.writeFlow f payload).1.rtp = s.rtp := by
  obtain ⟨env, transports, hwrite⟩ := s.exists_writeFlow f payload
  rw [hwrite]

@[simp] theorem rtp_writeFlowWatched (s : Session) (f : Flow) (payload : Bytes) (w : Watcher) :
    (s.writeFlowWatched f payload w).1.rtp = s.rtp := by
  obtain ⟨env, transports, reporters, notes, hwrite⟩ := s.exists_writeFlowWatched f payload w
  rw [hwrite]

@[simp] theorem rtp_writeCompound (s : Session) (f : Flow) (packets : List Serialized) :
    (s.writeCompound f packets).1.rtp = s.rtp := by
  unfold writeCompound
  split
  · rfl
  · exact rtp_writeFlow _ f _

@[simp] theorem rtp_resolve (s : Session) (place i : Nat) (d : Delivery) :
    (s.resolve place i d).1.rtp = s.rtp := by
  unfold resolve
  split
  · rfl
  · exact rtp_inform _ _ d

@[simp] theorem rtp_stopFeedback (s : Session) : s.stopFeedback.rtp = s.rtp := by
  unfold stopFeedback
  split <;> rfl

theorem rtp_writeRtp (s : Session) (header : RtpHeader) (payload : Bytes) :
    (s.writeRtp header payload).1.rtp =
      match header.serialized.result with
      | .ok _ =>
        s.rtp.map fun rtp =>
          { rtp with classifier := (rtp.classifier.classify header payload).2 }
      | .error _ => s.rtp := by
  have hrouted := s.routed_writeRtp header payload
  generalize s.writeRtp header payload = written at hrouted ⊢
  cases hrouted with
  | unbound hrtp =>
    rw [hrtp]
    split <;> rfl
  | unserializable hbytes => simp only [hbytes]
  | unrouted hrtp hbytes => simp only [hbytes, hrtp, Option.map_some, classified]
  | plain hrtp hbytes =>
    simp only [hbytes, hrtp, Option.map_some, rtp_writeFlow, classified]
  | watched hrtp hbytes =>
    simp only [hbytes, hrtp, Option.map_some, rtp_writeFlowWatched, classified]

/-- What becomes of the flows of RTP packets. -/
theorem rtp_apply (s : Session) (c : Call) :
    (s.apply c).rtp =
      match c with
      | .bindRtp place => s.rtp.map fun rtp => { rtp with table := rtp.table.bind place }
      | .addRtpFlow p id place =>
        match Flow.identified id with
        | .ok f => s.rtp.map fun rtp => { rtp with table := rtp.table.put p (f.bind place) }
        | .error _ => s.rtp
      | .setClassifier classifier => s.rtp.map fun rtp => { rtp with classifier := classifier }
      | .writeRtp header payload =>
        match header.serialized.result with
        | .ok _ =>
          s.rtp.map fun rtp =>
            { rtp with classifier := (rtp.classifier.classify header payload).2 }
        | .error _ => s.rtp
      | .startFeedback _ request _ _ _ =>
        if request.toOptions.isOk && s.hasRuntime then
          s.rtp.map fun rtp => { rtp with feedback := some { reporter := s.reporters.length } }
        else s.rtp
      | .claimHandle =>
        s.rtp.map fun rtp =>
          { rtp with feedback := rtp.feedback.map ({ · with joinable := false }) }
      | .dropRtp => none
      | _ => s.rtp := by
  cases c with
  | writeRtp header payload => exact rtp_writeRtp s header payload
  | writeFlow f payload => exact rtp_writeFlow s f payload
  | writeNoted f payload tag => exact rtp_writeFlowWatched s f payload _
  | writeCompound f packets => exact rtp_writeCompound s f packets
  | resolve place i d => exact rtp_resolve s place i d
  | stopFeedback => exact rtp_stopFeedback s
  | addRtpFlow p id place =>
    show (s.addRtpFlow p id place).1.rtp = _
    unfold addRtpFlow
    dsimp only
    cases Flow.identified id <;> rfl
  | startFeedback sender request meter sink parent =>
    show (s.startFeedback sender request meter sink parent).1.rtp = _
    have hstarted := s.started_startFeedback sender request meter sink parent
    generalize s.startFeedback sender request meter sink parent = started at hstarted ⊢
    cases hstarted with
    | dropped hrtp => simp [hrtp]
    | invalid _ hoptions => simp [hoptions, Except.isOk, Except.toBool]
    | noRuntime _ _ hruntime => simp [hruntime]
    | started hrtp hoptions hruntime =>
      simp [hrtp, hoptions, hruntime, Except.isOk, Except.toBool]
  | dropRtp | bindRtp | setClassifier | claimHandle | addTransport | script | takeBuffers
  | takeNotes | cancelToken | setReading | setClock | addSink | modifySink | pass => rfl

/-- What becomes of the flows of RTP packets by class. -/
theorem table?_apply (s : Session) (c : Call) :
    (s.apply c).table? =
      match c with
      | .bindRtp place => s.table?.map (·.bind place)
      | .addRtpFlow p id place =>
        match Flow.identified id with
        | .ok f => s.table?.map (·.put p (f.bind place))
        | .error _ => s.table?
      | .dropRtp => none
      | _ => s.table? := by
  unfold table?
  rw [rtp_apply]
  cases s.rtp with
  | none => cases c <;> dsimp only <;> (repeat' split) <;> rfl
  | some rtp => cases c <;> dsimp only <;> (repeat' split) <;> rfl

/-- What becomes of the handle to the latest reporter. -/
theorem feedback?_apply (s : Session) (c : Call) :
    (s.apply c).feedback? =
      match c with
      | .startFeedback _ request _ _ _ =>
        if request.toOptions.isOk && s.hasRuntime then
          s.rtp.map fun _ => { reporter := s.reporters.length }
        else s.feedback?
      | .claimHandle => s.feedback?.map ({ · with joinable := false })
      | .dropRtp => none
      | _ => s.feedback? := by
  unfold feedback?
  rw [rtp_apply]
  cases s.rtp with
  | none => cases c <;> dsimp only <;> (repeat' split) <;> rfl
  | some rtp => cases c <;> dsimp only <;> (repeat' split) <;> rfl

end Session

namespace World

/-- A step of a reporter concerns neither the transports nor the flows of RTP packets. -/
theorem wire_proceed (w : World) (g : Nat) :
    (w.step (.proceed g)).session.transports = w.session.transports ∧
      (w.step (.proceed g)).session.rtp = w.session.rtp := by
  unfold step
  dsimp only
  split <;> exact ⟨rfl, rfl⟩

end World

end MediaMux
