import MediaMux.Proofs.Session.Writing

/-!
# What a call does

A call is quiet, or it leaves a notifier with a transport, resolves one, tells the latest reporter
to stop, or adds a reporter (`effect_apply`). A step of a reporter changes nothing but the reporter
and what all reporters share (`World.step_proceed`).
-/

namespace MediaMux

open Feedback

namespace Session

/-- What a call does that concerns the reporters. -/
inductive Effect (s : Session) : Call → Session → Prop
  | quiet {c : Call} {s' : Session} (hw : s.trackedWrite? c = none) (h : Quiet s s') :
      Effect s c s'
  | note {f : Flow} {payload : Bytes} {tag : String} {place : Nat} {s' : Session}
      (hplace : place < s.transports.length) (h : Quiet (s.keep place (.noted tag)) s') :
      Effect s (.writeNoted f payload tag) s'
  /-- A packet is accepted and its notifier left with a transport. -/
  | track {header : RtpHeader} {payload : Bytes} {g : Nat} {p : SentPacket} {place : Nat}
      {t : Transport Watcher} {s' : Session} (hg : s.tracker? = some g)
      (hw : s.trackedWrite? (.writeRtp header payload) = some ⟨g, p, .kept place t.held.length⟩)
      (ht : s.transports[place]? = some t)
      (h : Quiet ((s.handOver g p).keep place (.tracked g p)) s') :
      Effect s (.writeRtp header payload) s'
  /-- A packet is accepted and its notifier resolved at once. -/
  | tell {header : RtpHeader} {payload : Bytes} {g : Nat} {p : SentPacket} {d : Delivery}
      {s' : Session} (hg : s.tracker? = some g)
      (hw : s.trackedWrite? (.writeRtp header payload) = some ⟨g, p, .told d⟩)
      (h : Quiet ((s.handOver g p).inform (.tracked g p) d) s') :
      Effect s (.writeRtp header payload) s'
  | resolve {place i : Nat} {d : Delivery} {w : Watcher} (hw : s.waiting? place i = some w) :
      Effect s (.resolve place i d) ((s.modifyTransport place (·.release i)).inform w d)
  | stop {c : Call} {g : Nat} {s' : Session} (hw : s.trackedWrite? c = none)
      (hg : s.tracker? = some g)
      (h : Quiet { s with reporters := s.reporters.modify g (·.requestStop) } s') : Effect s c s'
  | start {sender : Ssrc} {request : Request} {meter : MeterKind} {sink : Nat}
      {parent : Option Token} {options : Options} {s' : Session}
      (hheld : s'.held = s.held)
      (hreporters : s'.reporters = s.stopFeedback.reporters ++
        [Reporter.new s.reporters.length sender options meter sink parent s.horizon])
      (henv : s'.env = s.env) (hlatest : s'.latest? = some s.reporters.length) :
      Effect s (.startFeedback sender request meter sink parent) s'

variable {s s' : Session}

theorem Quiet.modifyRtp (s : Session) (f : RtpSender → RtpSender)
    (h : ∀ rtp, (f rtp).feedback.map (·.reporter) = rtp.feedback.map (·.reporter)) :
    Quiet s (s.modifyRtp f) := by
  refine .of_same rfl rfl (List.Subset.refl _) rfl ?_
  intro g hg
  unfold latest? feedback? Session.modifyRtp at *
  cases hrtp : s.rtp with
  | none => simp [hrtp] at hg
  | some rtp => simpa [hrtp, h] using hg

theorem Quiet.addRtpFlow (s : Session) (p : Priority) (id place : Nat) :
    Quiet s (s.addRtpFlow p id place).1 := by
  unfold Session.addRtpFlow
  cases Flow.identified id with
  | error e => exact .refl s
  | ok f => exact .modifyRtp s _ fun _ => rfl

theorem Quiet.writeCompound (s : Session) (f : Flow) (packets : List Serialized) :
    Quiet s (s.writeCompound f packets).1 := by
  unfold Session.writeCompound
  cases Serialized.concat packets with
  | error e => exact .refl s
  | ok payload => exact (Quiet.log s rfl).trans (.writeFlow _ f payload)

theorem effect_stopFeedback (s : Session) {c : Call} (hw : s.trackedWrite? c = none)
    (h : Quiet s.stopFeedback s') : Effect s c s' := by
  unfold stopFeedback at h
  cases hg : s.tracker? with
  | none =>
    rw [hg] at h
    exact .quiet hw h
  | some g =>
    rw [hg] at h
    exact .stop hw hg h

theorem effect_writeRtp (s : Session) (header : RtpHeader) (payload : Bytes) :
    Effect s (.writeRtp header payload) (s.writeRtp header payload).1 := by
  have hwrite := s.rtpWrite_writeRtp header payload
  generalize s.writeRtp header payload = written at hwrite ⊢
  cases hwrite with
  | untracked _ hw h | failed hw h => exact .quiet hw h
  | kept htracker _ ht hw h => exact .track htracker hw ht h
  | told htracker _ hw h => exact .tell htracker hw h

theorem effect_resolve (s : Session) (place i : Nat) (d : Delivery) :
    Effect s (.resolve place i d) (s.resolve place i d).1 := by
  unfold Session.resolve
  cases hw : (s.transports[place]?).bind (·.heldAt? i) with
  | none => exact .quiet rfl (.refl s)
  | some w => exact .resolve hw

/-- What starting a reporter does. -/
inductive Started (s : Session) (sender : Ssrc) (request : Request) (meter : MeterKind) (sink : Nat)
    (parent : Option Token) : Session × Except StartError Unit → Prop
  | dropped (hrtp : s.rtp = none) : Started s sender request meter sink parent (s, .ok ())
  | invalid {rtp : RtpSender} {e : OptionsError} (hrtp : s.rtp = some rtp)
      (hoptions : request.toOptions = .error e) :
      Started s sender request meter sink parent (s, .error (.invalidOptions e))
  | noRuntime {rtp : RtpSender} {options : Options} (hrtp : s.rtp = some rtp)
      (hoptions : request.toOptions = .ok options) (hruntime : s.hasRuntime = false) :
      Started s sender request meter sink parent (s, .error .noRuntime)
  | started {rtp : RtpSender} {options : Options} (hrtp : s.rtp = some rtp)
      (hoptions : request.toOptions = .ok options) (hruntime : s.hasRuntime = true) :
      Started s sender request meter sink parent
        ({ s.stopFeedback with
            reporters := s.stopFeedback.reporters ++
              [Reporter.new s.reporters.length sender options meter sink parent s.horizon]
            rtp := some { rtp with feedback := some { reporter := s.reporters.length } } },
          .ok ())

theorem started_startFeedback (s : Session) (sender : Ssrc) (request : Request) (meter : MeterKind)
    (sink : Nat) (parent : Option Token) :
    Started s sender request meter sink parent
      (s.startFeedback sender request meter sink parent) := by
  unfold startFeedback
  cases hrtp : s.rtp with
  | none => exact .dropped hrtp
  | some rtp =>
    cases hoptions : request.toOptions with
    | error e => exact .invalid hrtp hoptions
    | ok options =>
      dsimp only
      cases hruntime : s.hasRuntime with
      | false => exact .noRuntime hrtp hoptions hruntime
      | true => exact .started hrtp hoptions hruntime

theorem effect_startFeedback (s : Session) (sender : Ssrc) (request : Request) (meter : MeterKind)
    (sink : Nat) (parent : Option Token) :
    Effect s (.startFeedback sender request meter sink parent)
      (s.startFeedback sender request meter sink parent).1 := by
  have hstarted := s.started_startFeedback sender request meter sink parent
  generalize s.startFeedback sender request meter sink parent = started at hstarted ⊢
  cases hstarted with
  | dropped | invalid | noRuntime => exact .quiet rfl (.refl s)
  | started =>
    have hsame : s.stopFeedback.held = s.held ∧ s.stopFeedback.env = s.env := by
      unfold stopFeedback
      split <;> exact ⟨rfl, rfl⟩
    exact .start hsame.1 rfl hsame.2 rfl

/-- Every call has one of these effects. -/
theorem effect_apply (s : Session) (c : Call) : Effect s c (s.apply c) := by
  cases c with
  | addTransport traits =>
    refine .quiet rfl ⟨⟨1, ?_⟩, rfl, List.Subset.refl _, .refl _ _, fun _ => id⟩
    simp [apply, addTransport, held]
  | script place traits refusals => exact .quiet rfl (.modifyTransport s place _ fun _ => rfl)
  | takeBuffers place => exact .quiet rfl (.modifyTransport s place _ fun _ => rfl)
  | resolve place i d => exact effect_resolve s place i d
  | writeRtp header payload => exact effect_writeRtp s header payload
  | writeFlow f payload => exact .quiet rfl (.writeFlow s f payload)
  | writeNoted f payload tag =>
    rcases s.writeFlowWatched_noted f payload tag with h | ⟨place, hplace, h⟩
    · exact .quiet rfl h
    · exact .note hplace h
  | writeCompound f packets => exact .quiet rfl (.writeCompound s f packets)
  | bindRtp place => exact .quiet rfl (.modifyRtp s _ fun _ => rfl)
  | addRtpFlow p id place => exact .quiet rfl (.addRtpFlow s p id place)
  | setClassifier classifier => exact .quiet rfl (.modifyRtp s _ fun _ => rfl)
  | startFeedback sender request meter sink parent =>
    exact effect_startFeedback s sender request meter sink parent
  | stopFeedback => exact effect_stopFeedback s rfl (.refl _)
  | claimHandle => exact .quiet rfl (.modifyRtp s _ fun _ => Option.map_map _ _ _)
  | dropRtp =>
    refine effect_stopFeedback s rfl (.of_same rfl rfl (List.Subset.refl _) rfl ?_)
    intro g hg
    simp [apply, Session.dropRtp, latest?, feedback?] at hg
  | cancelToken token =>
    exact .quiet rfl (.of_same rfl rfl (List.subset_cons_self _ _) rfl fun _ => id)
  | takeNotes | setReading | setClock | addSink | modifySink | pass =>
    exact .quiet rfl (.of_same rfl rfl (List.Subset.refl _) rfl fun _ => id)

end Session

end MediaMux
